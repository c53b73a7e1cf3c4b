import DocSite.Text.Letter

/-! Full lowercasing of a text. Two letters need more than a table: the dotted capital I becomes
two characters, and a capital sigma that ends a word becomes the final sigma. -/
namespace DocSite.Text
set_option autoImplicit false

/-- The lowercase form of one character, apart from the two that need more. -/
def lowerChar (c : Char) : Char :=
  if c.toNat < 128 then c.toLower
  else
    match Tables.lowercase.find? fun r =>
        r.first ≤ c.toNat && c.toNat ≤ r.last && (c.toNat - r.first) % r.step == 0 with
    | some r => Char.ofNat (c.toNat + r.shift).toNat
    | none => c

/-- Letters with case, for the final sigma rule. -/
def isCased (c : Char) : Bool :=
  if c.toNat < 128 then c.isAlpha else inRanges Tables.cased c.toNat

/-- Characters that do not count in the final sigma rule. -/
def isCaseIgnorable (c : Char) : Bool :=
  if c.toNat < 128 then ['\'', '.', ':', '^', Char.ofNat 96].contains c
  else inRanges Tables.caseIgnorable c.toNat

/-- Whether the first character that counts is a letter with case. -/
def startsCased (cs : List Char) : Bool :=
  match cs.dropWhile isCaseIgnorable with
  | [] => false
  | c :: _ => isCased c

/-- Lowercases the rest of a text, given the characters before it in reverse. -/
def lowerAfter (before : List Char) : List Char → List Char
  | [] => []
  | c :: rest =>
    let here :=
      if c == 'Σ' then [if startsCased before && !startsCased rest then 'ς' else 'σ']
      else if c == 'İ' then ['i', Char.ofNat 0x307]
      else [lowerChar c]
    here ++ lowerAfter (c :: before) rest

def lower (cs : List Char) : List Char := lowerAfter [] cs

/-- The lowercase form of a string, in all scripts. -/
def lowercase (s : String) : String := String.ofList (lower s.toList)

end DocSite.Text
