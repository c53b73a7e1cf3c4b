import DocSite.Text.Split
import DocSite.Text.Lower

/-! Names of pages and fragments: a safe base name for any symbol name, and numbered forms of a
name until one is free without regard to case. -/
namespace DocSite.PageName
set_option autoImplicit false

/-! ## Base names -/

/-- Kinds that a symbol name may start with. -/
def kindPrefixes : List (List Char) := ["module:".toList, "event:".toList, "external:".toList]

/-- A kind in front of a name is set off by a dash instead of a colon. -/
def dashKind (cs : List Char) : List Char :=
  match kindPrefixes.find? (·.isPrefixOf cs) with
  | some p => p.dropLast ++ '-' :: cs.drop p.length
  | none => cs

/-- Characters that file names or addresses cannot hold. -/
def isUnsafe (c : Char) : Bool := ['\\', '/', '?', '*', ':', '|', '\'', '"', '<', '>'].contains c

/-- The stand-in of a character in file names. -/
def safeChar (c : Char) : Char :=
  if isUnsafe c || c == '#' then '_' else if c == '~' then '-' else c

/-- Drops a variation: everything from the first opening parenthesis to a closing one that ends
the text, or ends it but for a line feed. -/
def dropVariation (cs : List Char) : List Char :=
  let (body, tail) :=
    if cs.getLast? == some '\n' && cs.dropLast.getLast? == some ')' then (cs.dropLast, ['\n'])
    else (cs, [])
  if body.getLast? == some ')' then
    match Text.cutFirst? '(' body.dropLast with
    | some (before, _) => before ++ tail
    | none => cs
  else cs

/-- Drops a dot or dash in front. -/
def dropMark : List Char → List Char
  | c :: rest => if c == '.' || c == '-' then rest else c :: rest
  | [] => []

/-- The characters of a base name that is safe in file names and never empty. -/
def baseChars (cs : List Char) : List Char :=
  match dropMark (dropVariation ((dashKind cs).map safeChar)) with
  | [] => ['_']
  | safe => safe

/-- A base name that is safe in file names. -/
def base (name : String) : String := String.ofList (baseChars name.toList)

/-- A base name whose leading underscore, kept for numbering and hidden files, is set off. -/
def stem (name : String) : String :=
  let b := base name
  if b.startsWith "_" then "-" ++ b else b

/-! ## Numbering -/

/-- The forms of a name: the name itself, then the name with a number. -/
def numbered (name : String) : Nat → String
  | 0 => name
  | n + 1 => name ++ "_" ++ toString (n + 1)

/-- The number of the first form that is not taken without regard to case. One of the forms up to
the count of taken names is free. -/
def freeNumber (taken : List String) (name : String) : Nat :=
  ((List.range (taken.length + 1)).find? fun n =>
    !taken.contains (Text.lowercase (numbered name n))).getD (taken.length + 1)

/-- The first form of a name that is not taken without regard to case. -/
def free (taken : List String) (name : String) : String := numbered name (freeNumber taken name)

/-! ## Laws -/

theorem baseChars_ne_nil (cs : List Char) : baseChars cs ≠ [] := by
  unfold baseChars
  split
  · simp
  · assumption

end DocSite.PageName
