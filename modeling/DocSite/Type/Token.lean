import DocSite.Text.Letter

/-! Type expressions as tokens: names that may be types, and the text between them. The texts of
the tokens one after another are the expression. -/
namespace DocSite
set_option autoImplicit false

structure TypeToken where
  text : List Char
  isName : Bool
deriving DecidableEq, Repr, Inhabited

namespace TypeToken

/-- Marks between a container and its member. -/
def isMark (c : Char) : Bool := c == '.' || c == '~' || c == '#'

/-- What follows the word `module` in the name of a module's member: a colon, a path of at least
two characters that ends in a word character, a mark and a word. -/
def memberTail? : List Char → Option (List Char)
  | ':' :: rest =>
    let path := rest.takeWhile fun c => Text.isWord c || c == '/'
    if 2 ≤ path.length && path.getLast?.any Text.isWord then
      match rest.drop path.length with
      | mark :: after =>
        let word := after.takeWhile Text.isWord
        if isMark mark && !word.isEmpty then some (':' :: path ++ mark :: word) else none
      | [] => none
    else none
  | _ => none

/-- The name at the start of a text that starts with a word character: the whole word, or the
whole name of a module's member. -/
def nameAt (cs : List Char) : List Char :=
  let word := cs.takeWhile Text.isWord
  if word == "module".toList then word ++ (memberTail? (cs.drop word.length)).getD []
  else word

/-- The first token of a text that is not empty. -/
def first (cs : List Char) : TypeToken :=
  if cs.head?.any Text.isWord then ⟨nameAt cs, true⟩
  else ⟨cs.takeWhile (!Text.isWord ·), false⟩

/-- The tokens of a text; every step takes at least one character, so as many steps as there are
characters are enough. -/
def listWithin : Nat → List Char → List TypeToken
  | 0, _ => []
  | _ + 1, [] => []
  | steps + 1, c :: cs =>
    let t := first (c :: cs)
    t :: listWithin steps ((c :: cs).drop t.text.length)

/-- The tokens of a type expression. -/
def list (cs : List Char) : List TypeToken := listWithin cs.length cs

end TypeToken

/-! ## Short names -/

/-- The last word of a line that follows a mark. -/
def lastSegment? : List Char → Option (List Char)
  | [] => none
  | c :: rest =>
    match lastSegment? rest with
    | some word => some word
    | none =>
      let word := rest.takeWhile Text.isWord
      if TypeToken.isMark c && !word.isEmpty then some word else none

/-- The word after the kind of an external name, blanks in front allowed. -/
def externalWord? (cs : List Char) : Option (List Char) :=
  match "external:".toList.isPrefixOf? (cs.dropWhile Text.isBlank) with
  | some rest =>
    let word := rest.takeWhile Text.isWord
    if word.isEmpty then none else some word
  | none => none

/-- The short form of a type name: its last segment, the word of an external name, or all of
it. -/
def shortTypeName (name : String) : String :=
  let cs := name.toList
  match lastSegment? (cs.takeWhile (· != '\n')) with
  | some word => String.ofList word
  | none =>
    match externalWord? cs with
    | some word => String.ofList word
    | none => name

end DocSite
