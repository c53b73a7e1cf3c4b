import DocSite.Text.Split

/-! Paths of files. A path is its root mark and its parts; empty and single-dot parts vanish when
a path is read, double-dot parts stay until it is followed. -/
namespace DocSite
set_option autoImplicit false

/-- A path: the root mark (empty for a relative path) and the parts between slashes. -/
structure Path where
  root : String := ""
  parts : List String := []
deriving DecidableEq, Repr, Inhabited

namespace Path

/-- Reads a path. Exactly two leading slashes are a root of their own, any other number above
none is the plain root. -/
def ofString (s : String) : Path :=
  let slashes := (s.toList.takeWhile (· == '/')).length
  let root := if slashes == 0 then "" else if slashes == 2 then "//" else "/"
  ⟨root, (Text.splitAt '/' s).filter fun part => part != "" && part != "."⟩

/-- The written form of a path; the empty relative path is a dot. -/
def display (p : Path) : String :=
  if p.root == "" && p.parts.isEmpty then "." else p.root ++ Text.join "/" p.parts

/-- A path taken from another one: an absolute path stands alone. -/
def append (p q : Path) : Path :=
  if q.root == "" then ⟨p.root, p.parts ++ q.parts⟩ else q

instance : Append Path := ⟨append⟩

def name (p : Path) : String := p.parts.getLast?.getD ""

def parent (p : Path) : Path := ⟨p.root, p.parts.dropLast⟩

/-- A name cut before its last dot; a dot at either end of the name does not count. -/
def cutSuffix? (name : String) : Option (String × String) :=
  match Text.cutLast? '.' name.toList with
  | some (stem, rest) =>
    if stem.isEmpty || rest.isEmpty then none
    else some (String.ofList stem, String.ofList ('.' :: rest))
  | none => none

/-- The ending of the name with its dot, empty when there is none. -/
def suffix (p : Path) : String := ((cutSuffix? p.name).map (·.2)).getD ""

/-- The name without its ending. -/
def stem (p : Path) : String := ((cutSuffix? p.name).map (·.1)).getD p.name

/-- Order of paths by their parts. -/
def le (p q : Path) : Bool := !List.lex q.parts p.parts fun a b => decide (a < b)

end Path
end DocSite
