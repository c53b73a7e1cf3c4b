import DocSite.Doclet.Store
import DocSite.Html
import DocSite.Text.Split

/-! Navigation trees: groups of links that may hold further groups. Groups below the root stand
for path prefixes; a group is headed by its whole prefix. -/
namespace DocSite
set_option autoImplicit false

mutual

/-- A link with the lists of members that stand under it. -/
structure NavItem where
  link : Html
  doclet : Option Doclet := none
  details : List NavGroup := []

/-- A heading with the links and the groups under it. -/
structure NavGroup where
  heading : String := ""
  children : List (String × NavGroup) := []
  items : List NavItem := []
  css : Option String := none

end

instance : Inhabited NavGroup := ⟨{}⟩

instance : Inhabited NavItem := ⟨{ link := .empty }⟩

namespace NavGroup

/-- The prefix that one more segment makes. -/
def extend (slug segment : String) : String := slug ++ segment ++ "/"

/-- Adds an item under the group of a path whose prefix so far is `slug`, making groups on the
way. -/
def insertFrom (slug : String) (item : NavItem) : List String → NavGroup → NavGroup
  | [], g => { g with items := g.items ++ [item] }
  | segment :: rest, g =>
    let slug := extend slug segment
    let child := (g.children.lookup slug).getD { heading := slug }
    { g with children := Table.put slug (insertFrom slug item rest child) g.children }

/-- Adds an item under the group of a path. -/
def insert (root : NavGroup) (path : List String) (item : NavItem) : NavGroup :=
  insertFrom "" item path root

/-- The group that an item is added to, with the item in it, when the prefix so far is `slug`. -/
def reachedFrom (slug : String) (item : NavItem) : List String → NavGroup → NavGroup
  | [], g => { g with items := g.items ++ [item] }
  | segment :: rest, g =>
    let slug := extend slug segment
    reachedFrom slug item rest ((g.children.lookup slug).getD { heading := slug })

/-- The group that adding an item under a path leads to. -/
def reached (root : NavGroup) (path : List String) (item : NavItem) : NavGroup :=
  reachedFrom "" item path root

/-- The group that a path leads to, when the prefix so far is `slug`. -/
def findFrom? (slug : String) : List String → NavGroup → Option NavGroup
  | [], g => some g
  | segment :: rest, g =>
    let slug := extend slug segment
    (g.children.lookup slug).bind (findFrom? slug rest)

/-- The group that a path leads to. -/
def find? (root : NavGroup) (path : List String) : Option NavGroup := findFrom? "" path root

end NavGroup

/-! ## Names in the navigation -/

/-- Splits a name at its slashes into the path and the last segment. A name that ends in a slash
is not split. -/
def splitPath (name : String) : List String × String :=
  match Text.cutLast? '/' name.toList with
  | some (head, leaf) =>
    if leaf.isEmpty then ([], name)
    else if head.isEmpty then ([], String.ofList leaf)
    else (Text.splitAt '/' (String.ofList head), String.ofList leaf)
  | none => ([], name)

/-- Kinds that names in the navigation do not show. -/
def hiddenKinds : List (List Char) := ["module:".toList, "event:".toList]

/-- A text without the kinds that start a word in it. -/
def withoutKindsWithin : Nat → Bool → List Char → List Char
  | 0, _, cs => cs
  | _ + 1, _, [] => []
  | steps + 1, inWord, c :: cs =>
    match if inWord then none else hiddenKinds.findSome? (·.isPrefixOf? (c :: cs)) with
    | some rest => withoutKindsWithin steps false rest
    | none => c :: withoutKindsWithin steps (Text.isWord c) cs

def withoutKinds (longname : String) : String :=
  String.ofList (withoutKindsWithin longname.length false longname.toList)

/-- The name that a doclet is listed under. -/
def displayName (byLongname : Bool) (d : Doclet) : String :=
  if byLongname && d.longnameOrEmpty != "" then withoutKinds d.longnameOrEmpty else d.name

end DocSite
