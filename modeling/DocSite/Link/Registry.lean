import DocSite.Doclet.Basic
import DocSite.Link.Address
import DocSite.Link.PageName

/-! The registry of one run: which file belongs to which key, which address to which longname,
which ids are taken on which page. Entries are only ever added, so what it once answered it
answers again. -/
namespace DocSite
set_option autoImplicit false

/-- Files, addresses, ids and tutorials known so far. -/
structure Registry where
  /-- Addresses by longname, in the order of registration. -/
  urls : Table String := .empty
  /-- Fragments by longname, in the order of allocation. -/
  fragments : Table String := .empty
  /-- Keys by the lowercase form of the file name without its ending. -/
  owners : Table String := .empty
  /-- File names by key. -/
  files : Table String := .empty
  /-- The lowercase forms of the ids that are taken on each page. -/
  takenIds : Table (List String) := .empty
  /-- Titles of the tutorials by name. -/
  tutorials : Table String := .empty
  /-- File names of the tutorials that have one. -/
  tutorialFiles : Table String := .empty
deriving Inhabited, Repr

/-- Two addresses for one longname, of which the first is kept. -/
structure LinkConflict where
  longname : String
  kept : String
  ignored : String
deriving DecidableEq, Repr, Inhabited

namespace Registry

def extension : String := ".html"

/-- The key of the home page. It is no usual longname, as `index` is one. -/
def homeKey : String := "<home>"

/-- The key of the page of globals. -/
def globalKey : String := "<global>"

/-! ## Files -/

/-- The file of a key. A key without one gets the first free form of the candidate. -/
def allocate (r : Registry) (candidate key : String) : String × Registry :=
  match r.files.get? key with
  | some file => (file, r)
  | none =>
    let stem := PageName.free r.owners.keys (PageName.stem candidate)
    let file := stem ++ extension
    (file, { r with
      owners := r.owners.insert (Text.lowercase stem) key
      files := r.files.insert key file })

/-- The registry with the home page and the page of globals in it. -/
def initial : Registry :=
  let (_, r) := ({} : Registry).allocate "index" homeKey
  (r.allocate "global" globalKey).2

def homeUrl (r : Registry) : String := (r.files.get? homeKey).getD ""

def globalUrl (r : Registry) : String := (r.files.get? globalKey).getD ""

/-! ## Addresses -/

def url? (r : Registry) (longname : String) : Option String := r.urls.get? longname

/-- Gives a longname its address. The first address stays; another one is a conflict. -/
def register (r : Registry) (longname url : String) : Registry × Option LinkConflict :=
  match r.urls.get? longname with
  | none => ({ r with urls := r.urls.insert longname url }, none)
  | some kept => (r, if kept == url then none else some ⟨longname, kept, url⟩)

/-- The address of a longname that owns a page, which is allocated and registered when there is
none yet. -/
def pageOf (r : Registry) (longname : String) : String × Registry :=
  match r.urls.get? longname with
  | some url => (url, r)
  | none =>
    let (file, r) := r.allocate longname longname
    (file, (r.register longname file).1)

/-! ## Fragments -/

/-- The fragment of a longname. One without gets the first free form of the candidate, blanks
left out, among the ids of the file. -/
def fragmentOf (r : Registry) (file longname candidate : String) : String × Registry :=
  match r.fragments.get? longname with
  | some fragment => (fragment, r)
  | none =>
    if candidate == "" then ("", r)
    else
      let name := String.ofList (candidate.toList.filter (!Text.isBlank ·))
      let taken := (r.takenIds.get? file).getD []
      let fragment := PageName.free taken name
      (fragment, { r with
        takenIds := r.takenIds.insert file (Text.lowercase fragment :: taken)
        fragments := r.fragments.insert longname fragment })

end Registry

/-! ## Addresses of doclets -/

namespace Doclet

def containerKinds : List String :=
  ["class", "module", "external", "namespace", "mixin", "interface"]

/-- Kinds that stand in front of a name in links. -/
def prefixedKinds : List String := ["module", "event", "external"]

/-- The mark of a scope in front of a name. -/
def scopeMark : Option String → String
  | some "inner" => "~"
  | some "instance" => "#"
  | some "static" => "."
  | _ => ""

def isContainer (d : Doclet) : Bool := containerKinds.contains d.kind

/-- The text before the first colon of a name, when it is not empty and holds no blank. -/
def colonPrefix? : List Char → Option (List Char)
  | [] => none
  | c :: rest =>
    match Text.cutFirst? ':' rest with
    | some (before, _) =>
      if (c :: before).any Text.isBlank then none else some (c :: before)
    | none => none

/-- Whether a longname starts with the kind of a container, whatever kind the doclet has. -/
def namesContainer (longname : String) : Bool :=
  match colonPrefix? longname.toList with
  | some p => containerKinds.contains (String.ofList p)
  | none => false

/-- The name that a fragment is made from. The mark of an instance member is left out, as the
number sign starts the fragment already. -/
def fragmentName (d : Doclet) : String :=
  let head := if prefixedKinds.contains d.kind then d.kind ++ ":" else ""
  let mark := scopeMark d.scope
  (if mark == "#" then "" else mark) ++ head ++ d.name ++ d.variation.getD ""

end Doclet

namespace Registry

/-- The address within a page: the page alone, or with the fragment of the doclet. -/
def within (r : Registry) (page : String) (d : Doclet) (named : Bool) : String × Registry :=
  if named then
    let (fragment, r) := r.fragmentOf page d.linkName d.fragmentName
    (Address.withFragment page fragment, r)
  else (page, r)

/-- The address where a doclet is published. Containers and module exports own a page. Any other
doclet stands on the page of its container or among the globals; one whose longname claims to
be a container stands on the page of that name when it has no container. -/
def urlFor (r : Registry) (d : Doclet) : String × Registry :=
  let longname := d.linkName
  if d.isContainer || d.isModuleExports then r.pageOf longname
  else if Doclet.namesContainer longname then
    let (page, r) := r.pageOf (d.container?.getD longname)
    r.within page d (d.name != longname)
  else
    let (page, r) :=
      match d.container? with
      | some container => r.pageOf container
      | none => (r.globalUrl, r)
    r.within page d (d.name != longname || d.scope == some "global")

def link (r : Registry) (d : Doclet) : String × Registry × Option LinkConflict :=
  let (url, r) := r.urlFor d
  (url, r.register d.linkName url)

end Registry
end DocSite
