import DocSite.Link.Markup
import DocSite.Nav.Tree
import DocSite.Settings.Basic
import DocSite.Tutorial.Basic

/-! Building the tree of one section. Each longname is listed once: what was listed before is
passed over, and what is listed now is noted. -/
namespace DocSite
set_option autoImplicit false

/-- What a section lists: a symbol, or a page that is only a name. -/
inductive NavEntry where
  | symbol (d : Doclet)
  | page (name : String)
deriving Inhabited

/-- The longname of an entry, empty when it has none. -/
def NavEntry.longname : NavEntry → String
  | symbol d => d.longnameOrEmpty
  | page _ => ""

/-- How the link of an entry is made from its longname and its label. -/
abbrev LinkMaker := Registry → String → String → Html × Registry

def LinkMaker.symbol : LinkMaker := fun r longname label =>
  (r.linkTo (some longname) (.text label), r)

def LinkMaker.tutorial : LinkMaker := fun r _ name => r.tutorialLink name none

/-- The registry and the longnames that are listed already. -/
structure NavState where
  registry : Registry
  seen : List String := []
deriving Inhabited

namespace NavGroup

/-- The members of a kind as a list under a symbol, if there are any. -/
def detailsOfKind (r : Registry) (members : List Doclet) (kind css : String) : List NavGroup :=
  match members.filter (·.kind == kind) with
  | [] => []
  | picked =>
    [{ items := picked.map fun d => { link := r.linkTo d.longname (.text d.name), doclet := some d }
       css := some css }]

/-- The members and functions of a symbol that pass the filter of the settings, in their order. -/
def detailsOf (s : Store) (settings : Settings) (r : Registry) (longname : String) :
    Except Fault (List NavGroup) :=
  let members := s.find fun d =>
    ["member", "function"].contains d.kind && d.memberof == some longname
  match Query.selectOf (settings.detailsFilter.map Query.ofFields) members with
  | .error e => .error e
  | .ok chosen =>
    let sorted := orderByText settings.detailsOrder chosen
    .ok (detailsOfKind r sorted "member" "members" ++
      detailsOfKind r sorted "function" "methods")

/-- Adds one entry to a tree. -/
def addEntry (s : Store) (settings : Settings) (link : LinkMaker) (g : NavGroup) (state : NavState)
    (entry : NavEntry) : Except Fault (NavGroup × NavState) :=
  match entry with
  | .page name =>
    let (markup, r) := link state.registry "" name
    .ok (g.insert [] { link := markup }, { state with registry := r })
  | .symbol d =>
    let longname := d.longnameOrEmpty
    if longname == "" then
      let (markup, r) := link state.registry "" d.name
      .ok (g.insert [] { link := markup }, { state with registry := r })
    else if state.seen.contains longname then .ok (g, state)
    else
      let (path, label) := splitPath (displayName settings.listByLongname d)
      let path := if settings.groupByPath then path else []
      let (markup, r) := link state.registry longname label
      match if settings.showDetails then detailsOf s settings r longname else .ok [] with
      | .error e => .error e
      | .ok details =>
        .ok (g.insert path { link := markup, doclet := some d, details := details },
          ⟨r, state.seen ++ [longname]⟩)

def addEntries (s : Store) (settings : Settings) (link : LinkMaker) (g : NavGroup)
    (state : NavState) : List NavEntry → Except Fault (NavGroup × NavState)
  | [] => .ok (g, state)
  | entry :: rest =>
    match addEntry s settings link g state entry with
    | .error e => .error e
    | .ok (g, state) => addEntries s settings link g state rest

/-- The tree of a section under a heading. -/
def build (s : Store) (settings : Settings) (link : LinkMaker) (title : String)
    (state : NavState) (entries : List NavEntry) : Except Fault (NavGroup × NavState) :=
  addEntries s settings link { heading := title } state entries

end NavGroup
end DocSite
