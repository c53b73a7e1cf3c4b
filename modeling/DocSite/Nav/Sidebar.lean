import DocSite.Groups
import DocSite.Nav.Build
import DocSite.Nav.Menu

/-! The sidebar: the home link, the links of the menu, the sections in the order of the settings,
the globals. Sections claim symbols in a fixed order, so which section lists a symbol does not
depend on the order they are shown in. -/
namespace DocSite.Sidebar
set_option autoImplicit false

/-- The kind of symbols that a section lists; tutorials are no symbols. -/
def kindOf : Section → String
  | .classes => "class"
  | .modules => "module"
  | .externals => "external"
  | .events => "event"
  | .namespaces => "namespace"
  | .mixins => "mixin"
  | .tutorials => ""
  | .interfaces => "interface"

def entriesOf (s : Store) (tutorials : List Tutorial) : Section → List NavEntry
  | .tutorials => tutorials.map fun t => .page t.name
  | section_ => (s.ofKind (kindOf section_)).map .symbol

/-- How a section links what it lists. -/
def linkOf : Section → LinkMaker
  | .externals => fun r longname name => LinkMaker.symbol r longname (unquoted name)
  | .tutorials => LinkMaker.tutorial
  | _ => LinkMaker.symbol

/-- Whether a section claims the symbols it lists. Modules are listed beside the classes they
export, and tutorials are no symbols. -/
def claims (section_ : Section) : Bool := section_ != .modules && section_ != .tutorials

def buildTrees (s : Store) (settings : Settings) (tutorials : List Tutorial) (state : NavState) :
    List Section → Except Fault (List (Section × NavGroup) × NavState)
  | [] => .ok ([], state)
  | section_ :: rest =>
    let seen := if claims section_ then state.seen else []
    match NavGroup.build s settings (linkOf section_) section_.title ⟨state.registry, seen⟩
        (entriesOf s tutorials section_) with
    | .error e => .error e
    | .ok (tree, after) =>
      let seen := if claims section_ then after.seen else state.seen
      match buildTrees s settings tutorials ⟨after.registry, seen⟩ rest with
      | .error e => .error e
      | .ok (trees, state) => .ok ((section_, tree) :: trees, state)

/-- The globals that the sidebar links: those with a longname that is not listed yet, each once.
Type definitions are linked only when the settings say so, but count as listed. -/
def linkedGlobals (listTypedefs : Bool) (seen : List String) : List Doclet → List Doclet
  | [] => []
  | d :: rest =>
    let longname := d.longnameOrEmpty
    if longname == "" then linkedGlobals listTypedefs seen rest
    else
      let later := linkedGlobals listTypedefs (longname :: seen) rest
      if (listTypedefs || d.kind != "typedef") && !seen.contains longname then d :: later
      else later

/-- The part for globals. Where none is linked the heading leads to their page. -/
def globalsPart (r : Registry) (settings : Settings) (seen : List String)
    (globals : List Doclet) : Html :=
  if globals.isEmpty then .empty
  else
    match linkedGlobals settings.listTypedefs seen globals with
    | [] => .element "h3" [] (.link r.globalUrl (.raw "Global"))
    | linked =>
      .element "h3" [] (.raw "Global") ++
        .element "ul" [] (.each linked fun d =>
          .element "li" [] (r.linkTo d.longname (.text d.name)))

def menuLink (label : String) (attrs : List (String × String)) : Html :=
  .element "h2" []
    (.raw "<a " ++ .each attrs (fun a => .text a.1 ++ .raw "=\"" ++ .text a.2 ++ .raw "\" ") ++
      .raw ">" ++ .text label ++ .raw "</a>")

def sectionPart (settings : Settings) (trees : List (Section × NavGroup)) (section_ : Section) :
    Html :=
  match trees.lookup section_ with
  | some tree => Menu.render settings.skipEmptyGroups 0 tree
  | none => .empty

def render (s : Store) (settings : Settings) (tutorials : List Tutorial) (r : Registry) :
    Except Fault (Html × Registry) :=
  match buildTrees s settings tutorials ⟨r, []⟩ Section.all with
  | .error e => .error e
  | .ok (trees, state) =>
    .ok (.element "h2" [] (.link r.homeUrl (.raw "Home")) ++
        .each settings.menu (fun m => menuLink m.1 m.2) ++
        .each settings.sectionOrder (sectionPart settings trees) ++
        globalsPart state.registry settings state.seen s.globals,
      state.registry)

end DocSite.Sidebar
