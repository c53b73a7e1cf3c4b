import DocSite.Html
import DocSite.Link.Registry
import DocSite.Text.Percent

/-! Links as markup. A link to an unknown symbol is its text alone. -/
namespace DocSite
set_option autoImplicit false

def Html.link (address : String) (body : Html) : Html :=
  (element "a" [("href", .text address)] body).leadingTo address

namespace Registry

/-- A tag that leads to an address, with more attributes. -/
def anchorWith (href extra body : Html) : Html :=
  .raw "<a" ++ .attr "href" href ++ extra ++ .raw ">" ++ body ++ .raw "</a>"

/-- A link to a symbol or to an address of its own, under a label, with a class and a fragment.
Without a label the name is shown; the address of a symbol is percent-encoded. -/
def linkWith (r : Registry) (name : Option String) (label : Html) (css : Option String)
    (fragment : String) : Html :=
  let shown := name.getD ""
  let extra := match css.filter (· != "") with
    | some css => Html.attr "class" (.text css)
    | none => .empty
  let bare := String.ofList (Text.trimWhere (fun c => c == '<' || c == '>') shown.toList)
  let suffix := if fragment == "" then "" else "#" ++ fragment
  if Address.isExternal bare then
    anchorWith (.text (bare ++ suffix)) extra (if label.isEmpty then .text bare else label)
  else
    let label := if label.isEmpty then Html.text shown else label
    match (name.bind r.url?).filter (· != "") with
    | some url =>
      (anchorWith (.text (Text.addressEncoded (url ++ suffix))) extra label).leadingTo
        (url ++ suffix)
    | none => label

/-- A link to a symbol under a label. -/
def linkTo (r : Registry) (name : Option String) (label : Html) : Html :=
  r.linkWith name label none ""

def linkNamed (r : Registry) (name : String) : Html := r.linkTo (some name) .empty

/-! ## Tutorials -/

/-- Makes a tutorial known under its name. -/
def addTutorial (r : Registry) (name title : String) : Registry :=
  { r with tutorials := r.tutorials.insert name title }

def tutorialUrl (r : Registry) (name : String) : String × Registry :=
  match r.tutorialFiles.get? name with
  | some file => (file, r)
  | none =>
    let (file, r) := r.allocate ("tutorial-" ++ name) ("<tutorial>" ++ name)
    (file, { r with tutorialFiles := r.tutorialFiles.insert name file })

/-- A link to a tutorial under a plain label, or under its title. A tutorial that is not known is
named but not linked. -/
def tutorialLink (r : Registry) (name : String) (label : Option String) : Html × Registry :=
  match r.tutorials.get? name with
  | none => (.styled "em" "disabled" (.raw "Tutorial: " ++ .text name), r)
  | some title =>
    let (file, r) := r.tutorialUrl name
    (.link file (.text ((label.filter (· != "")).getD title)), r)

/-! ## Members and containers -/

/-- A reference that is a number sign and a member becomes a link on the doclet's own page. -/
def memberReference (r : Registry) (d : Doclet) (see : String) : Reference × Registry :=
  if see.startsWith "#" && 2 ≤ see.length then
    let (url, r) := r.urlFor d
    (.link (.link (Address.page url ++ see) (.text see)), r)
  else (.symbol see, r)

end Registry

/-- The doclets by longname; of several with one longname the last counts. -/
def byLongname (ds : List Doclet) : Table Doclet :=
  .ofList (ds.filterMap fun d => (d.longname.filter (· != "")).map (·, d))

/-- The containers of a symbol by their names, innermost first. It ends where a name is empty,
unknown or seen before: each container is taken out of the table as it is passed. -/
def containersOf (table : List (String × Doclet)) (container : Option String) : List Doclet :=
  match container.filter (· != "") with
  | none => []
  | some name =>
    match _found : table.lookup name with
    | none => []
    | some d => d :: containersOf (Table.without name table) d.memberof
termination_by table.length
decreasing_by exact Table.length_without_lt_of_lookup _found

/-- The name of a container in a trail, with the mark of its scope. -/
def trailLink (r : Registry) (d : Doclet) : Html :=
  r.linkTo d.longname (.text (Doclet.scopeMark d.scope ++ d.name))

/-- Markup after the last of the pieces. -/
def appendToLast (mark : Html) : List Html → List Html
  | [] => []
  | [h] => [h ++ mark]
  | h :: rest => h :: appendToLast mark rest

/-- Links to the containers of a doclet, outermost first; the mark of the doclet's own scope
follows the last one. -/
def ancestorLinks (table : Table Doclet) (r : Registry) (d : Doclet) : List Html :=
  let chain := (containersOf table.entries d.memberof).reverse
  appendToLast (.text (Doclet.scopeMark d.scope)) (chain.map (trailLink r))

end DocSite
