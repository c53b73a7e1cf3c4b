import DocSite.Nav.Tree
import DocSite.Value.Display

/-! Navigation trees as nested lists, two spaces of indentation for each level. A group without
items of its own shows only the groups under it when empty groups are skipped. -/
namespace DocSite.Menu
set_option autoImplicit false

/-- The indentation of a level. -/
def indent (level : Int) : Html := .raw (String.ofList (List.replicate (2 * level).toNat ' '))

def line (level : Int) (h : Html) : Html := indent level ++ h ++ .raw "\n"

/-- A data attribute with a text, left out when the text is empty. -/
def dataAttribute (name value : String) : Html :=
  if value == "" then .empty else .attr ("data-" ++ name) (.text value)

def dataAttributes (d : Doclet) : Html :=
  dataAttribute "kind" d.kind ++ dataAttribute "access" (d.access.getD "") ++
    dataAttribute "async" (if d.isAsync then "true" else "")

/-- The heading of a group: a title at the top level, a list entry below it. -/
def heading (level : Int) (text : String) : Html :=
  if text == "" then .empty
  else
    let tag := if level == 0 then "h3" else "li"
    line level (.raw "<" ++ .raw tag ++ .raw ">") ++ line (level + 1) (.text text) ++
      line level (.raw "</" ++ .raw tag ++ .raw ">")

/-- A group around what it holds. -/
def frame (level : Int) (skipEmpty : Bool) (title : String) (css : Option String)
    (hasItems : Bool) (body : Html) : Html :=
  if body.isEmpty then .empty
  else if !hasItems && skipEmpty then body
  else
    let mark := match css.filter (· != "") with
      | some c => Html.attr "class" (.text c)
      | none => .empty
    heading level title ++ line level (.raw "<ul" ++ mark ++ .raw ">") ++ body ++
      line level (.raw "</ul>")

mutual

/-- The markup of a group at a level. -/
def render (skipEmpty : Bool) (level : Int) : NavGroup → Html
  | ⟨title, children, items, css⟩ =>
    frame level skipEmpty title css (!items.isEmpty)
      (renderItems skipEmpty level items ++ renderChildren skipEmpty (level + 1) children)

/-- The markup of the groups under a group. -/
def renderChildren (skipEmpty : Bool) (level : Int) : List (String × NavGroup) → Html
  | [] => .empty
  | (_, g) :: rest => render skipEmpty level g ++ renderChildren skipEmpty level rest

/-- The markup of the items of a group. -/
def renderItems (skipEmpty : Bool) (level : Int) : List NavItem → Html
  | [] => .empty
  | ⟨link, doclet, details⟩ :: rest =>
    line (level + 1) (.raw "<li" ++ (doclet.map dataAttributes).getD .empty ++ .raw ">") ++
      line (level + 2) link ++ renderDetails skipEmpty (level + 2) details ++
      line (level + 1) (.raw "</li>") ++ renderItems skipEmpty level rest

/-- The markup of the lists of members under an item. -/
def renderDetails (skipEmpty : Bool) (level : Int) : List NavGroup → Html
  | [] => .empty
  | g :: rest => render skipEmpty level g ++ renderDetails skipEmpty level rest

end

end DocSite.Menu
