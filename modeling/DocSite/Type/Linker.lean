import DocSite.Doclet.Store
import DocSite.Link.Markup
import DocSite.Type.Token

/-! Linking the documented types in type expressions. Only a longname that exactly one type bears
is linked; all other text stays, escaped. -/
namespace DocSite
set_option autoImplicit false

/-- The documented types, by name and longname in the order of the store. -/
structure TypeIndex where
  entries : List (String × Option String) := []
deriving Inhabited, Repr

namespace TypeIndex

/-- Kinds that type expressions can name. -/
def kinds : List String := ["typedef", "class", "external"]

def ofStore (s : Store) : TypeIndex :=
  ⟨(s.find fun d => kinds.contains d.kind).map fun d => (d.name, d.longname)⟩

/-- The longname of the only type with a name, or the name itself. -/
def longnameFor (index : TypeIndex) (name : String) : String :=
  match index.entries.filter (·.1 == name) with
  | [(_, some longname)] => if longname == "" then name else longname
  | _ => name

/-- Whether exactly one type has a longname. -/
def isUnique (index : TypeIndex) (longname : String) : Bool :=
  longname != "" && (index.entries.filter (·.2 == some longname)).length == 1

end TypeIndex

/-- What linking types needs: the types and the two settings for their names. -/
structure TypeLinker where
  index : TypeIndex
  compact : Bool := false
  expand : Bool := false
deriving Inhabited

namespace TypeLinker

/-- A type name as it is shown. -/
def shown (l : TypeLinker) (name : String) : Html :=
  .text (if l.compact then shortTypeName name else name)

/-- The longname that a name in an expression stands for. -/
def meant (l : TypeLinker) (name : String) : String :=
  if l.expand then l.index.longnameFor name else name

def token (l : TypeLinker) (r : Registry) (t : TypeToken) : Html :=
  let name := String.ofList t.text
  let longname := l.meant name
  if t.isName && l.index.isUnique longname then r.linkTo (some longname) (l.shown longname)
  else .text name

def expression (l : TypeLinker) (r : Registry) (text : String) : Html :=
  .each (TypeToken.list text.toList) (l.token r)

/-- The markup of type names, each on its own. -/
def expressions (l : TypeLinker) (r : Registry) (types : Option (List String)) : List Html :=
  (types.getD []).map (l.expression r)

end TypeLinker
end DocSite
