import DocSite.Doclet.Store
import DocSite.Text.Split

/-! The symbols of a store by what they are on the site, and what modules export directly. -/
namespace DocSite
set_option autoImplicit false

/-- A name without the quotes around it. -/
def unquoted (name : String) : String := String.ofList (Text.unwrap '"' '"' name.toList)

namespace Store

/-- Takes the quotes off the names of externals; they only keep dots out of the hierarchy. -/
def unquoteExternals (s : Store) : Store :=
  s.map fun d => if d.kind == "external" then { d with name := unquoted d.name } else d

/-- Kinds that are globals when they have no container. -/
def globalKinds : List String := ["member", "function", "constant", "typedef"]

/-- The globals; what a module exports directly belongs to the module. -/
def globals (s : Store) : List Doclet :=
  s.find fun d => globalKinds.contains d.kind && d.memberof.isNone && !d.isModuleExports

/-- Classes and functions that may be what a module exports. -/
def exportCandidates (s : Store) : List Doclet :=
  s.find fun d => ["class", "function"].contains d.kind && d.longnameOrEmpty.startsWith "module:"

end Store

namespace Doclet

/-- A text with its first occurrence of a pattern replaced. -/
def replaceFirst (pattern replacement : List Char) : List Char → List Char
  | [] => if pattern.isEmpty then replacement else []
  | c :: rest =>
    match pattern.isPrefixOf? (c :: rest) with
    | some after => replacement ++ after
    | none => c :: replaceFirst pattern replacement rest

/-- The name of an export, written as the call that loads its module. -/
def loadedName (name : String) : String :=
  String.ofList (replaceFirst "module:".toList "(require(\"".toList name.toList) ++ "\"))"

/-- The doclet as it is shown under its module. -/
def asExport (d : Doclet) : Doclet :=
  if ["class", "function"].contains d.kind then { d with name := loadedName d.name } else d

/-- What a module exports directly: the candidates of the same longname, except functions without
a description. -/
def exportsOf (candidates : List Doclet) (module : Doclet) : List Doclet :=
  if module.longnameOrEmpty == "" then []
  else
    let same := candidates.filter (·.longname == module.longname)
    (same.filter fun d => d.description != "" || d.kind == "class").map asExport

end Doclet
end DocSite
