import DocSite.Value.Basic
import DocSite.Html

/-! Doclets: the records of documented symbols that a dump lists, with what publishing adds to
them. -/
namespace DocSite
set_option autoImplicit false

/-- A parameter, return value or property. Types are type expressions, as the source wrote
them. -/
structure Parameter where
  name : String := ""
  types : Option (List String) := none
  description : String := ""
  isOptional : Bool := false
  nullable : Value := .null
  isRepeatable : Bool := false
  defaultValue : Value := .null
deriving Inhabited

/-- Where a doclet was found. The short path is set when the source files are known. -/
structure Origin where
  fileName : String := ""
  directory : Option String := none
  line : Option Int := none
  shortPath : Option String := none
deriving DecidableEq, Inhabited

/-- A code example, as the dump has it or with its caption split off. -/
inductive Example where
  | whole (text : String)
  | captioned (caption code : String)
deriving DecidableEq, Inhabited

/-- The caption of an example, empty before it is split off. -/
def Example.caption : Example → String
  | whole _ => ""
  | captioned caption _ => caption

def Example.code : Example → String
  | whole text => text
  | captioned _ code => code

/-- A reference to another symbol: its name, or the link it was turned into. -/
inductive Reference where
  | symbol (name : String)
  | link (markup : Html)
deriving DecidableEq, Inhabited

/-- A documented symbol. -/
structure Doclet where
  /-- The place in the dump. -/
  position : Nat := 0
  kind : String := ""
  name : String := ""
  longname : Option String := none
  memberof : Option String := none
  scope : Option String := none
  types : Option (List String) := none
  params : List Parameter := []
  returns : List Parameter := []
  properties : List Parameter := []
  description : String := ""
  classDescription : String := ""
  origin : Option Origin := none
  examples : List Example := []
  see : List Reference := []
  access : Option String := none
  isAsync : Bool := false
  isGenerator : Bool := false
  isVirtual : Bool := false
  isReadonly : Bool := false
  nullable : Value := .null
  variation : Option String := none
  hidesConstructor : Bool := false
  isUndocumented : Bool := false
  isIgnored : Bool := false
  listens : List String := []
  fires : List String := []
  version : Option String := none
  since : Option String := none
  deprecated : Value := .null
  author : List String := []
  readme : String := ""
  /-- The fields of the record that the doclet was read from. -/
  record : List (String × Value) := []
  /-- The call signature shown after the name. -/
  signature : Html := .empty
  /-- The attribute words shown before the name. -/
  attributes : Html := .empty
  /-- The id of the symbol's heading. -/
  anchor : String := ""
  /-- Links to the containers, outermost first. -/
  ancestors : List Html := []
  /-- The longnames of the symbols that listen to an event. -/
  listeners : List String := []
deriving Inhabited

namespace Doclet

/-- The name that links use: the longname, or the name when there is none. -/
def linkName (d : Doclet) : String :=
  match d.longname with
  | some l => if l == "" then d.name else l
  | none => d.name

def longnameOrEmpty (d : Doclet) : String := d.longname.getD ""

/-- The container, if one is named. -/
def container? (d : Doclet) : Option String := d.memberof.filter (· != "")

/-- Whether the doclet is the value that a module exports directly. -/
def isModuleExports (d : Doclet) : Bool :=
  d.longname == some d.name && d.name.startsWith "module:" && d.kind != "module"

/-- A doclet without its place in the dump. -/
def unplaced (d : Doclet) : Doclet := { d with position := 0 }

end Doclet
end DocSite
