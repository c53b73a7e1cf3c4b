import DocSite.Doclet.Basic
import DocSite.Number.Integer
import DocSite.Fault

/-! Reading doclets from the records of a dump. A field that is missing or does not count as given
has its default; other values are taken by their text. -/
namespace DocSite
set_option autoImplicit false

namespace Value

/-- The text of a value, empty when it does not count as given. -/
def textOrEmpty (v : Value) : String := if v.isGiven then v.display else ""

/-- The text of a value unless it is null. -/
def text? : Value → Option String
  | null => none
  | v => some v.display

def items (v : Value) : Except Fault (List Value) :=
  match v.items? with
  | some vs => .ok vs
  | none => .error .notItems

def texts (v : Value) : Except Fault (List String) :=
  v.items.map fun vs => vs.map display

def records (v : Value) : Except Fault (List (List (String × Value))) :=
  v.items.map fun vs => vs.filterMap fun
    | mapping fields => some fields
    | _ => none

/-- The whole number that a value stands for: a fraction is cut off, a text is read. -/
def toInteger : Value → Except Fault Int
  | bool b => .ok (if b then 1 else 0)
  | int n => .ok n
  | real .undefined => .error .undefinedInteger
  | real x =>
    match x.truncate? with
    | some n => .ok n
    | none => .error .infiniteInteger
  | text s =>
    match Integer.ofText s with
    | .ok n => .ok n
    | .error .malformed => .error (.badInteger s)
    | .error (.tooLong digits) => .error (.longInteger digits)
  | _ => .error .notNumber

end Value

def readTypes : Value → Except Fault (Option (List String))
  | .mapping fields => (Value.field fields "names").texts.map some
  | _ => .ok none

def Parameter.ofFields (fields : List (String × Value)) : Except Fault Parameter := do
  let get := Value.field fields
  let types ← readTypes (get "type")
  return {
    name := (get "name").textOrEmpty
    types := types
    description := (get "description").textOrEmpty
    isOptional := (get "optional").isGiven
    nullable := get "nullable"
    isRepeatable := (get "variable").isGiven
    defaultValue := get "defaultvalue" }

def Origin.ofValue : Value → Except Fault (Option Origin)
  | .mapping fields =>
    let get := Value.field fields
    let origin (line : Option Int) : Origin := {
      fileName := (get "filename").textOrEmpty
      directory := (get "path").text?
      line := line }
    match get "lineno" with
    | .null => .ok (some (origin none))
    | v => v.toInteger.map fun n => some (origin (some n))
  | _ => .ok none

/-- Reads parameters from a list of records; other items are passed over. -/
def Parameter.listOfValue (v : Value) : Except Fault (List Parameter) := do
  (← v.records).mapM Parameter.ofFields

/-- Reads a doclet from a record at a place in the dump. -/
def Doclet.ofFields (position : Nat) (fields : List (String × Value)) : Except Fault Doclet := do
  let get := Value.field fields
  let types ← readTypes (get "type")
  let params ← Parameter.listOfValue (get "params")
  let returns ← Parameter.listOfValue (get "returns")
  let properties ← Parameter.listOfValue (get "properties")
  let origin ← Origin.ofValue (get "meta")
  let examples ← (get "examples").texts
  let see ← (get "see").texts
  let listens ← (get "listens").texts
  let fires ← (get "fires").texts
  let author ← (get "author").texts
  return {
    position := position
    kind := (get "kind").textOrEmpty
    name := (get "name").textOrEmpty
    longname := (get "longname").text?
    memberof := (get "memberof").text?
    scope := (get "scope").text?
    types := types
    params := params
    returns := returns
    properties := properties
    description := (get "description").textOrEmpty
    classDescription := (get "classdesc").textOrEmpty
    origin := origin
    examples := examples.map .whole
    see := see.map .symbol
    access := (get "access").text?
    isAsync := (get "async").isGiven
    isGenerator := (get "generator").isGiven
    isVirtual := (get "virtual").isGiven
    isReadonly := (get "readonly").isGiven
    nullable := get "nullable"
    variation := (get "variation").text?
    hidesConstructor := (get "hideconstructor").isGiven
    isUndocumented := (get "undocumented").isGiven
    isIgnored := (get "ignore").isGiven
    listens := listens
    fires := fires
    version := (get "version").text?
    since := (get "since").text?
    deprecated := get "deprecated"
    author := author
    readme := (get "readme").textOrEmpty
    record := fields }

def Doclet.ofRecords (position : Nat) :
    List (List (String × Value)) → Except Fault (List Doclet)
  | [] => .ok []
  | fields :: rest => do
    let d ← Doclet.ofFields position fields
    return d :: (← Doclet.ofRecords (position + 1) rest)

end DocSite
