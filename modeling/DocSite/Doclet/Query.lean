import DocSite.Doclet.Field
import DocSite.Fault

/-! Queries on doclets: conditions on named fields, all of which must hold. Conditions are checked
in order, and a condition with an unknown operator stops the run when it is reached. -/
namespace DocSite
set_option autoImplicit false

/-- A condition on a field. -/
inductive Condition where
  /-- The field is a text that starts like this. -/
  | startsWith (head : String)
  /-- The field is missing, or is not. -/
  | isMissing (expected : Bool)
  /-- An operator that does not exist. -/
  | unknown (names : List String)
  /-- One of several conditions holds. -/
  | anyOf (options : List Condition)
  /-- The field equals the value, or holds it when the field is a list. -/
  | equals (v : Value)
deriving Inhabited

/-- A query: conditions on named fields. -/
abbrev Query := List (String × Condition)

mutual

/-- Reads a condition: a mapping is an operator, a list gives alternatives. -/
def Condition.ofValue : Value → Condition
  | .mapping fields =>
    match fields.lookup "left", fields.lookup "is_undefined" with
    | some head, _ => .startsWith head.display
    | none, some expected => .isMissing expected.isGiven
    | none, none => .unknown ((fields.map (·.1)).mergeSort fun a b => decide (a ≤ b))
  | .list items => .anyOf (Condition.listOfItems items)
  | v => .equals v

/-- Reads the alternatives of a list. -/
def Condition.listOfItems : List Value → List Condition
  | [] => []
  | v :: rest => Condition.ofValue v :: Condition.listOfItems rest

end

def Query.ofFields (fields : List (String × Value)) : Query :=
  fields.map fun p => (p.1, Condition.ofValue p.2)

namespace Condition

/-- Whether a field equals a value, or holds it when the field is a list. -/
def fieldHolds : Field → Value → Bool
  | .data (.list items), v => v.isAmong items
  | .data w, v => w.equals v
  | .texts items _, v => v.isAmong (items.map .text)
  | .structured _ _, _ => false

mutual

def holds (f : Field) : Condition → Except Fault Bool
  | startsWith head =>
    match f with
    | .data (.text s) => .ok (s.startsWith head)
    | _ => .ok false
  | isMissing expected => .ok ((f matches .data .null) == expected)
  | unknown names => .error (.unknownOperator names)
  | anyOf options => holdsAny f options
  | equals v => .ok (fieldHolds f v)

/-- Whether a field meets one of several conditions, tried in order. -/
def holdsAny (f : Field) : List Condition → Except Fault Bool
  | [] => .ok false
  | c :: rest =>
    match holds f c with
    | .error e => .error e
    | .ok true => .ok true
    | .ok false => holdsAny f rest

end

end Condition

namespace Query

/-- Whether a doclet meets all conditions, checked in order. -/
def accepts (d : Doclet) : Query → Except Fault Bool
  | [] => .ok true
  | (name, c) :: rest =>
    match c.holds (d.field name) with
    | .error e => .error e
    | .ok false => .ok false
    | .ok true => accepts d rest

def select (q : Query) : List Doclet → Except Fault (List Doclet)
  | [] => .ok []
  | d :: rest =>
    match q.accepts d with
    | .error e => .error e
    | .ok keep =>
      match q.select rest with
      | .error e => .error e
      | .ok found => .ok (if keep then d :: found else found)

/-- The doclets that an optional query accepts: without a query, all of them. -/
def selectOf (q : Option Query) (ds : List Doclet) : Except Fault (List Doclet) :=
  match q with
  | some q => q.select ds
  | none => .ok ds

end Query
end DocSite
