import DocSite.Table
import DocSite.Number.Double

/-! Untyped data as dumps, settings files and queries hold it. The keys of a mapping are texts, and
it keeps their order. Equality is by value: a truth value equals the number one or zero, and an integer equals
the double of the same size. -/
namespace DocSite
set_option autoImplicit false

inductive Value where
  | null
  | bool (b : Bool)
  | int (n : Int)
  | real (x : Double)
  | text (s : String)
  | list (items : List Value)
  | mapping (fields : List (String × Value))
deriving Inhabited, Repr

namespace Value

/-- What counts as given: everything but null, false, zero and the empty text, list, mapping. -/
def isGiven : Value → Bool
  | null => false
  | bool b => b
  | int n => n != 0
  | real x => !x.isZero
  | text s => s != ""
  | list items => !items.isEmpty
  | mapping fields => !fields.isEmpty

/-- The value of a key of a mapping, null when it is absent. -/
def field (fields : List (String × Value)) (key : String) : Value :=
  (fields.lookup key).getD null

/-- A truth value or a number as a number. -/
def number? : Value → Option Double
  | bool b => some (Double.ofInt (if b then 1 else 0))
  | int n => some (Double.ofInt n)
  | real x => some x
  | _ => none

/-- Whether two numbers are one; a number without value is itself. -/
def sameNumber (x y : Double) : Bool := Double.order x y == .eq

mutual

/-- Whether a list that holds one value holds the other. -/
def same : Value → Value → Bool
  | null, null => true
  | text s, text t => s == t
  | list xs, list ys => sameItems xs ys
  | mapping xs, mapping ys => xs.length == ys.length && sameFields xs ys
  | x, y =>
    match x.number?, y.number? with
    | some a, some b => sameNumber a b
    | _, _ => false

/-- Equality of lists, item by item. -/
def sameItems : List Value → List Value → Bool
  | [], [] => true
  | x :: xs, y :: ys => same x y && sameItems xs ys
  | _, _ => false

/-- Whether every field of the first mapping has an equal one in the second. -/
def sameFields : List (String × Value) → List (String × Value) → Bool
  | [], _ => true
  | (k, v) :: rest, ys =>
    (match ys.lookup k with
      | some w => same v w
      | none => false) && sameFields rest ys

end

/-- Whether a value is among the items, by value. -/
def isAmong (v : Value) (items : List Value) : Bool := items.any (same v)

/-- Equality of values. A number without value equals nothing, not even itself. -/
def equals (v w : Value) : Bool := v.number? != some .undefined && v.same w

/-- The items that a list, a text (its characters) or a mapping (its keys) holds; a number or
true holds none and is refused, and what does not count as given is empty. -/
def items? (v : Value) : Option (List Value) :=
  if !v.isGiven then some []
  else
    match v with
    | list items => some items
    | text s => some (s.toList.map fun c => text (String.singleton c))
    | mapping fields => some (fields.map fun p => text p.1)
    | _ => none

end Value
end DocSite
