import DocSite.Doclet.Field
import DocSite.Doclet.RunSort
import DocSite.Text.Split
import DocSite.Text.Lower

/-! Sorting doclets by several fields. The least significant field is sorted first and every sort
is stable, in descending fields too, so the result is ordered by all fields together, unless a field
holds a number without value beside others: that one comes neither before nor after them. -/
namespace DocSite
set_option autoImplicit false

structure OrderField where
  name : String
  descending : Bool
deriving DecidableEq, Repr, Inhabited

/-- Reads one part of an order: a field name, then perhaps the word for descending order. -/
def OrderField.ofPart? (part : List Char) : Option OrderField :=
  match Text.words part with
  | [] => none
  | [name] => some ⟨String.ofList name, false⟩
  | name :: word :: _ => some ⟨String.ofList name, Text.lower word == "desc".toList⟩

/-- Reads an order: parts between commas, blank ones passed over. -/
def OrderField.listOfString (spec : String) : List OrderField :=
  (Text.pieces (· == ',') spec.toList).filterMap OrderField.ofPart?

/-- What a field sorts by: missing values first, then numbers and truth values, then texts. -/
inductive SortKey where
  | missing
  | number (x : Double)
  | text (s : String)
deriving DecidableEq, Inhabited

/-- Whether a key comes before another one. -/
def SortKey.lt : SortKey → SortKey → Bool
  | missing, missing => false
  | missing, _ => true
  | _, missing => false
  | number x, number y => x.lt y
  | number _, text _ => true
  | text _, number _ => false
  | text s, text t => decide (s < t)

/-- What a field sorts by. -/
def Field.sortKey : Field → SortKey
  | data .null => .missing
  | data v =>
    match v.number? with
    | some x => .number x
    | none => .text v.display
  | texts _ written => .text written
  | structured _ written => .text written

namespace OrderField

/-- What a doclet sorts by in a field. -/
def key (f : OrderField) (d : Doclet) : SortKey := (d.field f.name).sortKey

/-- Doclets sorted by one field. For a descending one they are turned round before and after, so
that doclets with the same key keep their order. -/
def pass (f : OrderField) (ds : List Doclet) : List Doclet :=
  let lt (a b : Doclet) : Bool := (f.key a).lt (f.key b)
  if f.descending then (RunSort.sort lt ds.reverse).reverse else RunSort.sort lt ds

end OrderField

/-- Doclets sorted by fields, the first one most significant. -/
def orderBy (fields : List OrderField) (ds : List Doclet) : List Doclet :=
  fields.foldr OrderField.pass ds

def orderByText (spec : String) (ds : List Doclet) : List Doclet :=
  orderBy (OrderField.listOfString spec) ds

end DocSite
