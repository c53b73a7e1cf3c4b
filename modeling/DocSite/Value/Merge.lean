import DocSite.Value.Basic

/-! Merging layers of settings. Mappings merge key by key, other values are replaced; the list of
static file directories accumulates, in order of first appearance. -/
namespace DocSite.Value
set_option autoImplicit false

/-- Settings whose lists accumulate over layers. -/
def isAdditive (key : String) : Bool := key == "static_files"

/-- A list with the items of another that it lacks appended, each once. -/
def extend (base : List Value) : List Value → List Value
  | [] => base
  | v :: rest => extend (if v.isAmong base then base else base ++ [v]) rest

mutual

/-- The value of a key once an update is laid over it. -/
def mergeValue (key : String) (old : Option Value) : Value → Value
  | mapping update =>
    match old with
    | some (mapping base) => mapping (mergeFields base update)
    | _ => mapping update
  | list update =>
    match old with
    | some (list base) => if isAdditive key then list (extend base update) else list update
    | _ => list update
  | v => v

/-- A mapping with an update laid over it. -/
def mergeFields (base : List (String × Value)) : List (String × Value) → List (String × Value)
  | [] => base
  | (key, value) :: rest =>
    mergeFields (Table.put key (mergeValue key (base.lookup key) value) base) rest

end

end DocSite.Value
