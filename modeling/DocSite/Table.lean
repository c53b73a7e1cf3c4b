/-! Tables from texts to values in insertion order. Writing a key that is present keeps its
place and replaces its value; a new key goes to the end. -/
namespace DocSite
set_option autoImplicit false

/-- Keys with values, in the order of first insertion. -/
structure Table (α : Type) where
  entries : List (String × α) := []
deriving Inhabited, Repr

namespace Table
variable {α β : Type}

def empty : Table α := ⟨[]⟩

instance : EmptyCollection (Table α) := ⟨empty⟩

def get? (t : Table α) (key : String) : Option α := t.entries.lookup key

def has (t : Table α) (key : String) : Bool := (t.get? key).isSome

def keys (t : Table α) : List String := t.entries.map (·.1)

/-- Replaces the value of a key in place, or appends the pair. -/
def put (key : String) (value : α) : List (String × α) → List (String × α)
  | [] => [(key, value)]
  | (k, v) :: rest => if k == key then (k, value) :: rest else (k, v) :: put key value rest

def insert (t : Table α) (key : String) (value : α) : Table α := ⟨put key value t.entries⟩

/-- A table from pairs, later pairs written over earlier ones. -/
def ofList (pairs : List (String × α)) : Table α :=
  pairs.foldl (fun t p => t.insert p.1 p.2) empty

/-- The pairs whose key is another one. -/
def without (key : String) (entries : List (String × α)) : List (String × α) :=
  entries.filter (·.1 != key)

/-- The same keys with other values. -/
def map (f : α → β) (t : Table α) : Table β := ⟨t.entries.map fun p => (p.1, f p.2)⟩

/-! ## Laws -/

@[simp] theorem get?_empty (key : String) : (empty : Table α).get? key = none := rfl

theorem lookup_put (key other : String) (value : α) (entries : List (String × α)) :
    (put key value entries).lookup other =
      if other == key then some value else entries.lookup other := by
  induction entries with
  | nil =>
    cases h : other == key <;> simp [put, List.lookup_cons, h]
  | cons p rest ih =>
    obtain ⟨k, v⟩ := p
    by_cases hk : k = key
    · subst hk
      cases h : other == k <;> simp [put, List.lookup_cons, h]
    · cases ho : other == k with
      | true =>
        have e : other = k := by simpa using ho
        subst e
        simp [put, hk]
      | false => simp [put, List.lookup_cons, hk, ho, ih]

@[simp] theorem get?_insert (t : Table α) (key other : String) (value : α) :
    (t.insert key value).get? other = if other == key then some value else t.get? other :=
  lookup_put key other value t.entries

theorem get?_insert_self (t : Table α) (key : String) (value : α) :
    (t.insert key value).get? key = some value := by
  simp

theorem keys_put (key : String) (value : α) (entries : List (String × α)) :
    (put key value entries).map (·.1) =
      if key ∈ entries.map (·.1) then entries.map (·.1) else entries.map (·.1) ++ [key] := by
  induction entries with
  | nil => simp [put]
  | cons p rest ih =>
    obtain ⟨k, v⟩ := p
    by_cases hk : k = key
    · simp [put, hk]
    · simp only [put, beq_iff_eq, hk, if_false, List.map_cons, ih, List.mem_cons, Ne.symm hk,
        false_or]
      split <;> simp

/-- A present key keeps its place, a new one goes to the end. -/
theorem keys_insert (t : Table α) (key : String) (value : α) :
    (t.insert key value).keys = if key ∈ t.keys then t.keys else t.keys ++ [key] :=
  keys_put key value t.entries

/-- Writing a key never makes a key stand twice. -/
theorem nodup_keys_insert {t : Table α} (h : t.keys.Nodup) (key : String) (value : α) :
    (t.insert key value).keys.Nodup := by
  rw [keys_insert]
  split
  · exact h
  · rename_i hk
    rw [List.nodup_append]
    refine ⟨h, List.nodup_cons.mpr ⟨List.not_mem_nil, List.nodup_nil⟩, ?_⟩
    intro a ha b hb e
    rw [List.mem_singleton.mp hb] at e
    exact hk (e ▸ ha)

theorem put_of_lookup_none {key : String} {entries : List (String × α)}
    (h : entries.lookup key = none) (value : α) :
    put key value entries = entries ++ [(key, value)] := by
  induction entries with
  | nil => rfl
  | cons p rest ih =>
    obtain ⟨k, v⟩ := p
    rw [List.lookup_cons] at h
    split at h
    · cases h
    · rename_i hk
      have hne : k ≠ key := fun e => by simp [e] at hk
      simp [put, hne, ih h]

/-- A new key goes to the end. -/
theorem entries_insert_of_get?_none {t : Table α} {key : String} (h : t.get? key = none)
    (value : α) : (t.insert key value).entries = t.entries ++ [(key, value)] :=
  put_of_lookup_none h value

theorem mem_of_get?_eq_some {t : Table α} {key : String} {value : α}
    (h : t.get? key = some value) : (key, value) ∈ t.entries := by
  obtain ⟨before, after, he, _⟩ := List.lookup_eq_some_iff.mp h
  simp [he]

theorem get?_eq_none_iff {t : Table α} {key : String} : t.get? key = none ↔ key ∉ t.keys := by
  rw [get?, List.lookup_eq_none_iff, keys, List.mem_map, not_exists]
  refine forall_congr' fun p => ?_
  rw [not_and]
  exact imp_congr_right fun _ => by rw [bne_iff_ne, ne_comm]

/-- Where no key stands twice, the entries are what the keys are looked up to. -/
theorem get?_eq_some_of_mem {t : Table α} (hd : t.keys.Nodup) {key : String} {value : α}
    (h : (key, value) ∈ t.entries) : t.get? key = some value := by
  obtain ⟨before, after, he⟩ := List.append_of_mem h
  refine List.lookup_eq_some_iff.mpr ⟨before, after, he, ?_⟩
  intro p hp
  rw [keys, he, List.map_append, List.nodup_append] at hd
  have hne : p.1 ≠ key := hd.2.2 _ (List.mem_map_of_mem hp) _ (List.mem_cons_self ..)
  exact bne_iff_ne.mpr hne.symm

/-- Taking a key that is present out of a list of pairs shortens it. -/
theorem length_without_lt_of_lookup {key : String} {value : α} {entries : List (String × α)}
    (h : entries.lookup key = some value) :
    (without key entries).length < entries.length := by
  unfold without
  induction entries with
  | nil =>
    rw [List.lookup_nil] at h
    cases h
  | cons p rest ih =>
    cases e : key == p.1 with
    | true =>
      have e : key = p.1 := by simpa using e
      subst e
      simpa using Nat.lt_succ_of_le (List.length_filter_le _ rest)
    | false =>
      rw [List.lookup_cons, e] at h
      have hne : (p.1 != key) = true := by
        simpa [bne] using fun q => by simp [q] at e
      simpa [List.filter_cons, hne] using ih h

/-! ## Other values -/

theorem put_map (f : α → β) (key : String) (value : α) (entries : List (String × α)) :
    put key (f value) (entries.map fun p => (p.1, f p.2)) =
      (put key value entries).map fun p => (p.1, f p.2) := by
  induction entries with
  | nil => rfl
  | cons p rest ih =>
    simp only [List.map_cons, put]
    split
    · rfl
    · rw [ih, List.map_cons]

theorem ofList_map (f : α → β) (pairs : List (String × α)) :
    ofList (pairs.map fun p => (p.1, f p.2)) = (ofList pairs).map f := by
  have hfold : ∀ t : Table α, (pairs.map fun p => (p.1, f p.2)).foldl
      (fun t p => t.insert p.1 p.2) (t.map f) =
        (pairs.foldl (fun t p => t.insert p.1 p.2) t).map f := by
    induction pairs with
    | nil => exact fun _ => rfl
    | cons p rest ih =>
      intro t
      have hput : (t.map f).insert p.1 (f p.2) = (t.insert p.1 p.2).map f :=
        congrArg Table.mk (put_map f p.1 p.2 t.entries)
      rw [List.map_cons, List.foldl_cons, List.foldl_cons, hput]
      exact ih _
  exact hfold empty

theorem lookup_map {κ : Type} [BEq κ] (f : α → β) (key : κ) (entries : List (κ × α)) :
    (entries.map fun p => (p.1, f p.2)).lookup key = (entries.lookup key).map f := by
  induction entries with
  | nil => rfl
  | cons p rest ih =>
    rw [List.map_cons, List.lookup_cons, List.lookup_cons]
    split
    · rfl
    · exact ih

theorem without_map (f : α → β) (key : String) (entries : List (String × α)) :
    without key (entries.map fun p => (p.1, f p.2)) =
      (without key entries).map fun p => (p.1, f p.2) := by
  rw [without, List.filter_map]
  rfl

end Table
end DocSite
