import DocSite.Value.Yaml

/-! Mappings without a key twice. Such a mapping is what its keys are, in their order, and what
they are looked up to; all that is read from a file is of this kind. -/
namespace DocSite
set_option autoImplicit false

namespace Table
variable {α : Type}

/-- Pairs are the same where they have the same keys in the same order, none of them twice, with
the same values. -/
theorem eq_of_keys_of_lookup {xs ys : List (String × α)} (hd : (xs.map (·.1)).Nodup)
    (hkeys : xs.map (·.1) = ys.map (·.1)) (hlookup : ∀ key, xs.lookup key = ys.lookup key) :
    xs = ys := by
  induction xs generalizing ys with
  | nil => exact (List.map_eq_nil_iff.mp hkeys.symm).symm
  | cons x xs ih =>
    cases ys with
    | nil => cases hkeys
    | cons y ys =>
      obtain ⟨k, v⟩ := x
      obtain ⟨l, w⟩ := y
      rw [List.map_cons, List.nodup_cons] at hd
      rw [List.map_cons, List.map_cons, List.cons.injEq] at hkeys
      obtain ⟨rfl, hrest⟩ := hkeys
      have hv : v = w := by simpa using hlookup k
      have htail : ∀ key, xs.lookup key = ys.lookup key := by
        intro key
        by_cases hk : key = k
        · -- The key of the head stands in neither tail.
          have hx : xs.lookup k = none := (get?_eq_none_iff (t := ⟨xs⟩)).mpr hd.1
          have hy : ys.lookup k = none :=
            (get?_eq_none_iff (t := ⟨ys⟩)).mpr fun h => hd.1 (hrest ▸ h)
          rw [hk, hx, hy]
        · have hne : (key == k) = false := by simpa using hk
          simpa only [List.lookup_cons, hne] using hlookup key
      rw [hv, ih hd.2 hrest htail]

end Table

namespace Value

/-- No mapping in the value has a key twice. -/
inductive WellKeyed : Value → Prop where
  | null : WellKeyed null
  | bool (b : Bool) : WellKeyed (bool b)
  | int (n : Int) : WellKeyed (int n)
  | real (x : Double) : WellKeyed (real x)
  | text (s : String) : WellKeyed (text s)
  | list {items : List Value} (within : ∀ v ∈ items, WellKeyed v) : WellKeyed (list items)
  | mapping {fields : List (String × Value)} (nodup : (fields.map (·.1)).Nodup)
      (within : ∀ p ∈ fields, WellKeyed p.2) : WellKeyed (mapping fields)

namespace WellKeyed

theorem nodup {fields : List (String × Value)} (h : WellKeyed (.mapping fields)) :
    (fields.map (·.1)).Nodup := by
  cases h with
  | mapping nodup within => exact nodup

theorem lookup {fields : List (String × Value)} (h : WellKeyed (.mapping fields)) {key : String}
    {v : Value} (hv : fields.lookup key = some v) : WellKeyed v := by
  cases h with
  | mapping nodup within =>
    exact within _ (Table.mem_of_get?_eq_some (t := ⟨fields⟩) hv)

theorem items {items : List Value} (h : WellKeyed (.list items)) : ∀ v ∈ items, WellKeyed v := by
  cases h with
  | list within => exact within

/-- A mapping is well keyed if no key stands twice and what the keys are looked up to is. -/
theorem of_lookup {fields : List (String × Value)} (hd : (fields.map (·.1)).Nodup)
    (h : ∀ key v, fields.lookup key = some v → WellKeyed v) : WellKeyed (.mapping fields) :=
  .mapping hd fun p hp => h p.1 p.2 (Table.get?_eq_some_of_mem (t := ⟨fields⟩) hd hp)

theorem empty : WellKeyed (.mapping []) :=
  .mapping List.nodup_nil (List.forall_mem_nil _)

theorem insert {t : Table Value} (h : WellKeyed (.mapping t.entries)) {v : Value}
    (hv : WellKeyed v) (key : String) : WellKeyed (.mapping (t.insert key v).entries) := by
  refine of_lookup (Table.nodup_keys_insert h.nodup key v) fun other w hw => ?_
  rw [Table.insert, Table.lookup_put] at hw
  split at hw
  · cases hw
    exact hv
  · exact h.lookup hw

end WellKeyed
end Value

/-! ## What is read -/

theorem exists_of_map_eq_ok {ε α β : Type} {f : α → β} {r : Except ε α} {b : β}
    (h : r.map f = .ok b) : ∃ a, r = .ok a ∧ f a = b := by
  cases r with
  | error e => cases h
  | ok a => exact ⟨a, rfl, Except.ok.inj h⟩

namespace Json
open Value (WellKeyed)

theorem unsigned_wellKeyed {negative : Bool} {cs rest : List Char} {v : Value}
    (h : unsigned negative cs = .ok (v, rest)) : v.WellKeyed := by
  unfold unsigned at h
  dsimp only at h
  repeat' split at h
  all_goals
    first
    | cases h; done
    | obtain ⟨rfl, -⟩ := Prod.mk.inj (Except.ok.inj h)
      first
      | exact .real _
      | exact .int _

theorem constants_wellKeyed : ∀ p ∈ constants, p.2.WellKeyed := by
  simp only [constants, List.forall_mem_cons]
  exact ⟨.null, .bool _, .bool _, .real _, .real _, .real _, List.forall_mem_nil _⟩

theorem scalar_wellKeyed {cs rest : List Char} {v : Value} (h : scalar cs = .ok (v, rest)) :
    v.WellKeyed := by
  unfold scalar at h
  split at h
  · rename_i found hfound
    cases h
    obtain ⟨p, hp, hv⟩ := List.exists_of_findSome?_eq_some hfound
    obtain ⟨behind, -, hpair⟩ := Option.map_eq_some_iff.mp hv
    rw [← (Prod.mk.inj hpair).1]
    exact constants_wellKeyed p hp
  · split at h <;> exact unsigned_wellKeyed h

/-- A table of fields only grows by writing keys, so none of its keys ever stands twice. -/
theorem within_wellKeyed (fuel : Nat) :
    (∀ levels cs v rest, value fuel levels cs = .ok (v, rest) → v.WellKeyed) ∧
    (∀ levels read cs vs rest, (∀ v ∈ read, v.WellKeyed) →
      items fuel levels read cs = .ok (vs, rest) → ∀ v ∈ vs, v.WellKeyed) ∧
    (∀ levels read cs t rest, WellKeyed (.mapping read.entries) →
      fields fuel levels read cs = .ok (t, rest) → WellKeyed (.mapping t.entries)) := by
  induction fuel with
  | zero =>
    refine ⟨fun levels cs v rest h => ?_, fun levels read cs vs rest _ h => ?_,
      fun levels read cs t rest _ h => ?_⟩
    · rw [value] at h
      cases h
    · rw [items] at h
      cases h
    · rw [fields] at h
      cases h
  | succ fuel ih =>
    obtain ⟨hvalue, hitems, hfields⟩ := ih
    refine ⟨fun levels cs v rest h => ?_, fun levels read cs vs rest hread h => ?_,
      fun levels read cs t rest hread h => ?_⟩
    · rw [value.eq_def] at h
      dsimp only at h
      split at h
      · obtain ⟨_, -, hpair⟩ := exists_of_map_eq_ok h
        cases hpair
        exact .text _
      · cases h
      · split at h
        · cases h
          exact .list (List.forall_mem_nil _)
        · obtain ⟨_, hread, hpair⟩ := exists_of_map_eq_ok h
          cases hpair
          exact .list (hitems _ _ _ _ _ (List.forall_mem_nil _) hread)
      · cases h
      · split at h
        · cases h
          exact .empty
        · obtain ⟨_, hread, hpair⟩ := exists_of_map_eq_ok h
          cases hpair
          exact hfields _ _ _ _ _ .empty hread
      · exact scalar_wellKeyed h
    · rw [items.eq_def] at h
      dsimp only at h
      split at h
      · cases h
      · rename_i w behind hw
        have hall : ∀ v ∈ w :: read, v.WellKeyed :=
          List.forall_mem_cons.mpr ⟨hvalue _ _ _ _ hw, hread⟩
        split at h
        · exact hitems _ _ _ _ _ hall h
        · cases h
          exact fun v hv => hall v (List.mem_reverse.mp hv)
        · cases h
    · rw [fields.eq_def] at h
      dsimp only at h
      split at h
      · split at h
        · cases h
        · split at h
          · split at h
            · cases h
            · rename_i w behind hw
              have hall := hread.insert (hvalue _ _ _ _ hw)
              split at h
              · exact hfields _ _ _ _ _ (hall _) h
              · cases h
                exact hall _
              · cases h
          · cases h
      · cases h

theorem read_wellKeyed {s : String} {v : Value} (h : read s = .ok v) : v.WellKeyed := by
  unfold read at h
  dsimp only at h
  cases hv : value (2 * s.toList.length + 2) mostLevels (skipBlanks s.toList) with
  | error e =>
    rw [hv] at h
    cases h
  | ok p =>
    rw [hv] at h
    dsimp only [bind, Except.bind] at h
    split at h
    · cases h
      exact (within_wellKeyed _).1 _ _ _ _ hv
    · cases h

end Json

/-- A reader of documents gives mappings that hold every key once. -/
def Yaml.Reader.Keyed (yaml : Yaml.Reader) : Prop := ∀ s v, yaml s = .ok v → v.WellKeyed

theorem Yaml.keyed_readFlow : Yaml.Reader.Keyed Yaml.readFlow := by
  intro s v h
  unfold Yaml.readFlow at h
  split at h
  · cases h
    exact .null
  · exact Json.read_wellKeyed h

end DocSite
