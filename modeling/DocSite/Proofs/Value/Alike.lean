import DocSite.Proofs.Value.Merge

/-! Layers that hold values of a kind wherever both hold one. Of three layers the last two may be
merged first if they are alike, and a chain of alike layers holds at the end of any path what the
layers' own values there come to. -/
namespace DocSite.Value
set_option autoImplicit false

variable {fields : List (String × Value)}

/-! ## Paths -/

/-- What a value holds at the end of a path of keys. -/
def at? : Value → List String → Option Value
  | v, [] => some v
  | mapping fields, key :: rest => (fields.lookup key).bind (at? · rest)
  | _, _ :: _ => none

theorem at?_cons_eq_some {key : String} {rest : List String} {v : Value} :
    (mapping fields).at? (key :: rest) = some v ↔
      ∃ w, fields.lookup key = some w ∧ w.at? rest = some v := by
  rw [at?, Option.bind_eq_some_iff]

theorem at?_cons {key : String} {v : Value} (h : fields.lookup key = some v)
    (rest : List String) : (mapping fields).at? (key :: rest) = v.at? rest := by
  rw [at?, h]
  rfl

theorem at?_cons_of_none {key : String} (h : fields.lookup key = none)
    (rest : List String) : (mapping fields).at? (key :: rest) = none := by
  rw [at?, h]
  rfl

/-- Only a mapping holds anything below itself. -/
theorem exists_fields_of_at? {v w : Value} {path : List String} {key : String}
    (h : v.at? (path ++ [key]) = some w) : ∃ fields, v = mapping fields := by
  cases v with
  | mapping fields => exact ⟨fields, rfl⟩
  | _ => cases path <;> cases h

/-- Two values of a key are of a kind: both mappings or neither, and where lists accumulate both
lists or neither. -/
def OfKind (key : String) (v w : Value) : Prop :=
  v.isMapping = w.isMapping ∧ (isAdditive key = true → v.isList = w.isList)

theorem OfKind.trans {key : String} {u v w : Value} (huv : OfKind key u v)
    (hvw : OfKind key v w) : OfKind key u w :=
  ⟨huv.1.trans hvw.1, fun hkey => (huv.2 hkey).trans (hvw.2 hkey)⟩

/-- Layers that hold values of a kind wherever both hold one. -/
def Alike (a b : List (String × Value)) : Prop :=
  ∀ path key v w, (mapping a).at? (path ++ [key]) = some v →
    (mapping b).at? (path ++ [key]) = some w → OfKind key v w

namespace Alike
variable {a b : List (String × Value)} {key : String}

theorem here (h : Alike a b) {v w : Value} (ha : a.lookup key = some v)
    (hb : b.lookup key = some w) : OfKind key v w :=
  h [] key v w (at?_cons ha []) (at?_cons hb [])

theorem below (h : Alike a b) {inner other : List (String × Value)}
    (ha : a.lookup key = some (mapping inner)) (hb : b.lookup key = some (mapping other)) :
    Alike inner other :=
  fun path last v w hv hw => h (key :: path) last v w ((at?_cons ha _).trans hv)
    ((at?_cons hb _).trans hw)

end Alike

theorem alike_iff {a b : List (String × Value)} :
    Alike a b ↔ ∀ key v w, a.lookup key = some v → b.lookup key = some w → OfKind key v w ∧
      ∀ inner other, v = mapping inner → w = mapping other → Alike inner other := by
  refine ⟨fun h key v w hv hw => ⟨h.here hv hw, ?_⟩, fun h path key v w hv hw => ?_⟩
  · rintro inner other rfl rfl
    exact h.below hv hw
  · cases path with
    | nil =>
      obtain ⟨v', hv', hv⟩ := at?_cons_eq_some.mp hv
      obtain ⟨w', hw', hw⟩ := at?_cons_eq_some.mp hw
      cases hv
      cases hw
      exact (h key v w hv' hw').1
    | cons first path =>
      obtain ⟨v', hv', hv⟩ := at?_cons_eq_some.mp hv
      obtain ⟨w', hw', hw⟩ := at?_cons_eq_some.mp hw
      obtain ⟨inner, rfl⟩ := exists_fields_of_at? hv
      obtain ⟨other, rfl⟩ := exists_fields_of_at? hw
      exact (h first _ _ hv' hw').2 inner other rfl rfl path key v w hv hw

mutual

/-- Whether two values that a key holds in two layers are of a kind, all the way down. -/
def checkValues (key : String) : Value → Value → Bool
  | mapping a, mapping b => checkAlike a b
  | v, w => !v.isMapping && !w.isMapping && (!isAdditive key || v.isList == w.isList)

/-- Whether each value of the one layer is of the kind of what the other holds there. -/
def checkAlike : List (String × Value) → List (String × Value) → Bool
  | [], _ => true
  | (key, v) :: rest, b => (b.lookup key).all (checkValues key v) && checkAlike rest b

end

theorem checkAlike_of_mem {a b : List (String × Value)} (h : checkAlike a b = true)
    {key : String} {v w : Value} (hv : (key, v) ∈ a) (hw : b.lookup key = some w) :
    checkValues key v w = true := by
  induction a with
  | nil => cases hv
  | cons p a ih =>
    rw [checkAlike, Bool.and_eq_true] at h
    rcases List.mem_cons.mp hv with rfl | hv
    · rw [hw] at h
      exact h.1
    · exact ih h.2 hv

theorem checkValues_cases {key : String} {v w : Value} (h : checkValues key v w = true) :
    (∃ inner other, v = mapping inner ∧ w = mapping other ∧ checkAlike inner other = true) ∨
    v.isMapping = false ∧ OfKind key v w := by
  rw [checkValues.eq_def] at h
  split at h
  · exact .inl ⟨_, _, rfl, rfl, h⟩
  · simp only [Bool.and_eq_true, Bool.not_eq_true', Bool.or_eq_true, beq_iff_eq] at h
    obtain ⟨⟨hv, hw⟩, hkey | hlist⟩ := h
    · refine .inr ⟨hv, hv.trans hw.symm, fun hk => ?_⟩
      exact absurd (hkey.symm.trans hk) Bool.false_ne_true
    · exact .inr ⟨hv, hv.trans hw.symm, fun _ => hlist⟩

/-- Layers that the check finds alike are. -/
theorem alike_of_check {a b : List (String × Value)} (ha : (mapping a).WellKeyed)
    (h : checkAlike a b = true) : Alike a b := by
  generalize hm : mapping a = m at ha
  induction ha generalizing a b with
  | @mapping fields nodup within ih =>
    cases hm
    refine alike_iff.mpr fun key v w hv hw => ?_
    have hmem : (key, v) ∈ fields := Table.mem_of_get?_eq_some (t := ⟨fields⟩) hv
    rcases checkValues_cases (checkAlike_of_mem h hmem hw) with
      ⟨inner, other, rfl, rfl, hbelow⟩ | ⟨hleaf, hkind⟩
    · refine ⟨⟨rfl, fun _ => rfl⟩, ?_⟩
      rintro _ _ ⟨⟩ ⟨⟩
      exact ih _ hmem hbelow rfl
    · refine ⟨hkind, ?_⟩
      rintro inner other rfl rfl
      cases hleaf
  | _ => cases hm

/-! ## Three layers -/

theorem mergeFields_assoc_of {a b c : List (String × Value)} (ha : (mapping a).WellKeyed)
    (hb : (mapping b).WellKeyed) (hd : (c.map (·.1)).Nodup)
    (h : ∀ key y z, b.lookup key = some y → c.lookup key = some z → ∀ old,
      (∀ o, old = some o → o.WellKeyed) →
      mergeValue key (some (mergeValue key old y)) z =
        mergeValue key old (mergeValue key (some y) z)) :
    mergeFields (mergeFields a b) c = mergeFields a (mergeFields b c) := by
  have hab := nodup_mergeFields ha.nodup hb.nodup
  have hbc := nodup_mergeFields hb.nodup hd
  refine Table.eq_of_keys_of_lookup (nodup_mergeFields hab hd) ?_ fun key => ?_
  · rw [keys_mergeFields hd, keys_mergeFields hb.nodup, keys_mergeFields hbc,
      keys_mergeFields hd, joined_assoc]
  · cases hz : c.lookup key with
    | none =>
      rw [lookup_mergeFields_of_none hd hz, lookup_mergeFields hb.nodup, lookup_mergeFields hbc,
        lookup_mergeFields_of_none hd hz]
    | some z =>
      rw [lookup_mergeFields_of_some hd hz,
        lookup_mergeFields_of_some hbc (lookup_mergeFields_of_some hd hz)]
      cases hy : b.lookup key with
      | none => rw [lookup_mergeFields_of_none hb.nodup hy, mergeValue_none]
      | some y =>
        rw [lookup_mergeFields_of_some hb.nodup hy,
          h key y z hy hz _ fun o ho => ha.lookup ho]

/-- Of three values of a key the last two may be merged first, if they are of a kind all the way
down. The induction is on the last one; what the first is does not matter. -/
theorem mergeValue_assoc {key : String} {y z : Value} (hz : z.WellKeyed) (hy : y.WellKeyed)
    {old : Option Value} (hold : ∀ o, old = some o → o.WellKeyed)
    (hkind : OfKind key y z) (halike : ∀ b c, y = mapping b → z = mapping c → Alike b c) :
    mergeValue key (some (mergeValue key old y)) z =
      mergeValue key old (mergeValue key (some y) z) := by
  induction hz generalizing key y old with
  | @list zs within =>
    by_cases hkey : isAdditive key = true
    · obtain ⟨ys, rfl⟩ := exists_of_isList (hkind.2 hkey)
      rw [mergeValue_list hkey]
      by_cases hxs : ∃ xs, old = some (list xs)
      · obtain ⟨xs, rfl⟩ := hxs
        rw [mergeValue_list hkey, mergeValue_list hkey, mergeValue_list hkey,
          extend_extend hy.items within]
      · rw [not_exists] at hxs
        rw [mergeValue_list_of_not hxs, mergeValue_list_of_not hxs, mergeValue_list hkey]
    · have hzs : Replaces key (list zs) := ⟨rfl, fun h => absurd h hkey⟩
      rw [hzs.mergeValue, hzs.mergeValue, hzs.mergeValue]
  | @mapping zs nodup within ih =>
    obtain ⟨ys, rfl⟩ := exists_of_isMapping hkind.1
    rw [mergeValue_mapping]
    by_cases hxs : ∃ xs, old = some (mapping xs)
    · obtain ⟨xs, rfl⟩ := hxs
      have hbelow := halike ys zs rfl rfl
      rw [mergeValue_mapping, mergeValue_mapping, mergeValue_mapping]
      refine congrArg mapping (mergeFields_assoc_of (hold _ rfl) hy nodup ?_)
      intro k v w hv hw o ho
      refine ih (k, w) (Table.mem_of_get?_eq_some (t := ⟨zs⟩) hw) (hy.lookup hv) ho
        (hbelow.here hv hw) ?_
      rintro inner other rfl rfl
      exact hbelow.below hv hw
    · rw [not_exists] at hxs
      rw [mergeValue_mapping_of_not hxs, mergeValue_mapping_of_not hxs, mergeValue_mapping]
  | _ =>
    have hz {v : Value} (h : v.isMapping = false) (hl : v.isList = false) : Replaces key v :=
      ⟨h, fun _ => hl⟩
    rw [(hz rfl rfl).mergeValue, (hz rfl rfl).mergeValue, (hz rfl rfl).mergeValue]

theorem mergeFields_assoc {a b c : List (String × Value)} (ha : (mapping a).WellKeyed)
    (hb : (mapping b).WellKeyed) (hc : (mapping c).WellKeyed) (h : Alike b c) :
    mergeFields (mergeFields a b) c = mergeFields a (mergeFields b c) := by
  refine mergeFields_assoc_of ha hb hc.nodup fun key y z hy hz old hold => ?_
  refine mergeValue_assoc (hc.lookup hz) (hb.lookup hy) hold (h.here hy hz) ?_
  rintro inner other rfl rfl
  exact h.below hy hz

/-! ## A chain of layers -/

/-- What a key holds once an update is laid over it that may hold nothing there. -/
def laidOver (key : String) (old : Option Value) : Option Value → Option Value
  | none => old
  | some v => some (mergeValue key old v)

theorem laidOver_none (key : String) (new : Option Value) : laidOver key none new = new := by
  cases new with
  | none => rfl
  | some v => exact congrArg some (mergeValue_none key v)

theorem at?_singleton (fields : List (String × Value)) (key : String) :
    (mapping fields).at? [key] = fields.lookup key := by
  rw [at?]
  cases fields.lookup key <;> rfl

theorem at?_of_not_mapping {v : Value} (h : v.isMapping = false) (path : List String)
    (key : String) : v.at? (path ++ [key]) = none := by
  cases v with
  | mapping fields => cases h
  | _ => cases path <;> rfl

theorem ofKind_mergeValue (key other : String) (old : Option Value) (v : Value) :
    OfKind other (mergeValue key old v) v := by
  rcases mergeValue_cases key old v with he | ⟨_, _, _, rfl, he⟩ | ⟨_, _, _, _, rfl, he⟩ <;>
    rw [he] <;> exact ⟨rfl, fun _ => rfl⟩

/-- Below the keys of two alike layers, too, merging lays what the one holds over the other. -/
theorem at?_mergeFields {a b : List (String × Value)} (hb : (mapping b).WellKeyed)
    (h : Alike a b) (path : List String) (key : String) :
    (mapping (mergeFields a b)).at? (path ++ [key]) =
      laidOver key ((mapping a).at? (path ++ [key])) ((mapping b).at? (path ++ [key])) := by
  induction path generalizing a b with
  | nil =>
    rw [List.nil_append, at?_singleton, at?_singleton, at?_singleton, lookup_mergeFields hb.nodup]
    rfl
  | cons k path ih =>
    rw [List.cons_append]
    cases hw : b.lookup k with
    | none =>
      rw [at?_cons_of_none hw, at?, at?, lookup_mergeFields_of_none hb.nodup hw]
      rfl
    | some w =>
      rw [at?_cons hw, at?_cons (lookup_mergeFields_of_some hb.nodup hw)]
      cases hv : a.lookup k with
      | none => rw [at?_cons_of_none hv, laidOver_none, mergeValue_none]
      | some v =>
        rw [at?_cons hv]
        have hkind := (h.here hv hw).1
        cases hm : w.isMapping with
        | true =>
          obtain ⟨other, rfl⟩ := exists_of_isMapping hm
          obtain ⟨inner, rfl⟩ := exists_of_isMapping (hkind.trans hm)
          rw [mergeValue_mapping]
          exact ih (hb.lookup hw) (h.below hv hw)
        | false =>
          -- Neither holds anything below the key, so the merge does not.
          have hmerged := (ofKind_mergeValue k k (some v) w).1.trans hm
          rw [at?_of_not_mapping hmerged, at?_of_not_mapping (hkind.trans hm),
            at?_of_not_mapping hm]
          rfl

/-- What merged layers hold at a path is of the kind of what one of them holds there. -/
theorem exists_at?_of_mergeFields {a b : List (String × Value)} (hb : (mapping b).WellKeyed)
    (h : Alike a b) {path : List String} {key : String} {v : Value}
    (hv : (mapping (mergeFields a b)).at? (path ++ [key]) = some v) :
    ∃ w, ((mapping a).at? (path ++ [key]) = some w ∨ (mapping b).at? (path ++ [key]) = some w) ∧
      OfKind key v w := by
  rw [at?_mergeFields hb h] at hv
  cases hw : (mapping b).at? (path ++ [key]) with
  | none =>
    rw [hw] at hv
    exact ⟨v, .inl hv, rfl, fun _ => rfl⟩
  | some w =>
    rw [hw] at hv
    cases hv
    exact ⟨w, .inr rfl, ofKind_mergeValue _ _ _ _⟩

namespace Alike

theorem mergeFields {a b c : List (String × Value)} (hb : (mapping b).WellKeyed) (hab : Alike a b)
    (hac : Alike a c) (hbc : Alike b c) : Alike (Value.mergeFields a b) c := by
  intro path key v w hv hw
  obtain ⟨u, hu | hu, hkind⟩ := exists_at?_of_mergeFields hb hab hv
  · exact hkind.trans (hac path key u w hu hw)
  · exact hkind.trans (hbc path key u w hu hw)

end Alike

theorem at?_foldl_mergeFields {base : List (String × Value)}
    {layers : List (List (String × Value))} (hlayers : ∀ l ∈ layers, (mapping l).WellKeyed)
    (h : (base :: layers).Pairwise Alike) (path : List String) (key : String) :
    (mapping (layers.foldl mergeFields base)).at? (path ++ [key]) =
      (layers.map fun l => (mapping l).at? (path ++ [key])).foldl (laidOver key)
        ((mapping base).at? (path ++ [key])) := by
  induction layers generalizing base with
  | nil => rfl
  | cons l layers ih =>
    rw [List.forall_mem_cons] at hlayers
    rw [List.pairwise_cons, List.forall_mem_cons, List.pairwise_cons] at h
    obtain ⟨⟨hbase, hothers⟩, hl, hrest⟩ := h
    have hmerged : (Value.mergeFields base l :: layers).Pairwise Alike := by
      refine List.pairwise_cons.mpr ⟨fun c hc => ?_, hrest⟩
      exact hbase.mergeFields hlayers.1 (hothers c hc) (hl c hc)
    rw [List.foldl_cons, ih hlayers.2 hmerged, at?_mergeFields hlayers.1 hbase]
    rfl

theorem foldl_laidOver_of_none {key : String} {new : List (Option Value)}
    (h : ∀ o ∈ new, o = none) (old : Option Value) : new.foldl (laidOver key) old = old := by
  induction new with
  | nil => rfl
  | cons o new ih =>
    rw [List.forall_mem_cons] at h
    rw [List.foldl_cons, h.1]
    exact ih h.2

/-- The items of a list, if there is one. -/
def itemsOf : Option Value → List Value
  | some (list items) => items
  | _ => []

/-- Lists that accumulate come to one list, which took up their items in order. -/
theorem foldl_laidOver_lists {key : String} (hkey : isAdditive key = true)
    {new : List (Option Value)} (h : ∀ o ∈ new, ∀ v, o = some v → v.isList = true)
    (base : List Value) :
    new.foldl (laidOver key) (some (list base)) =
      some (list (extend base (new.flatMap itemsOf))) := by
  induction new generalizing base with
  | nil => rfl
  | cons o new ih =>
    rw [List.forall_mem_cons] at h
    rw [List.foldl_cons, List.flatMap_cons, extend_append]
    cases o with
    | none => exact ih h.2 base
    | some v =>
      obtain ⟨items, rfl⟩ := exists_of_isList (h.1 v rfl)
      rw [laidOver, mergeValue_list hkey]
      exact ih h.2 _

end DocSite.Value
