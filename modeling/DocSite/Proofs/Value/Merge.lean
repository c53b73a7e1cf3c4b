import DocSite.Proofs.Value.Same

/-! A mapping laid over another one, read off key by key: the keys of the base, then the new ones of
the update, each with what the two hold there. An empty mapping, a mapping laid over itself or over
what it was laid over already changes nothing. -/
namespace DocSite.Value
set_option autoImplicit false

variable {base update fields : List (String × Value)}

/-! ## Keys -/

/-- Keys with those of another list behind them that are new. -/
def joined (keys more : List String) : List String := keys ++ more.filter (· ∉ keys)

theorem mem_joined {keys more : List String} {key : String} :
    key ∈ joined keys more ↔ key ∈ keys ∨ key ∈ more := by
  rw [joined, List.mem_append, List.mem_filter, decide_eq_true_eq]
  tauto

theorem nodup_joined {keys more : List String} (h : keys.Nodup) (hmore : more.Nodup) :
    (joined keys more).Nodup := by
  refine List.nodup_append.mpr ⟨h, hmore.filter _, fun key hkey other hother he => ?_⟩
  rw [List.mem_filter, decide_eq_true_eq] at hother
  exact hother.2 (he ▸ hkey)

theorem joined_of_subset {keys more : List String} (h : more ⊆ keys) :
    joined keys more = keys := by
  rw [joined, List.filter_eq_nil_iff.mpr, List.append_nil]
  intro key hkey
  simpa using h hkey

theorem joined_assoc (keys more others : List String) :
    joined (joined keys more) others = joined keys (joined more others) := by
  have hfilter : (others.filter (· ∉ more)).filter (· ∉ keys) =
      others.filter (· ∉ joined keys more) := by
    rw [List.filter_filter]
    refine List.filter_congr fun key _ => ?_
    rw [← Bool.decide_and, decide_eq_decide, mem_joined]
    tauto
  rw [joined, ← hfilter, joined, joined, joined, List.filter_append, List.append_assoc]

/-! ## One key -/

theorem mergeValue_none (key : String) (v : Value) : mergeValue key none v = v := by
  rw [mergeValue.eq_def]
  cases v <;> rfl

/-- An update replaces what a key holds, unless two mappings meet, or two lists that accumulate. -/
theorem mergeValue_cases (key : String) (old : Option Value) (v : Value) :
    mergeValue key old v = v ∨
    (∃ base update, old = some (mapping base) ∧ v = mapping update ∧
      mergeValue key old v = mapping (mergeFields base update)) ∨
    ∃ base update, isAdditive key = true ∧ old = some (list base) ∧ v = list update ∧
      mergeValue key old v = list (extend base update) := by
  rw [mergeValue.eq_def]
  cases v with
  | mapping update =>
    dsimp only
    split
    · exact .inr (.inl ⟨_, _, rfl, rfl, rfl⟩)
    · exact .inl rfl
  | list update =>
    dsimp only
    split
    · split
      · rename_i hkey
        exact .inr (.inr ⟨_, _, hkey, rfl, rfl, rfl⟩)
      · exact .inl rfl
    · exact .inl rfl
  | _ => exact .inl rfl

theorem mergeValue_mapping (key : String) (base update : List (String × Value)) :
    mergeValue key (some (mapping base)) (mapping update) = mapping (mergeFields base update) := by
  rw [mergeValue]

theorem mergeValue_list {key : String} (h : isAdditive key = true) (base update : List Value) :
    mergeValue key (some (list base)) (list update) = list (extend base update) := by
  rw [mergeValue]
  exact if_pos h

theorem mergeValue_mapping_of_not {old : Option Value} (h : ∀ base, old ≠ some (mapping base))
    (key : String) (update : List (String × Value)) :
    mergeValue key old (mapping update) = mapping update := by
  rcases mergeValue_cases key old (mapping update) with he | ⟨base, _, hbase, _⟩ |
      ⟨_, _, _, _, hv, _⟩
  · exact he
  · exact absurd hbase (h base)
  · cases hv

theorem mergeValue_list_of_not {old : Option Value} (h : ∀ base, old ≠ some (list base))
    (key : String) (update : List Value) : mergeValue key old (list update) = list update := by
  rcases mergeValue_cases key old (list update) with he | ⟨_, _, _, hv, _⟩ |
      ⟨base, _, _, hbase, _⟩
  · exact he
  · cases hv
  · exact absurd hbase (h base)

def isMapping : Value → Bool
  | mapping _ => true
  | _ => false

def isList : Value → Bool
  | list _ => true
  | _ => false

theorem exists_of_isMapping {v : Value} (h : v.isMapping = true) : ∃ inner, v = mapping inner := by
  cases v with
  | mapping inner => exact ⟨inner, rfl⟩
  | _ => cases h

theorem exists_of_isList {v : Value} (h : v.isList = true) : ∃ items, v = list items := by
  cases v with
  | list items => exact ⟨items, rfl⟩
  | _ => cases h

/-- A value that is laid over another one replaces it. -/
def Replaces (key : String) (v : Value) : Prop :=
  v.isMapping = false ∧ (isAdditive key = true → v.isList = false)

theorem Replaces.mergeValue {key : String} {v : Value} (h : Replaces key v)
    (old : Option Value) : mergeValue key old v = v := by
  rcases mergeValue_cases key old v with he | ⟨_, _, _, rfl, _⟩ | ⟨_, _, hkey, _, rfl, _⟩
  · exact he
  · exact absurd h.1 (by simp [isMapping])
  · exact absurd (h.2 hkey) (by simp [isList])

/-! ## All keys -/

theorem lookup_mergeFields (hd : (update.map (·.1)).Nodup) (base : List (String × Value))
    (key : String) :
    (mergeFields base update).lookup key =
      match update.lookup key with
      | none => base.lookup key
      | some v => some (mergeValue key (base.lookup key) v) := by
  induction update generalizing base with
  | nil => rw [mergeFields, List.lookup_nil]
  | cons p rest ih =>
    obtain ⟨k, v⟩ := p
    rw [List.map_cons, List.nodup_cons] at hd
    rw [mergeFields, ih hd.2, Table.lookup_put, List.lookup_cons]
    cases hk : key == k with
    | false => rfl
    | true =>
      -- The key of the head stands nowhere behind it.
      have hrest : rest.lookup k = none := (Table.get?_eq_none_iff (t := ⟨rest⟩)).mpr hd.1
      have he : key = k := beq_iff_eq.mp hk
      rw [he, hrest]
      rfl

theorem lookup_mergeFields_of_none (hd : (update.map (·.1)).Nodup)
    {key : String} (h : update.lookup key = none) :
    (mergeFields base update).lookup key = base.lookup key := by
  rw [lookup_mergeFields hd, h]

theorem lookup_mergeFields_of_some (hd : (update.map (·.1)).Nodup)
    {key : String} {v : Value} (h : update.lookup key = some v) :
    (mergeFields base update).lookup key = some (mergeValue key (base.lookup key) v) := by
  rw [lookup_mergeFields hd, h]

theorem keys_mergeFields (hd : (update.map (·.1)).Nodup) (base : List (String × Value)) :
    (mergeFields base update).map (·.1) = joined (base.map (·.1)) (update.map (·.1)) := by
  induction update generalizing base with
  | nil => rw [mergeFields, List.map_nil, joined, List.filter_nil, List.append_nil]
  | cons p rest ih =>
    obtain ⟨k, v⟩ := p
    rw [List.map_cons, List.nodup_cons] at hd
    rw [mergeFields, ih hd.2, Table.keys_put, List.map_cons]
    split
    · rename_i hk
      rw [joined, joined, List.filter_cons_of_neg (by simpa using hk)]
    · rename_i hk
      rw [joined, joined, List.filter_cons_of_pos (by simpa using hk), List.append_assoc,
        List.singleton_append]
      congr 2
      refine List.filter_congr fun other hother => ?_
      have hne : other ≠ k := fun he => hd.1 (he ▸ hother)
      rw [decide_eq_decide, List.mem_append, List.mem_singleton, or_iff_left hne]

theorem nodup_mergeFields (hb : (base.map (·.1)).Nodup)
    (hu : (update.map (·.1)).Nodup) : ((mergeFields base update).map (·.1)).Nodup := by
  rw [keys_mergeFields hu]
  exact nodup_joined hb hu

theorem wellKeyed_mergeValue {v : Value} (h : v.WellKeyed) {old : Option Value}
    (hold : ∀ o, old = some o → o.WellKeyed) (key : String) :
    (mergeValue key old v).WellKeyed := by
  induction h generalizing old key with
  | @list update within =>
    rcases mergeValue_cases key old (list update) with he | ⟨_, _, _, hv, _⟩ |
        ⟨base, more, _, hbase, hmore, he⟩
    · rw [he]
      exact .list within
    · cases hv
    · cases hmore
      rw [he]
      refine .list fun w hw => ?_
      rcases mem_extend hw with hw | hw
      · exact (hold _ hbase).items w hw
      · exact within w hw
  | @mapping update nodup within ih =>
    rcases mergeValue_cases key old (mapping update) with he | ⟨base, more, hbase, hmore, he⟩ |
        ⟨_, _, _, _, hv, _⟩
    · rw [he]
      exact .mapping nodup within
    · cases hmore
      rw [he]
      have hb := hold _ hbase
      refine .of_lookup (nodup_mergeFields hb.nodup nodup) fun k w hw => ?_
      cases hk : update.lookup k with
      | none =>
        rw [lookup_mergeFields_of_none nodup hk] at hw
        exact hb.lookup hw
      | some u =>
        rw [lookup_mergeFields_of_some nodup hk] at hw
        cases hw
        exact ih _ (Table.mem_of_get?_eq_some (t := ⟨update⟩) hk) (fun o ho => hb.lookup ho) k
    · cases hv
  | _ =>
    rw [Replaces.mergeValue ⟨rfl, fun _ => rfl⟩ old]
    constructor

theorem wellKeyed_mergeFields (hb : (mapping base).WellKeyed)
    (hu : (mapping update).WellKeyed) : (mapping (mergeFields base update)).WellKeyed := by
  rw [← mergeValue_mapping ""]
  exact wellKeyed_mergeValue hu (fun o ho => Option.some.inj ho ▸ hb) ""

/-! ## Nothing, and the same once more -/

theorem mergeFields_nil_left (hd : (update.map (·.1)).Nodup) :
    mergeFields [] update = update := by
  refine Table.eq_of_keys_of_lookup (nodup_mergeFields List.nodup_nil hd) ?_ fun key => ?_
  · rw [keys_mergeFields hd, joined, List.map_nil, List.nil_append]
    exact List.filter_eq_self.mpr fun key _ => by simp
  · rw [lookup_mergeFields hd, List.lookup_nil]
    cases update.lookup key with
    | none => rfl
    | some v => exact congrArg some (mergeValue_none key v)

/-- If laying each value of an update once more changes nothing, neither does the update. -/
theorem mergeFields_again_of (hb : (mapping base).WellKeyed)
    (hd : (update.map (·.1)).Nodup)
    (h : ∀ p ∈ update, ∀ key old, (∀ o, old = some o → o.WellKeyed) →
      mergeValue key (some (mergeValue key old p.2)) p.2 = mergeValue key old p.2) :
    mergeFields (mergeFields base update) update = mergeFields base update := by
  have hkeys := nodup_mergeFields hb.nodup hd
  refine Table.eq_of_keys_of_lookup (nodup_mergeFields hkeys hd) ?_ fun key => ?_
  · rw [keys_mergeFields hd, keys_mergeFields hd]
    exact joined_of_subset fun key hkey => mem_joined.mpr (.inr hkey)
  · cases hk : update.lookup key with
    | none => rw [lookup_mergeFields_of_none hd hk]
    | some v =>
      have hv : (key, v) ∈ update := Table.mem_of_get?_eq_some (t := ⟨update⟩) hk
      rw [lookup_mergeFields_of_some hd hk, lookup_mergeFields_of_some hd hk,
        h _ hv key _ fun o ho => hb.lookup ho]

/-- A value laid once more over what it was laid over changes nothing. -/
theorem mergeValue_again {v : Value} (h : v.WellKeyed) {old : Option Value}
    (hold : ∀ o, old = some o → o.WellKeyed) (key : String) :
    mergeValue key (some (mergeValue key old v)) v = mergeValue key old v := by
  induction h generalizing key old with
  | @list update within =>
    rcases mergeValue_cases key old (list update) with he | ⟨_, _, _, hv, _⟩ |
        ⟨base, more, hkey, _, hmore, he⟩
    · rw [he]
      by_cases hkey : isAdditive key = true
      · rw [mergeValue_list hkey, extend_self within]
      · exact Replaces.mergeValue ⟨rfl, fun h => absurd h hkey⟩ _
    · cases hv
    · cases hmore
      rw [he, mergeValue_list hkey, extend_extend_self within]
  | @mapping update nodup within ih =>
    have again {base : List (String × Value)} (hb : (mapping base).WellKeyed) :
        mergeFields (mergeFields base update) update = mergeFields base update :=
      mergeFields_again_of hb nodup fun p hp key _ hold => ih p hp hold key
    rcases mergeValue_cases key old (mapping update) with he | ⟨base, more, hbase, hmore, he⟩ |
        ⟨_, _, _, _, hv, _⟩
    · have hself := again .empty
      rw [mergeFields_nil_left nodup] at hself
      rw [he, mergeValue_mapping, hself]
    · cases hmore
      rw [he, mergeValue_mapping, again (hold _ hbase)]
    · cases hv
  | _ =>
    rw [Replaces.mergeValue ⟨rfl, fun _ => rfl⟩, Replaces.mergeValue ⟨rfl, fun _ => rfl⟩]

theorem mergeFields_again (hb : (mapping base).WellKeyed)
    (hu : (mapping update).WellKeyed) :
    mergeFields (mergeFields base update) update = mergeFields base update :=
  mergeFields_again_of hb hu.nodup fun _ hp key _ hold =>
    mergeValue_again (hu.lookup (Table.get?_eq_some_of_mem (t := ⟨update⟩) hu.nodup hp)) hold key

theorem mergeFields_self (h : (mapping fields).WellKeyed) :
    mergeFields fields fields = fields := by
  have hagain := mergeFields_again .empty h
  rwa [mergeFields_nil_left h.nodup] at hagain

end DocSite.Value
