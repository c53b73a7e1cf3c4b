import DocSite.Tutorial.Shelf
import Mathlib.Data.List.Nodup
import Mathlib.Data.List.Perm.Basic
import Mathlib.Logic.Relation

/-! The names in a tree of tutorials. On a shelf a tutorial is under one other at most, so from the
tutorials under no other one every name is reached by one way, and stands in the tree once. -/
namespace DocSite
set_option autoImplicit false

/-- The names of tutorials, each before those under it. -/
def Tutorial.namesOf : List Tutorial → List String
  | [] => []
  | ⟨name, _, _, _, children⟩ :: rest => name :: (namesOf children ++ namesOf rest)

/-- Only the names in a tree become known. -/
theorem Registry.addTutorials_known : ∀ {r : Registry} {ts : List Tutorial} {name : String},
    ((r.addTutorials ts).tutorials.get? name).isSome →
      (r.tutorials.get? name).isSome ∨ name ∈ Tutorial.namesOf ts
  | r, [], name, h => by
    rw [addTutorials] at h
    exact .inl h
  | r, ⟨first, title, _, _, children⟩ :: rest, name, h => by
    rw [addTutorials] at h
    rw [Tutorial.namesOf, List.mem_cons, List.mem_append]
    rcases addTutorials_known h with h | h
    · rw [addTutorial, Table.get?_insert] at h
      split at h
      · rename_i he
        exact .inr (.inl (beq_iff_eq.mp he))
      · rcases addTutorials_known h with h | h
        · exact .inl h
        · exact .inr (.inr (.inr h))
    · exact .inr (.inr (.inl h))

namespace Shelf

/-! ## One way to every tutorial -/

def IsUnder (s : Shelf) (parent child : String) : Prop :=
  ∃ e, s.entries.get? parent = some e ∧ child ∈ e.children

/-- No tutorial is under two others or twice under one, and those under one are noted. -/
structure WellNested (s : Shelf) : Prop where
  keys_nodup : s.entries.keys.Nodup
  children_nodup : ∀ name e, s.entries.get? name = some e → e.children.Nodup
  parent_eq : ∀ p q child, s.IsUnder p child → s.IsUnder q child → p = q
  nested : ∀ p child, s.IsUnder p child → child ∈ s.nested

/-- Shelves whose entries have the same children are nested alike. -/
theorem WellNested.insert_same {s : Shelf} (h : s.WellNested) {name : String} {e : ShelfEntry}
    (he : ((s.entries.get? name).map ShelfEntry.children).getD [] = e.children) :
    WellNested { s with entries := s.entries.insert name e } := by
  have hunder : ∀ {p child}, IsUnder { s with entries := s.entries.insert name e } p child →
      s.IsUnder p child := by
    rintro p child ⟨f, hf, hc⟩
    rw [Table.get?_insert] at hf
    split at hf
    · rename_i hp
      rw [beq_iff_eq.mp hp]
      rw [← Option.some.inj hf, ← he] at hc
      cases hn : s.entries.get? name with
      | none =>
        rw [hn] at hc
        cases hc
      | some old =>
        rw [hn] at hc
        exact ⟨old, hn, hc⟩
    · exact ⟨f, hf, hc⟩
  refine ⟨Table.nodup_keys_insert h.keys_nodup name e, ?_, ?_, ?_⟩
  · intro p f hf
    rw [Table.get?_insert] at hf
    split at hf
    · rw [← Option.some.inj hf, ← he]
      cases hn : s.entries.get? name with
      | none => exact List.nodup_nil
      | some old => exact h.children_nodup name old hn
    · exact h.children_nodup p f hf
  · intro p q child hp hq
    exact h.parent_eq p q child (hunder hp) (hunder hq)
  · intro p child hp
    exact h.nested p child (hunder hp)

theorem WellNested.setTitle {s : Shelf} (h : s.WellNested) (name title : String) :
    (s.setTitle name title).WellNested := by
  unfold Shelf.setTitle
  split
  · rename_i e he
    exact h.insert_same (by rw [he]; rfl)
  · exact h

/-- Only a tutorial that is under no other one is put under one. -/
theorem WellNested.nest {s : Shelf} (h : s.WellNested) (parent child : String) :
    (s.nest parent child).WellNested := by
  unfold Shelf.nest
  split
  · exact h
  · rename_i hc
    split
    · rename_i e he
      have hnew : ∀ p, ¬ s.IsUnder p child := by
        intro p hp
        exact hc (by simp [h.nested p child hp])
      have hunder : ∀ {p c}, IsUnder { s with
            entries := s.entries.insert parent { e with children := e.children ++ [child] }
            nested := s.nested ++ [child] } p c → s.IsUnder p c ∨ (p = parent ∧ c = child) := by
        rintro p c ⟨f, hf, hm⟩
        rw [Table.get?_insert] at hf
        split at hf
        · rename_i hp
          obtain rfl := beq_iff_eq.mp hp
          rw [← Option.some.inj hf] at hm
          rcases List.mem_append.mp hm with hm | hm
          · exact .inl ⟨e, he, hm⟩
          · exact .inr ⟨rfl, List.mem_singleton.mp hm⟩
        · exact .inl ⟨f, hf, hm⟩
      refine ⟨Table.nodup_keys_insert h.keys_nodup parent _, ?_, ?_, ?_⟩
      · intro p f hf
        rw [Table.get?_insert] at hf
        split at hf
        · rw [← Option.some.inj hf]
          refine List.nodup_append_comm.mp (List.nodup_cons.mpr ⟨?_, h.children_nodup parent e he⟩)
          exact fun hm => hnew parent ⟨e, he, hm⟩
        · exact h.children_nodup p f hf
      · intro p q c hp hq
        rcases hunder hp with hp' | ⟨rfl, rfl⟩
        · rcases hunder hq with hq' | ⟨rfl, rfl⟩
          · exact h.parent_eq p q c hp' hq'
          · exact absurd hp' (hnew p)
        · rcases hunder hq with hq' | ⟨rfl, -⟩
          · exact absurd hq' (hnew q)
          · rfl
      · intro p c hp
        rcases hunder hp with hp | ⟨-, rfl⟩
        · exact List.mem_append_left _ (h.nested p c hp)
        · exact List.mem_append_right _ (List.mem_singleton.mpr rfl)
    · exact h

section
variable {P : Shelf → Prop}

/-- What putting one known tutorial under another keeps, putting a list of them there keeps. -/
theorem nestAll_keeps
    (hnest : ∀ s parent child, P s → s.entries.has child = true → P (s.nest parent child))
    {parent : String} (vs : List Value) {s : Logged} (h : P s.1) : P (nestAll parent s vs).1 := by
  induction vs generalizing s with
  | nil => exact h
  | cons v vs ih =>
    unfold nestAll
    split
    · rename_i hv
      exact ih (hnest s.1 parent v.display h hv)
    · exact ih h

theorem titled_keeps (htitle : ∀ s name title, P s → P (s.setTitle name title)) {s : Shelf}
    (h : P s) (name : String) (conf : List (String × Value)) : P (s.titled name conf) := by
  unfold titled
  dsimp only
  split
  · exact htitle s name _ h
  · exact h

mutual

/-- What giving a title and putting one known tutorial under another keep, a structure keeps. -/
theorem arrange_keeps (htitle : ∀ s name title, P s → P (s.setTitle name title))
    (hnest : ∀ s parent child, P s → s.entries.has child = true → P (s.nest parent child))
    {s s' : Logged} (h : P s.1) :
    ∀ {fields : List (String × Value)}, arrange s fields = .ok s' → P s'.1
  | [], hs => by
    unfold arrange at hs
    cases hs
    exact h
  | (name, conf) :: rest, hs => by
    unfold arrange at hs
    dsimp only at hs
    split at hs
    · split at hs
      · rename_i fields
        obtain ⟨inner, hi, hs⟩ := Fault.bind_eq_ok_iff.mp hs
        obtain ⟨children, -, hs⟩ := Fault.bind_eq_ok_iff.mp hs
        have hin : P inner.1 :=
          arrangeInner_keeps htitle hnest (titled_keeps htitle h name fields) hi
        exact arrange_keeps htitle hnest (nestAll_keeps hnest children hin) hs
      · exact arrange_keeps htitle hnest h hs
    · refine arrange_keeps htitle hnest ?_ hs
      exact h

theorem arrangeInner_keeps (htitle : ∀ s name title, P s → P (s.setTitle name title))
    (hnest : ∀ s parent child, P s → s.entries.has child = true → P (s.nest parent child))
    {s s' : Logged} (h : P s.1) :
    ∀ {fields : List (String × Value)}, arrangeInner s fields = .ok s' → P s'.1
  | [], hs => by
    unfold arrangeInner at hs
    cases hs
    exact h
  | (key, v) :: rest, hs => by
    unfold arrangeInner at hs
    split at hs
    · split at hs
      · exact arrange_keeps htitle hnest h hs
      · cases hs
        exact h
    · exact arrangeInner_keeps htitle hnest h hs

end

end

/-- Applying a structure keeps every tutorial under one other at most. -/
theorem WellNested.arrange {s s' : Logged} (h : s.1.WellNested) {fields : List (String × Value)}
    (hs : Shelf.arrange s fields = .ok s') : s'.1.WellNested :=
  arrange_keeps (fun _ name title h => h.setTitle name title)
    (fun _ parent child h _ => h.nest parent child) h hs

def IsFlat (s : Shelf) : Prop := ∀ name e, s.entries.get? name = some e → e.children = []

theorem addFile_flat {file : String × Node} {s s' : Shelf} (h : s.WellNested) (hf : s.IsFlat)
    (hs : s.addFile file = .ok s') : s'.WellNested ∧ s'.IsFlat := by
  obtain ⟨name, _ | bytes⟩ := file
  · cases hs
    exact ⟨h, hf⟩
  · unfold addFile at hs
    dsimp only at hs
    split at hs
    · cases hs
      exact ⟨h, hf⟩
    · split at hs
      · cases hs
      · cases hs
        constructor
        · refine h.insert_same ?_
          cases hn : s.entries.get? (Path.ofString name).stem with
          | none => rfl
          | some old => exact hf _ old hn
        · intro other e he
          rw [Table.get?_insert] at he
          split at he
          · rw [← Option.some.inj he]
          · exact hf other e he

theorem addFiles_flat {files : List (String × Node)} {s s' : Shelf} (h : s.WellNested)
    (hf : s.IsFlat) (hs : s.addFiles files = .ok s') : s'.WellNested ∧ s'.IsFlat := by
  unfold addFiles at hs
  induction files generalizing s with
  | nil =>
    cases hs
    exact ⟨h, hf⟩
  | cons file rest ih =>
    rw [List.foldlM_cons] at hs
    obtain ⟨next, hn, hs⟩ := Fault.bind_eq_ok_iff.mp hs
    obtain ⟨h, hf⟩ := addFile_flat h hf hn
    exact ih h hf hs

theorem wellNested_empty : ({} : Shelf).WellNested where
  keys_nodup := List.nodup_nil
  children_nodup _ _ h := by cases h
  parent_eq _ _ _ h := by
    obtain ⟨_, he, _⟩ := h
    cases he
  nested _ _ h := by
    obtain ⟨_, he, _⟩ := h
    cases he

theorem wellNested_ofDirectory {t : FileTree} {yaml : Yaml.Reader} {directory : Path} {s : Logged}
    (h : ofDirectory t yaml directory = .ok s) : s.1.WellNested := by
  unfold ofDirectory at h
  obtain ⟨flat, ha, h⟩ := Fault.bind_eq_ok_iff.mp h
  obtain ⟨read, hr, h⟩ := Fault.bind_eq_ok_iff.mp h
  refine WellNested.arrange ?_ h
  exact (addFiles_flat wellNested_empty (fun _ _ he => by cases he) ha).1

/-! ## Every name once -/

/-- The names of those under a tutorial. -/
def childrenOf (s : Shelf) (name : String) : List String :=
  ((s.entries.get? name).map ShelfEntry.children).getD []

theorem isUnder_iff {s : Shelf} {parent child : String} :
    s.IsUnder parent child ↔ child ∈ s.childrenOf parent := by
  unfold IsUnder childrenOf
  cases s.entries.get? parent <;> simp

/-- The names in the trees under names, down to a number of levels. -/
def namesWithin (s : Shelf) : ℕ → List String → List String
  | 0, names => names
  | levels + 1, names => names.flatMap fun name => name :: s.namesWithin levels (s.childrenOf name)

theorem namesOf_treeWithin (s : Shelf) (levels : ℕ) (names : List String) :
    Tutorial.namesOf (names.map (s.treeWithin levels)) = s.namesWithin levels names := by
  induction levels generalizing names with
  | zero =>
    induction names with
    | nil => rw [List.map_nil, Tutorial.namesOf, namesWithin]
    | cons name rest ih =>
      rw [namesWithin] at ih
      rw [List.map_cons, treeWithin, Tutorial.namesOf, Tutorial.namesOf, ih, namesWithin]
      rfl
  | succ levels ihl =>
    induction names with
    | nil =>
      rw [List.map_nil, Tutorial.namesOf, namesWithin]
      rfl
    | cons name rest ih =>
      rw [namesWithin] at ih
      rw [List.map_cons, namesWithin, List.flatMap_cons, ← ih]
      have hempty : s.namesWithin levels [] = [] := by rw [← ihl, List.map_nil, Tutorial.namesOf]
      unfold childrenOf
      cases he : s.entries.get? name with
      | none => simp [treeWithin, he, Tutorial.namesOf, hempty]
      | some e => simp [treeWithin, he, Tutorial.namesOf, ihl]

/-- The names themselves come first, up to order, then those of the trees under them. -/
theorem namesWithin_perm (s : Shelf) (levels : ℕ) (names : List String) :
    (s.namesWithin (levels + 1) names).Perm
      (names ++ s.namesWithin levels (names.flatMap s.childrenOf)) := by
  have hflat : s.namesWithin levels (names.flatMap s.childrenOf) =
      names.flatMap fun name => s.namesWithin levels (s.childrenOf name) := by
    cases levels with
    | zero => rfl
    | succ levels => exact List.flatMap_assoc
  rw [hflat, namesWithin]
  have hp := List.map_append_flatMap_perm names id
    fun name => s.namesWithin levels (s.childrenOf name)
  rw [List.map_id] at hp
  exact hp.symm

/-- One tutorial is somewhere under another one. -/
abbrev IsBelow (s : Shelf) : String → String → Prop := Relation.TransGen s.IsUnder

theorem mem_namesWithin {s : Shelf} {levels : ℕ} {names : List String} {x : String}
    (h : x ∈ s.namesWithin levels names) : ∃ y ∈ names, y = x ∨ s.IsBelow y x := by
  induction levels generalizing names with
  | zero => exact ⟨x, h, .inl rfl⟩
  | succ levels ih =>
    rcases List.mem_append.mp ((s.namesWithin_perm levels names).mem_iff.mp h) with hx | hx
    · exact ⟨x, hx, .inl rfl⟩
    · obtain ⟨y, hy, hyx⟩ := ih hx
      obtain ⟨p, hp, hpy⟩ := List.mem_flatMap.mp hy
      have hstep : s.IsUnder p y := isUnder_iff.mpr hpy
      refine ⟨p, hp, .inr ?_⟩
      rcases hyx with rfl | hyx
      · exact .single hstep
      · exact .head hstep hyx

/-- Trees under different names, none of which is below another or itself, share no name. -/
theorem WellNested.nodup_namesWithin {s : Shelf} (h : s.WellNested) (levels : ℕ)
    {names : List String} (hd : names.Nodup) (hb : ∀ x ∈ names, ∀ y ∈ names, ¬ s.IsBelow x y) :
    (s.namesWithin levels names).Nodup := by
  induction levels generalizing names with
  | zero => exact hd
  | succ levels ih =>
    rw [(s.namesWithin_perm levels names).nodup_iff, List.nodup_append]
    have hchild : ∀ {p}, (s.childrenOf p).Nodup := by
      intro p
      unfold childrenOf
      cases he : s.entries.get? p with
      | none => exact List.nodup_nil
      | some e => exact h.children_nodup p e he
    -- Whoever is below a child of one of the names is below the name.
    have hup : ∀ {x y}, x ∈ names.flatMap s.childrenOf → (x = y ∨ s.IsBelow x y) →
        ∃ p ∈ names, s.IsBelow p y := by
      intro x y hx hxy
      obtain ⟨p, hp, hpx⟩ := List.mem_flatMap.mp hx
      refine ⟨p, hp, ?_⟩
      rcases hxy with rfl | hxy
      · exact .single (isUnder_iff.mpr hpx)
      · exact .head (isUnder_iff.mpr hpx) hxy
    refine ⟨hd, ih ?_ ?_, ?_⟩
    · rw [List.nodup_flatMap]
      refine ⟨fun _ _ => hchild, hd.imp_of_mem fun {p q} _ _ hpq => ?_⟩
      intro c hp hq
      exact hpq (h.parent_eq p q c (isUnder_iff.mpr hp) (isUnder_iff.mpr hq))
    · intro x hx y hy hxy
      -- The last step to `y` starts at its only parent, which is one of the names.
      obtain ⟨q, hq, hqy⟩ := List.mem_flatMap.mp hy
      obtain ⟨z, hxz, hzy⟩ := Relation.TransGen.tail'_iff.mp hxy
      obtain rfl := h.parent_eq z q y hzy (isUnder_iff.mpr hqy)
      have hxz' := (Relation.reflTransGen_iff_eq_or_transGen.mp hxz).imp Eq.symm id
      obtain ⟨p, hp, hpz⟩ := hup hx hxz'
      exact hb p hp z hq hpz
    · intro x hx y hy hxy
      subst hxy
      obtain ⟨c, hc, hcx⟩ := mem_namesWithin hy
      obtain ⟨p, hp, hpx⟩ := hup hc hcx
      exact hb p hp x hx hpx

/-- In the tree of a shelf every name stands once. -/
theorem WellNested.nodup_tree {s : Shelf} (h : s.WellNested) :
    (Tutorial.namesOf s.tree.children).Nodup := by
  rw [tree, namesOf_treeWithin]
  refine h.nodup_namesWithin _ (h.keys_nodup.filter _) fun x _ y hy hxy => ?_
  obtain ⟨z, _, hzy⟩ := Relation.TransGen.tail'_iff.mp hxy
  have hnested := h.nested z y hzy
  simp [top, hnested] at hy

end Shelf

/-- In the tree of a directory every name stands once. -/
theorem Tutorial.nodup_load {t : FileTree} {directory : Option Path} {yaml : Yaml.Reader}
    {tree : Tutorial} {log : List LogRecord}
    (h : Tutorial.load t directory yaml = .ok (tree, log)) :
    (Tutorial.namesOf tree.children).Nodup := by
  have hroot : (Tutorial.namesOf Tutorial.root.children).Nodup := by
    rw [Tutorial.root, Tutorial.namesOf]
    exact List.nodup_nil
  unfold Tutorial.load at h
  split at h
  · cases h
    exact hroot
  · split at h
    · cases h
    · cases h
      exact hroot
    · obtain ⟨s, hs, h⟩ := Fault.bind_eq_ok_iff.mp h
      cases h
      exact (Shelf.wellNested_ofDirectory hs).nodup_tree

end DocSite
