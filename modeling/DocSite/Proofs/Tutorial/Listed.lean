import DocSite.Proofs.Tutorial.Walk

/-! Where a structure puts tutorials. Its entries list names under names, and what the children of
an entry list comes before the children themselves. A tutorial goes under the first other one that
lists it, whatever lists it afterwards. -/
namespace DocSite
set_option autoImplicit false

namespace Shelf

/-! ## Listings -/

/-- The names that an entry lists. -/
def listedNames (fields : List (String × Value)) : List String :=
  ((Value.field fields "children").items?.getD []).map Value.display

mutual

/-- The pairs of a name and a name listed under it, in the order in which a structure is applied.
Entries of names that are not known are passed over with all that is in them. -/
def listings (known : String → Bool) : List (String × Value) → List (String × String)
  | [] => []
  | (name, conf) :: rest =>
    if known name then
      match conf with
      | .mapping fields =>
        listingsWithin known fields ++ (listedNames fields).map (name, ·) ++ listings known rest
      | _ => listings known rest
    else listings known rest

/-- The pairs of the structure that an entry's children form when they are a mapping. -/
def listingsWithin (known : String → Bool) : List (String × Value) → List (String × String)
  | [] => []
  | (key, v) :: rest =>
    if key == "children" then
      match v with
      | .mapping inner => listings known inner
      | _ => []
    else listingsWithin known rest

end

theorem listings_of_unknown {known : String → Bool} {name : String} (conf : Value)
    (rest : List (String × Value)) (h : ¬known name = true) :
    listings known ((name, conf) :: rest) = listings known rest := by
  cases conf <;> simp [listings, h]

theorem listings_of_other {known : String → Bool} {name : String} {conf : Value}
    {rest : List (String × Value)} (h : ∀ fields, conf ≠ .mapping fields) :
    listings known ((name, conf) :: rest) = listings known rest := by
  cases conf with
  | mapping fields => exact absurd rfl (h fields)
  | _ => simp [listings]

theorem listingsWithin_of_ne {known : String → Bool} {key : String} (v : Value)
    (rest : List (String × Value)) (h : ¬(key == "children") = true) :
    listingsWithin known ((key, v) :: rest) = listingsWithin known rest := by
  cases v <;> simp [listingsWithin, h]

theorem listingsWithin_of_other {known : String → Bool} {v : Value}
    {rest : List (String × Value)} (h : ∀ fields, v ≠ .mapping fields) :
    listingsWithin known (("children", v) :: rest) = [] := by
  cases v with
  | mapping fields => exact absurd rfl (h fields)
  | _ => simp [listingsWithin]

/-- The first other name that lists a name. -/
def firstOver (pairs : List (String × String)) (child : String) : Option String :=
  (pairs.find? fun p => p.2 == child && p.1 != child).map Prod.fst

theorem firstOver_append (front back : List (String × String)) (child : String) :
    firstOver (front ++ back) child = (firstOver front child).or (firstOver back child) := by
  rw [firstOver, List.find?_append, Option.map_or]
  rfl

theorem firstOver_singleton (parent child other : String) :
    firstOver [(parent, child)] other =
      if child = other ∧ parent ≠ other then some parent else none := by
  rw [firstOver, List.find?_singleton]
  by_cases h : child = other ∧ parent ≠ other <;> simp [h]

/-! ## One listing after another -/

/-- On a shelf the known tutorials are where the first listings put them. -/
structure Follows (known : String → Bool) (s : Shelf) (pairs : List (String × String)) : Prop where
  has_eq : ∀ name, s.entries.has name = known name
  isUnder_iff : ∀ parent child, s.IsUnder parent child ↔
    known child = true ∧ firstOver pairs child = some parent
  nested_iff : ∀ child, child ∈ s.nested ↔
    known child = true ∧ (firstOver pairs child).isSome = true

section
variable {known : String → Bool} {s : Shelf} {pairs : List (String × String)}

theorem IsFlat.follows (h : s.IsFlat) (hknown : ∀ name, s.entries.has name = known name)
    (hnested : s.nested = []) : Follows known s [] where
  has_eq := hknown
  isUnder_iff parent child := by
    constructor
    · rintro ⟨e, he, hchild⟩
      rw [h parent e he] at hchild
      cases hchild
    · rintro ⟨-, hfirst⟩
      cases hfirst
  nested_iff child := by
    rw [hnested]
    simp [firstOver]

/-- A listing that changes no first one. -/
theorem Follows.skip (h : Follows known s pairs) {parent child : String}
    (hskip : known child = true → child = parent ∨ (firstOver pairs child).isSome = true) :
    Follows known s (pairs ++ [(parent, child)]) := by
  have hsame : ∀ other, known other = true →
      firstOver (pairs ++ [(parent, child)]) other = firstOver pairs other := by
    intro other hother
    rw [firstOver_append, firstOver_singleton]
    by_cases hc : child = other ∧ parent ≠ other
    · obtain ⟨rfl, hne⟩ := hc
      have hsome := (hskip hother).resolve_left (Ne.symm hne)
      exact Option.or_eq_left_of_isSome hsome
    · rw [if_neg hc, Option.or_none]
  refine ⟨h.has_eq, fun p c => ?_, fun c => ?_⟩
  · rw [h.isUnder_iff]
    exact and_congr_right fun hc => by rw [hsame c hc]
  · rw [h.nested_iff]
    exact and_congr_right fun hc => by rw [hsame c hc]

theorem isUnder_insert {parent child : String} {e : ShelfEntry} {nested : List String}
    (he : s.entries.get? parent = some e) {p c : String} :
    IsUnder { entries := s.entries.insert parent { e with children := e.children ++ [child] }
              nested := nested } p c ↔ s.IsUnder p c ∨ p = parent ∧ c = child := by
  unfold IsUnder
  rw [Table.get?_insert]
  by_cases hp : p = parent
  · subst hp
    simp [he]
  · simp [hp]

/-- Putting a known tutorial under another follows one more listing. -/
theorem Follows.nest (h : Follows known s pairs) {parent child : String}
    (hparent : known parent = true) (hchild : known child = true) :
    Follows known (s.nest parent child) (pairs ++ [(parent, child)]) := by
  unfold Shelf.nest
  split
  · rename_i hskip
    refine h.skip fun _ => ?_
    rw [Bool.or_eq_true, List.contains_iff_mem, h.nested_iff, beq_iff_eq] at hskip
    exact hskip.symm.imp id fun hnested => hnested.2
  · rename_i hnew
    rw [Bool.or_eq_true, List.contains_iff_mem, h.nested_iff, beq_iff_eq, not_or] at hnew
    obtain ⟨hfree, hne⟩ := hnew
    have hnone : firstOver pairs child = none := by
      by_contra hsome
      exact hfree ⟨hchild, Option.isSome_iff_ne_none.mpr hsome⟩
    have hafter : ∀ other, firstOver (pairs ++ [(parent, child)]) other =
        if child = other then some parent else firstOver pairs other := by
      intro other
      rw [firstOver_append, firstOver_singleton]
      by_cases hother : child = other
      · subst hother
        rw [hnone, if_pos ⟨rfl, Ne.symm hne⟩, if_pos rfl]
        rfl
      · rw [if_neg fun hc => hother hc.1, if_neg hother, Option.or_none]
    split
    · rename_i e he
      refine ⟨fun name => ?_, fun p c => ?_, fun c => ?_⟩
      · rw [has_insert, h.has_eq]
        by_cases hname : name = parent
        · rw [hname, hparent, Bool.or_true]
        · rw [beq_false_of_ne hname, Bool.false_or]
      · rw [isUnder_insert he, h.isUnder_iff, hafter]
        by_cases hc : child = c
        · subst hc
          simp [hnone, hchild, eq_comm]
        · simp [hc, Ne.symm hc]
      · rw [List.mem_append, List.mem_singleton, h.nested_iff, hafter]
        by_cases hc : child = c
        · subst hc
          simp [hchild]
        · simp [hc, Ne.symm hc]
    · rename_i he
      have hhas := h.has_eq parent
      rw [hparent, Table.has, he] at hhas
      cases hhas

theorem Follows.setTitle (h : Follows known s pairs) (name title : String) :
    Follows known (s.setTitle name title) pairs := by
  unfold Shelf.setTitle
  split
  · rename_i e he
    refine ⟨fun other => ?_, fun p c => ?_, h.nested_iff⟩
    · rw [has_insert, h.has_eq]
      by_cases hother : other = name
      · rw [hother, beq_self_eq_true, Bool.true_or, ← h.has_eq, Table.has, he]
        rfl
      · rw [beq_false_of_ne hother, Bool.false_or]
    · rw [← h.isUnder_iff]
      unfold IsUnder
      rw [Table.get?_insert]
      by_cases hp : p = name
      · subst hp
        simp [he]
      · simp [hp]
  · exact h

theorem Follows.titled (h : Follows known s pairs) (name : String) (conf : List (String × Value)) :
    Follows known (s.titled name conf) pairs := by
  unfold Shelf.titled
  dsimp only
  split
  · exact h.setTitle name _
  · exact h

end

section
variable {known : String → Bool} {pairs : List (String × String)}

theorem Follows.nestAll {parent : String} (hparent : known parent = true) (vs : List Value)
    {s : Logged} (h : Follows known s.1 pairs) :
    Follows known (nestAll parent s vs).1 (pairs ++ (vs.map Value.display).map (parent, ·)) := by
  induction vs generalizing s pairs with
  | nil =>
    rw [List.map_nil, List.map_nil, List.append_nil]
    exact h
  | cons v vs ih =>
    rw [List.map_cons, List.map_cons, List.append_cons]
    unfold Shelf.nestAll
    split
    · rename_i hv
      rw [h.has_eq] at hv
      exact ih (h.nest hparent hv)
    · rename_i hv
      rw [h.has_eq] at hv
      exact ih (h.skip fun hknown => absurd hknown hv)

theorem listedNames_of_items {fields : List (String × Value)} {children : List Value}
    (h : (Value.field fields "children").items = .ok children) :
    listedNames fields = children.map Value.display := by
  unfold Value.items at h
  unfold listedNames
  split at h
  · rename_i vs hvs
    cases h
    rw [hvs]
    rfl
  · cases h

mutual

/-- A structure that is applied puts the tutorials where its listings do. -/
theorem Follows.arrange {s s' : Logged} {pairs : List (String × String)}
    (h : Follows known s.1 pairs) : ∀ {fields : List (String × Value)},
    arrange s fields = .ok s' → Follows known s'.1 (pairs ++ listings known fields)
  | [], hs => by
    unfold Shelf.arrange at hs
    cases hs
    rw [listings, List.append_nil]
    exact h
  | (name, conf) :: rest, hs => by
    unfold Shelf.arrange at hs
    dsimp only at hs
    rw [h.has_eq] at hs
    split at hs
    · rename_i hname
      split at hs
      · rename_i fields
        obtain ⟨inner, hi, hs⟩ := Fault.bind_eq_ok_iff.mp hs
        obtain ⟨children, hc, hs⟩ := Fault.bind_eq_ok_iff.mp hs
        have hin : Follows known inner.1 (pairs ++ listingsWithin known fields) :=
          (h.titled name fields).arrangeInner hi
        have hall := (hin.nestAll hname children).arrange hs
        rw [← listedNames_of_items hc] at hall
        rw [listings, if_pos hname]
        simpa only [List.append_assoc] using hall
      · rename_i hother
        rw [listings_of_other hother]
        exact h.arrange hs
    · rename_i hname
      rw [listings_of_unknown conf rest hname]
      refine Follows.arrange ?_ hs
      exact h

theorem Follows.arrangeInner {s s' : Logged} {pairs : List (String × String)}
    (h : Follows known s.1 pairs) : ∀ {fields : List (String × Value)},
    arrangeInner s fields = .ok s' → Follows known s'.1 (pairs ++ listingsWithin known fields)
  | [], hs => by
    unfold Shelf.arrangeInner at hs
    cases hs
    rw [listingsWithin, List.append_nil]
    exact h
  | (key, v) :: rest, hs => by
    unfold Shelf.arrangeInner at hs
    split at hs
    · rename_i hkey
      obtain rfl := eq_of_beq hkey
      split at hs
      · rw [listingsWithin, if_pos hkey]
        exact h.arrange hs
      · rename_i hother
        cases hs
        rw [listingsWithin_of_other hother, List.append_nil]
        exact h
    · rename_i hkey
      rw [listingsWithin_of_ne v rest hkey]
      exact h.arrangeInner hs

end

end

/-! ## The tutorials of a directory -/

/-- The name of the tutorial that a file of a directory is, if it is one. -/
def nameOf? : String × Node → Option String
  | (_, .directory) => none
  | (name, .file _) =>
    if (formatOf? (Path.ofString name)).isSome then some (Path.ofString name).stem else none

theorem has_addFile {s s' : Shelf} {file : String × Node} (h : s.addFile file = .ok s')
    (name : String) : s'.entries.has name = true ↔ nameOf? file = some name ∨
      s.entries.has name = true := by
  obtain ⟨fileName, _ | bytes⟩ := file
  · cases h
    simp [nameOf?]
  · unfold addFile at h
    unfold nameOf?
    dsimp only at h ⊢
    split at h
    · rename_i hformat
      cases h
      simp [hformat]
    · rename_i format hformat
      split at h
      · cases h
      · cases h
        rw [has_insert, Bool.or_eq_true, beq_iff_eq, hformat, Option.isSome_some, if_pos rfl,
          Option.some_inj, eq_comm]

theorem has_addFiles {s s' : Shelf} {files : List (String × Node)} (h : s.addFiles files = .ok s')
    (name : String) : s'.entries.has name = true ↔ name ∈ files.filterMap nameOf? ∨
      s.entries.has name = true := by
  unfold addFiles at h
  induction files generalizing s with
  | nil =>
    cases h
    simp
  | cons file rest ih =>
    rw [List.foldlM_cons] at h
    obtain ⟨next, hn, h⟩ := Fault.bind_eq_ok_iff.mp h
    rw [ih h, has_addFile hn, ← List.singleton_append, List.filterMap_append, List.mem_append,
      or_left_comm, or_assoc]
    simp

theorem addFiles_nested {s s' : Shelf} {files : List (String × Node)}
    (h : s.addFiles files = .ok s') : s'.nested = s.nested := by
  unfold addFiles at h
  induction files generalizing s with
  | nil =>
    cases h
    rfl
  | cons file rest ih =>
    rw [List.foldlM_cons] at h
    obtain ⟨next, hn, h⟩ := Fault.bind_eq_ok_iff.mp h
    rw [ih h]
    obtain ⟨fileName, _ | bytes⟩ := file
    · cases hn
      rfl
    · unfold addFile at hn
      dsimp only at hn
      split at hn
      · cases hn
        rfl
      · split at hn
        · cases hn
        · cases hn
          rfl

end Shelf

namespace Tutorial
variable {t : FileTree} {directory : Option Path}

/-- The names of the tutorials in a directory: those of its Markdown and HTML files. -/
def found (t : FileTree) (directory : Option Path) : List String :=
  match directory with
  | none => []
  | some path =>
    match t.isDirectory path with
    | .ok true => (t.children path).filterMap Shelf.nameOf?
    | _ => []

/-- What the structure file of a directory lists under the tutorials that are there. -/
def listed (t : FileTree) (directory : Option Path) (yaml : Yaml.Reader := Yaml.readFlow) :
    List (String × String) :=
  match directory with
  | none => []
  | some path =>
    match Shelf.readStructure t yaml path [] Shelf.structureFiles with
    | .ok (fields, _) => Shelf.listings (found t directory).contains fields
    | .error _ => []

/-- A tutorial goes under the first other one that lists it. -/
def GoesUnder (t : FileTree) (directory : Option Path) (yaml : Yaml.Reader)
    (parent child : String) : Prop :=
  child ∈ found t directory ∧ Shelf.firstOver (listed t directory yaml) child = some parent

/-- The shelf that is loaded has the tutorials of the directory, each where it is listed first. -/
theorem follows_shelf {yaml : Yaml.Reader} {s : Shelf.Logged}
    (h : shelf t directory yaml = .ok s) :
    Shelf.Follows (found t directory).contains s.1 (listed t directory yaml) := by
  have hempty : ∀ pairs, Shelf.Follows (([] : List String).contains) {} pairs := by
    refine fun pairs => ⟨fun _ => rfl, fun parent child => ?_, fun child => by simp⟩
    constructor
    · rintro ⟨_, he, _⟩
      cases he
    · rintro ⟨hknown, _⟩
      cases hknown
  unfold shelf at h
  split at h
  · cases h
    exact hempty _
  · rename_i path
    split at h
    · cases h
    · rename_i hdirectory
      have hnone : found t (some path) = [] := by rw [found, hdirectory]
      cases h
      rw [hnone]
      exact hempty _
    · rename_i hdirectory
      unfold Shelf.ofDirectory at h
      obtain ⟨flat, ha, h⟩ := Fault.bind_eq_ok_iff.mp h
      obtain ⟨⟨fields, notes⟩, hr, h⟩ := Fault.bind_eq_ok_iff.mp h
      have hfound : found t (some path) = (t.children path).filterMap Shelf.nameOf? := by
        rw [found, hdirectory]
      have hhas : ∀ name, flat.entries.has name = (found t (some path)).contains name := by
        intro name
        rw [Bool.eq_iff_iff, List.contains_iff_mem, hfound, Shelf.has_addFiles ha]
        exact or_iff_left Bool.false_ne_true
      have hflat : flat.WellNested ∧ flat.IsFlat :=
        Shelf.addFiles_flat Shelf.wellNested_empty (fun _ _ he => by cases he) ha
      have hlisted : listed t (some path) yaml =
          Shelf.listings (found t (some path)).contains fields := by
        rw [listed, hr]
      rw [hlisted]
      exact (hflat.2.follows hhas (Shelf.addFiles_nested ha)).arrange h

end Tutorial
end DocSite
