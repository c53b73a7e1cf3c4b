import DocSite.Link.Markup
import Mathlib.Logic.Relation

/-! The elementary changes of a registry. Every operation is a sequence of them, so what each of
them keeps, every run keeps. Which addresses may be registered is left open: any at all for the
registry on its own, only those on pages that have a file for the run of a whole site. -/
namespace DocSite.Registry
set_option autoImplicit false

/-! ## What one operation leaves alone -/

section Frames
variable (r : Registry) (candidate key file longname url : String)

@[simp] theorem allocate_urls : (r.allocate candidate key).2.urls = r.urls := by
  unfold allocate; split <;> rfl

@[simp] theorem allocate_fragments : (r.allocate candidate key).2.fragments = r.fragments := by
  unfold allocate; split <;> rfl

@[simp] theorem allocate_takenIds : (r.allocate candidate key).2.takenIds = r.takenIds := by
  unfold allocate; split <;> rfl

@[simp] theorem allocate_tutorials : (r.allocate candidate key).2.tutorials = r.tutorials := by
  unfold allocate; split <;> rfl

@[simp] theorem allocate_tutorialFiles :
    (r.allocate candidate key).2.tutorialFiles = r.tutorialFiles := by
  unfold allocate; split <;> rfl

@[simp] theorem register_owners : (r.register longname url).1.owners = r.owners := by
  unfold register; split <;> rfl

@[simp] theorem register_files : (r.register longname url).1.files = r.files := by
  unfold register; split <;> rfl

@[simp] theorem register_fragments : (r.register longname url).1.fragments = r.fragments := by
  unfold register; split <;> rfl

@[simp] theorem register_takenIds : (r.register longname url).1.takenIds = r.takenIds := by
  unfold register; split <;> rfl

@[simp] theorem register_tutorials : (r.register longname url).1.tutorials = r.tutorials := by
  unfold register; split <;> rfl

@[simp] theorem register_tutorialFiles :
    (r.register longname url).1.tutorialFiles = r.tutorialFiles := by
  unfold register; split <;> rfl

/-- Allocating a fragment changes the fragments and the taken ids alone. -/
theorem fragmentOf_frame : ∃ ids fragments,
    (r.fragmentOf file longname candidate).2 =
      { r with takenIds := ids, fragments := fragments } := by
  unfold fragmentOf
  split
  · exact ⟨_, _, rfl⟩
  · split
    · exact ⟨_, _, rfl⟩
    · exact ⟨_, _, rfl⟩

@[simp] theorem fragmentOf_owners : (r.fragmentOf file longname candidate).2.owners = r.owners := by
  obtain ⟨_, _, h⟩ := fragmentOf_frame r candidate file longname
  rw [h]

@[simp] theorem fragmentOf_files : (r.fragmentOf file longname candidate).2.files = r.files := by
  obtain ⟨_, _, h⟩ := fragmentOf_frame r candidate file longname
  rw [h]

@[simp] theorem fragmentOf_urls : (r.fragmentOf file longname candidate).2.urls = r.urls := by
  obtain ⟨_, _, h⟩ := fragmentOf_frame r candidate file longname
  rw [h]

@[simp] theorem fragmentOf_tutorials :
    (r.fragmentOf file longname candidate).2.tutorials = r.tutorials := by
  obtain ⟨_, _, h⟩ := fragmentOf_frame r candidate file longname
  rw [h]

@[simp] theorem fragmentOf_tutorialFiles :
    (r.fragmentOf file longname candidate).2.tutorialFiles = r.tutorialFiles := by
  obtain ⟨_, _, h⟩ := fragmentOf_frame r candidate file longname
  rw [h]

end Frames

/-! ## What one operation adds -/

theorem allocate_of_some {r : Registry} {key file : String} (h : r.files.get? key = some file)
    (candidate : String) : r.allocate candidate key = (file, r) := by
  rw [allocate, h]

/-- A key without a file gets the first free form of the stem. -/
theorem allocate_of_none {r : Registry} {key : String} (h : r.files.get? key = none)
    (candidate : String) :
    r.allocate candidate key =
      (PageName.free r.owners.keys (PageName.stem candidate) ++ extension,
        { r with
          owners := r.owners.insert
            (Text.lowercase (PageName.free r.owners.keys (PageName.stem candidate))) key
          files := r.files.insert key
            (PageName.free r.owners.keys (PageName.stem candidate) ++ extension) }) := by
  rw [allocate, h]

theorem allocate_get?_self (r : Registry) (candidate key : String) :
    (r.allocate candidate key).2.files.get? key = some (r.allocate candidate key).1 := by
  cases h : r.files.get? key with
  | some file => rw [allocate_of_some h, h]
  | none => rw [allocate_of_none h, Table.get?_insert_self]

theorem allocate_get?_mono {r : Registry} {k file : String} (h : r.files.get? k = some file)
    (candidate key : String) : (r.allocate candidate key).2.files.get? k = some file := by
  cases hk : r.files.get? key with
  | some other => rw [allocate_of_some hk, h]
  | none =>
    rw [allocate_of_none hk, Table.get?_insert, if_neg, h]
    intro e
    rw [beq_iff_eq.mp e, hk] at h
    cases h

theorem register_of_some {r : Registry} {longname kept : String}
    (h : r.urls.get? longname = some kept) (url : String) : (r.register longname url).1 = r := by
  rw [register, h]

theorem register_of_none {r : Registry} {longname : String} (h : r.urls.get? longname = none)
    (url : String) :
    r.register longname url = ({ r with urls := r.urls.insert longname url }, none) := by
  rw [register, h]

/-- The first address stays. -/
theorem register_get? (r : Registry) (longname url l : String) :
    (r.register longname url).1.url? l =
      if l = longname then some ((r.url? longname).getD url) else r.url? l := by
  cases h : r.urls.get? longname with
  | some kept =>
    rw [register_of_some h]
    split
    · subst l; simp [url?, h]
    · rfl
  | none =>
    rw [register_of_none h]
    simp [url?, h]

theorem register_get?_mono {r : Registry} {l u : String} (h : r.url? l = some u)
    (longname url : String) : (r.register longname url).1.url? l = some u := by
  rw [register_get?]
  split
  · subst l; simp [h]
  · exact h

/-- Registering adds the address for the longname and no other one. -/
theorem register_get?_cases {r : Registry} {longname url l u : String}
    (h : (r.register longname url).1.url? l = some u) :
    r.url? l = some u ∨ (l = longname ∧ u = url) := by
  rw [register_get?] at h
  split at h
  · rename_i hl
    cases hold : r.url? longname with
    | none =>
      rw [hold] at h
      rw [hl]
      exact .inr ⟨rfl, (Option.some.inj h).symm⟩
    | some kept =>
      rw [hold] at h
      rw [hl, hold]
      exact .inl h
  · exact .inl h

/-! ## What a fragment is made of -/

/-- The candidate of a fragment without its blanks. -/
def fragmentStem (candidate : String) : String :=
  String.ofList (candidate.toList.filter (!Text.isBlank ·))

/-- The lowercase forms of the ids that are taken on a page. -/
def taken (r : Registry) (page : String) : List String := (r.takenIds.get? page).getD []

theorem fragmentOf_of_some {r : Registry} {longname fragment : String}
    (h : r.fragments.get? longname = some fragment) (page candidate : String) :
    r.fragmentOf page longname candidate = (fragment, r) := by
  rw [fragmentOf, h]

/-- A longname without a fragment gets the first free form of the stem on the page. -/
theorem fragmentOf_of_none {r : Registry} {longname candidate : String}
    (h : r.fragments.get? longname = none) (hc : candidate ≠ "") (page : String) :
    r.fragmentOf page longname candidate =
      (PageName.free (r.taken page) (fragmentStem candidate),
        { r with
          takenIds := r.takenIds.insert page
            (Text.lowercase (PageName.free (r.taken page) (fragmentStem candidate)) ::
              r.taken page)
          fragments := r.fragments.insert longname
            (PageName.free (r.taken page) (fragmentStem candidate)) }) := by
  rw [fragmentOf, h]
  dsimp only
  rw [if_neg (by simpa using hc)]
  rfl

theorem fragmentOf_of_empty {r : Registry} {longname : String}
    (h : r.fragments.get? longname = none) (page : String) :
    r.fragmentOf page longname "" = ("", r) := by
  rw [fragmentOf, h]
  rfl

theorem fragmentOf_get?_self (r : Registry) (page longname : String) {candidate : String}
    (hc : candidate ≠ "") :
    (r.fragmentOf page longname candidate).2.fragments.get? longname =
      some (r.fragmentOf page longname candidate).1 := by
  cases h : r.fragments.get? longname with
  | some fragment => rw [fragmentOf_of_some h, h]
  | none => rw [fragmentOf_of_none h hc, Table.get?_insert_self]

theorem fragmentOf_get?_mono {r : Registry} {l fragment : String}
    (h : r.fragments.get? l = some fragment) (page longname candidate : String) :
    (r.fragmentOf page longname candidate).2.fragments.get? l = some fragment := by
  cases hl : r.fragments.get? longname with
  | some other => rw [fragmentOf_of_some hl, h]
  | none =>
    by_cases hc : candidate = ""
    · rw [hc, fragmentOf_of_empty hl, h]
    · rw [fragmentOf_of_none hl hc, Table.get?_insert, if_neg, h]
      intro e
      rw [beq_iff_eq.mp e, hl] at h
      cases h

/-! ## Steps -/

/-- An elementary change. `ok` says which addresses may be registered. -/
inductive Step (ok : Registry → String → Prop) : Registry → Registry → Prop
  | allocate (r : Registry) (candidate key : String) : Step ok r (r.allocate candidate key).2
  | register {r : Registry} {url : String} (allowed : ok r url) (longname : String) :
    Step ok r (r.register longname url).1
  | fragment (r : Registry) (file longname candidate : String) :
    Step ok r (r.fragmentOf file longname candidate).2
  | noteTutorial {r : Registry} {name file : String}
    (named : r.files.get? ("<tutorial>" ++ name) = some file) :
    Step ok r { r with tutorialFiles := r.tutorialFiles.insert name file }

/-- Any number of elementary changes. -/
abbrev Reaches (ok : Registry → String → Prop) : Registry → Registry → Prop :=
  Relation.ReflTransGen (Step ok)

section
variable {ok : Registry → String → Prop} {r r' : Registry}

theorem Step.files_mono (h : Step ok r r') {k file : String} (hk : r.files.get? k = some file) :
    r'.files.get? k = some file := by
  cases h with
  | allocate candidate key => exact allocate_get?_mono hk candidate key
  | register => simpa using hk
  | fragment => simpa using hk
  | noteTutorial => exact hk

theorem Step.urls_mono (h : Step ok r r') {l u : String} (hl : r.url? l = some u) :
    r'.url? l = some u := by
  cases h with
  | allocate => simpa [url?] using hl
  | register _ longname => exact register_get?_mono hl longname _
  | fragment => simpa [url?] using hl
  | noteTutorial => exact hl

theorem Step.fragments_mono (h : Step ok r r') {l fragment : String}
    (hl : r.fragments.get? l = some fragment) : r'.fragments.get? l = some fragment := by
  cases h with
  | allocate => simpa using hl
  | register => simpa using hl
  | fragment page longname candidate => exact fragmentOf_get?_mono hl page longname candidate
  | noteTutorial => exact hl

theorem Step.tutorials_eq (h : Step ok r r') : r'.tutorials = r.tutorials := by
  cases h <;> simp

/-- A file stays with its key. -/
theorem Reaches.files_mono (h : Reaches ok r r') {k file : String}
    (hk : r.files.get? k = some file) : r'.files.get? k = some file := by
  induction h with
  | refl => exact hk
  | tail _ step ih => exact step.files_mono ih

/-- An address stays with its longname. -/
theorem Reaches.urls_mono (h : Reaches ok r r') {l u : String} (hl : r.url? l = some u) :
    r'.url? l = some u := by
  induction h with
  | refl => exact hl
  | tail _ step ih => exact step.urls_mono ih

/-- A fragment stays with its longname. -/
theorem Reaches.fragments_mono (h : Reaches ok r r') {l fragment : String}
    (hl : r.fragments.get? l = some fragment) : r'.fragments.get? l = some fragment := by
  induction h with
  | refl => exact hl
  | tail _ step ih => exact step.fragments_mono ih

theorem Reaches.tutorials_eq (h : Reaches ok r r') : r'.tutorials = r.tutorials := by
  induction h with
  | refl => rfl
  | tail _ step ih => rw [step.tutorials_eq, ih]

end

/-! ## Operations as steps -/

section
variable {ok : Registry → String → Prop}

theorem reaches_allocate (r : Registry) (candidate key : String) :
    Reaches ok r (r.allocate candidate key).2 := .single (.allocate r candidate key)

theorem reaches_register (r : Registry) (longname url : String) :
    Reaches (fun _ _ => True) r (r.register longname url).1 := .single (.register trivial longname)

theorem reaches_pageOf (hok : ∀ r k file, r.files.get? k = some file → ok r file) (r : Registry)
    (longname : String) : Reaches ok r (r.pageOf longname).2 := by
  unfold pageOf
  split
  · exact .refl
  · exact (reaches_allocate r longname longname).tail
      (.register (hok _ _ _ (allocate_get?_self r longname longname)) longname)

theorem reaches_within (r : Registry) (page : String) (d : Doclet) (named : Bool) :
    Reaches ok r (r.within page d named).2 := by
  unfold within
  split
  · exact .single (.fragment r page d.linkName d.fragmentName)
  · exact .refl

theorem reaches_urlFor (hok : ∀ r k file, r.files.get? k = some file → ok r file) (r : Registry)
    (d : Doclet) : Reaches ok r (r.urlFor d).2 := by
  unfold urlFor
  dsimp only
  split
  · exact reaches_pageOf hok r _
  · split
    · exact (reaches_pageOf hok r _).trans (reaches_within _ _ d _)
    · split
      · exact (reaches_pageOf hok r _).trans (reaches_within _ _ d _)
      · exact reaches_within r _ d _

theorem reaches_tutorialUrl (r : Registry) (name : String) :
    Reaches ok r (r.tutorialUrl name).2 := by
  unfold tutorialUrl
  split
  · exact .refl
  · exact (reaches_allocate r _ _).tail (.noteTutorial (allocate_get?_self r _ _))

theorem reaches_tutorialLink (r : Registry) (name : String) (label : Option String) :
    Reaches ok r (r.tutorialLink name label).2 := by
  unfold tutorialLink
  split
  · exact .refl
  · exact reaches_tutorialUrl r name

end

end DocSite.Registry
