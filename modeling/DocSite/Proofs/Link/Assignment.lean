import DocSite.Proofs.Link.PageName
import DocSite.Proofs.Link.Step
import DocSite.Tutorial.Basic

/-! Which file belongs to which key. In every state that a registry can reach, the table of files
and the table of owners hold the same assignment of stems to keys; stems of different keys differ
without regard to case, a key keeps its file, and a new key gets the first free form of its stem. -/
namespace DocSite.Registry
set_option autoImplicit false

/-! ## The assignment -/

/-- The tables of files and owners both hold the assignment `stems` of stems to keys. -/
structure Assigned (r : Registry) (stems : List (String × String)) : Prop where
  files : r.files.entries = stems.map fun p => (p.1, p.2 ++ extension)
  owners : r.owners.entries = stems.map fun p => (Text.lowercase p.2, p.1)
  keys_nodup : (stems.map fun p => p.1).Nodup
  names_nodup : (stems.map fun p => Text.lowercase p.2).Nodup
  isStem : ∀ p ∈ stems, PageName.IsStem p.2

section
variable {r r' : Registry} {stems : List (String × String)}

theorem Assigned.congr (h : Assigned r stems) (howners : r'.owners = r.owners)
    (hfiles : r'.files = r.files) : Assigned r' stems where
  files := hfiles ▸ h.files
  owners := howners ▸ h.owners
  keys_nodup := h.keys_nodup
  names_nodup := h.names_nodup
  isStem := h.isStem

theorem Assigned.keys_files (h : Assigned r stems) : r.files.keys = stems.map fun p => p.1 := by
  simp [Table.keys, h.files]

theorem Assigned.keys_owners (h : Assigned r stems) :
    r.owners.keys = stems.map fun p => Text.lowercase p.2 := by
  simp [Table.keys, h.owners]

theorem Assigned.get?_iff (h : Assigned r stems) {key file : String} :
    r.files.get? key = some file ↔ ∃ stem, (key, stem) ∈ stems ∧ file = stem ++ extension := by
  constructor
  · intro hk
    have hm := Table.mem_of_get?_eq_some hk
    rw [h.files] at hm
    obtain ⟨p, hp, he⟩ := List.mem_map.mp hm
    obtain ⟨rfl, rfl⟩ := Prod.mk.inj he
    exact ⟨p.2, hp, rfl⟩
  · rintro ⟨stem, hm, rfl⟩
    refine Table.get?_eq_some_of_mem (by rw [h.keys_files]; exact h.keys_nodup) ?_
    rw [h.files]
    exact List.mem_map.mpr ⟨_, hm, rfl⟩

theorem append_extension_injective {s t : String} (h : s ++ extension = t ++ extension) :
    s = t := by
  have hl := congrArg String.toList h
  rw [String.toList_append, String.toList_append] at hl
  exact String.toList_injective (List.append_cancel_right hl)

/-- Keys whose stems agree without regard to case are one key. -/
theorem Assigned.key_eq (h : Assigned r stems) {k₁ k₂ s₁ s₂ : String}
    (h₁ : r.files.get? k₁ = some (s₁ ++ extension)) (h₂ : r.files.get? k₂ = some (s₂ ++ extension))
    (he : Text.lowercase s₁ = Text.lowercase s₂) : k₁ = k₂ := by
  obtain ⟨t₁, hm₁, ht₁⟩ := h.get?_iff.mp h₁
  obtain ⟨t₂, hm₂, ht₂⟩ := h.get?_iff.mp h₂
  obtain rfl := append_extension_injective ht₁
  obtain rfl := append_extension_injective ht₂
  exact congrArg Prod.fst (List.inj_on_of_nodup_map h.names_nodup hm₁ hm₂ he)

theorem Assigned.files_injective (h : Assigned r stems) {k₁ k₂ file : String}
    (h₁ : r.files.get? k₁ = some file) (h₂ : r.files.get? k₂ = some file) : k₁ = k₂ := by
  obtain ⟨s, _, rfl⟩ := h.get?_iff.mp h₁
  exact h.key_eq h₁ h₂ rfl

/-- A new key extends the assignment by a stem that is free. -/
theorem Assigned.allocate (h : Assigned r stems) (candidate key : String) :
    ∃ more, Assigned (r.allocate candidate key).2 (stems ++ more) := by
  cases hk : r.files.get? key with
  | some file => exact ⟨[], by simpa [allocate_of_some hk] using h⟩
  | none =>
    set stem := PageName.free r.owners.keys (PageName.stem candidate) with hstem
    have hfree : Text.lowercase stem ∉ r.owners.keys := PageName.lowercase_free_not_mem _ _
    have hnew : key ∉ stems.map fun p => p.1 := by
      rw [← h.keys_files]
      exact Table.get?_eq_none_iff.mp hk
    refine ⟨[(key, stem)], ?_⟩
    rw [allocate_of_none hk, ← hstem]
    constructor
    · rw [Table.entries_insert_of_get?_none hk, h.files]
      simp
    · rw [Table.entries_insert_of_get?_none (Table.get?_eq_none_iff.mpr hfree), h.owners]
      simp
    · rw [List.map_append]
      exact List.nodup_append_comm.mp (List.nodup_cons.mpr ⟨hnew, h.keys_nodup⟩)
    · rw [List.map_append]
      rw [h.keys_owners] at hfree
      exact List.nodup_append_comm.mp (List.nodup_cons.mpr ⟨hfree, h.names_nodup⟩)
    · intro p hp
      rcases List.mem_append.mp hp with hp | hp
      · exact h.isStem p hp
      · rw [List.mem_singleton.mp hp]
        exact PageName.free_isStem _ _

/-- The step lemma: no elementary change breaks the assignment. -/
theorem Step.assigned {ok : Registry → String → Prop} (h : Step ok r r') (ha : Assigned r stems) :
    ∃ more, Assigned r' (stems ++ more) := by
  cases h with
  | allocate candidate key => exact ha.allocate candidate key
  | register => exact ⟨[], by simpa using ha.congr (by simp) (by simp)⟩
  | fragment => exact ⟨[], by simpa using ha.congr (by simp) (by simp)⟩
  | noteTutorial =>
    refine ⟨[], ?_⟩
    rw [List.append_nil]
    exact ha.congr rfl rfl

theorem Reaches.assigned {ok : Registry → String → Prop} (h : Reaches ok r r')
    (ha : Assigned r stems) : ∃ more, Assigned r' (stems ++ more) := by
  induction h with
  | refl => exact ⟨[], by simpa using ha⟩
  | tail _ step ih =>
    obtain ⟨more, hm⟩ := ih
    obtain ⟨next, hn⟩ := step.assigned hm
    exact ⟨more ++ next, by rwa [← List.append_assoc]⟩

end

theorem assigned_initial : Assigned initial [(homeKey, "index"), (globalKey, "global")] where
  files := by decide +kernel
  owners := by decide +kernel
  keys_nodup := by decide
  names_nodup := by decide +kernel
  isStem := by
    have hi : PageName.IsStem "index" :=
      ⟨by decide, fun c hc => by fin_cases hc <;> decide, by decide⟩
    have hg : PageName.IsStem "global" :=
      ⟨by decide, fun c hc => by fin_cases hc <;> decide, by decide⟩
    intro p hp
    rcases List.mem_cons.mp hp with rfl | hp
    · exact hi
    · rw [List.mem_singleton.mp hp]
      exact hg

theorem initial_home : initial.files.get? homeKey = some "index.html" := by decide +kernel

theorem initial_global : initial.files.get? globalKey = some "global.html" := by decide +kernel

theorem initial_urls : initial.urls = .empty := by
  rw [initial]
  dsimp only
  rw [allocate_urls, allocate_urls]

theorem initial_fragments : initial.fragments = .empty := by
  rw [initial]
  dsimp only
  rw [allocate_fragments, allocate_fragments]

theorem initial_takenIds : initial.takenIds = .empty := by
  rw [initial]
  dsimp only
  rw [allocate_takenIds, allocate_takenIds]

theorem initial_tutorials : initial.tutorials = .empty := by
  unfold initial
  simp

theorem initial_tutorialFiles : initial.tutorialFiles = .empty := by
  rw [initial]
  dsimp only
  rw [allocate_tutorialFiles, allocate_tutorialFiles]

/-! ## Runs -/

inductive Call where
  | allocate (candidate key : String)
  | pageOf (longname : String)
  | urlFor (d : Doclet)
  | register (longname url : String)
  | tutorialUrl (name : String)
  | tutorialLink (name : String) (label : Option String)
  | addTutorials (ts : List Tutorial)

def after (r : Registry) : Call → Registry
  | .allocate candidate key => (r.allocate candidate key).2
  | .pageOf longname => (r.pageOf longname).2
  | .urlFor d => (r.urlFor d).2
  | .register longname url => (r.register longname url).1
  | .tutorialUrl name => (r.tutorialUrl name).2
  | .tutorialLink name label => (r.tutorialLink name label).2
  | .addTutorials ts => r.addTutorials ts

/-- The registry after calls, one after another. -/
def run (r : Registry) (calls : List Call) : Registry := calls.foldl after r

/-- Making tutorials known changes the titles alone. -/
theorem addTutorials_frame : ∀ (r : Registry) (ts : List Tutorial),
    ∃ titles, r.addTutorials ts = { r with tutorials := titles }
  | r, [] => ⟨r.tutorials, by rw [addTutorials]⟩
  | r, ⟨name, title, _, _, children⟩ :: rest => by
    obtain ⟨titles, hrest⟩ := addTutorials_frame r rest
    obtain ⟨all, hall⟩ := addTutorials_frame ((r.addTutorials rest).addTutorial name title) children
    refine ⟨all, ?_⟩
    rw [addTutorials, hall, addTutorial, hrest]

/-- A call is a sequence of elementary changes, or makes tutorials known. -/
theorem after_cases (r : Registry) (c : Call) :
    Reaches (fun _ _ => True) r (r.after c) ∨
      ∃ titles, r.after c = { r with tutorials := titles } := by
  cases c with
  | allocate candidate key => exact .inl (reaches_allocate r candidate key)
  | pageOf longname => exact .inl (reaches_pageOf (fun _ _ _ _ => trivial) r longname)
  | urlFor d => exact .inl (reaches_urlFor (fun _ _ _ _ => trivial) r d)
  | register longname url => exact .inl (.single (.register trivial longname))
  | tutorialUrl name => exact .inl (reaches_tutorialUrl r name)
  | tutorialLink name label => exact .inl (reaches_tutorialLink r name label)
  | addTutorials ts => exact .inr (addTutorials_frame r ts)

theorem Assigned.run {r : Registry} {stems : List (String × String)} (h : Assigned r stems)
    (calls : List Call) : ∃ more, Assigned (r.run calls) (stems ++ more) := by
  induction calls generalizing r stems with
  | nil => exact ⟨[], by rwa [List.append_nil]⟩
  | cons c calls ih =>
    obtain ⟨more, hm⟩ : ∃ more, Assigned (r.after c) (stems ++ more) := by
      rcases after_cases r c with hc | ⟨titles, hc⟩
      · exact hc.assigned h
      · refine ⟨[], ?_⟩
        rw [List.append_nil, hc]
        exact h.congr rfl rfl
    obtain ⟨next, hn⟩ := ih hm
    exact ⟨more ++ next, by rwa [← List.append_assoc]⟩

theorem run_files_mono {r : Registry} {key file : String} (h : r.files.get? key = some file)
    (calls : List Call) : (r.run calls).files.get? key = some file := by
  induction calls generalizing r with
  | nil => exact h
  | cons c calls ih =>
    apply ih
    rcases after_cases r c with hc | ⟨titles, hc⟩
    · exact hc.files_mono h
    · rw [hc]
      exact h

/-- After any calls the two tables hold one assignment of stems to keys, in which the reserved pages
have their own; stems of different keys differ without regard to case; a key keeps its file from
then on; and a new key gets the least numbered form of its stem that is free. -/
theorem run_assignment (calls : List Call) :
    (∃ stems, Assigned (initial.run calls) stems) ∧
    (initial.run calls).files.get? homeKey = some "index.html" ∧
    (initial.run calls).files.get? globalKey = some "global.html" ∧
    (∀ k₁ k₂ s₁ s₂, (initial.run calls).files.get? k₁ = some (s₁ ++ extension) →
      (initial.run calls).files.get? k₂ = some (s₂ ++ extension) → k₁ ≠ k₂ →
      Text.lowercase s₁ ≠ Text.lowercase s₂) ∧
    (∀ key file, (initial.run calls).files.get? key = some file → ∀ later,
      ((initial.run calls).run later).files.get? key = some file ∧
      ∀ candidate, (((initial.run calls).run later).allocate candidate key).1 = file) ∧
    (∀ candidate key, (initial.run calls).files.get? key = none → ∃ n,
      ((initial.run calls).allocate candidate key).1 =
        PageName.numbered (PageName.stem candidate) n ++ extension ∧
      Text.lowercase (PageName.numbered (PageName.stem candidate) n) ∉
        (initial.run calls).owners.keys ∧
      ∀ m < n, Text.lowercase (PageName.numbered (PageName.stem candidate) m) ∈
        (initial.run calls).owners.keys) := by
  obtain ⟨more, h⟩ := assigned_initial.run calls
  refine ⟨⟨_, h⟩, run_files_mono initial_home calls, run_files_mono initial_global calls,
    ?_, ?_, ?_⟩
  · intro k₁ k₂ s₁ s₂ h₁ h₂ hne he
    exact hne (h.key_eq h₁ h₂ he)
  · intro key file hk later
    have hl := run_files_mono hk later
    refine ⟨hl, fun candidate => ?_⟩
    rw [allocate_of_some hl]
  · intro candidate key hk
    obtain ⟨hfree, hleast⟩ := PageName.freeNumber_spec (initial.run calls).owners.keys
      (PageName.stem candidate)
    refine ⟨_, ?_, hfree, hleast⟩
    rw [allocate_of_none hk]
    rfl

end DocSite.Registry
