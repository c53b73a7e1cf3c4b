import DocSite.Proofs.Link.Stable

/-! The ids of headings. A run is read together with the ids that it gives, each with its longname
and the page it was asked for. The registry remembers just these, in order, and the ids taken on a
page are those given on it; so a new id differs without regard to case from every id that was given
on its page, and no blank gets into any. -/
namespace DocSite.Registry
set_option autoImplicit false

/-- An id that was given to a longname on a page. -/
structure Grant where
  page : String
  longname : String
  id : String

/-! ## The ids of a run -/

/-- What asking for a fragment gives: a new id, unless the longname has one or nothing names it. -/
def grantsOf (r : Registry) (page longname candidate : String) : List Grant :=
  if (r.fragments.get? longname).isNone && candidate != "" then
    [⟨page, longname, (r.fragmentOf page longname candidate).1⟩]
  else []

/-- The ids that a call gives. Only computing an address asks for one, on the page of the host. -/
def grantedBy (r : Registry) : Call → List Grant
  | .urlFor d =>
    if d.standsWithin then
      (r.hostPage d.host?).2.grantsOf (r.hostPage d.host?).1 d.linkName d.fragmentName
    else []
  | _ => []

/-- The ids that calls give one after another. -/
def history (r : Registry) : List Call → List Grant
  | [] => []
  | c :: calls => r.grantedBy c ++ (r.after c).history calls

/-- The registry remembers the ids that were given, and those of one page are apart. -/
structure Granted (r : Registry) (grants : List Grant) : Prop where
  fragments : r.fragments.entries = grants.map fun g => (g.longname, g.id)
  taken : ∀ page x, x ∈ r.taken page ↔ ∃ g ∈ grants, g.page = page ∧ Text.lowercase g.id = x
  longnames_nodup : (grants.map fun g => g.longname).Nodup
  apart : grants.Pairwise fun g g' =>
    g.page = g'.page → Text.lowercase g.id ≠ Text.lowercase g'.id
  unblank : ∀ g ∈ grants, ∀ c ∈ g.id.toList, Text.isBlank c = false

/-! ## New ids -/

theorem grantsOf_of_some {r : Registry} {longname fragment : String}
    (h : r.fragments.get? longname = some fragment) (page candidate : String) :
    r.grantsOf page longname candidate = [] := by
  simp [grantsOf, h]

theorem grantsOf_of_empty (r : Registry) (page longname : String) :
    r.grantsOf page longname "" = [] := by
  simp [grantsOf]

theorem grantsOf_of_none {r : Registry} {longname candidate : String}
    (h : r.fragments.get? longname = none) (hc : candidate ≠ "") (page : String) :
    r.grantsOf page longname candidate =
      [⟨page, longname, PageName.free (r.taken page) (fragmentStem candidate)⟩] := by
  simp [grantsOf, h, hc, fragmentOf_of_none h hc]

theorem mem_taken_fragmentOf {r : Registry} {longname candidate : String}
    (h : r.fragments.get? longname = none) (hc : candidate ≠ "") (page other x : String) :
    x ∈ (r.fragmentOf page longname candidate).2.taken other ↔ x ∈ r.taken other ∨
      page = other ∧ Text.lowercase (PageName.free (r.taken page) (fragmentStem candidate)) = x := by
  rw [fragmentOf_of_none h hc]
  by_cases he : other = page
  · subst he
    simp [taken, or_comm, eq_comm]
  · simp [taken, he, Ne.symm he]

theorem isBlank_of_isDigit {c : Char} (h : c.isDigit = true) : Text.isBlank c = false := by
  obtain ⟨hlow, hhigh⟩ := Text.toNat_of_isDigit h
  simp only [Text.isBlank]
  simp
  omega

/-- Numbering puts no blank into a stem, which has none. -/
theorem unblank_numbered (candidate : String) (n : ℕ) :
    ∀ c ∈ (PageName.numbered (fragmentStem candidate) n).toList, Text.isBlank c = false := by
  intro c hc
  rcases PageName.mem_numbered hc with hc | rfl | hd
  · rw [fragmentStem, String.toList_ofList, List.mem_filter] at hc
    simpa using hc.2
  · decide
  · exact isBlank_of_isDigit hd

section
variable {r r' : Registry} {grants : List Grant}

theorem Granted.congr (h : Granted r grants) (hf : r'.fragments = r.fragments)
    (ht : r'.takenIds = r.takenIds) : Granted r' grants where
  fragments := hf ▸ h.fragments
  taken := by
    intro page x
    rw [← h.taken page x, Registry.taken, ht]
    rfl
  longnames_nodup := h.longnames_nodup
  apart := h.apart
  unblank := h.unblank

/-- The step lemma: asking for a fragment adds what it gives to what was given. -/
theorem Granted.fragmentOf (h : Granted r grants) (page longname candidate : String) :
    Granted (r.fragmentOf page longname candidate).2
      (grants ++ r.grantsOf page longname candidate) := by
  cases hl : r.fragments.get? longname with
  | some fragment => simpa [fragmentOf_of_some hl, grantsOf_of_some hl] using h
  | none =>
    by_cases hc : candidate = ""
    · simpa [hc, fragmentOf_of_empty hl, grantsOf_of_empty] using h
    have hfree : Text.lowercase (PageName.free (r.taken page) (fragmentStem candidate)) ∉
        r.taken page := PageName.lowercase_free_not_mem _ _
    have hnew : longname ∉ grants.map fun g => g.longname := by
      have hkeys := Table.get?_eq_none_iff.mp hl
      simpa [Table.keys, h.fragments] using hkeys
    rw [grantsOf_of_none hl hc]
    refine ⟨?_, ?_, ?_, ?_, ?_⟩
    · rw [fragmentOf_of_none hl hc, Table.entries_insert_of_get?_none hl, h.fragments]
      simp
    · intro other x
      rw [mem_taken_fragmentOf hl hc, h.taken]
      simp [or_and_right, exists_or]
    · rw [List.map_append]
      exact List.nodup_append_comm.mp (List.nodup_cons.mpr ⟨hnew, h.longnames_nodup⟩)
    · rw [List.pairwise_append]
      refine ⟨h.apart, List.pairwise_singleton _ _, ?_⟩
      intro g hg g' hg' hpage he
      rw [List.mem_singleton.mp hg'] at hpage he
      exact hfree ((h.taken page _).mpr ⟨g, hg, hpage, he⟩)
    · intro g hg
      rcases List.mem_append.mp hg with hg | hg
      · exact h.unblank g hg
      · rw [List.mem_singleton.mp hg]
        exact unblank_numbered candidate _

/-! ## Calls -/

theorem tutorialUrl_ids (r : Registry) (name : String) :
    (r.tutorialUrl name).2.fragments = r.fragments ∧
      (r.tutorialUrl name).2.takenIds = r.takenIds := by
  unfold tutorialUrl
  split <;> simp

theorem tutorialLink_ids (r : Registry) (name : String) (label : Option String) :
    (r.tutorialLink name label).2.fragments = r.fragments ∧
      (r.tutorialLink name label).2.takenIds = r.takenIds := by
  unfold tutorialLink
  split
  · exact ⟨rfl, rfl⟩
  · exact tutorialUrl_ids r name

theorem Granted.after (h : Granted r grants) (c : Call) :
    Granted (r.after c) (grants ++ r.grantedBy c) := by
  -- All calls but one leave the ids alone.
  have hsame : ∀ r', r'.fragments = r.fragments ∧ r'.takenIds = r.takenIds →
      Granted r' (grants ++ []) := by
    intro r' hr
    rw [List.append_nil]
    exact h.congr hr.1 hr.2
  cases c with
  | allocate candidate key => exact hsame _ ⟨allocate_fragments .., allocate_takenIds ..⟩
  | pageOf longname => exact hsame _ (pageOf_ids r longname)
  | urlFor d =>
    have hpage := h.congr (hostPage_ids r d.host?).1 (hostPage_ids r d.host?).2
    rw [Registry.after, grantedBy]
    cases hn : d.standsWithin with
    | false =>
      rw [urlFor_alone hn]
      simpa using hpage
    | true =>
      rw [urlFor_within hn, if_pos rfl]
      exact hpage.fragmentOf ..
  | register longname url => exact hsame _ ⟨register_fragments .., register_takenIds ..⟩
  | tutorialUrl name => exact hsame _ (tutorialUrl_ids r name)
  | tutorialLink name label => exact hsame _ (tutorialLink_ids r name label)
  | addTutorials ts =>
    obtain ⟨titles, ht⟩ := addTutorials_frame r ts
    refine hsame _ ?_
    rw [Registry.after, ht]
    exact ⟨rfl, rfl⟩

theorem Granted.run (h : Granted r grants) (calls : List Call) :
    Granted (r.run calls) (grants ++ r.history calls) := by
  induction calls generalizing r grants with
  | nil => simpa [Registry.run, history] using h
  | cons c calls ih =>
    have hrest := ih (h.after c)
    rwa [List.append_assoc] at hrest

end

theorem granted_initial : Granted initial [] := by
  refine ⟨?_, ?_, List.nodup_nil, List.Pairwise.nil, ?_⟩
  · rw [initial_fragments]
    rfl
  · simp [taken, initial_takenIds]
  · simp

/-- After any calls the registry remembers the ids that they gave, in order. On one page they differ
without regard to case, and none has a blank. What is remembered for a longname is the answer from
then on, without a change. A longname without an id gets the least numbered form of its stem that
no id given on the page has. -/
theorem run_ids_apart (calls : List Call) :
    Granted (initial.run calls) (initial.history calls) ∧
    (∀ l id, (initial.run calls).fragments.get? l = some id → ∀ later page candidate,
      ((initial.run calls).run later).fragments.get? l = some id ∧
      ((initial.run calls).run later).fragmentOf page l candidate =
        (id, (initial.run calls).run later)) ∧
    (∀ page l candidate, (initial.run calls).fragments.get? l = none → candidate ≠ "" → ∃ n,
      ((initial.run calls).fragmentOf page l candidate).1 =
        PageName.numbered (fragmentStem candidate) n ∧
      (∀ g ∈ initial.history calls, g.page = page →
        Text.lowercase g.id ≠ Text.lowercase (PageName.numbered (fragmentStem candidate) n)) ∧
      ∀ m < n, ∃ g ∈ initial.history calls, g.page = page ∧
        Text.lowercase g.id = Text.lowercase (PageName.numbered (fragmentStem candidate) m)) := by
  have h : Granted (initial.run calls) (initial.history calls) := granted_initial.run calls
  refine ⟨h, ?_, ?_⟩
  · intro l id hl later page candidate
    have hlater := (grows_run _ later).fragments l id hl
    exact ⟨hlater, fragmentOf_of_some hlater page candidate⟩
  · intro page l candidate hl hc
    obtain ⟨hfree, hleast⟩ := PageName.freeNumber_spec ((initial.run calls).taken page)
      (fragmentStem candidate)
    refine ⟨_, congrArg Prod.fst (fragmentOf_of_none hl hc page), ?_, ?_⟩
    · intro g hg hp he
      exact hfree ((h.taken page _).mpr ⟨g, hg, hp, he⟩)
    · intro m hm
      exact (h.taken page _).mp (hleast m hm)

end DocSite.Registry
