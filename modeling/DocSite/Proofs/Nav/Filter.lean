import DocSite.Proofs.Nav.Nested

/-! Where the filter for details stops the sidebar. Conditions are checked from left to right, and
what follows a decision is never looked at, so an operator that does not exist does harm only where
a doclet comes to it: a member of a symbol that some section lists, in whatever order sections are
shown. -/
namespace DocSite
set_option autoImplicit false

/-! ## Conditions -/

/-- A field comes to an operator that does not exist: it is the condition, or one of several
conditions after those that the field does not meet. -/
inductive Condition.Reaches (f : Field) (names : List String) : Condition → Prop where
  | unknown : Reaches f names (.unknown names)
  | anyOf {before after : List Condition} {c : Condition}
      (unmet : ∀ b ∈ before, b.holds f = .ok false) (here : Reaches f names c) :
      Reaches f names (.anyOf (before ++ c :: after))

namespace Condition

section
variable {f : Field} {names : List String}

mutual

theorem reaches_of_holds : ∀ {c : Condition},
    c.holds f = .error (.unknownOperator names) → c.Reaches f names
  | .startsWith head, h => by
    unfold holds at h
    split at h <;> cases h
  | .isMissing expected, h => by
    unfold holds at h
    cases h
  | .unknown others, h => by
    rw [holds] at h
    cases h
    exact .unknown
  | .anyOf options, h => by
    rw [holds] at h
    obtain ⟨before, c, after, rfl, hunmet, hc⟩ := reaches_of_holdsAny h
    exact .anyOf hunmet hc
  | .equals v, h => by
    rw [holds] at h
    cases h

theorem reaches_of_holdsAny : ∀ {cs : List Condition},
    holdsAny f cs = .error (.unknownOperator names) →
      ∃ before c after, cs = before ++ c :: after ∧ (∀ b ∈ before, b.holds f = .ok false) ∧
        c.Reaches f names
  | [], h => by
    rw [holdsAny] at h
    cases h
  | c :: rest, h => by
    rw [holdsAny] at h
    split at h
    · rename_i e hc
      cases h
      exact ⟨[], c, rest, rfl, fun _ hb => absurd hb List.not_mem_nil, reaches_of_holds hc⟩
    · cases h
    · rename_i hc
      obtain ⟨before, c', after, rfl, hunmet, hc'⟩ := reaches_of_holdsAny h
      exact ⟨c :: before, c', after, rfl, List.forall_mem_cons.mpr ⟨hc, hunmet⟩, hc'⟩

end

theorem holdsAny_append {before after : List Condition} {c : Condition}
    (hunmet : ∀ b ∈ before, b.holds f = .ok false) {e : Fault} (hc : c.holds f = .error e) :
    holdsAny f (before ++ c :: after) = .error e := by
  induction before with
  | nil => rw [List.nil_append, holdsAny, hc]
  | cons b rest ih =>
    obtain ⟨hb, hrest⟩ := List.forall_mem_cons.mp hunmet
    rw [List.cons_append, holdsAny, hb]
    exact ih hrest

/-- Checking a condition fails just where the field comes to an operator that does not exist. -/
theorem holds_eq_error_iff {c : Condition} {e : Fault} :
    c.holds f = .error e ↔ ∃ names, e = .unknownOperator names ∧ c.Reaches f names := by
  constructor
  · intro h
    obtain ⟨names, rfl⟩ := holds_error h
    exact ⟨names, rfl, reaches_of_holds h⟩
  · rintro ⟨names, rfl, hreaches⟩
    induction hreaches with
    | unknown => rw [holds]
    | anyOf hunmet _ ih =>
      rw [holds]
      exact holdsAny_append hunmet ih

end

end Condition

/-! ## Queries -/

namespace Query

/-- A doclet comes to an operator that does not exist: in one condition of the query, after those
that it meets. -/
def Reaches (d : Doclet) (names : List String) (q : Query) : Prop :=
  ∃ before name c after, q = before ++ (name, c) :: after ∧
    (∀ p ∈ before, p.2.holds (d.field p.1) = .ok true) ∧ c.Reaches (d.field name) names

section
variable {q : Query} {d : Doclet} {ds : List Doclet}

theorem accepts_eq_error_iff {e : Fault} :
    q.accepts d = .error e ↔ ∃ names, e = .unknownOperator names ∧ q.Reaches d names := by
  induction q with
  | nil =>
    refine ⟨fun h => (by cases h), ?_⟩
    rintro ⟨names, -, before, name, c, after, hq, -⟩
    exact absurd hq.symm (by simp)
  | cons p rest ih =>
    obtain ⟨name, c⟩ := p
    rw [accepts]
    constructor
    · intro h
      split at h
      · rename_i hc
        cases h
        obtain ⟨names, rfl, hreaches⟩ := Condition.holds_eq_error_iff.mp hc
        exact ⟨names, rfl, [], name, c, rest, rfl, fun _ hp => absurd hp List.not_mem_nil, hreaches⟩
      · cases h
      · rename_i hc
        obtain ⟨names, rfl, before, name', c', after, rfl, hmet, hreaches⟩ := ih.mp h
        exact ⟨names, rfl, (name, c) :: before, name', c', after, rfl,
          List.forall_mem_cons.mpr ⟨hc, hmet⟩, hreaches⟩
    · rintro ⟨names, rfl, before, name', c', after, hq, hmet, hreaches⟩
      rcases List.cons_eq_append_iff.mp hq with ⟨rfl, htail⟩ | ⟨met, rfl, hrest⟩
      · obtain ⟨hp, -⟩ := List.cons.inj htail
        cases hp
        rw [Condition.holds_eq_error_iff.mpr ⟨names, rfl, hreaches⟩]
      · obtain ⟨hc, hmet⟩ := List.forall_mem_cons.mp hmet
        rw [hc]
        exact ih.mpr ⟨names, rfl, met, name', c', after, hrest, hmet, hreaches⟩

/-- A query fails on doclets just where one of them comes to an operator that does not exist. -/
theorem select_fails_iff :
    (∃ e, q.select ds = .error e) ↔ ∃ d ∈ ds, ∃ names, q.Reaches d names := by
  induction ds with
  | nil => simp [select]
  | cons d rest ih =>
    rw [List.exists_mem_cons_iff, ← ih, select]
    cases hd : q.accepts d with
    | error e =>
      obtain ⟨names, -, hreaches⟩ := accepts_eq_error_iff.mp hd
      exact iff_of_true ⟨e, rfl⟩ (.inl ⟨names, hreaches⟩)
    | ok keep =>
      have hnone : ¬∃ names, q.Reaches d names := by
        rintro ⟨names, hreaches⟩
        rw [accepts_eq_error_iff.mpr ⟨names, rfl, hreaches⟩] at hd
        cases hd
      rw [or_iff_right hnone]
      cases q.select rest <;> simp

end

end Query

/-! ## Details -/

/-- The doclets that may be listed under a symbol. -/
def Store.detailCandidates (s : Store) (longname : String) : List Doclet :=
  s.find fun d => ["member", "function"].contains d.kind && d.memberof == some longname

namespace NavGroup

/-- The details under a longname are wanted, and one of them comes to an operator of the filter that
does not exist. -/
def DetailsFail (s : Store) (settings : Settings) (longname : String) : Prop :=
  settings.showDetails = true ∧ ∃ filter, settings.detailsFilter = some filter ∧
    ∃ m ∈ s.detailCandidates longname, ∃ names, (Query.ofFields filter).Reaches m names

section
variable {s : Store} {settings : Settings} {link : LinkMaker} {g g' : NavGroup}
  {state state' : NavState}

theorem shownDetails_fails_iff {r : Registry} {longname : String} :
    (∃ e, shownDetails s settings r longname = .error e) ↔ DetailsFail s settings longname := by
  unfold shownDetails DetailsFail
  by_cases hshow : settings.showDetails = true
  · rw [if_pos hshow, and_iff_right hshow]
    unfold detailsOf
    cases hfilter : settings.detailsFilter with
    | none => simp [Query.selectOf]
    | some filter =>
      have hsome : (∃ found, some filter = some found ∧
          ∃ m ∈ s.detailCandidates longname, ∃ names, (Query.ofFields found).Reaches m names) ↔
          ∃ m ∈ s.detailCandidates longname, ∃ names, (Query.ofFields filter).Reaches m names := by
        simp
      rw [hsome, ← Query.select_fails_iff]
      dsimp only [Option.map_some, Query.selectOf]
      rw [Store.detailCandidates]
      cases (Query.ofFields filter).select _ <;> simp
  · simp [hshow]

/-- An entry that joins a tree adds no longname whose details fail. -/
theorem Added.seen_succeed {entry : NavEntry} (h : Added s settings link g state entry g' state')
    (hseen : ∀ l ∈ state.seen, ¬DetailsFail s settings l) :
    ∀ l ∈ state'.seen, ¬DetailsFail s settings l := by
  cases h with
  | named _ _ => exact hseen
  | seen _ _ => exact hseen
  | listed _ _ hdetails =>
    intro l hl
    rcases List.mem_append.mp hl with hl | hl
    · exact hseen l hl
    · rw [List.mem_singleton.mp hl]
      intro hfail
      obtain ⟨e, he⟩ := shownDetails_fails_iff.mpr hfail
      rw [hdetails] at he
      cases he

/-- An entry fails to join a tree just where its details do. -/
theorem addEntry_fails_iff (link : LinkMaker) (g : NavGroup) (entry : NavEntry)
    (hseen : ∀ l ∈ state.seen, ¬DetailsFail s settings l) :
    (∃ e, addEntry s settings link g state entry = .error e) ↔
      ∃ d, entry = .symbol d ∧ d.longnameOrEmpty ≠ "" ∧
        DetailsFail s settings d.longnameOrEmpty := by
  constructor
  · rintro ⟨e, h⟩
    unfold addEntry at h
    split at h
    · cases h
    · rename_i d
      dsimp only at h
      split at h
      · cases h
      · rename_i hne
        split at h
        · cases h
        · split at h
          · rename_i hdetails
            exact ⟨d, rfl, fun he => hne (beq_iff_eq.mpr he),
              shownDetails_fails_iff.mp ⟨_, hdetails⟩⟩
          · cases h
  · rintro ⟨d, rfl, hne, hfail⟩
    cases h : addEntry s settings link g state (.symbol d) with
    | error e => exact ⟨e, rfl⟩
    | ok p =>
      obtain ⟨g', state'⟩ := p
      exfalso
      cases addEntry_ok h with
      | named _ hempty => exact hne hempty
      | seen _ hmem => exact hseen _ hmem hfail
      | listed _ _ hdetails =>
        obtain ⟨e, he⟩ := shownDetails_fails_iff.mpr hfail
        rw [hdetails] at he
        cases he

/-- Adding entries fails just where the details of one of them do; else none of the longnames that
are seen by then has details that fail. -/
theorem addEntries_fails_iff (link : LinkMaker) (g : NavGroup) (entries : List NavEntry)
    (state : NavState) (hseen : ∀ l ∈ state.seen, ¬DetailsFail s settings l) :
    ((∃ e, addEntries s settings link g state entries = .error e) ↔
      ∃ d, .symbol d ∈ entries ∧ d.longnameOrEmpty ≠ "" ∧
        DetailsFail s settings d.longnameOrEmpty) ∧
    ∀ g' state', addEntries s settings link g state entries = .ok (g', state') →
      ∀ l ∈ state'.seen, ¬DetailsFail s settings l := by
  induction entries generalizing g state with
  | nil =>
    refine ⟨by simp [addEntries], fun g' state' h => ?_⟩
    cases h
    exact hseen
  | cons entry rest ih =>
    have hentry := addEntry_fails_iff link g entry hseen
    have hsplit : (∃ d, NavEntry.symbol d ∈ entry :: rest ∧ d.longnameOrEmpty ≠ "" ∧
        DetailsFail s settings d.longnameOrEmpty) ↔
        (∃ d, entry = .symbol d ∧ d.longnameOrEmpty ≠ "" ∧
          DetailsFail s settings d.longnameOrEmpty) ∨
        ∃ d, NavEntry.symbol d ∈ rest ∧ d.longnameOrEmpty ≠ "" ∧
          DetailsFail s settings d.longnameOrEmpty := by
      simp only [List.mem_cons, or_and_right, exists_or, eq_comm]
    rw [hsplit, ← hentry, addEntries]
    cases hadd : addEntry s settings link g state entry with
    | error e => exact ⟨iff_of_true ⟨e, rfl⟩ (.inl ⟨e, rfl⟩), fun _ _ h => (by cases h)⟩
    | ok p =>
      obtain ⟨g₁, state₁⟩ := p
      obtain ⟨hfails, hlater⟩ := ih g₁ state₁ ((addEntry_ok hadd).seen_succeed hseen)
      refine ⟨?_, hlater⟩
      rw [← hfails]
      simp

end

end NavGroup

/-! ## The sidebar -/

namespace Sidebar
open NavGroup (DetailsFail)

section
variable {s : Store} {settings : Settings} {tutorials : List Tutorial}

/-- A section lists the longname of a doclet whose details fail. -/
def SectionFails (s : Store) (settings : Settings) (tutorials : List Tutorial)
    (section_ : Section) : Prop :=
  ∃ d, .symbol d ∈ entriesOf s tutorials section_ ∧ d.longnameOrEmpty ≠ "" ∧
    DetailsFail s settings d.longnameOrEmpty

theorem buildTrees_fails_iff (state : NavState) (sections : List Section)
    (hseen : ∀ l ∈ state.seen, ¬DetailsFail s settings l) :
    (∃ e, buildTrees s settings tutorials state sections = .error e) ↔
      ∃ section_ ∈ sections, SectionFails s settings tutorials section_ := by
  induction sections generalizing state with
  | nil => simp [buildTrees]
  | cons section_ rest ih =>
    have hstart : ∀ l ∈ (if claims section_ then state.seen else []),
        ¬DetailsFail s settings l := by
      intro l hl
      split at hl
      · exact hseen l hl
      · cases hl
    obtain ⟨hfails, hlater⟩ := NavGroup.addEntries_fails_iff (linkOf section_)
      { heading := section_.title } (entriesOf s tutorials section_)
      ⟨state.registry, if claims section_ then state.seen else []⟩ hstart
    rw [List.exists_mem_cons_iff, SectionFails, ← hfails, buildTrees]
    dsimp only [NavGroup.build]
    cases hbuild : NavGroup.addEntries s settings (linkOf section_) { heading := section_.title }
        ⟨state.registry, if claims section_ then state.seen else []⟩
        (entriesOf s tutorials section_) with
    | error e => exact iff_of_true ⟨e, rfl⟩ (.inl ⟨e, rfl⟩)
    | ok p =>
      obtain ⟨tree, after⟩ := p
      have hnext : ∀ l ∈ (if claims section_ then after.seen else state.seen),
          ¬DetailsFail s settings l := by
        intro l hl
        split at hl
        · exact hlater tree after hbuild l hl
        · exact hseen l hl
      rw [← ih ⟨after.registry, if claims section_ then after.seen else state.seen⟩ hnext]
      dsimp only
      cases buildTrees s settings tutorials
        ⟨after.registry, if claims section_ then after.seen else state.seen⟩ rest <;> simp

/-- There is no sidebar just where a section lists a symbol with a member that comes to an operator
that does not exist. The order of the sections makes no difference, nor do those that are not
shown. -/
theorem render_fails_iff {r : Registry} :
    (∃ e, render s settings tutorials r = .error e) ↔
      ∃ section_, SectionFails s settings tutorials section_ := by
  have hall : ∀ section_, section_ ∈ Section.all := by
    intro section_
    cases section_ <;> decide
  have hnone : ∀ l ∈ (⟨r, []⟩ : NavState).seen, ¬DetailsFail s settings l :=
    fun _ hl => absurd hl List.not_mem_nil
  have hbuild : (∃ e, buildTrees s settings tutorials ⟨r, []⟩ Section.all = .error e) ↔
      ∃ section_ ∈ Section.all, SectionFails s settings tutorials section_ :=
    buildTrees_fails_iff ⟨r, []⟩ Section.all hnone
  have hevery : (∃ section_ ∈ Section.all, SectionFails s settings tutorials section_) ↔
      ∃ section_, SectionFails s settings tutorials section_ :=
    ⟨fun ⟨section_, _, h⟩ => ⟨section_, h⟩, fun ⟨section_, h⟩ => ⟨section_, hall section_, h⟩⟩
  rw [← hevery, ← hbuild, render]
  cases buildTrees s settings tutorials ⟨r, []⟩ Section.all <;> simp

end

end Sidebar
end DocSite
