import DocSite.Publish.Site
import Mathlib.Data.List.Forall2

/-! Names without their quotes. Quotes are taken off the name and the longname of every doclet, but
doclets go on referring to each other by the longnames of before: as the container that a doclet
names and as what an event has noted of its listeners. Such a reference holds on just where the rule
leaves the longname as it is. -/
namespace DocSite
set_option autoImplicit false

/-! ## What a rule leaves -/

/-- Whether a rule has nothing to take off a name. A pair of equal quotes around the name is one
also when a line feed follows it. -/
def QuoteRule.Leaves : QuoteRule → String → Prop
  | all, name => ∀ c ∈ name.toList, isQuote c = false
  | trim, name => ∀ q inner after, isQuote q = true → after = [] ∨ after = ['\n'] →
      name.toList ≠ q :: (inner ++ q :: after)

theorem filter_quotes_eq_self_iff {cs : List Char} :
    cs.filter (!isQuote ·) = cs ↔ ∀ c ∈ cs, isQuote c = false := by
  simp [List.filter_eq_self]

theorem trimQuotes_eq_self_iff {cs : List Char} :
    trimQuotes cs = cs ↔ ∀ q inner after, isQuote q = true → after = [] ∨ after = ['\n'] →
      cs ≠ q :: (inner ++ q :: after) := by
  constructor
  · rintro htrim q inner after hq hafter rfl
    have hshorter : (trimQuotes (q :: (inner ++ q :: after))).length <
        (q :: (inner ++ q :: after)).length := by
      rcases hafter with rfl | rfl
      · rw [trimQuotes, if_neg (by simp [hq]), if_pos (by simp), List.dropLast_concat]
        simp only [List.length_cons, List.length_append]
        omega
      · have hne : '\n' ≠ q := by
          rintro rfl
          revert hq
          decide
        have hlast : (inner ++ [q, '\n']).dropLast = inner ++ [q] := by
          rw [List.append_cons, List.dropLast_concat]
        simp [trimQuotes, hq, hne, hlast]
    rw [htrim] at hshorter
    exact Nat.lt_irrefl _ hshorter
  · intro hnone
    cases cs with
    | nil => rfl
    | cons q rest =>
      rw [trimQuotes]
      by_cases hq : isQuote q = true
      · rw [if_neg (by simp [hq]), if_neg, if_neg]
        · intro hfeed
          simp only [Bool.and_eq_true, beq_iff_eq] at hfeed
          obtain ⟨hlast, hquote⟩ := hfeed
          refine hnone q rest.dropLast.dropLast ['\n'] hq (.inr rfl) ?_
          rw [List.append_cons, List.dropLast_append_getLast? q hquote,
            List.dropLast_append_getLast? '\n' hlast]
        · intro hlast
          refine hnone q rest.dropLast [] hq (.inl rfl) ?_
          rw [List.dropLast_append_getLast? q (by simpa using hlast)]
      · rw [if_pos (by simp [hq])]

/-- A rule changes the names that it does not leave. -/
theorem QuoteRule.apply_eq_self_iff {rule : QuoteRule} {name : String} :
    rule.apply name = name ↔ rule.Leaves name := by
  have hchars : rule.apply name = name ↔ rule.applyChars name.toList = name.toList := by
    rw [apply]
    constructor
    · intro h
      rw [← String.toList_ofList (l := rule.applyChars name.toList), h]
    · intro h
      rw [h, String.ofList_toList]
  rw [hchars]
  cases rule with
  | all => exact filter_quotes_eq_self_iff
  | trim => exact trimQuotes_eq_self_iff

instance QuoteRule.decidableLeaves (rule : QuoteRule) (name : String) :
    Decidable (rule.Leaves name) :=
  decidable_of_iff _ apply_eq_self_iff

theorem QuoteRule.apply_empty (rule : QuoteRule) : rule.apply "" = "" := by
  cases rule <;> rfl

/-- A name after the quotes are taken off that the settings want off. -/
def Settings.renamed (settings : Settings) (name : String) : String :=
  match settings.quoteRule with
  | some rule => rule.apply name
  | none => name

/-- Whether the settings keep a name as it is. -/
def Settings.Leaves (settings : Settings) (name : String) : Prop :=
  ∀ rule ∈ settings.quoteRule, rule.Leaves name

theorem Settings.renamed_eq_self_iff {settings : Settings} {name : String} :
    settings.renamed name = name ↔ settings.Leaves name := by
  unfold renamed Leaves
  cases settings.quoteRule with
  | none => simp
  | some rule => simpa using QuoteRule.apply_eq_self_iff

/-! ## One renaming of all doclets -/

/-- What normalizing makes of a doclet: another name and longname, while all that refers to other
doclets stays. -/
structure Doclet.RenamedFrom (settings : Settings) (before after : Doclet) : Prop where
  name : after.name = settings.renamed before.name
  longname : after.longname = before.longname.map settings.renamed
  memberof : after.memberof = before.memberof
  listeners : after.listeners = before.listeners

namespace Site

theorem normalizeAll_forall₂ (r : Registry) (ds : List Doclet) :
    List.Forall₂ (fun d d' => ∃ examples see, d' = { d with examples := examples, see := see })
      ds (normalizeAll r ds).1 := by
  induction ds generalizing r with
  | nil => exact .nil
  | cons d rest ih => exact .cons ⟨_, _, rfl⟩ (ih _)

/-- A run starts with the prepared doclets, in their order, each renamed. -/
theorem renamedFrom_start (settings : Settings) (store : Store) (files : FileTree) (out : Path) :
    List.Forall₂ (Doclet.RenamedFrom settings) (prepareStore settings store).doclets
      (start settings store files out).store.doclets := by
  unfold start normalize
  dsimp only
  cases hrule : settings.quoteRule with
  | none =>
    refine (normalizeAll_forall₂ _ _).imp ?_
    rintro d d' ⟨examples, see, rfl⟩
    have hsame : settings.renamed = id := by
      funext name
      rw [Settings.renamed, hrule, id]
    exact ⟨by rw [hsame, id], by rw [hsame, Option.map_id, id], rfl, rfl⟩
  | some rule =>
    refine (List.forall₂_map_left_iff.mp (normalizeAll_forall₂ _ _)).imp ?_
    rintro d d' ⟨examples, see, rfl⟩
    have happly : settings.renamed = rule.apply := by
      funext name
      rw [Settings.renamed, hrule]
    refine ⟨by rw [happly]; rfl, ?_, rfl, rfl⟩
    rw [happly]
    refine congrArg (d.longname.map ·) (funext fun l => ?_)
    by_cases hl : l = ""
    · rw [hl, rule.apply_empty]
      rfl
    · simp [hl]

end Site

/-! ## References by longname -/

/-- Whether an event notes who listens to it. -/
def Doclet.notesListeners (e : Doclet) : Bool := e.kind == "event" && e.longnameOrEmpty != ""

/-- Whether a doclet with a longname listens to an event. -/
def Doclet.hears (d e : Doclet) : Bool :=
  d.listens.contains e.longnameOrEmpty && d.longnameOrEmpty != ""

/-- A longname by which doclets refer to a doclet: one of them names it as its container, or an
event has noted it. -/
def IsReferredTo (ds : List Doclet) (l : String) : Prop :=
  (∃ d ∈ ds, ∃ p ∈ ds, d.memberof = some l ∧ p.longname = some l) ∨
  ∃ e ∈ ds, e.notesListeners = true ∧ ∃ d ∈ ds, d.hears e = true ∧ d.longname = some l

/-- What the doclets referred to before, they refer to afterwards: who names the longname of a
doclet as its container still names it, and what an event has noted are still the longnames of the
doclets that they stood for. -/
structure KeepsReferences (before after : List Doclet) : Prop where
  memberof : ∀ d ∈ before.zip after, ∀ p ∈ before.zip after,
    d.1.memberof = p.1.longname → d.2.memberof = p.2.longname
  listeners : ∀ e ∈ before.zip after, e.1.notesListeners = true →
    e.2.listeners =
      ((before.zip after).filter (·.1.hears e.1)).map (·.2.longnameOrEmpty)

theorem filter_longnames (ds : List Doclet) :
    (ds.filterMap (·.longname)).filter (· != "") =
      (ds.filter (·.longnameOrEmpty != "")).map (·.longnameOrEmpty) := by
  induction ds with
  | nil => rfl
  | cons d rest ih =>
    cases hl : d.longname with
    | none => simp [hl, Doclet.longnameOrEmpty, ih]
    | some l => by_cases hne : l = "" <;> simp [hl, hne, Doclet.longnameOrEmpty, ih]

theorem Store.listenersOf_eq (s : Store) (e : Doclet) :
    s.listenersOf e.longnameOrEmpty = (s.doclets.filter (·.hears e)).map (·.longnameOrEmpty) := by
  rw [listenersOf, filter_longnames, find, List.filter_filter]
  refine congrArg _ (List.filter_congr fun d _ => ?_)
  rw [Doclet.hears, Bool.and_comm]

/-- An event notes the longnames of all that listen to it, in the order of the store. -/
theorem Store.listeners_addListeners (s : Store) {e : Doclet} (he : e ∈ s.addListeners.doclets)
    (hnotes : e.notesListeners = true) :
    e.listeners = (s.addListeners.doclets.filter (·.hears e)).map (·.longnameOrEmpty) := by
  -- Noting listeners changes nothing that decides who listens.
  have hnoted : ∀ d : Doclet, ∃ listeners,
      (if d.kind == "event" && d.longnameOrEmpty != "" then
        { d with listeners := s.listenersOf d.longnameOrEmpty } else d) =
        { d with listeners := listeners } := by
    intro d
    split
    · exact ⟨_, rfl⟩
    · exact ⟨d.listeners, rfl⟩
  obtain ⟨bare, hbare, rfl⟩ := List.mem_map.mp he
  have hevent : (bare.kind == "event" && bare.longnameOrEmpty != "") = true := by
    obtain ⟨_, hbareNoted⟩ := hnoted bare
    rw [hbareNoted] at hnotes
    exact hnotes
  rw [if_pos hevent, addListeners, map, List.filter_map, List.map_map]
  change s.listenersOf bare.longnameOrEmpty = _
  rw [listenersOf_eq]
  have hhears : (s.doclets.filter (·.hears bare)) = s.doclets.filter
      ((fun d => d.hears { bare with listeners := s.listenersOf bare.longnameOrEmpty }) ∘ fun d =>
        if d.kind == "event" && d.longnameOrEmpty != "" then
          { d with listeners := s.listenersOf d.longnameOrEmpty } else d) := by
    refine List.filter_congr fun d _ => ?_
    obtain ⟨_, hd⟩ := hnoted d
    rw [Function.comp_apply, hd]
    rfl
  rw [hhears]
  refine List.map_congr_left fun d _ => ?_
  obtain ⟨_, hd⟩ := hnoted d
  rw [Function.comp_apply, hd]
  rfl

section
variable {settings : Settings} {before after : List Doclet}

/-- A doclet that is referred to is still referred to just where its longname is kept. -/
theorem keepsReferences_iff (h : List.Forall₂ (Doclet.RenamedFrom settings) before after)
    (hnoted : ∀ e ∈ before, e.notesListeners = true →
      e.listeners = (before.filter (·.hears e)).map (·.longnameOrEmpty)) :
    KeepsReferences before after ↔ ∀ l, IsReferredTo before l → settings.Leaves l := by
  obtain ⟨hlength, hpairs⟩ := List.forall₂_iff_zip.mp h
  have hfst : (before.zip after).map Prod.fst = before := List.map_fst_zip (Nat.le_of_eq hlength)
  have hafter : ∀ d ∈ before, ∃ d', (d, d') ∈ before.zip after := by
    intro d hd
    rw [← hfst] at hd
    obtain ⟨⟨_, d'⟩, hp, rfl⟩ := List.mem_map.mp hd
    exact ⟨d', hp⟩
  have hbefore : ∀ {p : Doclet × Doclet}, p ∈ before.zip after → p.1 ∈ before :=
    fun {p} hp => (List.of_mem_zip hp).1
  -- What an event noted are the longnames of before, so they last where these do.
  have hlast : ∀ e ∈ before.zip after, e.1.notesListeners = true →
      (e.2.listeners = ((before.zip after).filter (·.1.hears e.1)).map (·.2.longnameOrEmpty) ↔
        ∀ d ∈ before.zip after, d.1.hears e.1 = true →
          d.1.longnameOrEmpty = d.2.longnameOrEmpty) := by
    intro e he hnotes
    have hentries : e.2.listeners =
        ((before.zip after).filter (·.1.hears e.1)).map (·.1.longnameOrEmpty) := by
      rw [(hpairs he).listeners, hnoted e.1 (hbefore he) hnotes]
      conv_lhs => rw [← hfst]
      rw [List.filter_map, List.map_map]
      rfl
    rw [hentries, List.map_inj_left]
    simp only [List.mem_filter, and_imp]
  have hrenamed : ∀ {p : Doclet × Doclet} {l}, p ∈ before.zip after → p.1.longname = some l →
      p.2.longname = some (settings.renamed l) := by
    intro p l hp hl
    rw [(hpairs hp).longname, hl]
    rfl
  constructor
  · rintro hkeeps l (⟨d, hd, p, hp, hmemberof, hlongname⟩ | ⟨e, he, hnotes, d, hd, hhears, hlongname⟩)
    · obtain ⟨d', hd'⟩ := hafter d hd
      obtain ⟨p', hp'⟩ := hafter p hp
      have hkept := hkeeps.memberof _ hd' _ hp' (hmemberof.trans hlongname.symm)
      rw [(hpairs hd').memberof, hmemberof, hrenamed hp' hlongname] at hkept
      exact Settings.renamed_eq_self_iff.mp (Option.some.inj hkept).symm
    · obtain ⟨d', hd'⟩ := hafter d hd
      obtain ⟨e', he'⟩ := hafter e he
      have hkept := (hlast _ he' hnotes).mp (hkeeps.listeners _ he' hnotes) _ hd' hhears
      rw [Doclet.longnameOrEmpty, Doclet.longnameOrEmpty, hrenamed hd' hlongname, hlongname] at hkept
      exact Settings.renamed_eq_self_iff.mp hkept.symm
  · intro hleaves
    constructor
    · intro d hd p hp hsame
      rw [(hpairs hd).memberof]
      cases hl : p.1.longname with
      | none =>
        rw [hsame, (hpairs hp).longname, hl]
        rfl
      | some l =>
        have hkept := hleaves l (.inl ⟨d.1, hbefore hd, p.1, hbefore hp, hsame.trans hl, hl⟩)
        rw [hsame, hl, hrenamed hp hl, Settings.renamed_eq_self_iff.mpr hkept]
    · intro e he hnotes
      refine (hlast e he hnotes).mpr fun d hd hhears => ?_
      cases hl : d.1.longname with
      | none => simp [Doclet.hears, Doclet.longnameOrEmpty, hl] at hhears
      | some l =>
        have hkept := hleaves l
          (.inr ⟨e.1, hbefore he, hnotes, d.1, hbefore hd, hhears, hl⟩)
        rw [Doclet.longnameOrEmpty, Doclet.longnameOrEmpty, hrenamed hd hl, hl,
          Settings.renamed_eq_self_iff.mpr hkept]

end

namespace Site

/-- Normalizing keeps the references between doclets just where the quote rule of the settings, if
they have one, leaves every longname that is referred to. -/
theorem start_keepsReferences_iff (settings : Settings) (store : Store) (files : FileTree)
    (out : Path) :
    let before := (prepareStore settings store).doclets
    let after := (start settings store files out).store.doclets
    List.Forall₂ (Doclet.RenamedFrom settings) before after ∧
    (∀ e ∈ before, e.notesListeners = true →
      e.listeners = (before.filter (·.hears e)).map (·.longnameOrEmpty)) ∧
    (KeepsReferences before after ↔ ∀ l, IsReferredTo before l → settings.Leaves l) := by
  intro before after
  have hrenamed := renamedFrom_start settings store files out
  have hnoted : ∀ e ∈ before, e.notesListeners = true →
      e.listeners = (before.filter (·.hears e)).map (·.longnameOrEmpty) :=
    fun _ he => Store.listeners_addListeners _ he
  exact ⟨hrenamed, hnoted, keepsReferences_iff hrenamed hnoted⟩

/-- A namespace whose name is in quotes, with a function that listens to an event. -/
def quotedNamespace : Store :=
  ⟨[{ kind := "namespace", name := "\"my-lib\"", longname := some "\"my-lib\"" },
    { position := 1, kind := "event", name := "ready", longname := some "event:ready" },
    { position := 2, kind := "function", name := "run", longname := some "\"my-lib\".run",
      memberof := some "\"my-lib\"", scope := some "static", listens := ["event:ready"] }]⟩

def takingQuotes (rule : QuoteRule) : Settings := { quoteRule := some rule, sorts := false }

theorem quotedNamespace_refers (rule : QuoteRule) :
    IsReferredTo (prepareStore (takingQuotes rule) quotedNamespace).doclets "\"my-lib\"" := by
  refine .inl ?_
  cases rule <;> decide +kernel

theorem not_leaves_quoted (rule : QuoteRule) : ¬(takingQuotes rule).Leaves "\"my-lib\"" := by
  intro hleaves
  have hquoted : ¬rule.Leaves "\"my-lib\"" := by cases rule <;> decide +kernel
  exact hquoted (hleaves rule rfl)

/-- The function loses its namespace when quotes are taken off, by either rule. -/
theorem quotedNamespace_loses_member :
    ¬KeepsReferences (prepareStore (takingQuotes .all) quotedNamespace).doclets
      (start (takingQuotes .all) quotedNamespace ⟨[]⟩ (Path.ofString "out")).store.doclets ∧
    ¬KeepsReferences (prepareStore (takingQuotes .trim) quotedNamespace).doclets
      (start (takingQuotes .trim) quotedNamespace ⟨[]⟩ (Path.ofString "out")).store.doclets := by
  have hloses : ∀ rule, ¬KeepsReferences
      (prepareStore (takingQuotes rule) quotedNamespace).doclets
      (start (takingQuotes rule) quotedNamespace ⟨[]⟩ (Path.ofString "out")).store.doclets := by
    intro rule hkeeps
    obtain ⟨-, -, hiff⟩ := start_keepsReferences_iff (takingQuotes rule) quotedNamespace ⟨[]⟩
      (Path.ofString "out")
    exact not_leaves_quoted rule (hiff.mp hkeeps _ (quotedNamespace_refers rule))
  exact ⟨hloses .all, hloses .trim⟩

end Site
end DocSite
