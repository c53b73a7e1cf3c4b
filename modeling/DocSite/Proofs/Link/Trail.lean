import DocSite.Proofs.Doclet.Unplaced
import DocSite.Proofs.Link.Displayed
import Mathlib.Data.List.Forall2
import Mathlib.Data.List.Induction
import Mathlib.Data.List.Perm.Subperm

/-! The trail of containers above a symbol. From name to name the way up is followed until there is
no name, the name is unknown or it has been passed, so it ends even where containers lie in one
another. The trail is the way from the outer end, a link for each container. -/
namespace DocSite
set_option autoImplicit false

/-! ## The doclet of a longname -/

/-- Of several doclets that bear a longname it stands for the last. -/
def lastNamed (ds : List Doclet) (longname : String) : Option Doclet :=
  (ds.filter fun d => d.longname == some longname).getLast?

theorem Table.get?_ofList {α : Type} (pairs : List (String × α)) (key : String) :
    (ofList pairs).get? key = ((pairs.filter (·.1 == key)).getLast?).map Prod.snd := by
  induction pairs using List.reverseRecOn with
  | nil => rfl
  | append_singleton front p ih =>
    have hlast : ofList (front ++ [p]) = (ofList front).insert p.1 p.2 := by
      simp only [ofList, List.foldl_append, List.foldl_cons, List.foldl_nil]
    rw [hlast, get?_insert, List.filter_append]
    by_cases hkey : p.1 = key
    · simp [hkey]
    · have hother : ¬ key = p.1 := Ne.symm hkey
      simp [hkey, hother, ih]

theorem get?_byLongname (ds : List Doclet) {longname : String} (h : longname ≠ "") :
    (byLongname ds).get? longname = lastNamed ds longname := by
  rw [byLongname, Table.get?_ofList, lastNamed]
  have hpairs : ∀ ds : List Doclet,
      (ds.filterMap fun d => (d.longname.filter (· != "")).map (·, d)).filter (·.1 == longname) =
        (ds.filter fun d => d.longname == some longname).map (longname, ·) := by
    intro ds
    induction ds with
    | nil => rfl
    | cons d rest ih =>
      cases hl : d.longname with
      | none => simp [hl, ih]
      | some l =>
        by_cases he : l = longname
        · subst he
          simp [hl, h, ih]
        · have hother : ¬ (d.longname == some longname) = true := by simp [hl, he]
          rw [List.filter_cons_of_neg (p := fun d : Doclet => d.longname == some longname) hother]
          by_cases hnone : l = "" <;> simp [hl, he, hnone, ih]
  rw [hpairs, List.getLast?_map]
  cases (ds.filter fun d => d.longname == some longname).getLast? <;> rfl

theorem longname_of_lastNamed {ds : List Doclet} {longname : String} {d : Doclet}
    (h : lastNamed ds longname = some d) : d ∈ ds ∧ d.longname = some longname := by
  have hd := List.mem_filter.mp (List.mem_of_getLast? h)
  exact ⟨hd.1, beq_iff_eq.mp hd.2⟩

/-! ## The way up -/

/-- The containers from a name up, each with its name, where some names have been passed. -/
inductive Ascent (known : String → Option Doclet) :
    List String → Option String → List (String × Doclet) → Prop where
  | nameless {passed : List String} {name : Option String} (h : name.getD "" = "") :
      Ascent known passed name []
  | unknown {passed : List String} {name : String} (h : known name = none) :
      Ascent known passed (some name) []
  | passed {passed : List String} {name : String} (h : name ∈ passed) :
      Ascent known passed (some name) []
  | up {passed : List String} {name : String} {d : Doclet} {above : List (String × Doclet)}
      (named : name ≠ "") (new : name ∉ passed) (found : known name = some d)
      (rest : Ascent known (name :: passed) d.memberof above) :
      Ascent known passed (some name) ((name, d) :: above)

section
variable {known known' : String → Option Doclet} {passed : List String} {name : Option String}
  {chain chain' : List (String × Doclet)}

theorem Ascent.unique (h : Ascent known passed name chain) (h' : Ascent known passed name chain') :
    chain = chain' := by
  induction h generalizing chain' with
  | nameless hnone =>
    cases h' with
    | nameless | unknown | passed => rfl
    | up named => exact absurd hnone named
  | unknown hnone =>
    cases h' with
    | nameless | unknown | passed => rfl
    | up _ _ found =>
      rw [hnone] at found
      cases found
  | passed hpassed =>
    cases h' with
    | nameless | unknown | passed => rfl
    | up _ new => exact absurd hpassed new
  | up named new found _ ih =>
    cases h' with
    | nameless hnone => exact absurd hnone named
    | unknown hnone =>
      rw [hnone] at found
      cases found
    | passed hpassed => exact absurd hpassed new
    | up _ _ found' rest' =>
      rw [found] at found'
      cases found'
      rw [ih rest']

/-- No name is passed twice. -/
theorem Ascent.nodup (h : Ascent known passed name chain) :
    (chain.map Prod.fst).Nodup ∧ ∀ l ∈ chain.map Prod.fst, l ∉ passed := by
  induction h with
  | nameless | unknown | passed => simp
  | @up passed name d above _ new _ _ ih =>
    obtain ⟨hnodup, hnew⟩ := ih
    rw [List.map_cons, List.nodup_cons, List.forall_mem_cons]
    refine ⟨⟨fun hm => hnew name hm List.mem_cons_self, hnodup⟩, new, fun l hl hm => ?_⟩
    exact hnew l hl (List.mem_cons_of_mem _ hm)

theorem Ascent.found (h : Ascent known passed name chain) :
    ∀ p ∈ chain, p.1 ≠ "" ∧ known p.1 = some p.2 := by
  induction h with
  | nameless | unknown | passed => simp
  | up named _ found _ ih => exact List.forall_mem_cons.mpr ⟨⟨named, found⟩, ih⟩

/-- The way up asks for names that are not empty alone. -/
theorem Ascent.congr (h : Ascent known passed name chain)
    (hknown : ∀ l, l ≠ "" → known l = known' l) : Ascent known' passed name chain := by
  induction h with
  | nameless hnone => exact .nameless hnone
  | @unknown passed name hnone =>
    by_cases hname : name = ""
    · exact .nameless hname
    · exact .unknown (hknown name hname ▸ hnone)
  | passed hpassed => exact .passed hpassed
  | up named new found _ ih => exact .up named new (hknown _ named ▸ found) ih

end

/-- A table without the names that have been passed. -/
def remaining (passed : List String) (table : List (String × Doclet)) : List (String × Doclet) :=
  table.filter fun p => !passed.contains p.1

theorem without_remaining (name : String) (passed : List String)
    (table : List (String × Doclet)) :
    Table.without name (remaining passed table) = remaining (name :: passed) table := by
  rw [Table.without, remaining, remaining, List.filter_filter]
  refine List.filter_congr fun p _ => ?_
  by_cases hp : p.1 = name <;> simp [hp]

theorem lookup_remaining (passed : List String) (table : List (String × Doclet)) (name : String) :
    (remaining passed table).lookup name = if name ∈ passed then none else table.lookup name := by
  induction table with
  | nil => simp [remaining]
  | cons p rest ih =>
    obtain ⟨key, d⟩ := p
    rw [remaining] at ih ⊢
    by_cases hkey : key ∈ passed
    · rw [List.filter_cons_of_neg (by simp [hkey]), ih]
      by_cases hname : name ∈ passed
      · simp [hname]
      · have hother : (name == key) = false := beq_eq_false_iff_ne.mpr fun e => hname (e ▸ hkey)
        rw [List.lookup_cons, hother]
    · rw [List.filter_cons_of_pos (by simp [hkey]), List.lookup_cons, List.lookup_cons, ih]
      by_cases hname : name = key
      · simp [hname, hkey]
      · have hother : (name == key) = false := beq_eq_false_iff_ne.mpr hname
        rw [hother]

/-- Taking each container out of the table as it is passed is following the way up. -/
theorem ascent_containersOf (table : List (String × Doclet)) (passed : List String)
    (name : Option String) :
    ∃ chain, Ascent (fun l => table.lookup l) passed name chain ∧
      containersOf (remaining passed table) name = chain.map Prod.snd := by
  induction hn : (remaining passed table).length using Nat.strongRecOn
    generalizing passed name with
  | ind n ih =>
    subst hn
    cases hname : name.filter (· != "") with
    | none =>
      refine ⟨[], .nameless ?_, by rw [containersOf_of_none hname]; rfl⟩
      cases name with
      | none => rfl
      | some l => simpa using hname
    | some l =>
      obtain ⟨rfl, hne⟩ : name = some l ∧ l ≠ "" := by
        simpa [Option.filter_eq_some_iff] using hname
      cases hl : (remaining passed table).lookup l with
      | none =>
        refine ⟨[], ?_, by rw [containersOf_of_unknown hname hl]; rfl⟩
        by_cases hpassed : l ∈ passed
        · exact .passed hpassed
        · rw [lookup_remaining, if_neg hpassed] at hl
          exact .unknown hl
      | some d =>
        have hshorter := Table.length_without_lt_of_lookup hl
        have hrest := containersOf_of_known hname hl
        rw [without_remaining] at hshorter hrest
        obtain ⟨above, hascent, habove⟩ := ih _ hshorter (l :: passed) d.memberof rfl
        have hnew : l ∉ passed := by
          intro hpassed
          rw [lookup_remaining, if_pos hpassed] at hl
          cases hl
        rw [lookup_remaining, if_neg hnew] at hl
        exact ⟨(l, d) :: above, .up hne hnew hl hascent, by rw [hrest, habove]; rfl⟩

/-! ## The links of a trail -/

/-- What a container is called in a trail: by its name after the mark of its scope or, where both
are empty, by its longname, which stands without brackets if it is an address. -/
def trailLabel (longname : String) (d : Doclet) : String :=
  if Doclet.scopeMark d.scope ++ d.name ≠ "" then Doclet.scopeMark d.scope ++ d.name
  else if Address.isExternal (Registry.withoutBrackets longname) then
    Registry.withoutBrackets longname
  else longname

/-- The markup of a container in a trail. -/
inductive IsTrailLink (r : Registry) (longname : String) (d : Doclet) (h : Html) : Prop where
  /-- A longname that is an address of its own leads there. -/
  | address (external : Address.isExternal (Registry.withoutBrackets longname) = true)
      (markup : h.markup = anchorText (Registry.withoutBrackets longname) ""
        (Html.text (trailLabel longname d)).markup)
  | symbol {url : String}
      (internal : Address.isExternal (Registry.withoutBrackets longname) = false)
      (found : r.url? longname = some url) (ne : url ≠ "")
      (markup : h.markup = anchorText (Text.addressEncoded url) ""
        (Html.text (trailLabel longname d)).markup)
  /-- A longname without an address is not linked. -/
  | bare (unlinked : ¬ r.HasAddress longname) (text : h = .text (trailLabel longname d))

section
variable {r : Registry} {longname : String} {d : Doclet} {h : Html}

theorem text_or_text (s t : String) :
    (if (Html.text s).isEmpty then Html.text t else .text s) =
      .text (if s ≠ "" then s else t) := by
  by_cases hs : s = ""
  · have hempty : (Html.text s).isEmpty = true := by rw [hs]; rfl
    rw [if_pos hempty, if_neg (not_not.mpr hs)]
  · rw [Html.isEmpty_text hs, if_pos hs]
    rfl

theorem isTrailLink_trailLink (hl : d.longname = some longname) :
    IsTrailLink r longname d (trailLink r d) := by
  have hlabel : trailLabel longname d =
      if Doclet.scopeMark d.scope ++ d.name ≠ "" then Doclet.scopeMark d.scope ++ d.name
      else if Address.isExternal (Registry.withoutBrackets longname) then
        Registry.withoutBrackets longname
      else longname := rfl
  rw [trailLink, hl]
  by_cases hx : Address.isExternal (Registry.withoutBrackets longname) = true
  · refine .address hx ?_
    rw [if_pos hx] at hlabel
    rw [Registry.linkTo, Registry.linkWith_of_external hx, Registry.markup_anchorWith, text_or_text,
      hlabel]
    rfl
  · rw [if_neg hx] at hlabel
    have hx : Address.isExternal (Registry.withoutBrackets longname) = false :=
      Bool.eq_false_iff.mpr hx
    by_cases hu : ∃ url, r.url? longname = some url ∧ url ≠ ""
    · obtain ⟨url, hu, hne⟩ := hu
      refine .symbol hx hu hne ?_
      rw [Registry.linkTo, Registry.linkWith_of_known hx hu hne, Html.leadingTo,
        Registry.markup_anchorWith, text_or_text, hlabel]
      rfl
    · have hunlinked : ¬ r.HasAddress longname := not_or.mpr ⟨by simp [hx], hu⟩
      have hnone : ((some longname).bind r.url?).filter (· != "") = none := by
        rw [Option.filter_eq_none_iff]
        intro url hurl
        simpa using fun hne => hu ⟨url, hurl, hne⟩
      refine .bare hunlinked ?_
      rw [hlabel, ← text_or_text, Registry.linkTo, Registry.linkWith]
      dsimp only
      rw [hnone]
      exact if_neg (Bool.eq_false_iff.mp hx)

/-- The vocabulary of trails: links around any texts. -/
def trailVocabulary : Vocabulary := ⟨["a"], fun _ => True, fun name _ => name = "href"⟩

theorem IsTrailLink.displays (hd : IsTrailLink r longname d h) :
    h.Displays trailVocabulary (trailLabel longname d) := by
  have hlinks : trailVocabulary.HasLinks := ⟨by simp [trailVocabulary], fun _ => rfl⟩
  have htext : (Html.text (trailLabel longname d)).Displays trailVocabulary
      (trailLabel longname d) := Html.displays_text trivial
  cases hd with
  | address _ markup => exact Html.displays_anchorText hlinks markup htext
  | symbol _ _ _ markup => exact Html.displays_anchorText hlinks markup htext
  | bare _ text => rwa [text]

end

theorem appendToLast_concat (mark : Html) (front : List Html) (last : Html) :
    appendToLast mark (front ++ [last]) = front ++ [last ++ mark] := by
  induction front with
  | nil => rfl
  | cons first rest ih =>
    cases rest with
    | nil => rfl
    | cons next rest =>
      rw [List.cons_append, List.cons_append, appendToLast, ← List.cons_append, ih]
      · rfl
      · exact fun hnil => by simp at hnil

/-- The trail of a doclet is the way up from its container, which is followed in one way only and
passes no longname twice. Each container on it has a link with its label, outermost first, and the
mark of the doclet's own scope follows the last one. -/
theorem ancestorLinks_follow_chain (ds : List Doclet) (r : Registry) (d : Doclet) :
    ∃ chain : List (String × Doclet), ∃ links : List Html,
      (∀ c, Ascent (lastNamed ds) [] d.memberof c ↔ c = chain) ∧
      (chain.map Prod.fst).Nodup ∧ chain.length ≤ ds.length ∧
      List.Forall₂ (fun p h => IsTrailLink r p.1 p.2 h ∧
        Html.visible h.markup = trailLabel p.1 p.2) chain links ∧
      (links = [] → ancestorLinks (byLongname ds) r d = []) ∧
      ∀ nearest above, links = nearest :: above → ancestorLinks (byLongname ds) r d =
        above.reverse ++ [nearest ++ .text (Doclet.scopeMark d.scope)] := by
  have hall : remaining [] (byLongname ds).entries = (byLongname ds).entries :=
    List.filter_eq_self.mpr fun _ _ => rfl
  obtain ⟨chain, hchain, hcontainers⟩ := ascent_containersOf (byLongname ds).entries [] d.memberof
  rw [hall] at hcontainers
  have hascent : Ascent (lastNamed ds) [] d.memberof chain :=
    hchain.congr fun l hl => get?_byLongname ds hl
  have hlongname : ∀ p ∈ chain, p.2 ∈ ds ∧ p.2.longname = some p.1 := fun p hp =>
    longname_of_lastNamed (hascent.found p hp).2
  have htrail : ancestorLinks (byLongname ds) r d =
      appendToLast (.text (Doclet.scopeMark d.scope))
        (chain.map fun p => trailLink r p.2).reverse := by
    simp only [ancestorLinks, hcontainers, ← List.map_reverse, List.map_map, Function.comp_def]
  refine ⟨chain, chain.map fun p => trailLink r p.2,
    fun c => ⟨fun hc => hc.unique hascent, fun hc => hc ▸ hascent⟩, hascent.nodup.1, ?_, ?_,
    fun hnone => ?_, fun nearest above hlinks => ?_⟩
  · -- The longnames on the way are different and those of doclets.
    have hsub : chain.map Prod.fst ⊆ ds.filterMap Doclet.longname := by
      intro l hl
      obtain ⟨p, hp, rfl⟩ := List.mem_map.mp hl
      exact List.mem_filterMap.mpr ⟨p.2, hlongname p hp⟩
    have hle := (hascent.nodup.1.subperm hsub).length_le
    have hfew := List.length_filterMap_le Doclet.longname ds
    rw [List.length_map] at hle
    omega
  · rw [List.forall₂_map_right_iff, List.forall₂_same]
    intro p hp
    have hlink : IsTrailLink r p.1 p.2 (trailLink r p.2) := isTrailLink_trailLink (hlongname p hp).2
    exact ⟨hlink, hlink.displays.visible (by decide)⟩
  · rw [htrail, hnone]
    rfl
  · rw [htrail, hlinks, List.reverse_cons, appendToLast_concat]

/-- A namespace without a name. -/
def namelessSpace : Doclet := { kind := "namespace", longname := some "A" }

def staticFunction : Doclet :=
  { kind := "function", name := "f", longname := some "A.f", memberof := some "A",
    scope := some "static" }

/-- A file, which has no page of its own. -/
def textFile : Doclet := { kind := "file", name := "a.txt", longname := some "a.txt" }

def fileClass : Doclet :=
  { kind := "class", name := "C", longname := some "C", memberof := some "a.txt" }

/-- The namespace without a name stands in the trail with its longname, and the file is named in
it without a link. -/
theorem trails_not_as_named :
    (Doclet.scopeMark namelessSpace.scope ++ namelessSpace.name = "" ∧
      (ancestorLinks (byLongname [namelessSpace, staticFunction])
        (Registry.initial.link namelessSpace).2.1 staticFunction).map
          (fun h => Html.visible h.markup) = ["A."]) ∧
      ancestorLinks (byLongname [textFile, fileClass]) (Registry.initial.link fileClass).2.1
        fileClass = [.text "a.txt"] := by
  decide +kernel

end DocSite
