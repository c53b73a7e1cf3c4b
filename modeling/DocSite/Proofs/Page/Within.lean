import DocSite.Page.Container
import DocSite.Page.Theme
import DocSite.Proofs.Link.Within

/-! Where the links on a page lead. The parts of a page take their links from the registry, or from
what doclets carry already: their signatures, their trails and their references. -/
namespace DocSite
set_option autoImplicit false

namespace Page

/-- All links that parts of a page can take up are of the sort. -/
structure Context.Within (P : String → Prop) (c : Context) : Prop where
  registry : c.registry.LinksWithin P
  store : c.store.Within P

section
variable {P : String → Prop} {c : Context} {d : Doclet}

/-! ## Parts -/

theorem Context.Within.linkName (hc : c.Within P) (name : String) : (c.linkName name).Within P :=
  Registry.within_linkNamed hc.registry name

theorem Context.Within.linkList (hc : c.Within P) (names : List String) :
    (c.linkList names).Within P := by
  simp [Context.linkList, hc.linkName]

theorem Context.Within.linkReference (hc : c.Within P) {ref : Reference} (h : ref.Within P) :
    (c.linkReference ref).Within P := by
  cases ref with
  | symbol name => exact Registry.within_linkNamed hc.registry name
  | link markup => exact Registry.within_linkTo hc.registry h _

theorem within_types (hc : c.Within P) (names : Option (List String)) :
    (types c names).Within P := by
  unfold types
  split
  · exact Html.within_empty
  · have hjoin := Html.within_join (Html.within_raw " | ")
      (c.linker.within_expressions hc.registry names)
    rw [TypeLinker.expressions] at hjoin
    simp [hjoin]

@[simp] theorem within_description (css text : String) : (description css text).Within P := by
  simp [description]

@[simp] theorem within_parameterAttributes (p : Parameter) : (parameterAttributes p).Within P := by
  unfold parameterAttributes
  split <;> simp

theorem within_parameterTable (hc : c.Within P) (params : List Parameter) :
    (parameterTable c params).Within P := by
  simp [parameterTable, parameterRow, within_types hc]

@[simp] theorem within_examples (indent : Nat) (es : List Example) :
    (examples indent es).Within P := by
  simp [examples, oneExample, exampleHeading]

theorem within_term {css label : String} {body : Html} (h : body.Within P) :
    (term css label body).Within P := by
  simp [term, h]

theorem within_sourcePlace (hc : c.Within P) (o : Origin) (shortPath : String) :
    (sourcePlace c o shortPath).Within P := by
  have hline := fun s fragment =>
    Registry.within_linkWith hc.registry (Html.within_text s) (some shortPath) none fragment
  unfold sourcePlace
  split
  · simp [hc.linkName, hline]
  · simp [hc.linkName]

theorem within_details (hc : c.Within P) (hd : d.Within P) : (details c d).Within P := by
  have hsee : ∀ ref ∈ d.see, (c.linkReference ref).Within P := fun ref hm =>
    hc.linkReference (hd.see ref hm)
  have hdeprecation : ∀ v, (deprecation v).Within P := by
    intro v
    unfold deprecation
    split <;> simp
  unfold details
  simp only [Html.within_append, Html.within_line, Html.within_raw, true_and, Html.within_when,
    Html.within_styled, Html.within_element, List.not_mem_nil, IsEmpty.forall_iff, implies_true,
    hdeprecation, and_self, and_true, Html.within_each, Html.within_text, within_term, hc.linkList]
  refine ⟨⟨⟨?_, ?_⟩, ?_⟩, fun _ => hsee⟩
  · split
    · exact within_term (Html.within_text _)
    · exact Html.within_empty
  · split
    · exact within_term (Html.within_text _)
    · exact Html.within_empty
  · split
    · split
      · exact Html.within_when.mpr fun _ => within_sourcePlace hc _ _
      · exact Html.within_empty
    · exact Html.within_empty

/-! ## Whole descriptions -/

theorem within_callable (hc : c.Within P) (hd : d.Within P) : (callable c d).Within P := by
  have hdetails := within_details hc hd
  have hheading : (symbolHeading d).Within P := by
    simp [symbolHeading, hd.attributes, hd.signature]
  have hreturn : ∀ p, (returnValue c p).Within P := by
    simp [returnValue, within_types hc]
  simp [callable, hdetails, hheading, hreturn, within_parameterTable hc, hc.linkList]

theorem within_readable (hc : c.Within P) (hd : d.Within P) : (readable c d).Within P := by
  have hdetails := within_details hc hd
  simp [readable, hdetails, hd.attributes, hd.signature, within_types hc, within_parameterTable hc]

/-! ## Containers -/

theorem within_descriptions {describe : Doclet → Html} {ds : List Doclet}
    (h : ∀ d ∈ ds, (describe d).Within P) (title : String) :
    (descriptions title describe ds).Within P := by
  simp only [descriptions, partHeading, Html.within_when, Html.within_append, Html.within_line,
    Html.within_styled, Html.within_raw, Html.within_each]
  exact fun _ => ⟨trivial, h⟩

theorem Context.Within.membersOf (hc : c.Within P) (container : Option String) (kind : String) :
    ∀ d ∈ membersOf c container kind, d.Within P := fun d hm =>
  hc.store d (List.mem_of_mem_filter hm)

theorem within_belongings (hc : c.Within P) (container : Option String) :
    (belongings c container).Within P := by
  have hlink := fun name s => Registry.within_linkTo hc.registry (Html.within_text s) name
  have hreadable : ∀ kind, ∀ d ∈ membersOf c container kind, (readable c d).Within P :=
    fun kind d hm => within_readable hc (hc.membersOf container kind d hm)
  have hcallable : ∀ kind, ∀ d ∈ membersOf c container kind, (callable c d).Within P :=
    fun kind d hm => within_callable hc (hc.membersOf container kind d hm)
  have htypedef : ∀ d ∈ membersOf c container "typedef", (typedef c d).Within P := by
    intro d hm
    rw [typedef, Html.within_ite]
    exact ⟨fun _ => hcallable "typedef" d hm, fun _ => hreadable "typedef" d hm⟩
  have hmembers := within_descriptions (hreadable "member") "Members"
  have hmethods := within_descriptions (hcallable "function") "Methods"
  have htypedefs := within_descriptions htypedef "Type Definitions"
  have hevents := within_descriptions (hcallable "event") "Events"
  simp [belongings, classList, namespaceList, partHeading, hlink, hmembers, hmethods, htypedefs,
    hevents]

theorem within_containerTitle (hd : d.Within P) : (containerTitle d).Within P := by
  have hancestors : (Html.concat d.ancestors).Within P := Html.within_concat.mpr hd.ancestors
  unfold containerTitle
  split
  · simp [hancestors]
  · simp [hancestors]

/-- What a module exports carries the links of the doclet that it is. -/
theorem Context.Within.exportsOf (hc : c.Within P) (module : Doclet) :
    ∀ d ∈ Doclet.exportsOf c.store.exportCandidates module, d.Within P := by
  intro d hm
  unfold Doclet.exportsOf at hm
  dsimp only at hm
  split at hm
  · cases hm
  · obtain ⟨e, he, rfl⟩ := List.mem_map.mp hm
    have hstore := hc.store e
      (List.mem_of_mem_filter (List.mem_of_mem_filter (List.mem_of_mem_filter he)))
    unfold Doclet.asExport
    split
    · exact ⟨hstore.signature, hstore.attributes, hstore.ancestors, hstore.see⟩
    · exact hstore

theorem within_overview (hc : c.Within P) (hd : d.Within P) : (overview c d).Within P := by
  have hdetails := within_details hc hd
  have hcallable := within_callable hc hd
  have hexport : ∀ e ∈ (if d.kind == "module" then
      Doclet.exportsOf c.store.exportCandidates d else []), (callable c e).Within P := by
    intro e hm
    split at hm
    · exact within_callable hc (hc.exportsOf d e hm)
    · cases hm
  unfold overview
  simp only [Html.within_ite, Html.within_append, Html.within_when, Html.within_each,
    Html.within_line]
  refine ⟨fun _ => ⟨fun _ => within_description _ _, hexport⟩, fun _ => ⟨fun _ => hcallable, ?_⟩⟩
  exact fun _ => ⟨⟨fun _ => within_description _ _, hdetails⟩, within_examples _ _⟩

theorem within_containerSection (hc : c.Within P) {container : Option Doclet}
    (h : ∀ d ∈ container, d.Within P) : (containerSection c container).Within P := by
  cases container with
  | none => simp [containerSection, within_belongings hc]
  | some d =>
    have hd := h d rfl
    simp [containerSection, within_belongings hc, within_containerTitle hd, within_overview hc hd]

/-! ## Topics -/

/-- What a topic is about carries links of the sort. -/
def Topic.Within (P : String → Prop) (t : Topic) : Prop := ∀ d, t = .symbol d → d.Within P

theorem within_topic (hc : c.Within P) {t : Topic} (h : t.Within P) : (topic c t).Within P := by
  cases t with
  | readme markup =>
    rw [topic]
    split
    · simp [readmeSection]
    · exact Html.within_empty
  | globals =>
    rw [topic]
    exact within_containerSection hc fun _ hd => absurd hd (Option.not_mem_none _)
  | symbol d =>
    have hd := h d rfl
    have hone : ∀ e ∈ some d, e.Within P := fun e he => Option.mem_some_iff.mp he ▸ hd
    have hsection := within_containerSection hc hone
    rw [topic, Html.within_ite, Html.within_ite]
    refine ⟨fun _ => ?_, fun _ => ⟨fun _ => ?_, fun _ => hsection⟩⟩
    · simp [packageSection]
    · simp [fileSection, within_details hc hd]

theorem within_topics (hc : c.Within P) {ts : List Topic} (h : ∀ t ∈ ts, t.Within P) :
    (topics c ts).Within P :=
  Html.within_each.mpr fun t ht => within_topic hc (h t ht)

/-! ## Looks -/

theorem within_frame {sidebar content : Html} (hs : sidebar.Within P) (hc : content.Within P)
    (siteTitle title : String) : (frame siteTitle title sidebar content).Within P := by
  simp [frame, hs, hc]

theorem look_fixed {d : Design} {form : Form} {text : Html} (h : d.look form = .ok (.fixed text)) :
    text = partsAsFrame := by
  obtain ⟨page, -, h⟩ := Fault.bind_eq_ok_iff.mp h
  cases page with
  | own _ => cases h
  | bundled _ =>
    obtain ⟨layout, -, h⟩ := Fault.bind_eq_ok_iff.mp h
    cases layout with
    | own _ => cases h
    | bundled name =>
      dsimp only at h
      split at h
      · split at h
        · obtain ⟨parts, -, h⟩ := Fault.bind_eq_ok_iff.mp h
          cases parts <;> cases h
        · cases h
      · split at h
        · cases h
          rfl
        · cases h

/-- Fixed text has no link in it. -/
theorem within_look {d : Design} {form : Form} {text : Html}
    (h : d.look form = .ok (.fixed text)) : text.Within P := by
  rw [look_fixed h]
  exact Html.within_raw _

end

end Page
end DocSite
