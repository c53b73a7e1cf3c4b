import DocSite.Doclet.Reader
import DocSite.Proofs.Link.Address
import DocSite.Signature

/-! Where the links in markup lead. The links of markup are those of its parts, so a sort of
addresses that every made link belongs to is the sort of all links in what is built from them. -/
namespace DocSite
set_option autoImplicit false

/-- Every link in the markup leads to an address of a sort. -/
def Html.Within (P : String → Prop) (h : Html) : Prop := ∀ a ∈ h.links, P a

namespace Html

/-! ## Parts of markup -/

section
variable {P Q : String → Prop}

theorem Within.mono {h : Html} (hw : h.Within P) (hPQ : ∀ a, P a → Q a) : h.Within Q :=
  fun a ha => hPQ a (hw a ha)

@[simp] theorem within_append {a b : Html} : (a ++ b).Within P ↔ a.Within P ∧ b.Within P := by
  rw [Within, links_append]
  exact List.forall_mem_append

@[simp] theorem within_empty : empty.Within P := fun _ h => absurd h List.not_mem_nil

@[simp] theorem within_raw (s : String) : (raw s).Within P := fun _ h => absurd h List.not_mem_nil

@[simp] theorem within_text (s : String) : (text s).Within P := fun _ h => absurd h List.not_mem_nil

@[simp] theorem within_leadingTo {address : String} {h : Html} :
    (h.leadingTo address).Within P ↔ P address ∧ h.Within P := List.forall_mem_cons

@[simp] theorem within_concat {hs : List Html} : (concat hs).Within P ↔ ∀ h ∈ hs, h.Within P := by
  induction hs with
  | nil => simp [concat]
  | cons h rest ih => rw [concat, within_append, ih, List.forall_mem_cons]

@[simp] theorem within_each {α : Type} {items : List α} {f : α → Html} :
    (each items f).Within P ↔ ∀ x ∈ items, (f x).Within P := by
  rw [each, within_concat, List.forall_mem_map]

theorem within_join {sep : Html} {hs : List Html} (hsep : sep.Within P)
    (h : ∀ h ∈ hs, h.Within P) : (join sep hs).Within P := by
  induction hs with
  | nil => exact within_empty
  | cons first rest ih =>
    have hfirst := h first (List.mem_cons_self ..)
    have hrest := ih fun x hx => h x (List.mem_cons_of_mem _ hx)
    cases rest with
    | nil => exact hfirst
    | cons second rest =>
      rw [join, within_append, within_append]
      · exact ⟨⟨hfirst, hsep⟩, hrest⟩
      · simp

@[simp] theorem within_when {shown : Bool} {h : Html} :
    (when shown h).Within P ↔ (shown = true → h.Within P) := by
  cases shown <;> simp [when]

@[simp] theorem within_ite {c : Prop} [Decidable c] {a b : Html} :
    (if c then a else b).Within P ↔ (c → a.Within P) ∧ (¬ c → b.Within P) := by
  by_cases hc : c <;> simp [hc]

@[simp] theorem within_attr {name : String} {value : Html} :
    (attr name value).Within P ↔ value.Within P := by
  simp [attr]

@[simp] theorem within_element {tag : String} {attributes : List (String × Html)} {body : Html} :
    (element tag attributes body).Within P ↔
      (∀ a ∈ attributes, a.2.Within P) ∧ body.Within P := by
  simp [element]

@[simp] theorem within_styled {tag css : String} {body : Html} :
    (styled tag css body).Within P ↔ body.Within P := by
  simp [styled]

@[simp] theorem within_line {indent : Nat} {h : Html} : (line indent h).Within P ↔ h.Within P := by
  simp [line]

@[simp] theorem within_lines (rows : List String) : (lines rows).Within P := by
  simp [lines]

@[simp] theorem within_link {address : String} {body : Html} :
    (link address body).Within P ↔ P address ∧ body.Within P := by
  simp [link]

end

end Html

/-! ## Links to symbols -/

/-- Every link to a symbol that a registry makes is of the sort. -/
def Registry.LinksWithin (P : String → Prop) (r : Registry) : Prop :=
  ∀ l url a, r.url? l = some url → Address.page a = Address.page url → P a

section
variable {P : String → Prop} {r : Registry}

theorem Registry.within_anchorWith {href extra body : Html} :
    (anchorWith href extra body).Within P ↔ href.Within P ∧ extra.Within P ∧ body.Within P := by
  simp [anchorWith, and_assoc]

theorem Registry.within_linkWith (hr : r.LinksWithin P) {label : Html} (hl : label.Within P)
    (name css : Option String) (fragment : String) :
    (r.linkWith name label css fragment).Within P := by
  have hlabel : ∀ s, (if label.isEmpty then Html.text s else label).Within P := by
    simp [hl]
  unfold linkWith
  dsimp only
  split
  · refine within_anchorWith.mpr ⟨Html.within_text _, ?_, hlabel _⟩
    split <;> simp
  · split
    · rename_i url hurl
      obtain ⟨hbind, _⟩ := Option.filter_eq_some_iff.mp hurl
      obtain ⟨l, _, hl⟩ := Option.bind_eq_some_iff.mp hbind
      have hpage : Address.page (url ++ if fragment == "" then "" else "#" ++ fragment) =
          Address.page url := by
        split
        · rw [String.append_empty]
        · rw [← String.append_assoc]
          exact Address.page_append_mark url fragment
      refine Html.within_leadingTo.mpr ⟨hr l url _ hl hpage, ?_⟩
      refine within_anchorWith.mpr ⟨Html.within_text _, ?_, hlabel _⟩
      split <;> simp
    · exact hlabel _

theorem Registry.within_linkTo (hr : r.LinksWithin P) {label : Html} (hl : label.Within P)
    (name : Option String) : (r.linkTo name label).Within P :=
  within_linkWith hr hl name none ""

theorem Registry.within_linkNamed (hr : r.LinksWithin P) (name : String) :
    (r.linkNamed name).Within P :=
  within_linkTo hr Html.within_empty (some name)

/-! ## Types and signatures -/

theorem TypeLinker.within_expression (hr : r.LinksWithin P) (l : TypeLinker) (text : String) :
    (l.expression r text).Within P := by
  rw [TypeLinker.expression, Html.within_each]
  intro t _
  have hlink := fun name shown => Registry.within_linkTo hr (Html.within_text shown) name
  simp [TypeLinker.token, TypeLinker.shown, hlink]

theorem TypeLinker.within_expressions (hr : r.LinksWithin P) (l : TypeLinker)
    (types : Option (List String)) : ∀ h ∈ l.expressions r types, h.Within P := by
  intro h hm
  obtain ⟨text, _, rfl⟩ := List.mem_map.mp hm
  exact l.within_expression hr text

@[simp] theorem within_attributeMarkup (words : List String) :
    (attributeMarkup words).Within P := by
  simp [attributeMarkup]

namespace Signature

@[simp] theorem within_typeSpan {body : Html} : (typeSpan body).Within P ↔ body.Within P :=
  Html.within_styled

theorem within_parameter (p : Parameter) : (parameter p).Within P := by
  simp [parameter]

theorem within_withParams {signature : Html} (h : signature.Within P) (params : List Parameter) :
    (withParams signature params).Within P := by
  have hparams : (Html.join (.raw ", ") ((params.filter shows).map parameter)).Within P := by
    refine Html.within_join (Html.within_raw _) fun x hx => ?_
    obtain ⟨p, _, rfl⟩ := List.mem_map.mp hx
    exact within_parameter p
  simp [withParams, h, hparams]

theorem within_withReturns (hr : r.LinksWithin P) (l : TypeLinker) {signature : Html}
    (h : signature.Within P) (returns : List Parameter) :
    (withReturns l r signature returns).Within P := by
  have htypes : ∀ x ∈ returns.flatMap fun p => l.expressions r p.types, x.Within P := by
    intro x hx
    obtain ⟨p, _, hp⟩ := List.mem_flatMap.mp hx
    exact l.within_expressions hr p.types x hp
  have hmarkup : ∀ words, (returnMarkup words
      (returns.flatMap fun p => l.expressions r p.types)).Within P := by
    have hjoin := Html.within_join (Html.within_raw "|") htypes
    simp [returnMarkup, hjoin]
  simp [withReturns, h, hmarkup]

theorem within_withTypes (hr : r.LinksWithin P) (l : TypeLinker) {signature : Html}
    (h : signature.Within P) (types : Option (List String)) :
    (withTypes l r signature types).Within P := by
  have hjoin := Html.within_join (Html.within_raw "|") (l.within_expressions hr types)
  simp [withTypes, h, hjoin]

end Signature

end

/-! ## Doclets -/

/-- A reference that was turned into a link of the sort, or not at all. -/
def Reference.Within (P : String → Prop) : Reference → Prop
  | symbol _ => True
  | link markup => markup.Within P

/-- Every link that a doclet carries is of the sort. -/
structure Doclet.Within (P : String → Prop) (d : Doclet) : Prop where
  signature : d.signature.Within P
  attributes : d.attributes.Within P
  ancestors : ∀ h ∈ d.ancestors, h.Within P
  see : ∀ ref ∈ d.see, ref.Within P

/-- Every link that a store carries is of the sort. -/
def Store.Within (P : String → Prop) (s : Store) : Prop := ∀ d ∈ s.doclets, d.Within P

section
variable {P Q : String → Prop}

theorem Reference.Within.mono {ref : Reference} (h : ref.Within P) (hPQ : ∀ a, P a → Q a) :
    ref.Within Q := by
  cases ref with
  | symbol name => trivial
  | link markup => exact Html.Within.mono h hPQ

theorem Doclet.Within.mono {d : Doclet} (h : d.Within P) (hPQ : ∀ a, P a → Q a) : d.Within Q where
  signature := h.signature.mono hPQ
  attributes := h.attributes.mono hPQ
  ancestors x hx := (h.ancestors x hx).mono hPQ
  see ref hm := (h.see ref hm).mono hPQ

/-- A doclet that is read carries no link yet. -/
theorem Doclet.within_ofFields {position : Nat} {fields : List (String × Value)} {d : Doclet}
    (h : Doclet.ofFields position fields = .ok d) : d.Within P := by
  unfold Doclet.ofFields at h
  obtain ⟨types, _, h⟩ := Fault.bind_eq_ok_iff.mp h
  obtain ⟨params, _, h⟩ := Fault.bind_eq_ok_iff.mp h
  obtain ⟨returns, _, h⟩ := Fault.bind_eq_ok_iff.mp h
  obtain ⟨properties, _, h⟩ := Fault.bind_eq_ok_iff.mp h
  obtain ⟨origin, _, h⟩ := Fault.bind_eq_ok_iff.mp h
  obtain ⟨examples, _, h⟩ := Fault.bind_eq_ok_iff.mp h
  obtain ⟨see, _, h⟩ := Fault.bind_eq_ok_iff.mp h
  obtain ⟨listens, _, h⟩ := Fault.bind_eq_ok_iff.mp h
  obtain ⟨fires, _, h⟩ := Fault.bind_eq_ok_iff.mp h
  obtain ⟨author, _, h⟩ := Fault.bind_eq_ok_iff.mp h
  cases h
  refine ⟨Html.within_empty, Html.within_empty, fun _ hx => absurd hx List.not_mem_nil, ?_⟩
  intro ref hm
  obtain ⟨name, _, rfl⟩ := List.mem_map.mp hm
  trivial

theorem Doclet.within_ofRecords {position : Nat} {records : List (List (String × Value))}
    {ds : List Doclet} (h : Doclet.ofRecords position records = .ok ds) : ∀ d ∈ ds, d.Within P := by
  induction records generalizing position ds with
  | nil =>
    cases h
    exact fun _ hd => absurd hd List.not_mem_nil
  | cons fields rest ih =>
    unfold Doclet.ofRecords at h
    obtain ⟨d, hd, h⟩ := Fault.bind_eq_ok_iff.mp h
    obtain ⟨others, hothers, h⟩ := Fault.bind_eq_ok_iff.mp h
    cases h
    exact List.forall_mem_cons.mpr ⟨Doclet.within_ofFields hd, ih hothers⟩

theorem Store.Within.map {s : Store} (h : s.Within P) {f : Doclet → Doclet}
    (hf : ∀ d, d.Within P → (f d).Within P) : (s.map f).Within P := by
  intro d hd
  obtain ⟨e, he, rfl⟩ := List.mem_map.mp hd
  exact hf e (h e he)

/-! ## Trails -/

variable {r : Registry}

theorem within_appendToLast {mark : Html} (hmark : mark.Within P) {hs : List Html}
    (h : ∀ x ∈ hs, x.Within P) : ∀ x ∈ appendToLast mark hs, x.Within P := by
  induction hs with
  | nil => exact fun _ hx => absurd hx List.not_mem_nil
  | cons first rest ih =>
    have hfirst := h first (List.mem_cons_self ..)
    have hrest := ih fun x hx => h x (List.mem_cons_of_mem _ hx)
    cases rest with
    | nil =>
      rw [appendToLast, List.forall_mem_singleton]
      exact Html.within_append.mpr ⟨hfirst, hmark⟩
    | cons second rest =>
      rw [appendToLast, List.forall_mem_cons]
      · exact ⟨hfirst, hrest⟩
      · simp

theorem within_ancestorLinks (hr : r.LinksWithin P) (table : Table Doclet) (d : Doclet) :
    ∀ x ∈ ancestorLinks table r d, x.Within P := by
  refine within_appendToLast (Html.within_text _) fun x hx => ?_
  obtain ⟨e, _, rfl⟩ := List.mem_map.mp hx
  exact Registry.within_linkTo hr (Html.within_text _) _

/-! ## Signatures of doclets -/

theorem Doclet.Within.addCallSignature {d : Doclet} (h : d.Within P) (hr : r.LinksWithin P)
    (l : TypeLinker) : (d.addCallSignature l r).Within P where
  signature := Signature.within_withReturns hr l (Signature.within_withParams h.signature _) _
  attributes := h.attributes
  ancestors := h.ancestors
  see := h.see

theorem Doclet.Within.addTypeSignature {d : Doclet} (h : d.Within P) (hr : r.LinksWithin P)
    (l : TypeLinker) : (d.addTypeSignature l r).Within P where
  signature := Signature.within_withTypes hr l h.signature _
  attributes := h.attributes
  ancestors := h.ancestors
  see := h.see

theorem Doclet.Within.addAttributes {d : Doclet} (h : d.Within P) : d.addAttributes.Within P where
  signature := h.signature
  attributes := Signature.within_typeSpan.mpr (within_attributeMarkup _)
  ancestors := h.ancestors
  see := h.see

end

end DocSite
