import DocSite.Link.Markup

/-! Markup that is properly nested. A vocabulary fixes the tags, the texts and the attributes that
may occur; whatever they are, texts and attributes stand in the markup escaped, so that a bracket
or a quote belongs to a tag of the vocabulary. -/
namespace DocSite
set_option autoImplicit false

/-- The tags that markup is made of, and the texts and attributes in it before they are escaped. -/
structure Vocabulary where
  tags : List String
  allowsText : String → Prop
  allowsAttribute : String → String → Prop

namespace Html

/-- The attributes of a tag, each after a blank. -/
def attributesText : List (String × String) → String
  | [] => ""
  | a :: rest =>
    " " ++ (text a.1).markup ++ "=\"" ++ (text a.2).markup ++ "\"" ++ attributesText rest

/-- An opening tag; a blank may stand at its end. -/
def openTag (tag : String) (attributes : List (String × String)) (blank : Bool) : String :=
  "<" ++ tag ++ attributesText attributes ++ (if blank then " " else "") ++ ">"

def closeTag (tag : String) : String := "</" ++ tag ++ ">"

/-- Properly nested markup: escaped texts, and elements around properly nested markup. -/
inductive NestedText (V : Vocabulary) : String → Prop where
  | empty : NestedText V ""
  | text {s rest : String} : V.allowsText s → NestedText V rest →
      NestedText V ((text s).markup ++ rest)
  | element {tag body rest : String} {attributes : List (String × String)} (blank : Bool) :
      tag ∈ V.tags → (∀ a ∈ attributes, V.allowsAttribute a.1 a.2) → NestedText V body →
      NestedText V rest →
      NestedText V (openTag tag attributes blank ++ body ++ closeTag tag ++ rest)

def Nested (V : Vocabulary) (h : Html) : Prop := NestedText V h.markup

section
variable {V : Vocabulary}

theorem NestedText.append {a b : String} (ha : NestedText V a) (hb : NestedText V b) :
    NestedText V (a ++ b) := by
  induction ha with
  | empty => rwa [String.empty_append]
  | text hs _ ih =>
    rw [String.append_assoc]
    exact .text hs ih
  | element blank htag hattributes hbody _ _ ih =>
    rw [String.append_assoc]
    exact .element blank htag hattributes hbody ih

theorem Nested.append {a b : Html} (ha : a.Nested V) (hb : b.Nested V) : (a ++ b).Nested V :=
  NestedText.append ha hb

theorem nested_empty : empty.Nested V := NestedText.empty

theorem nested_text {s : String} (hs : V.allowsText s) : (text s).Nested V := by
  have h := NestedText.text hs NestedText.empty
  rwa [String.append_empty] at h

theorem Nested.leadingTo {h : Html} (hn : h.Nested V) (address : String) :
    (h.leadingTo address).Nested V := hn

theorem nested_concat {hs : List Html} (h : ∀ x ∈ hs, x.Nested V) : (concat hs).Nested V := by
  induction hs with
  | nil => exact nested_empty
  | cons x rest ih =>
    obtain ⟨hx, hrest⟩ := List.forall_mem_cons.mp h
    exact hx.append (ih hrest)

theorem nested_each {α : Type} {items : List α} {f : α → Html}
    (h : ∀ x ∈ items, (f x).Nested V) : (each items f).Nested V :=
  nested_concat (List.forall_mem_map.mpr h)

/-! ## Markup written out -/

/-- Whether a text has no character to escape. -/
def isPlain (s : String) : Bool := s.toList.all fun c => escapeChar c == [c]

theorem isPlain_iff {s : String} : isPlain s = true ↔ ∀ c ∈ s.toList, escapeChar c = [c] := by
  simp only [isPlain, List.all_eq_true, beq_iff_eq]

/-- A plain text is its own markup. -/
theorem markup_text {s : String} (h : isPlain s = true) : (text s).markup = s := by
  have hescape : ∀ cs : List Char, (∀ c ∈ cs, escapeChar c = [c]) → escape cs = cs := by
    intro cs hcs
    induction cs with
    | nil => rfl
    | cons c rest ih =>
      obtain ⟨hc, hrest⟩ := List.forall_mem_cons.mp hcs
      have hrest : rest.flatMap escapeChar = rest := ih hrest
      rw [escape, List.flatMap_cons, hc, hrest]
      rfl
  rw [text, hescape _ (isPlain_iff.mp h), String.ofList_toList]

theorem nested_raw {s : String} (h : isPlain s = true) (hs : V.allowsText s) :
    (raw s).Nested V := by
  have hn : (text s).Nested V := nested_text hs
  rwa [Nested, markup_text h] at hn

/-- Markup that is the attributes of a tag. -/
def IsAttributes (V : Vocabulary) (h : Html) : Prop :=
  ∃ attributes, (∀ a ∈ attributes, V.allowsAttribute a.1 a.2) ∧ h.markup = attributesText attributes

theorem attributesText_append (xs ys : List (String × String)) :
    attributesText (xs ++ ys) = attributesText xs ++ attributesText ys := by
  induction xs with
  | nil => rw [List.nil_append, attributesText, String.empty_append]
  | cons x rest ih =>
    rw [List.cons_append, attributesText, ih, attributesText]
    simp only [String.append_assoc]

theorem isAttributes_empty : empty.IsAttributes V :=
  ⟨[], fun _ h => absurd h List.not_mem_nil, rfl⟩

theorem IsAttributes.append {a b : Html} (ha : a.IsAttributes V) (hb : b.IsAttributes V) :
    (a ++ b).IsAttributes V := by
  obtain ⟨xs, hxs, hx⟩ := ha
  obtain ⟨ys, hys, hy⟩ := hb
  exact ⟨xs ++ ys, List.forall_mem_append.mpr ⟨hxs, hys⟩,
    by rw [markup_append, hx, hy, attributesText_append]⟩

theorem isAttributes_attr {name value : String} (hname : isPlain name = true)
    (h : V.allowsAttribute name value) : (attr name (.text value)).IsAttributes V := by
  refine ⟨[(name, value)], List.forall_mem_singleton.mpr h, ?_⟩
  simp only [attributesText, attr, raw, markup_append, markup_text hname, String.append_empty]

/-! ## Elements -/

/-- A tag that is opened and closed around properly nested markup. -/
theorem nested_between {opening body closing : Html} {tag : String} (htag : tag ∈ V.tags)
    {attributes : Html} (hattributes : attributes.IsAttributes V)
    (ho : opening.markup = "<" ++ tag ++ attributes.markup ++ ">") (hbody : body.Nested V)
    (hc : closing.markup = closeTag tag) : (opening ++ body ++ closing).Nested V := by
  obtain ⟨list, hlist, hmarkup⟩ := hattributes
  have h := NestedText.element false htag hlist hbody .empty
  rw [openTag, ← hmarkup] at h
  simpa only [Nested, markup_append, ho, hc, Bool.false_eq_true, if_false, String.append_empty]
    using h

theorem nested_element {tag : String} (htag : tag ∈ V.tags) {attributes : List (String × Html)}
    (hattributes : (each attributes fun a => attr a.1 a.2).IsAttributes V) {body : Html}
    (hbody : body.Nested V) : (element tag attributes body).Nested V := by
  have h : (raw "<" ++ raw tag ++ each attributes (fun a => attr a.1 a.2) ++ raw ">" ++ body ++
      (raw "</" ++ raw tag ++ raw ">")).Nested V :=
    nested_between htag hattributes rfl hbody rfl
  simpa only [element, append_assoc] using h

end

end Html

/-! ## Links -/

/-- The vocabulary has links. -/
structure Vocabulary.HasLinks (V : Vocabulary) : Prop where
  tag : "a" ∈ V.tags
  address : ∀ address, V.allowsAttribute "href" address

namespace Registry

/-- An address of its own without the angle brackets around it. -/
def withoutBrackets (name : String) : String :=
  String.ofList (Text.trimWhere (fun c => c == '<' || c == '>') name.toList)

section
variable {V : Vocabulary}

theorem isAttributes_href (hV : V.HasLinks) (address : String) :
    (Html.attr "href" (.text address)).IsAttributes V :=
  Html.isAttributes_attr (by decide) (hV.address address)

theorem nested_link (hV : V.HasLinks) (address : String) {body : Html} (hbody : body.Nested V) :
    (Html.link address body).Nested V := by
  refine Html.Nested.leadingTo (Html.nested_element hV.tag ?_ hbody) address
  exact (isAttributes_href hV address).append Html.isAttributes_empty

theorem nested_anchorWith (hV : V.HasLinks) (address : String) {extra body : Html}
    (hextra : extra.IsAttributes V) (hbody : body.Nested V) :
    (anchorWith (.text address) extra body).Nested V := by
  have hopen : (Html.raw "<a" ++ .attr "href" (.text address) ++ extra ++ .raw ">").markup =
      "<" ++ "a" ++ (Html.attr "href" (.text address) ++ extra).markup ++ ">" := by
    simp only [Html.markup_append, Html.raw, String.append_assoc]
    rfl
  exact Html.nested_between hV.tag ((isAttributes_href hV address).append hextra) hopen hbody rfl

/-- A link to a symbol shows its label, or the name without one. -/
theorem nested_linkTo (hV : V.HasLinks) (r : Registry) {name : Option String} {label : Html}
    (hlabel : label.Nested V) (hname : V.allowsText (name.getD ""))
    (hbare : V.allowsText (withoutBrackets (name.getD ""))) : (r.linkTo name label).Nested V := by
  have hshown : ∀ {s}, V.allowsText s →
      (if label.isEmpty then Html.text s else label).Nested V := by
    intro s hs
    split
    · exact Html.nested_text hs
    · exact hlabel
  unfold linkTo linkWith
  dsimp only
  split
  · exact nested_anchorWith hV _ Html.isAttributes_empty (hshown hbare)
  · split
    · exact (nested_anchorWith hV _ Html.isAttributes_empty (hshown hname)).leadingTo _
    · exact hshown hname

/-- A link to a tutorial shows its title; a tutorial that is not known is named. -/
theorem nested_tutorialLink (hV : V.HasLinks) (hem : "em" ∈ V.tags)
    (hclass : V.allowsAttribute "class" "disabled") (hword : V.allowsText "Tutorial: ") {r : Registry}
    {name : String} (hname : V.allowsText name)
    (htitle : ∀ title, r.tutorials.get? name = some title → V.allowsText title) :
    (r.tutorialLink name none).1.Nested V := by
  unfold tutorialLink
  split
  · refine Html.nested_element hem ?_ ?_
    · have hattr : (Html.attr "class" (.text "disabled")).IsAttributes V :=
        Html.isAttributes_attr (by decide) hclass
      exact hattr.append Html.isAttributes_empty
    · exact (Html.nested_raw (by decide) hword).append (Html.nested_text hname)
  · rename_i title hfound
    exact nested_link hV _ (Html.nested_text (htitle title hfound))

end

end Registry

end DocSite
