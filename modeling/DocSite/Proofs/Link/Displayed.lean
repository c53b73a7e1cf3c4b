import DocSite.Proofs.Link.Anchor

/-! What markup shows: the tags are left out and the references are read as characters. In properly
nested markup every bracket belongs to a tag and every reference is whole, so the parts show one
after another what the whole shows. -/
namespace DocSite
set_option autoImplicit false

namespace Html

/-! ## Reading markup -/

/-- A text without what stands between angle brackets. -/
def withoutTags : List Char → List Char
  | '<' :: rest => withoutTags (afterTag rest)
  | c :: rest => c :: withoutTags rest
  | [] => []
termination_by cs => cs.length
decreasing_by
  all_goals simp only [List.length_cons]
  · have := length_afterTag_le rest
    omega
  · omega

/-- A text with its references read, in one pass. -/
def decode : List Char → List Char
  | '&' :: 'a' :: 'm' :: 'p' :: ';' :: rest => '&' :: decode rest
  | '&' :: 'l' :: 't' :: ';' :: rest => '<' :: decode rest
  | '&' :: 'g' :: 't' :: ';' :: rest => '>' :: decode rest
  | '&' :: '#' :: '3' :: '4' :: ';' :: rest => '"' :: decode rest
  | '&' :: '#' :: '3' :: '9' :: ';' :: rest => '\'' :: decode rest
  | '&' :: 'h' :: 'e' :: 'l' :: 'l' :: 'i' :: 'p' :: ';' :: rest => '…' :: decode rest
  | '&' :: 'r' :: 'a' :: 'r' :: 'r' :: ';' :: rest => '→' :: decode rest
  | c :: rest => c :: decode rest
  | [] => []

/-- What markup shows. -/
def visible (markup : String) : String := String.ofList (decode (withoutTags markup.toList))

/-- The references that are no escaped characters, with what they stand for. -/
def signs : List (String × String) := [("&hellip;", "…"), ("&rarr;", "→")]

theorem withoutTags_cons {c : Char} (h : c ≠ '<') (rest : List Char) :
    withoutTags (c :: rest) = c :: withoutTags rest := by
  rw [withoutTags]
  exact fun e => absurd e h

theorem withoutTags_append {cs : List Char} (h : '<' ∉ cs) (after : List Char) :
    withoutTags (cs ++ after) = cs ++ withoutTags after := by
  induction cs with
  | nil => rfl
  | cons c rest ih =>
    have hc : c ≠ '<' := fun e => h (e ▸ List.mem_cons_self)
    rw [List.cons_append, withoutTags_cons hc, ih fun hm => h (List.mem_cons_of_mem c hm),
      List.cons_append]

theorem withoutTags_tag {cs : List Char} (h : '>' ∉ cs) (after : List Char) :
    withoutTags ('<' :: (cs ++ '>' :: after)) = withoutTags after := by
  rw [withoutTags, afterTag_append h]

theorem decode_cons {c : Char} (h : c ≠ '&') (rest : List Char) :
    decode (c :: rest) = c :: decode rest := by
  rw [decode] <;> rintro _ rfl <;> contradiction

theorem decode_escape (cs after : List Char) :
    decode (escape cs ++ after) = cs ++ decode after := by
  induction cs with
  | nil => rfl
  | cons c rest ih =>
    have hchar : ∀ tail, decode (escapeChar c ++ tail) = c :: decode tail := by
      intro tail
      unfold escapeChar
      split
      case h_6 h _ _ _ _ => exact decode_cons h tail
      all_goals rfl
    rw [escape_cons, List.append_assoc, hchar, ih, List.cons_append]

theorem decode_sign {p : String × String} (hp : p ∈ signs) (after : List Char) :
    decode (p.1.toList ++ after) = p.2.toList ++ decode after := by
  simp only [signs, List.mem_cons, List.not_mem_nil, or_false] at hp
  obtain rfl | rfl := hp <;> rfl

theorem bracket_not_mem_attributesText (attributes : List (String × String)) :
    '>' ∉ (attributesText attributes).toList := by
  induction attributes with
  | nil => simp [attributesText]
  | cons a rest ih =>
    have hname : '>' ∉ escape a.1.toList := not_mem_escape (by decide) _
    have hvalue : '>' ∉ escape a.2.toList := not_mem_escape (by decide) _
    simp [attributesText, text, hname, hvalue, ih]

theorem withoutTags_openTag {tag : String} (h : '>' ∉ tag.toList)
    (attributes : List (String × String)) (blank : Bool) (after : List Char) :
    withoutTags ((openTag tag attributes blank).toList ++ after) = withoutTags after := by
  have hinside : '>' ∉ tag.toList ++ ((attributesText attributes).toList ++
      (if blank then " " else "").toList) := by
    have hblank : '>' ∉ (if blank then " " else "").toList := by cases blank <;> decide
    simp [h, bracket_not_mem_attributesText, hblank]
  have htag := withoutTags_tag hinside after
  simpa [openTag] using htag

theorem withoutTags_closeTag {tag : String} (h : '>' ∉ tag.toList) (after : List Char) :
    withoutTags ((closeTag tag).toList ++ after) = withoutTags after := by
  have hinside : '>' ∉ '/' :: tag.toList := by simp [h]
  have htag := withoutTags_tag hinside after
  simpa [closeTag] using htag

/-! ## Markup with what it shows -/

/-- Properly nested markup with what it shows: escaped texts, signs, and elements around properly
nested markup. -/
inductive DisplaysText (V : Vocabulary) : String → String → Prop where
  | empty : DisplaysText V "" ""
  | text {s rest shown : String} : V.allowsText s → DisplaysText V rest shown →
      DisplaysText V ((text s).markup ++ rest) (s ++ shown)
  | sign {p : String × String} {rest shown : String} : p ∈ signs → DisplaysText V rest shown →
      DisplaysText V (p.1 ++ rest) (p.2 ++ shown)
  | element {tag body inner rest shown : String} {attributes : List (String × String)}
      (blank : Bool) : tag ∈ V.tags → (∀ a ∈ attributes, V.allowsAttribute a.1 a.2) →
      DisplaysText V body inner → DisplaysText V rest shown →
      DisplaysText V (openTag tag attributes blank ++ body ++ closeTag tag ++ rest) (inner ++ shown)

def Displays (V : Vocabulary) (h : Html) (shown : String) : Prop := DisplaysText V h.markup shown

section
variable {V : Vocabulary}

/-- Without its tags properly nested markup is a text of its own, whatever follows, and the
references in it are read as what it shows. -/
theorem DisplaysText.read {m shown : String} (h : DisplaysText V m shown)
    (htags : ∀ tag ∈ V.tags, '>' ∉ tag.toList) :
    ∃ kept : List Char, (∀ after, withoutTags (m.toList ++ after) = kept ++ withoutTags after) ∧
      ∀ after, decode (kept ++ after) = shown.toList ++ decode after := by
  induction h with
  | empty => exact ⟨[], fun _ => rfl, fun _ => rfl⟩
  | @text s rest shown _ _ ih =>
    obtain ⟨kept, htag, hread⟩ := ih
    refine ⟨escape s.toList ++ kept, fun after => ?_, fun after => ?_⟩
    · rw [String.toList_append, List.append_assoc, Html.text, String.toList_ofList,
        withoutTags_append (not_mem_escape (by decide) _), htag, List.append_assoc]
    · rw [List.append_assoc, decode_escape, hread, String.toList_append, List.append_assoc]
  | @sign p rest shown hp _ ih =>
    obtain ⟨kept, htag, hread⟩ := ih
    have hplain : '<' ∉ p.1.toList := by
      simp only [signs, List.mem_cons, List.not_mem_nil, or_false] at hp
      obtain rfl | rfl := hp <;> decide
    refine ⟨p.1.toList ++ kept, fun after => ?_, fun after => ?_⟩
    · rw [String.toList_append, List.append_assoc, withoutTags_append hplain, htag,
        List.append_assoc]
    · rw [List.append_assoc, decode_sign hp, hread, String.toList_append, List.append_assoc]
  | @element tag body inner rest shown attributes blank htag _ _ _ ihbody ihrest =>
    obtain ⟨inside, hbody, hinner⟩ := ihbody
    obtain ⟨kept, hrest, hread⟩ := ihrest
    refine ⟨inside ++ kept, fun after => ?_, fun after => ?_⟩
    · simp only [String.toList_append, List.append_assoc]
      rw [withoutTags_openTag (htags tag htag), hbody, withoutTags_closeTag (htags tag htag), hrest]
    · rw [List.append_assoc, hinner, hread, String.toList_append, List.append_assoc]

theorem Displays.visible {h : Html} {shown : String} (hd : h.Displays V shown)
    (htags : ∀ tag ∈ V.tags, '>' ∉ tag.toList) : visible h.markup = shown := by
  obtain ⟨kept, htag, hread⟩ := DisplaysText.read hd htags
  have hmarkup := htag []
  have hshown := hread []
  simp only [List.append_nil, withoutTags, decode] at hmarkup hshown
  rw [Html.visible, hmarkup, hshown, String.ofList_toList]

theorem DisplaysText.append {a b shown more : String} (ha : DisplaysText V a shown)
    (hb : DisplaysText V b more) : DisplaysText V (a ++ b) (shown ++ more) := by
  induction ha with
  | empty => simpa only [String.empty_append] using hb
  | text hs _ ih => simpa only [String.append_assoc] using DisplaysText.text hs ih
  | sign hp _ ih => simpa only [String.append_assoc] using DisplaysText.sign hp ih
  | element blank htag hattributes hbody _ _ ih =>
    simpa only [String.append_assoc] using DisplaysText.element blank htag hattributes hbody ih

theorem Displays.append {a b : Html} {shown more : String} (ha : a.Displays V shown)
    (hb : b.Displays V more) : (a ++ b).Displays V (shown ++ more) :=
  DisplaysText.append ha hb

theorem displays_empty : empty.Displays V "" := DisplaysText.empty

theorem displays_text {s : String} (hs : V.allowsText s) : (text s).Displays V s := by
  have h := DisplaysText.text hs DisplaysText.empty
  rwa [String.append_empty, String.append_empty] at h

theorem displays_raw {s : String} (h : isPlain s = true) (hs : V.allowsText s) :
    (raw s).Displays V s := by
  have hn : (text s).Displays V s := displays_text hs
  rwa [Displays, markup_text h] at hn

theorem displays_sign {p : String × String} (hp : p ∈ signs) : (raw p.1).Displays V p.2 := by
  have h := DisplaysText.sign (V := V) hp DisplaysText.empty
  rwa [String.append_empty, String.append_empty] at h

theorem displays_concat {α : Type} {items : List α} {f : α → Html} {shown : α → String}
    (h : ∀ x ∈ items, (f x).Displays V (shown x)) :
    (each items f).Displays V (String.join (items.map shown)) := by
  induction items with
  | nil => exact displays_empty
  | cons x rest ih =>
    obtain ⟨hx, hrest⟩ := List.forall_mem_cons.mp h
    simpa [each, concat, String.join_cons] using hx.append (ih hrest)

theorem displays_join {α : Type} {sep : Html} {mark : String} (hsep : sep.Displays V mark)
    {items : List α} {f : α → Html} {shown : α → String}
    (h : ∀ x ∈ items, (f x).Displays V (shown x)) :
    (join sep (items.map f)).Displays V (mark.intercalate (items.map shown)) := by
  induction items with
  | nil => exact displays_empty
  | cons x rest ih =>
    obtain ⟨hx, hrest⟩ := List.forall_mem_cons.mp h
    cases rest with
    | nil => simpa [join] using hx
    | cons y rest =>
      have hlater := ih hrest
      simp only [List.map_cons] at hlater
      simp only [List.map_cons, join, String.intercalate_cons_cons]
      exact (hx.append hsep).append hlater

theorem displays_element {tag : String} (htag : tag ∈ V.tags) {attributes : List (String × Html)}
    (hattributes : (each attributes fun a => attr a.1 a.2).IsAttributes V) {body : Html}
    {shown : String} (hbody : body.Displays V shown) :
    (element tag attributes body).Displays V shown := by
  obtain ⟨list, hlist, hmarkup⟩ := hattributes
  have h := DisplaysText.element false htag hlist hbody .empty
  rw [openTag, ← hmarkup] at h
  simpa [Displays, element, closeTag, raw, String.append_assoc] using h

theorem displays_styled {tag css : String} (htag : tag ∈ V.tags) (hplain : isPlain css = true)
    (hcss : V.allowsAttribute "class" css) {body : Html} {shown : String}
    (hbody : body.Displays V shown) : (styled tag css body).Displays V shown := by
  have hclass : (attr "class" (raw css)).IsAttributes V := by
    have h : (attr "class" (text css)).IsAttributes V := isAttributes_attr (by decide) hcss
    have hraw : text css = raw css := ext_parts (markup_text hplain) rfl
    rwa [hraw] at h
  have hattributes : (each [("class", raw css)] fun a => attr a.1 a.2).IsAttributes V :=
    hclass.append isAttributes_empty
  exact displays_element htag hattributes hbody

end

end Html

/-! ## Links -/

theorem Html.displays_anchorText {V : Vocabulary} (hV : V.HasLinks) {h body : Html}
    {address shown : String} (hm : h.markup = anchorText address "" body.markup)
    (hbody : body.Displays V shown) : h.Displays V shown := by
  have hattributes : ∀ a ∈ [("href", address)], V.allowsAttribute a.1 a.2 :=
    List.forall_mem_singleton.mpr (hV.address address)
  have helement := DisplaysText.element false hV.tag hattributes hbody .empty
  have hhref : (text "href").markup = "href" := markup_text (by decide)
  rw [Displays, hm]
  simpa [anchorText, openTag, closeTag, attributesText, hhref, ← String.append_assoc] using helement

/-- A link shows its label, wherever it leads and whether it leads anywhere. -/
theorem Registry.displays_linkTo {V : Vocabulary} (hV : V.HasLinks) (r : Registry) (name : String)
    {label : Html} {shown : String} (hl : label.isEmpty = false) (h : label.Displays V shown) :
    (r.linkTo (some name) label).Displays V shown := by
  by_cases ha : r.HasAddress name
  · obtain ⟨address, he⟩ := linkTo_of_hasAddress ha hl
    exact Html.displays_anchorText hV he h
  · rw [linkTo_of_not_hasAddress ha hl]
    exact h

end DocSite
