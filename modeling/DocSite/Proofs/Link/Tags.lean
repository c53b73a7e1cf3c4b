import DocSite.Proofs.Link.Nested

/-! The tags of markup, read character by character. Unlike properly nested markup over a
vocabulary, balanced markup may be any text: only the order of its tags counts, and of these only
the ones with some names, so that tags without an end do no harm. -/
namespace DocSite.Html
set_option autoImplicit false

structure Tag where
  name : String
  closes : Bool
deriving DecidableEq, Repr

def isNameChar (c : Char) : Bool :=
  !(c.isWhitespace || ['/', '<', '>', '"', '\''].contains c)

/-- The name at the start of a tag, before its attributes. -/
def tagName (cs : List Char) : String := String.ofList (cs.takeWhile isNameChar)

/-- The tag of what stands between its brackets. -/
def Tag.ofText : List Char → Tag
  | '/' :: rest => ⟨tagName rest, true⟩
  | read => ⟨tagName read, false⟩

/-- Where a character of markup stands: between tags, inside one after some of its text, or in a
quoted value inside one. -/
inductive Place where
  | between
  | inTag (read : List Char)
  | quoted (quote : Char) (read : List Char)

/-- The tags of markup from a place on, unless it ends inside a tag. -/
def tagsFrom : Place → List Char → Option (List Tag)
  | .between, [] => some []
  | .inTag _, [] => none
  | .quoted _ _, [] => none
  | .between, c :: cs => tagsFrom (if c = '<' then .inTag [] else .between) cs
  | .inTag read, c :: cs =>
    if c = '>' then (tagsFrom .between cs).map (Tag.ofText read :: ·)
    else tagsFrom (if c = '"' ∨ c = '\'' then .quoted c read else .inTag (read ++ [c])) cs
  | .quoted quote read, c :: cs =>
    tagsFrom (if c = quote then .inTag read else .quoted quote read) cs

def tags? (h : Html) : Option (List Tag) := tagsFrom .between h.markup.toList

/-- Tags that nest: each one that opens is closed by one of its name, after all that is opened in
between. -/
inductive Nests : List Tag → Prop where
  | nil : Nests []
  | element {name : String} {inner rest : List Tag} : Nests inner → Nests rest →
      Nests (⟨name, false⟩ :: inner ++ ⟨name, true⟩ :: rest)

/-- Markup whose tags of some names nest. -/
def Balanced (names : List String) (h : Html) : Prop :=
  ∃ tags, h.tags? = some tags ∧ Nests (tags.filter fun t => names.contains t.name)

/-! ## Reading -/

section
variable {cs rest read : List Char} {tags later : List Tag}

/-- What is read up to a place between tags is read there whatever follows. -/
theorem tagsFrom_append {place : Place} (h : tagsFrom place cs = some tags) :
    tagsFrom place (cs ++ rest) = (tagsFrom .between rest).map (tags ++ ·) := by
  induction cs generalizing place tags with
  | nil =>
    cases place with
    | between =>
      rw [← Option.some.inj h, List.nil_append]
      exact (Option.map_id' ..).symm
    | inTag read => cases h
    | quoted quote read => cases h
  | cons c cs ih =>
    cases place with
    | between => exact ih h
    | inTag read =>
      rw [tagsFrom] at h
      rw [List.cons_append, tagsFrom]
      split at h
      · rename_i hc
        obtain ⟨inner, hinner, rfl⟩ := Option.map_eq_some_iff.mp h
        rw [if_pos hc, ih hinner, Option.map_map]
        rfl
      · rename_i hc
        rw [if_neg hc]
        exact ih h
    | quoted quote read => exact ih h

theorem tags?_append {a b : Html} (ha : a.tags? = some tags) (hb : b.tags? = some later) :
    (a ++ b).tags? = some (tags ++ later) := by
  rw [tags?, markup_append, String.toList_append, tagsFrom_append ha]
  exact congrArg _ hb

theorem tagsFrom_of_not_mem (h : '<' ∉ cs) : tagsFrom .between cs = some [] := by
  induction cs with
  | nil => rfl
  | cons c cs ih =>
    obtain ⟨hc, hcs⟩ := List.ne_and_not_mem_of_not_mem_cons h
    rw [tagsFrom, if_neg hc.symm]
    exact ih hcs

theorem tagsFrom_inTag_append (h : ∀ c ∈ cs, c ≠ '>' ∧ c ≠ '"' ∧ c ≠ '\'') :
    tagsFrom (.inTag read) (cs ++ rest) = tagsFrom (.inTag (read ++ cs)) rest := by
  induction cs generalizing read with
  | nil => rw [List.nil_append, List.append_nil]
  | cons c cs ih =>
    obtain ⟨⟨hend, hdouble, hsingle⟩, hcs⟩ := List.forall_mem_cons.mp h
    rw [List.cons_append, tagsFrom, if_neg hend, if_neg (not_or.mpr ⟨hdouble, hsingle⟩), ih hcs,
      List.append_assoc, List.singleton_append]

theorem tagsFrom_quoted_append {quote : Char} (h : quote ∉ cs) :
    tagsFrom (.quoted quote read) (cs ++ quote :: rest) = tagsFrom (.inTag read) rest := by
  induction cs with
  | nil => rw [List.nil_append, tagsFrom, if_pos rfl]
  | cons c cs ih =>
    obtain ⟨hc, hcs⟩ := List.ne_and_not_mem_of_not_mem_cons h
    rw [List.cons_append, tagsFrom, if_neg hc.symm]
    exact ih hcs

/-! ## Tags with attributes -/

theorem Tag.ofText_of_head? (h : read.head? ≠ some '/') : ofText read = ⟨tagName read, false⟩ := by
  unfold ofText
  split
  · exact absurd rfl h
  · rfl

def attributeNames (attributes : List (String × String)) : List Char :=
  attributes.flatMap fun a => ' ' :: escape a.1.toList ++ ['=']

/-- The values of attributes are escaped, so that none of them ends its tag. -/
theorem tagsFrom_attributesText (attributes : List (String × String)) (read rest : List Char) :
    tagsFrom (.inTag read) ((attributesText attributes).toList ++ rest) =
      tagsFrom (.inTag (read ++ attributeNames attributes)) rest := by
  induction attributes generalizing read with
  | nil =>
    rw [attributeNames, List.flatMap_nil, List.append_nil]
    rfl
  | cons a later ih =>
    have hname : ∀ c ∈ ' ' :: escape a.1.toList ++ ['='], c ≠ '>' ∧ c ≠ '"' ∧ c ≠ '\'' := by
      intro c hc
      rcases List.mem_append.mp hc with hc | hc
      · rcases List.mem_cons.mp hc with rfl | hc
        · decide
        · exact ⟨fun he => not_mem_escape (.inr (.inl he)) _ hc,
            fun he => not_mem_escape (.inr (.inr (.inl he))) _ hc,
            fun he => not_mem_escape (.inr (.inr (.inr he))) _ hc⟩
      · rw [List.mem_singleton.mp hc]
        decide
    have hvalue : '"' ∉ escape a.2.toList := not_mem_escape (.inr (.inr (.inl rfl))) _
    have htext : (attributesText (a :: later)).toList ++ rest =
        (' ' :: escape a.1.toList ++ ['=']) ++
          '"' :: (escape a.2.toList ++ '"' :: ((attributesText later).toList ++ rest)) := by
      have hblank : (" " : String).toList = [' '] := rfl
      have hequals : ("=\"" : String).toList = ['=', '"'] := rfl
      have hquote : ("\"" : String).toList = ['"'] := rfl
      simp only [attributesText, text, String.toList_append, String.toList_ofList, hblank, hequals,
        hquote, List.append_assoc, List.cons_append, List.nil_append]
    rw [htext, tagsFrom_inTag_append hname, tagsFrom, if_neg (by decide), if_pos (.inl rfl),
      tagsFrom_quoted_append hvalue, ih, attributeNames, attributeNames, List.flatMap_cons,
      List.append_assoc]

theorem tagName_append {tag : List Char} (htag : tag.all isNameChar = true)
    (attributes : List (String × String)) :
    tagName (tag ++ attributeNames attributes) = String.ofList tag := by
  have hnames : (attributeNames attributes).takeWhile isNameChar = [] := by
    cases attributes with
    | nil => rfl
    | cons a later => rfl
  rw [tagName, List.takeWhile_append_of_pos (List.all_eq_true.mp htag), hnames, List.append_nil]

theorem not_mem_of_all_isNameChar {tag : List Char} (htag : tag.all isNameChar = true) {c : Char}
    (hc : isNameChar c = false) : c ∉ tag := by
  intro hmem
  rw [List.all_eq_true.mp htag c hmem] at hc
  cases hc

theorem tagsFrom_name {tag : List Char} (htag : tag.all isNameChar = true) :
    tagsFrom (.inTag read) (tag ++ rest) = tagsFrom (.inTag (read ++ tag)) rest := by
  refine tagsFrom_inTag_append fun c hc => ⟨?_, ?_, ?_⟩ <;> rintro rfl <;>
    exact not_mem_of_all_isNameChar htag (by decide) hc

theorem tags?_opening {h attributes : Html} {V : Vocabulary} {tag : String}
    (htag : tag.toList.all isNameChar = true) (hattributes : attributes.IsAttributes V)
    (hmarkup : h.markup = "<" ++ tag ++ attributes.markup ++ ">") :
    h.tags? = some [⟨tag, false⟩] := by
  obtain ⟨list, -, hlist⟩ := hattributes
  -- Values are passed over, so the tag is read as its name and the names of its attributes.
  have hhead : (tag.toList ++ attributeNames list).head? ≠ some '/' := by
    cases hcs : tag.toList with
    | nil => cases list <;> simp [attributeNames]
    | cons c cs =>
      intro he
      rw [List.cons_append, List.head?_cons, Option.some.injEq] at he
      exact not_mem_of_all_isNameChar htag (he ▸ by decide) (hcs ▸ List.mem_cons_self)
  have hopens : Tag.ofText (tag.toList ++ attributeNames list) = ⟨tag, false⟩ := by
    rw [Tag.ofText_of_head? hhead, tagName_append htag, String.ofList_toList]
  have htext : h.markup.toList =
      '<' :: (tag.toList ++ ((attributesText list).toList ++ ['>'])) := by
    rw [hmarkup, hlist]
    simp only [String.toList_append, List.append_assoc]
    rfl
  rw [tags?, htext, tagsFrom, if_pos rfl, tagsFrom_name htag, List.nil_append,
    tagsFrom_attributesText, tagsFrom, if_pos rfl, hopens]
  rfl

end

/-! ## Balanced markup -/

section
variable {names : List String} {a b : Html}

theorem Nests.append {xs ys : List Tag} (hx : Nests xs) (hy : Nests ys) : Nests (xs ++ ys) := by
  induction hx with
  | nil => exact hy
  | element hinner _ _ ih =>
    rw [List.append_assoc]
    exact .element hinner ih

theorem Balanced.append (ha : a.Balanced names) (hb : b.Balanced names) :
    (a ++ b).Balanced names := by
  obtain ⟨xs, hxs, hx⟩ := ha
  obtain ⟨ys, hys, hy⟩ := hb
  refine ⟨xs ++ ys, tags?_append hxs hys, ?_⟩
  rw [List.filter_append]
  exact hx.append hy

theorem balanced_of_not_mem (h : '<' ∉ a.markup.toList) : a.Balanced names :=
  ⟨[], tagsFrom_of_not_mem h, .nil⟩

theorem balanced_empty : empty.Balanced names := balanced_of_not_mem List.not_mem_nil

theorem balanced_text (s : String) : (text s).Balanced names := by
  refine balanced_of_not_mem ?_
  rw [text, String.toList_ofList]
  exact not_mem_escape (.inl rfl) _

/-- Balanced markup stays so between an opening tag and the closing tag of its name. -/
theorem Balanced.between {opening body closing : Html} {tag : String}
    (ho : opening.tags? = some [⟨tag, false⟩]) (hbody : body.Balanced names)
    (hc : closing.tags? = some [⟨tag, true⟩]) : (opening ++ body ++ closing).Balanced names := by
  obtain ⟨tags, htags, hnests⟩ := hbody
  refine ⟨_, tags?_append (tags?_append ho htags) hc, ?_⟩
  by_cases htag : tag ∈ names
  · have hwhole : Nests (⟨tag, false⟩ :: tags.filter (fun t => names.contains t.name) ++
        [⟨tag, true⟩]) := .element hnests .nil
    simpa [htag] using hwhole
  · simpa [htag] using hnests

end

end DocSite.Html
