import DocSite.Proofs.Link.InlineTag

/-! Inline tags in their places. A text is written as stretches in which no tag begins, with one tag
between each two of them. Reading finds exactly these tags, so resolving such a text puts the link
of each tag in its place, from left to right, and leaves every stretch as it was. -/
namespace DocSite
set_option autoImplicit false

/-- The word in the braces of a tag. -/
def TagKind.word : TagKind → List Char
  | link => "link".toList
  | code => "linkcode".toList
  | plain => "linkplain".toList
  | tutorial => "tutorial".toList

theorem TagKind.word_mem (kind : TagKind) : (kind.word, kind) ∈ TagKind.words := by
  cases kind <;> decide

theorem TagKind.brace_not_mem_word (kind : TagKind) : '}' ∉ kind.word := by
  cases kind <;> decide

namespace InlineTag

/-! ## Texts with tags -/

/-- A stretch of text in which no tag begins: it opens no caption and no braces of a tag. -/
structure Stretch where
  text : List Char
  noCaption : '[' ∉ text
  noBraces : ¬ ['{', '@'] <:+: text

/-- A tag as an author writes it, with the blanks around its content. A caption is not empty and
ends where it is closed; the content is not empty, has no blanks at its ends and no closing
brace. -/
structure Source where
  tag : InlineTag
  lead : List Char
  trail : List Char
  caption : ∀ caption, tag.caption = some caption → caption ≠ [] ∧ ']' ∉ caption
  content_ne_nil : tag.content ≠ []
  trimmed : Text.trim tag.content = tag.content
  closed : '}' ∉ tag.content
  lead_ne_nil : lead ≠ []
  lead_blanks : Blanks lead
  trail_blanks : Blanks trail

def Source.text (t : Source) : List Char :=
  around t.tag.caption (t.tag.kind.word ++ (t.lead ++ t.tag.content ++ t.trail))

/-- Tags, each with the stretch that follows it. -/
abbrev Tail := List (Source × Stretch)

def tailText (tail : Tail) : List Char := tail.flatMap fun p => p.1.text ++ p.2.text

/-- A text with tags in it: a stretch, then tags, each with the stretch that follows it. -/
structure Tagged where
  first : Stretch
  tail : Tail

def Tagged.text (t : Tagged) : List Char := t.first.text ++ tailText t.tail

/-! ## The links that belong in the places of tags -/

/-- The target that a content names: what stands before its first bar, or its first word. -/
def target (content : List Char) : List Char :=
  match Text.cutFirst? '|' content with
  | some (before, _) => Text.trim before
  | none => content.takeWhile (!Text.isBlank ·)

/-- The label that a content gives: what stands behind its first bar, or behind its first word. -/
def label (content : List Char) : List Char :=
  match Text.cutFirst? '|' content with
  | some (_, after) => Text.trim after
  | none => Text.trim (content.dropWhile (!Text.isBlank ·))

/-- What the link of a tag shows: its caption, or else the label of its content, or else the
target. -/
def shown (t : InlineTag) : String :=
  String.ofList
    (t.caption.getD (if label t.content = [] then target t.content else label t.content))

/-- The link of a tag, and the registry once it is made. -/
def ownLink (r : Registry) (t : InlineTag) : Html × Registry :=
  let name := String.ofList (target t.content)
  match t.kind with
  | .tutorial => r.tutorialLink (String.ofList t.content) (t.caption.map String.ofList)
  | .code => (r.linkTo (some name) (.element "code" [] (.raw t.shown)), r)
  | _ => (r.linkTo (some name) (.raw t.shown), r)

/-- The links of tags, each with the stretch that follows it. -/
def linkedTail (r : Registry) : Tail → Html × Registry
  | [] => (.empty, r)
  | (t, after) :: rest =>
    let (link, r) := ownLink r t.tag
    let (others, r) := linkedTail r rest
    (link ++ .raw (String.ofList after.text) ++ others, r)

/-- A text with the links of its tags in their places. -/
def Tagged.linked (r : Registry) (t : Tagged) : Html × Registry :=
  let (links, r) := linkedTail r t.tail
  (.raw (String.ofList t.first.text) ++ links, r)

/-! ## Reading finds the tags -/

theorem Source.not_blanks (t : Source) : ¬ Blanks t.tag.content := fun h =>
  t.content_ne_nil (t.trimmed.symm.trans (trim_eq_nil_iff.mpr h))

theorem brace_not_blank : Text.isBlank '}' = false := by decide

theorem brace_not_mem_of_blanks {cs : List Char} (h : Blanks cs) : '}' ∉ cs := fun hm =>
  absurd ((h _ hm).symm.trans brace_not_blank) (by decide)

theorem Source.written (t : Source) : t.tag.Written t.text := by
  refine ⟨t.caption, t.tag.kind.word, t.lead ++ t.tag.content ++ t.trail, t.tag.kind.word_mem, ?_,
    ⟨⟨t.content_ne_nil, .inl t.trimmed⟩, t.lead, t.trail, t.lead_ne_nil, t.lead_blanks,
      t.trail_blanks, fun h => absurd h t.not_blanks, rfl⟩, rfl⟩
  simp only [List.mem_append, not_or]
  exact ⟨t.tag.kind.brace_not_mem_word,
    ⟨brace_not_mem_of_blanks t.lead_blanks, t.closed⟩, brace_not_mem_of_blanks t.trail_blanks⟩

theorem Source.pieces_append (t : Source) (after : List Char) :
    pieces (t.text ++ after) = .tag t.tag :: pieces after :=
  pieces_of_read? (read?_eq_some_iff.mpr ⟨t.text, t.written, rfl⟩)

/-- A tag begins with the bracket of its caption or with its braces. -/
theorem Written.begins {t : InlineTag} {source : List Char} (h : t.Written source) :
    (∃ rest, source = '[' :: rest) ∨ ∃ rest, source = '{' :: '@' :: rest := by
  obtain ⟨_, word, body, _, _, _, rfl⟩ := h
  cases t.caption with
  | none => exact .inr ⟨_, rfl⟩
  | some caption => exact .inl ⟨_, rfl⟩

/-- What follows a stretch: nothing, or a tag. -/
theorem at_not_head_tailText (tail : Tail) : (tailText tail).head? ≠ some '@' := by
  cases tail with
  | nil => simp [tailText]
  | cons p rest =>
    rcases p.1.written.begins with ⟨_, hp⟩ | ⟨_, hp⟩ <;> simp [tailText, hp]

/-- No tag begins in a stretch, whatever tags follow it. -/
theorem read?_stretch {c : Char} {rest after : List Char} (hcaption : '[' ∉ c :: rest)
    (hbraces : ¬ ['{', '@'] <:+: c :: rest) (hafter : after.head? ≠ some '@') :
    read? (c :: (rest ++ after)) = none := by
  cases hread : read? (c :: (rest ++ after)) with
  | none => rfl
  | some found =>
    obtain ⟨source, hsource, he⟩ := read?_eq_some_iff.mp hread
    rcases hsource.begins with ⟨_, rfl⟩ | ⟨tail, rfl⟩
    · rw [List.cons_append, List.cons.injEq] at he
      exact absurd (he.1 ▸ List.mem_cons_self) hcaption
    · -- The at sign of the braces stands in the stretch, or is the first character behind it.
      rw [List.cons_append, List.cons_append, List.cons.injEq] at he
      obtain ⟨rfl, he⟩ := he
      cases rest with
      | nil =>
        rw [List.nil_append] at he
        exact absurd (by rw [he]; rfl) hafter
      | cons d rest =>
        rw [List.cons_append, List.cons.injEq] at he
        obtain ⟨rfl, -⟩ := he
        exact absurd ⟨[], rest, rfl⟩ hbraces

theorem Stretch.pieces_append (s : Stretch) {after : List Char} (hafter : after.head? ≠ some '@') :
    pieces (s.text ++ after) = s.text.map .literal ++ pieces after := by
  obtain ⟨text, hcaption, hbraces⟩ := s
  induction text with
  | nil => rfl
  | cons c rest ih =>
    have hrest : '[' ∉ rest := fun hm => hcaption (List.mem_cons_of_mem c hm)
    have hbelow : ¬ ['{', '@'] <:+: rest := fun hi =>
      hbraces (hi.trans (List.suffix_cons c rest).isInfix)
    rw [List.map_cons, List.cons_append, List.cons_append,
      pieces_of_not_read? (read?_stretch hcaption hbraces hafter)]
    exact congrArg _ (ih hrest hbelow)

theorem pieces_tailText (tail : Tail) :
    pieces (tailText tail) =
      tail.flatMap fun p => .tag p.1.tag :: p.2.text.map .literal := by
  induction tail with
  | nil => rfl
  | cons p rest ih =>
    have hcut : tailText (p :: rest) = p.1.text ++ (p.2.text ++ tailText rest) := by
      rw [tailText, List.flatMap_cons, List.append_assoc]
      rfl
    rw [hcut, p.1.pieces_append, p.2.pieces_append (at_not_head_tailText rest), ih,
      List.flatMap_cons]
    rfl

/-- The pieces of a text are the characters of its stretches and, between them, its tags. -/
theorem pieces_tagged (t : Tagged) :
    pieces t.text = t.first.text.map .literal ++
      t.tail.flatMap fun p => .tag p.1.tag :: p.2.text.map .literal := by
  rw [Tagged.text, t.first.pieces_append (at_not_head_tailText t.tail), pieces_tailText]

/-! ## Resolving puts the links in their places -/

theorem Source.splitContent_eq (t : Source) :
    splitContent t.tag.content = .ok (target t.tag.content, label t.tag.content) := by
  have hfront : t.tag.content.dropWhile Text.isBlank = t.tag.content :=
    Text.dropWhile_of_trimWhere_eq t.trimmed
  -- A content that is not empty and has no blank in front has a first word.
  have hword : t.tag.content.takeWhile (!Text.isBlank ·) ≠ [] := fun h =>
    t.not_blanks (firstWord_eq_nil_iff.mp (by rw [hfront, h]))
  unfold splitContent target label
  cases Text.cutFirst? '|' t.tag.content with
  | some cut => rfl
  | none =>
    dsimp only
    rw [hfront]
    split
    · rename_i hnil
      exact absurd hnil hword
    · rfl

theorem Source.firstOf_eq (t : Source) :
    String.ofList (firstOf t.tag.caption (label t.tag.content) (target t.tag.content)) =
      t.tag.shown := by
  unfold firstOf shown
  cases hc : t.tag.caption with
  | none => simp
  | some caption =>
    have hne : caption.isEmpty = false := List.isEmpty_eq_false_iff.mpr (t.caption caption hc).1
    simp [hne]

theorem Source.resolve_eq (r : Registry) (t : Source) :
    resolve r t.tag = (.ok (ownLink r t.tag).1, (ownLink r t.tag).2) := by
  have htrim : Text.trim t.tag.content = t.tag.content := t.trimmed
  unfold resolve ownLink
  cases hk : t.tag.kind with
  | tutorial =>
    dsimp only
    rw [htrim]
  | link | code | plain =>
    dsimp only
    rw [t.splitContent_eq]
    dsimp only
    rw [t.firstOf_eq]
    rfl

theorem resolvePieces_literals {r r' : Registry} {ps : List Piece} {cs : List Char}
    {links : List String} (h : resolvePieces r ps = (.ok (cs, links), r')) (text : List Char) :
    resolvePieces r (text.map .literal ++ ps) = (.ok (text ++ cs, links), r') := by
  induction text with
  | nil => exact h
  | cons c rest ih =>
    rw [List.map_cons, List.cons_append, resolvePieces, ih]
    rfl

theorem resolvePieces_tail (r : Registry) (tail : Tail) :
    resolvePieces r (tail.flatMap fun p => .tag p.1.tag :: p.2.text.map .literal) =
      (.ok ((linkedTail r tail).1.markup.toList, (linkedTail r tail).1.links),
        (linkedTail r tail).2) := by
  induction tail generalizing r with
  | nil => rfl
  | cons p rest ih =>
    obtain ⟨t, after⟩ := p
    have hlater := resolvePieces_literals (ih (ownLink r t.tag).2) after.text
    rw [List.flatMap_cons, List.cons_append, resolvePieces, t.resolve_eq]
    dsimp only
    rw [hlater, linkedTail]
    simp [Except.map, Html.raw]

end InlineTag

/-- Whatever stands in the captions, the contents and the text around them, a text with tags
resolves to the same text with the link of each tag in its place, made as the registry stands once
the links before it are made. -/
theorem Registry.resolveTags_in_place (r : Registry) (t : InlineTag.Tagged) (links : List String) :
    r.resolveTags ⟨String.ofList t.text, links⟩ =
      (.ok ⟨(t.linked r).1.markup, links ++ (t.linked r).1.links⟩, (t.linked r).2) := by
  have htail := InlineTag.resolvePieces_tail r t.tail
  rw [resolveTags, String.toList_ofList, InlineTag.pieces_tagged,
    InlineTag.resolvePieces_literals htail]
  simp [Except.map, InlineTag.Tagged.linked, Html.raw]

/-! ## A text with tags of several kinds -/

namespace InlineTag

/-- A stretch that can be checked to hold no brackets and no at signs. -/
def Stretch.of (text : String) (bracketless : '[' ∉ text.toList) (atless : '@' ∉ text.toList) :
    Stretch where
  text := text.toList
  noCaption := bracketless
  noBraces := fun h => atless (h.subset (by decide))

/-- A tag whose caption is itself written like a tag, and whose content names a label too. -/
def captionedLink : Source where
  tag := ⟨some "x{@link y}".toList, .link, "p|q".toList⟩
  lead := [' ']
  trail := []
  caption := by
    rintro caption ⟨⟩
    decide
  content_ne_nil := by decide
  trimmed := by decide
  closed := by decide
  lead_ne_nil := by decide
  lead_blanks := by simp [Blanks, Text.isBlank]
  trail_blanks := by simp [Blanks]

/-- A tag for code, with blanks on both sides of its content. -/
def labelledCode : Source where
  tag := ⟨none, .code, "r s".toList⟩
  lead := [' ', ' ']
  trail := [' ']
  caption := by
    rintro caption ⟨⟩
  content_ne_nil := by decide
  trimmed := by decide
  closed := by decide
  lead_ne_nil := by decide
  lead_blanks := by simp [Blanks, Text.isBlank]
  trail_blanks := by simp [Blanks, Text.isBlank]

/-- A tag for a tutorial with a name of one letter. -/
def tutorialTag (letter : Char) (hblank : Text.isBlank letter = false) (hbrace : letter ≠ '}') :
    Source where
  tag := ⟨none, .tutorial, [letter]⟩
  lead := [' ']
  trail := []
  caption := by
    rintro caption ⟨⟩
  content_ne_nil := by simp
  trimmed := by simp [Text.trim, Text.trimWhere, Text.dropEnd, hblank]
  closed := by simpa using hbrace.symm
  lead_ne_nil := by decide
  lead_blanks := by simp [Blanks, Text.isBlank]
  trail_blanks := by simp [Blanks]

def fourTags : Tagged where
  first := .of "a\x7b" (by decide) (by decide)
  tail := [
    (captionedLink, .of ", " (by decide) (by decide)),
    (labelledCode, .of "\x7d" (by decide) (by decide)),
    (tutorialTag 'T' (by decide) (by decide), .of " " (by decide) (by decide)),
    (tutorialTag 't' (by decide) (by decide), .of "" (by decide) (by decide))]

end InlineTag

/-- A symbol and two tutorials whose names differ in case alone. -/
def Registry.knownNames : Registry :=
  ((Registry.initial.register "p" "p.html").1.addTutorial "T" "One").addTutorial "t" "Two"

/-- The captions and stretches stay as they are, and the second tutorial gets its file as the
registry stands behind the first. -/
theorem Registry.fourTags_in_place :
    InlineTag.fourTags.text =
      "a{[x{@link y}]{@link p|q}, {@linkcode  r s }}{@tutorial T} {@tutorial t}".toList ∧
    (Registry.knownNames.resolveTags (.raw
      "a{[x{@link y}]{@link p|q}, {@linkcode  r s }}{@tutorial T} {@tutorial t}")).1.toOption.map
        (·.markup) =
      some ("a\x7b<a href=\"p.html\">x{@link y}</a>, <code>s</code>\x7d" ++
        "<a href=\"tutorial-T.html\">One</a> <a href=\"tutorial-t_1.html\">Two</a>") := by
  have htext : InlineTag.fourTags.text =
      "a{[x{@link y}]{@link p|q}, {@linkcode  r s }}{@tutorial T} {@tutorial t}".toList := by
    decide +kernel
  refine ⟨htext, ?_⟩
  have hlinked := knownNames.resolveTags_in_place InlineTag.fourTags []
  rw [htext, String.ofList_toList] at hlinked
  rw [Html.raw, hlinked]
  decide +kernel

end DocSite
