import DocSite.Link.InlineTag
import DocSite.Proofs.Text.Trim
import Mathlib.Data.List.Basic

/-! What an inline tag is, apart from how it is read: a caption, braces, a kind, blanks, a content.
A tag may hold blanks alone; then its content is one blank, which names no target. Such a tag of a
link is the only text that cannot be resolved. -/
namespace DocSite
set_option autoImplicit false

namespace InlineTag

def Blanks (cs : List Char) : Prop := ∀ c ∈ cs, Text.isBlank c = true

/-! ## Tags as they are written -/

/-- What a tag settles on as its content: a text without blanks at its ends, or one blank. -/
def IsContent (content : List Char) : Prop :=
  content ≠ [] ∧ (Text.trim content = content ∨ ∃ c, Text.isBlank c = true ∧ content = [c])

/-- A content with blanks around it. Some stand before it; if it is a blank itself, it is the last
one. -/
def Settles (body content : List Char) : Prop :=
  IsContent content ∧ ∃ lead trail, lead ≠ [] ∧ Blanks lead ∧ Blanks trail ∧
    (Blanks content → trail = []) ∧ body = lead ++ content ++ trail

def captionText : Option (List Char) → List Char
  | none => []
  | some caption => '[' :: (caption ++ [']'])

/-- A tag around a text. -/
def around (caption : Option (List Char)) (body : List Char) : List Char :=
  captionText caption ++ '{' :: '@' :: (body ++ ['}'])

/-- How a tag is written. -/
structure Written (t : InlineTag) (source : List Char) : Prop where
  caption : ∀ caption, t.caption = some caption → caption ≠ [] ∧ ']' ∉ caption
  body : ∃ word body, (word, t.kind) ∈ TagKind.words ∧ '}' ∉ word ++ body ∧
    Settles body t.content ∧ source = around t.caption (word ++ body)

/-! ## Reading finds what is written -/

theorem trim_eq_nil_iff {cs : List Char} : Text.trim cs = [] ↔ Blanks cs := Text.trimWhere_eq_nil_iff

/-- Blanks and one more character settle on something. -/
theorem exists_settles {c : Char} {rest : List Char} (hc : Text.isBlank c = true)
    (hrest : rest ≠ []) : ∃ content, Settles (c :: rest) content := by
  by_cases hblanks : Blanks rest
  · obtain ⟨before, last, rfl⟩ := (List.eq_nil_or_concat rest).resolve_left hrest
    have hlast := hblanks last (by simp)
    have hbefore : Blanks before := fun x hx => hblanks x (by simp [hx])
    exact ⟨[last], ⟨List.cons_ne_nil _ _, .inr ⟨last, hlast, rfl⟩⟩, c :: before, [],
      List.cons_ne_nil _ _, List.forall_mem_cons.mpr ⟨hc, hbefore⟩, List.forall_mem_nil _,
      fun _ => rfl, by simp⟩
  · obtain ⟨lead, trail, hlead, htrail, he⟩ := Text.exists_trimWhere Text.isBlank rest
    have hkept : Text.trim (Text.trim rest) = Text.trim rest := Text.trimWhere_trimWhere _ _
    have hne : Text.trim rest ≠ [] := fun h => hblanks (trim_eq_nil_iff.mp h)
    refine ⟨Text.trim rest, ⟨hne, .inl hkept⟩, c :: lead, trail, List.cons_ne_nil _ _,
      List.forall_mem_cons.mpr ⟨hc, hlead⟩, htrail, fun h => ?_, congrArg (c :: ·) he⟩
    exact absurd (hkept.symm.trans (trim_eq_nil_iff.mpr h)) hne

theorem content?_of_settles {body content : List Char} (h : Settles body content) :
    content? body = some content := by
  obtain ⟨⟨hne, hcontent⟩, lead, trail, hlead, hleads, htrails, hlast, rfl⟩ := h
  obtain ⟨c, lead, rfl⟩ := List.exists_cons_of_ne_nil hlead
  obtain ⟨hc, hrest⟩ := List.forall_mem_cons.mp hleads
  have htrim : Text.trim (lead ++ content ++ trail) = Text.trim content :=
    Text.trimWhere_pad hrest htrails content
  rw [List.cons_append, List.cons_append, content?, if_pos hc]
  dsimp only
  rw [htrim]
  by_cases hblanks : Blanks content
  · -- A content that is blanks alone is one blank, the last one of all.
    have hnil := trim_eq_nil_iff.mpr hblanks
    rcases hcontent with hkept | ⟨last, _, rfl⟩
    · exact absurd (hkept.symm.trans hnil) hne
    · rw [hlast hblanks, if_pos (List.isEmpty_iff.mpr hnil)]
      simp
  · have hkept : Text.trim content = content := by
      rcases hcontent with hkept | ⟨last, hl, rfl⟩
      · exact hkept
      · have hone : Blanks [last] := List.forall_mem_singleton.mpr hl
        exact absurd hone hblanks
    rw [hkept, if_neg fun h => hne (List.isEmpty_iff.mp h)]

theorem content?_eq_some_iff {body content : List Char} :
    content? body = some content ↔ Settles body content := by
  refine ⟨fun h => ?_, content?_of_settles⟩
  -- What is read is settled on: there is at most one content, and here there is one.
  have hone : ∃ content', Settles body content' := by
    cases body with
    | nil => cases h
    | cons c rest =>
      by_cases hc : Text.isBlank c = true
      · refine exists_settles hc fun hrest => ?_
        subst hrest
        simp [content?, Text.trim, Text.trimWhere, Text.dropEnd] at h
      · simp [content?, hc] at h
  obtain ⟨content', hs⟩ := hone
  rwa [Option.some.inj (h.symm.trans (content?_of_settles hs))]

theorem Settles.head {body content : List Char} (h : Settles body content) :
    ∃ c rest, body = c :: rest ∧ Text.isBlank c = true := by
  obtain ⟨_, lead, trail, hlead, hleads, _, _, rfl⟩ := h
  obtain ⟨c, lead, rfl⟩ := List.exists_cons_of_ne_nil hlead
  exact ⟨c, _, rfl, hleads c List.mem_cons_self⟩

theorem content?_of_not_blank {c : Char} (hc : Text.isBlank c = false) (rest : List Char) :
    content? (c :: rest) = none := by
  simp [content?, hc]

theorem kindAndContent?_eq_some_iff {body content : List Char} {kind : TagKind} :
    kindAndContent? body = some (kind, content) ↔
      ∃ word rest, (word, kind) ∈ TagKind.words ∧ Settles rest content ∧ body = word ++ rest := by
  constructor
  · intro h
    obtain ⟨⟨word, found⟩, hw, hread⟩ := List.exists_of_findSome?_eq_some h
    dsimp only at hread
    split at hread
    · rename_i rest hprefix
      obtain ⟨settled, hs, he⟩ := Option.map_eq_some_iff.mp hread
      cases he
      exact ⟨word, rest, hw, content?_eq_some_iff.mp hs,
        (List.isPrefixOf?_eq_some_iff_append_eq.mp hprefix).symm⟩
    · cases hread
  · rintro ⟨word, rest, hw, hs, rfl⟩
    have hread := content?_of_settles hs
    -- A word that goes on in another one is followed by no blank there.
    have hcode := content?_of_not_blank (show Text.isBlank 'c' = false by decide)
    have hplain := content?_of_not_blank (show Text.isBlank 'p' = false by decide)
    simp only [TagKind.words, List.mem_cons, Prod.mk.injEq, List.not_mem_nil, or_false] at hw
    rcases hw with ⟨rfl, rfl⟩ | ⟨rfl, rfl⟩ | ⟨rfl, rfl⟩ | ⟨rfl, rfl⟩ <;>
      simp [kindAndContent?, TagKind.words, List.isPrefixOf?, hread, hcode, hplain]

theorem braces?_eq_some_iff {caption : Option (List Char)} {cs after : List Char} {t : InlineTag} :
    braces? caption cs = some (t, after) ↔ t.caption = caption ∧ ∃ word body,
      (word, t.kind) ∈ TagKind.words ∧ '}' ∉ word ++ body ∧ Settles body t.content ∧
        cs = '{' :: '@' :: (word ++ body ++ '}' :: after) := by
  constructor
  · intro h
    unfold braces? at h
    split at h
    · rename_i rest
      split at h
      · rename_i inner tail hcut
        obtain ⟨⟨kind, content⟩, hread, he⟩ := Option.map_eq_some_iff.mp h
        cases he
        obtain ⟨rfl, hclosed⟩ := Text.cutFirst?_eq_some hcut
        obtain ⟨word, body, hw, hs, rfl⟩ := kindAndContent?_eq_some_iff.mp hread
        exact ⟨rfl, word, body, hw, hclosed, hs, rfl⟩
      · cases h
    · cases h
  · rintro ⟨rfl, word, body, hw, hclosed, hs, rfl⟩
    have hread := kindAndContent?_eq_some_iff.mpr ⟨word, body, hw, hs, rfl⟩
    simp only [braces?, Text.cutFirst?_append hclosed, hread, Option.map_some]

theorem read?_eq_some_iff {cs after : List Char} {t : InlineTag} :
    read? cs = some (t, after) ↔ ∃ source, t.Written source ∧ cs = source ++ after := by
  constructor
  · intro h
    unfold read? at h
    split at h
    · split at h
      · cases h
      · rename_i caption tail hne hcut
        obtain ⟨hcaption, word, body, hw, hclosed, hs, rfl⟩ := braces?_eq_some_iff.mp h
        obtain ⟨rfl, hopen⟩ := Text.cutFirst?_eq_some hcut
        refine ⟨_, ⟨fun c hc => ?_, word, body, hw, hclosed, hs, rfl⟩, ?_⟩
        · cases hcaption.symm.trans hc
          exact ⟨hne, hopen⟩
        · simp [around, hcaption, captionText]
      · cases h
    · obtain ⟨hcaption, word, body, hw, hclosed, hs, rfl⟩ := braces?_eq_some_iff.mp h
      refine ⟨_, ⟨fun c hc => ?_, word, body, hw, hclosed, hs, rfl⟩, ?_⟩
      · cases hcaption.symm.trans hc
      · simp [around, hcaption, captionText]
  · rintro ⟨source, ⟨hcaption, word, body, hw, hclosed, hs, rfl⟩, rfl⟩
    have hread : braces? t.caption ('{' :: '@' :: (word ++ body ++ '}' :: after)) = some (t, after) :=
      braces?_eq_some_iff.mpr ⟨rfl, word, body, hw, hclosed, hs, rfl⟩
    have hsource : around t.caption (word ++ body) ++ after =
        captionText t.caption ++ '{' :: '@' :: (word ++ body ++ '}' :: after) := by simp [around]
    rw [hsource]
    cases hc : t.caption with
    | none =>
      rw [hc] at hread
      exact hread
    | some caption =>
      rw [hc] at hread
      obtain ⟨hne, hopen⟩ := hcaption caption hc
      obtain ⟨c, caption, rfl⟩ := List.exists_cons_of_ne_nil hne
      rw [captionText, List.cons_append, List.append_assoc, List.singleton_append, read?,
        Text.cutFirst?_append hopen]
      exact hread

/-! ## The pieces of a text -/

theorem Written.length_pos {t : InlineTag} {source : List Char} (h : t.Written source) :
    0 < source.length := by
  obtain ⟨_, _, _, _, _, _, rfl⟩ := h
  rw [around, List.length_append, List.length_cons]
  omega

theorem read?_append {cs after : List Char} {t : InlineTag} (h : read? cs = some (t, after))
    (more : List Char) : read? (cs ++ more) = some (t, after ++ more) := by
  obtain ⟨source, hsource, rfl⟩ := read?_eq_some_iff.mp h
  exact read?_eq_some_iff.mpr ⟨source, hsource, List.append_assoc _ _ _⟩

theorem length_lt_of_read? {cs after : List Char} {t : InlineTag}
    (h : read? cs = some (t, after)) : after.length < cs.length := by
  obtain ⟨source, hsource, rfl⟩ := read?_eq_some_iff.mp h
  have := hsource.length_pos
  rw [List.length_append]
  omega

/-- As many steps as there are characters are enough. -/
theorem piecesWithin_eq_pieces {steps : Nat} {cs : List Char} (h : cs.length ≤ steps) :
    piecesWithin steps cs = pieces cs := by
  have key : ∀ m n (cs : List Char), cs.length ≤ m → cs.length ≤ n →
      piecesWithin m cs = piecesWithin n cs := by
    intro m
    induction m with
    | zero =>
      intro n cs hm _
      rw [List.length_eq_zero_iff.mp (Nat.le_zero.mp hm)]
      cases n <;> rfl
    | succ m ih =>
      intro n cs hm hn
      cases cs with
      | nil => cases n <;> rfl
      | cons c rest =>
        cases n with
        | zero => cases hn
        | succ n =>
          rw [List.length_cons] at hm hn
          rw [piecesWithin, piecesWithin]
          split
          · rename_i hread
            have := length_lt_of_read? hread
            rw [List.length_cons] at this
            rw [ih n _ (by omega) (by omega)]
          · rw [ih n rest (by omega) (by omega)]
  exact key _ _ cs h le_rfl

theorem pieces_of_read? {cs after : List Char} {t : InlineTag} (h : read? cs = some (t, after)) :
    pieces cs = .tag t :: pieces after := by
  have hlt := length_lt_of_read? h
  cases cs with
  | nil => cases hlt
  | cons c rest =>
    rw [pieces, List.length_cons, piecesWithin, h]
    exact congrArg _ (piecesWithin_eq_pieces (Nat.lt_succ_iff.mp hlt))

theorem pieces_of_not_read? {c : Char} {rest : List Char} (h : read? (c :: rest) = none) :
    pieces (c :: rest) = .literal c :: pieces rest := by
  rw [pieces, List.length_cons, piecesWithin, h]
  rfl

/-- Each tag among the pieces is written in the text, where what stands before it and what follows
are cut up as if they stood alone. -/
theorem mem_pieces {cs : List Char} {t : InlineTag} (h : .tag t ∈ pieces cs) :
    ∃ before source after, cs = before ++ source ++ after ∧ t.Written source ∧
      pieces cs = pieces before ++ .tag t :: pieces after := by
  induction hn : cs.length using Nat.strong_induction_on generalizing cs with
  | _ n ih =>
    subst hn
    cases cs with
    | nil => cases h
    | cons c rest =>
      cases hread : read? (c :: rest) with
      | none =>
        rw [pieces_of_not_read? hread] at h ⊢
        obtain ⟨before, source, after, rfl, hsource, he⟩ :=
          ih rest.length (Nat.lt_succ_self _) ((List.mem_cons.mp h).resolve_left nofun) rfl
        refine ⟨c :: before, source, after, rfl, hsource, ?_⟩
        -- A tag in front would be a tag in front of the whole text.
        have hbefore : read? (c :: before) = none := by
          cases hfront : read? (c :: before) with
          | none => rfl
          | some found =>
            have := read?_append hfront (source ++ after)
            rw [List.cons_append, ← List.append_assoc, hread] at this
            cases this
        rw [he, pieces_of_not_read? hbefore, List.cons_append]
      | some found =>
        obtain ⟨first, rest'⟩ := found
        rw [pieces_of_read? hread] at h ⊢
        obtain ⟨front, hfront, hcs⟩ := read?_eq_some_iff.mp hread
        rcases List.mem_cons.mp h with he | hm
        · cases he
          exact ⟨[], front, rest', hcs, hfront, rfl⟩
        · obtain ⟨before, source, after, rfl, hsource, he⟩ :=
            ih rest'.length (length_lt_of_read? hread) hm rfl
          refine ⟨front ++ before, source, after, by simp [hcs], hsource, ?_⟩
          rw [he, pieces_of_read? (read?_eq_some_iff.mpr ⟨front, hfront, rfl⟩), List.cons_append]

/-! ## What cannot be resolved -/

theorem firstWord_eq_nil_iff {cs : List Char} :
    (cs.dropWhile Text.isBlank).takeWhile (!Text.isBlank ·) = [] ↔ Blanks cs := by
  rw [Blanks, ← List.dropWhile_eq_nil_iff]
  cases hcs : cs.dropWhile Text.isBlank with
  | nil => simp
  | cons c rest =>
    have hc : Text.isBlank c = false := by
      have := List.head?_dropWhile_not Text.isBlank cs
      rwa [hcs] at this
    simp [hc]

theorem splitContent_eq_error_iff {cs : List Char} {fault : Fault} :
    splitContent cs = .error fault ↔ fault = .emptyLink ∧ Blanks cs := by
  unfold splitContent
  split
  · rename_i target label hcut
    obtain ⟨rfl, _⟩ := Text.cutFirst?_eq_some hcut
    refine ⟨fun h => (by cases h), fun ⟨_, hblanks⟩ => absurd (hblanks '|' (by simp)) (by decide)⟩
  · rw [← firstWord_eq_nil_iff]
    dsimp only
    split
    · rename_i hword
      simp [hword, eq_comm]
    · rename_i hword
      exact ⟨fun h => (by cases h), fun h => absurd h.2 hword⟩

/-- A tag of a link that names no target. -/
def Targetless (t : InlineTag) : Prop := t.kind ≠ .tutorial ∧ Blanks t.content

theorem resolve_eq_error_iff {r : Registry} {t : InlineTag} {fault : Fault} :
    (resolve r t).1 = .error fault ↔ fault = .emptyLink ∧ t.Targetless := by
  unfold resolve
  split
  · rename_i hkind
    simp [Targetless, hkind]
  · rename_i kind hkind
    rw [Targetless, and_left_comm, ← splitContent_eq_error_iff]
    split
    · rename_i hsplit
      rw [hsplit, and_iff_right hkind, Except.error.injEq, Except.error.injEq]
    · rename_i hsplit
      rw [hsplit]
      exact ⟨fun h => (by cases h), fun h => (by cases h.2)⟩

theorem map_eq_error_iff {α β : Type} {f : α → β} {result : Except Fault α} {fault : Fault} :
    result.map f = .error fault ↔ result = .error fault := by
  cases result <;> simp [Except.map]

theorem resolvePieces_eq_error_iff {r : Registry} {ps : List Piece} {fault : Fault} :
    (resolvePieces r ps).1 = .error fault ↔
      fault = .emptyLink ∧ ∃ t, .tag t ∈ ps ∧ t.Targetless := by
  induction ps generalizing r with
  | nil => simp [resolvePieces]
  | cons p rest ih =>
    cases p with
    | literal c =>
      rw [resolvePieces]
      refine (map_eq_error_iff.trans ih).trans ?_
      simp
    | tag t =>
      rw [resolvePieces]
      split
      · rename_i hresolve
        obtain ⟨rfl, ht⟩ := resolve_eq_error_iff.mp (congrArg Prod.fst hresolve)
        refine ⟨fun h => ?_, fun ⟨hfault, _⟩ => by rw [hfault]⟩
        cases h
        exact ⟨rfl, t, List.mem_cons_self, ht⟩
      · rename_i hresolve
        have ht : ¬ t.Targetless := fun ht => by
          cases (congrArg Prod.fst hresolve).symm.trans (resolve_eq_error_iff.mpr ⟨rfl, ht⟩)
        refine (map_eq_error_iff.trans ih).trans ?_
        simp [or_and_right, exists_or, ht]

theorem resolveTags_eq_error_iff {r : Registry} {page : Html} {fault : Fault} :
    (r.resolveTags page).1 = .error fault ↔
      fault = .emptyLink ∧ ∃ t, .tag t ∈ pieces page.markup.toList ∧ t.Targetless :=
  map_eq_error_iff.trans resolvePieces_eq_error_iff

/-! ## Where blanks alone are all a tag holds -/

/-- A tag of a link stands in a text and holds two blanks or more and nothing else: the text is cut
up there, and the last blank is taken for the content. -/
def HasBlankLink (text : List Char) : Prop :=
  ∃ before caption word kind blanks last after,
    text = before ++ around caption (word ++ blanks) ++ after ∧
    (word, kind) ∈ TagKind.words ∧ kind ≠ .tutorial ∧
    Blanks blanks ∧ 2 ≤ blanks.length ∧ blanks.getLast? = some last ∧
    pieces text = pieces before ++ .tag ⟨caption, kind, [last]⟩ :: pieces after

/-- A tag settles on a blank where it holds two blanks or more and nothing else. -/
theorem Settles.blanks {body content : List Char} (h : Settles body content)
    (hblanks : Blanks content) :
    Blanks body ∧ 2 ≤ body.length ∧ ∃ last, content = [last] ∧ body.getLast? = some last := by
  obtain ⟨⟨hne, hcontent⟩, lead, trail, hlead, hleads, _, hlast, rfl⟩ := h
  obtain ⟨last, _, rfl⟩ := hcontent.resolve_left fun hkept =>
    hne (hkept.symm.trans (trim_eq_nil_iff.mpr hblanks))
  have := List.length_pos_iff.mpr hlead
  rw [hlast hblanks, List.append_nil]
  refine ⟨List.forall_mem_append.mpr ⟨hleads, hblanks⟩, ?_, last, rfl, by simp⟩
  rw [List.length_append, List.length_singleton]
  omega

theorem exists_targetless_iff {text : List Char} :
    (∃ t, .tag t ∈ pieces text ∧ t.Targetless) ↔ HasBlankLink text := by
  constructor
  · rintro ⟨⟨caption, kind, content⟩, ht, hkind, hblanks⟩
    obtain ⟨before, _, after, htext, ⟨_, word, body, hw, _, hs, rfl⟩, hpieces⟩ := mem_pieces ht
    obtain ⟨hbody, hlength, last, rfl, hlast⟩ := hs.blanks hblanks
    exact ⟨before, caption, word, kind, body, last, after, htext, hw, hkind, hbody, hlength, hlast,
      hpieces⟩
  · rintro ⟨before, caption, word, kind, body, last, after, _, _, hkind, hbody, _, hlast, hpieces⟩
    refine ⟨⟨caption, kind, [last]⟩, by rw [hpieces]; simp, hkind, ?_⟩
    exact List.forall_mem_singleton.mpr (hbody last (List.mem_of_getLast? hlast))

/-! ## What tags hold -/

theorem Written.content {t : InlineTag} {source : List Char} (h : t.Written source) :
    IsContent t.content ∧ '}' ∉ t.content := by
  obtain ⟨_, word, body, _, hclosed, ⟨hcontent, lead, trail, _, _, _, _, rfl⟩, _⟩ := h
  exact ⟨hcontent, fun hm => hclosed (by simp [hm])⟩

theorem exists_written {content : List Char} (h : IsContent content) (hclosed : '}' ∉ content) :
    ∃ source, Written ⟨none, .link, content⟩ source := by
  refine ⟨_, fun _ hc => (by cases hc), "link".toList, ' ' :: content, List.mem_cons_self, ?_,
    ⟨h, [' '], [], List.cons_ne_nil _ _, List.forall_mem_singleton.mpr (by decide),
      List.forall_mem_nil _, fun _ => rfl, by simp⟩, rfl⟩
  simp [hclosed]

theorem exists_tag_iff {content : List Char} :
    (∃ text t, .tag t ∈ pieces text ∧ t.content = content) ↔ IsContent content ∧ '}' ∉ content := by
  constructor
  · rintro ⟨text, t, ht, rfl⟩
    obtain ⟨_, _, _, _, hsource, _⟩ := mem_pieces ht
    exact hsource.content
  · rintro ⟨hcontent, hclosed⟩
    obtain ⟨source, hsource⟩ := exists_written hcontent hclosed
    refine ⟨source, ⟨none, .link, content⟩, ?_, rfl⟩
    rw [pieces_of_read? (read?_eq_some_iff.mpr ⟨source, hsource, (List.append_nil _).symm⟩)]
    exact List.mem_cons_self

end InlineTag

/-- Page text is resolved, whatever stands in it, but for a tag of a link that holds blanks alone
and at least two of them. What tags can hold at all is no blank text but one blank. -/
theorem Registry.resolveTags_stops_iff (r : Registry) (page : Html) :
    (∀ fault, (r.resolveTags page).1 = .error fault ↔
      fault = .emptyLink ∧ InlineTag.HasBlankLink page.markup.toList) ∧
    ∀ content, (∃ text t, .tag t ∈ InlineTag.pieces text ∧ t.content = content) ↔
      InlineTag.IsContent content ∧ '}' ∉ content := by
  refine ⟨fun fault => ?_, fun _ => InlineTag.exists_tag_iff⟩
  rw [InlineTag.resolveTags_eq_error_iff, InlineTag.exists_targetless_iff]

/-- Two blanks in the braces of a link are enough to stop the run. -/
theorem Registry.blankLink_stops :
    (Registry.initial.resolveTags (.raw "{@link  }")).1 = .error .emptyLink := by
  refine ((Registry.resolveTags_stops_iff _ _).1 _).mpr ⟨rfl, [], none, "link".toList, .link,
    "  ".toList, ' ', [], by decide, by decide, nofun, ?_, by decide, rfl, by decide⟩
  exact List.forall_mem_cons.mpr ⟨by decide, List.forall_mem_singleton.mpr (by decide)⟩

end DocSite
