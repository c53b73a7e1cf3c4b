import DocSite.Type.Token
import Mathlib.Data.List.Chain
import Mathlib.Data.List.Infix
import Mathlib.Data.List.TakeWhile

/-! What the tokens of a type expression are, apart from how they are read. Names and literals take
turns, a literal has no word character, and a name is a whole word or, where the word is `module`,
the longest name of a module's member that stands there. Only one list of tokens is like that. -/
namespace DocSite.TypeToken
set_option autoImplicit false

/-! ## Runs -/

/-- A run of characters with `p` that goes on at neither end. -/
structure IsRun (p : Char → Bool) (before run after : List Char) : Prop where
  ne_nil : run ≠ []
  all : ∀ c ∈ run, p c = true
  front : before.getLast?.any p = false
  back : after.head?.any p = false

section
variable {p : Char → Bool} {before before' run after : List Char}

theorem IsRun.of_front (h : IsRun p before run after) (hf : before'.getLast?.any p = false) :
    IsRun p before' run after := ⟨h.ne_nil, h.all, hf, h.back⟩

theorem takeWhile_append_of_back (hall : ∀ c ∈ run, p c = true)
    (hback : after.head?.any p = false) : (run ++ after).takeWhile p = run := by
  rw [List.takeWhile_append_of_pos hall]
  cases after with
  | nil => simp
  | cons c rest =>
    have hc : p c = false := hback
    simp [hc]

theorem IsRun.takeWhile (h : IsRun p before run after) : (run ++ after).takeWhile p = run :=
  takeWhile_append_of_back h.all h.back

theorem IsRun.dropWhile (h : IsRun p before run after) : (run ++ after).dropWhile p = after := by
  have hcut := List.takeWhile_append_dropWhile (p := p) (l := run ++ after)
  rw [h.takeWhile] at hcut
  exact List.append_cancel_left hcut

theorem head?_dropWhile_any (p : Char → Bool) (cs : List Char) :
    (cs.dropWhile p).head?.any p = false := by
  have h := List.head?_dropWhile_not p cs
  cases hd : (cs.dropWhile p).head? with
  | none => rfl
  | some c =>
    rw [hd] at h
    simpa using h

/-- What stands in front is a run, up to the first character that is none of it. -/
theorem isRun_takeWhile (hf : before.getLast?.any p = false) {cs : List Char}
    (hcs : cs.head?.any p = true) : IsRun p before (cs.takeWhile p) (cs.dropWhile p) := by
  refine ⟨?_, fun _ => List.mem_takeWhile_imp, hf, head?_dropWhile_any p cs⟩
  cases cs with
  | nil => cases hcs
  | cons c rest =>
    have hc : p c = true := hcs
    simp [hc]

end

/-! ## Names -/

def isPathChar (c : Char) : Bool := Text.isWord c || c == '/'

/-- What the word `module` goes on with: a colon, a path of two characters or more that ends in a
word character, a mark and a word. -/
def GoesOn (tail after : List Char) : Prop :=
  ∃ path mark word, tail = ':' :: (path ++ mark :: word) ∧ IsRun isPathChar [':'] path [mark] ∧
    2 ≤ path.length ∧ path.getLast?.any Text.isWord = true ∧ isMark mark = true ∧
    IsRun Text.isWord [mark] word after

/-- The word that starts the names of members of modules. -/
def moduleWord : List Char := "module".toList

/-- A name in its place: a word that is not `module` or does not go on, or `module` with all that it
goes on with. -/
inductive IsName (before name after : List Char) : Prop where
  | word (run : IsRun Text.isWord before name after)
      (alone : name = moduleWord → ¬ ∃ tail rest, GoesOn tail rest ∧ after = tail ++ rest)
  | member (tail : List Char) (joined : name = moduleWord ++ tail)
      (run : IsRun Text.isWord before moduleWord (tail ++ after)) (goesOn : GoesOn tail after)

section
variable {before before' after name tail : List Char}

theorem IsName.front (h : IsName before name after) : before.getLast?.any Text.isWord = false := by
  cases h with
  | word run _ => exact run.front
  | member _ _ run _ => exact run.front

theorem IsName.of_front (h : IsName before name after)
    (hf : before'.getLast?.any Text.isWord = false) : IsName before' name after := by
  cases h with
  | word run alone => exact .word (run.of_front hf) alone
  | member tail joined run goesOn => exact .member tail joined (run.of_front hf) goesOn

theorem IsName.head (h : IsName before name after) : name.head?.any Text.isWord = true := by
  cases h with
  | word run _ =>
    obtain ⟨c, rest, rfl⟩ := List.exists_cons_of_ne_nil run.ne_nil
    exact run.all c List.mem_cons_self
  | member tail joined run _ =>
    rw [joined]
    exact run.all 'm' (by decide)

theorem GoesOn.back (h : GoesOn tail after) : after.head?.any Text.isWord = false := by
  obtain ⟨_, _, _, _, _, _, _, _, hword⟩ := h
  exact hword.back

theorem IsName.back (h : IsName before name after) : after.head?.any Text.isWord = false := by
  cases h with
  | word run _ => exact run.back
  | member _ _ _ goesOn => exact goesOn.back

theorem isPathChar_of_isMark {c : Char} (h : isMark c = true) : isPathChar c = false := by
  have hc : c = '.' ∨ c = '~' ∨ c = '#' := by simpa [isMark, or_assoc] using h
  rcases hc with rfl | rfl | rfl <;> decide

theorem isWord_of_isMark {c : Char} (h : isMark c = true) : Text.isWord c = false := by
  have hpath := isPathChar_of_isMark h
  rw [isPathChar, Bool.or_eq_false_iff] at hpath
  exact hpath.1

/-! ## Reading a name -/

theorem drop_length_takeWhile (p : Char → Bool) (cs : List Char) :
    cs.drop (cs.takeWhile p).length = cs.dropWhile p := by
  have hcut := List.takeWhile_append_dropWhile (p := p) (l := cs)
  nth_rewrite 2 [← hcut]
  exact List.drop_left

theorem goesOn_of_memberTail? {cs : List Char} (h : memberTail? cs = some tail) :
    ∃ after, GoesOn tail after ∧ cs = tail ++ after := by
  have hp : (fun c => Text.isWord c || c == '/') = isPathChar := rfl
  unfold memberTail? at h
  split at h
  · rename_i rest
    simp only [hp] at h
    split at h
    · rename_i hpath
      split at h
      · rename_i mark after hdrop
        split at h
        · rename_i hmark
          cases h
          rw [Bool.and_eq_true, decide_eq_true_eq] at hpath
          rw [Bool.and_eq_true, Bool.not_eq_true', List.isEmpty_eq_false_iff] at hmark
          have hne : rest.takeWhile isPathChar ≠ [] := fun hnil => by simp [hnil] at hpath
          have hafter := List.takeWhile_append_dropWhile (p := Text.isWord) (l := after)
          refine ⟨after.dropWhile Text.isWord,
            ⟨_, mark, _, rfl, ?_, hpath.1, hpath.2, hmark.1, ?_⟩, ?_⟩
          · exact ⟨hne, fun _ => List.mem_takeWhile_imp, by decide, isPathChar_of_isMark hmark.1⟩
          · exact ⟨hmark.2, fun _ => List.mem_takeWhile_imp, isWord_of_isMark hmark.1,
              head?_dropWhile_any _ _⟩
          · simp only [List.cons_append, List.append_assoc, hafter]
            rw [drop_length_takeWhile] at hdrop
            rw [← hdrop, List.takeWhile_append_dropWhile]
        · cases h
      · cases h
    · cases h
  · cases h

theorem memberTail?_of_goesOn (h : GoesOn tail after) :
    memberTail? (tail ++ after) = some tail := by
  obtain ⟨path, mark, word, rfl, hpath, hlength, hlast, hmark, hword⟩ := h
  have hback : (mark :: (word ++ after)).head?.any isPathChar = false := hpath.back
  have hpathRead : (path ++ mark :: (word ++ after)).takeWhile
      (fun c => Text.isWord c || c == '/') = path := takeWhile_append_of_back hpath.all hback
  have hdrop : (path ++ mark :: (word ++ after)).drop path.length = mark :: (word ++ after) :=
    List.drop_left
  have hne : word.isEmpty = false := List.isEmpty_eq_false_iff.mpr hword.ne_nil
  rw [List.cons_append, List.append_assoc, List.cons_append]
  simp only [memberTail?, hpathRead, hdrop, hword.takeWhile]
  simp [hlength, hlast, hmark, hne]

theorem nameAt_eq (cs : List Char) :
    nameAt cs = if cs.takeWhile Text.isWord = moduleWord then
      moduleWord ++ (memberTail? (cs.dropWhile Text.isWord)).getD []
      else cs.takeWhile Text.isWord := by
  rw [nameAt, drop_length_takeWhile]
  by_cases hm : cs.takeWhile Text.isWord = moduleWord
  · simp [hm, moduleWord]
  · have hne : ¬ cs.takeWhile Text.isWord = "module".toList := hm
    simp only [beq_iff_eq, hne, hm, if_false]

/-- The name that is read at the start of a text is the name in its place. -/
theorem isName_nameAt {cs : List Char} (hcs : cs.head?.any Text.isWord = true) :
    ∃ after, IsName [] (nameAt cs) after ∧ cs = nameAt cs ++ after := by
  have hrun : IsRun Text.isWord [] _ _ := isRun_takeWhile rfl hcs
  have hcut := (List.takeWhile_append_dropWhile (p := Text.isWord) (l := cs)).symm
  rw [nameAt_eq]
  by_cases hm : cs.takeWhile Text.isWord = moduleWord
  · rw [if_pos hm]
    rw [hm] at hrun hcut
    cases htail : memberTail? (cs.dropWhile Text.isWord) with
    | none =>
      rw [Option.getD_none, List.append_nil]
      refine ⟨cs.dropWhile Text.isWord, .word hrun fun _ => ?_, hcut⟩
      rintro ⟨tail, rest, hgoes, he⟩
      rw [he, memberTail?_of_goesOn hgoes] at htail
      cases htail
    | some tail =>
      obtain ⟨after, hgoes, he⟩ := goesOn_of_memberTail? htail
      rw [he] at hrun hcut
      refine ⟨after, .member tail rfl hrun hgoes, ?_⟩
      rw [Option.getD_some, List.append_assoc]
      exact hcut
  · rw [if_neg hm]
    exact ⟨_, .word hrun fun h => absurd h hm, hcut⟩

theorem nameAt_of_isName (h : IsName before name after) : nameAt (name ++ after) = name := by
  cases h with
  | word run alone =>
    rw [nameAt_eq, run.takeWhile, run.dropWhile]
    by_cases hm : name = moduleWord
    · rw [if_pos hm]
      cases htail : memberTail? after with
      | none => rw [Option.getD_none, List.append_nil, hm]
      | some tail =>
        obtain ⟨rest, hgoes, he⟩ := goesOn_of_memberTail? htail
        exact absurd ⟨tail, rest, hgoes, he⟩ (alone hm)
    · exact if_neg hm
  | member tail joined run goesOn =>
    rw [joined, List.append_assoc, nameAt_eq, run.takeWhile, run.dropWhile, if_pos rfl,
      memberTail?_of_goesOn goesOn, Option.getD_some]

end

/-! ## Reading tokens one by one -/

theorem nameAt_isPrefix {cs : List Char} (hcs : cs.head?.any Text.isWord = true) :
    nameAt cs <+: cs := by
  obtain ⟨after, _, he⟩ := isName_nameAt hcs
  exact ⟨after, he.symm⟩

theorem first_isPrefix (cs : List Char) : (first cs).text <+: cs := by
  unfold first
  split
  · exact nameAt_isPrefix ‹_›
  · exact List.takeWhile_prefix _

theorem first_ne_nil {cs : List Char} (h : cs ≠ []) : (first cs).text ≠ [] := by
  unfold first
  split
  · rename_i hword
    obtain ⟨after, hname, _⟩ := isName_nameAt hword
    intro hnil
    have hhead := hname.head
    rw [show nameAt cs = [] from hnil] at hhead
    cases hhead
  · rename_i hword
    obtain ⟨c, rest, rfl⟩ := List.exists_cons_of_ne_nil h
    have hc : Text.isWord c = false := by simpa using hword
    simp [hc]

/-- What follows the first token. -/
def later (cs : List Char) : List Char := cs.drop (first cs).text.length

theorem first_append_later (cs : List Char) : (first cs).text ++ later cs = cs := by
  rw [later]
  nth_rewrite 1 [List.prefix_iff_eq_take.mp (first_isPrefix cs)]
  exact List.take_append_drop _ cs

theorem length_later_lt {cs : List Char} (h : cs ≠ []) : (later cs).length < cs.length := by
  have hlength := congrArg List.length (first_append_later cs)
  have hpos := List.length_pos_iff.mpr (first_ne_nil h)
  rw [List.length_append] at hlength
  omega

/-- As many steps as there are characters are enough. -/
theorem listWithin_eq_list {steps : Nat} {cs : List Char} (h : cs.length ≤ steps) :
    listWithin steps cs = list cs := by
  have key : ∀ m n (cs : List Char), cs.length ≤ m → cs.length ≤ n →
      listWithin m cs = listWithin n cs := by
    intro m
    induction m with
    | zero =>
      intro n cs hm _
      rw [List.length_eq_zero_iff.mp (Nat.le_zero.mp hm)]
      cases n <;> rfl
    | succ m ih =>
      intro n cs hm hn
      cases cs with
      | nil => cases n <;> rfl
      | cons c rest =>
        cases n with
        | zero => cases hn
        | succ n =>
          have hlt := length_later_lt (List.cons_ne_nil c rest)
          exact congrArg _ (ih n (later (c :: rest)) (by omega) (by omega))
  exact key _ _ cs h le_rfl

theorem list_nil : list [] = [] := rfl

theorem list_of_ne_nil {cs : List Char} (h : cs ≠ []) : list cs = first cs :: list (later cs) := by
  have hlt := length_later_lt h
  obtain ⟨c, rest, rfl⟩ := List.exists_cons_of_ne_nil h
  rw [List.length_cons] at hlt
  exact congrArg _ (listWithin_eq_list (Nat.lt_succ_iff.mp hlt))

theorem isName_first (cs : List Char) : (first cs).isName = cs.head?.any Text.isWord := by
  unfold first
  split
  · exact Eq.symm ‹_›
  · simp_all

theorem isName_first_text {cs : List Char} (h : (first cs).isName = true) :
    IsName [] (first cs).text (later cs) := by
  rw [isName_first] at h
  obtain ⟨after, hname, he⟩ := isName_nameAt h
  have hfirst : (first cs).text = nameAt cs := by rw [first, if_pos h]
  have hlater : later cs = after := by
    have hcut := first_append_later cs
    rw [hfirst] at hcut
    exact List.append_cancel_left (hcut.trans he)
  rwa [hfirst, hlater]

theorem first_text_of_literal {cs : List Char} (h : (first cs).isName = false) :
    (first cs).text = cs.takeWhile (!Text.isWord ·) := by
  rw [isName_first] at h
  rw [first, if_neg (by rw [h]; decide)]

theorem later_of_literal {cs : List Char} (h : (first cs).isName = false) :
    later cs = cs.dropWhile (!Text.isWord ·) := by
  have hcut := first_append_later cs
  rw [first_text_of_literal h] at hcut
  apply List.append_cancel_left (hcut.trans _)
  exact List.takeWhile_append_dropWhile.symm

/-- After a name comes a literal, and after a literal a name. -/
theorem isName_first_later {cs : List Char} (h : later cs ≠ []) :
    (first cs).isName ≠ (first (later cs)).isName := by
  rw [isName_first (later cs)]
  cases hn : (first cs).isName with
  | true => simp [(isName_first_text hn).back]
  | false =>
    have hback := head?_dropWhile_any (!Text.isWord ·) cs
    rw [← later_of_literal hn] at hback
    obtain ⟨c, rest, he⟩ := List.exists_cons_of_ne_nil h
    rw [he] at hback ⊢
    simpa using hback

/-- The token that is read first is the one in its place. -/
theorem first_eq {t : TypeToken} {after : List Char} (hne : t.text ≠ [])
    (hname : t.isName = true → IsName [] t.text after)
    (hliteral : t.isName = false →
      (∀ c ∈ t.text, Text.isWord c = false) ∧ after.head?.all Text.isWord = true) :
    first (t.text ++ after) = t := by
  obtain ⟨text, isName⟩ := t
  obtain ⟨c, rest, rfl⟩ := List.exists_cons_of_ne_nil hne
  cases isName with
  | true =>
    have hn := hname rfl
    have hc : Text.isWord c = true := hn.head
    have hread := nameAt_of_isName hn
    simp only [first, List.cons_append, List.head?_cons, Option.any_some, hc, if_true] at hread ⊢
    rw [hread]
  | false =>
    obtain ⟨hall, hback⟩ := hliteral rfl
    have hc : Text.isWord c = false := hall c List.mem_cons_self
    have hread : (c :: rest ++ after).takeWhile (!Text.isWord ·) = c :: rest := by
      apply takeWhile_append_of_back
      · intro d hd
        simp [hall d hd]
      · cases after with
        | nil => rfl
        | cons d _ =>
          have hd : Text.isWord d = true := by simpa using hback
          simp [hd]
    simp only [first, List.cons_append, List.head?_cons, Option.any_some, hc] at hread ⊢
    rw [hread]
    rfl

/-! ## All tokens of a text -/

def textOf (ts : List TypeToken) : List Char := ts.flatMap text

/-- The tokens of a text: they are the whole text, none is empty, names and literals take turns,
literals have no word character, and each name is the one in its place. -/
structure Tokenizes (cs : List Char) (ts : List TypeToken) : Prop where
  joined : textOf ts = cs
  ne_nil : ∀ t ∈ ts, t.text ≠ []
  alternate : ts.IsChain fun s t => s.isName ≠ t.isName
  literals : ∀ t ∈ ts, t.isName = false → ∀ c ∈ t.text, Text.isWord c = false
  names : ∀ before t after, ts = before ++ t :: after → t.isName = true →
    IsName (textOf before) t.text (textOf after)

theorem textOf_cons (t : TypeToken) (ts : List TypeToken) :
    textOf (t :: ts) = t.text ++ textOf ts :=
  List.flatMap_cons

section
variable {cs : List Char} {t : TypeToken} {before ts : List TypeToken}

/-- Further tokens in front do not change what stands right before a place. -/
theorem getLast?_textOf_cons (hne : ∀ s ∈ before, s.text ≠ []) (hb : before ≠ []) :
    (textOf (t :: before)).getLast? = (textOf before).getLast? := by
  obtain ⟨s, rest, rfl⟩ := List.exists_cons_of_ne_nil hb
  have htext : textOf (s :: rest) ≠ [] := by
    rw [textOf_cons]
    exact List.append_ne_nil_of_left_ne_nil (hne s List.mem_cons_self) _
  rw [textOf_cons t, List.getLast?_append_of_ne_nil _ htext]

theorem Tokenizes.tail (h : Tokenizes cs (t :: ts)) : Tokenizes (textOf ts) ts := by
  have hne : ∀ s ∈ ts, s.text ≠ [] := fun s hs => h.ne_nil s (List.mem_cons_of_mem t hs)
  refine ⟨rfl, hne, h.alternate.of_cons, fun s hs => h.literals s (List.mem_cons_of_mem t hs), ?_⟩
  intro before s after he hs
  have hname := h.names (t :: before) s after (by rw [he, List.cons_append]) hs
  apply hname.of_front
  by_cases hb : before = []
  · rw [hb]
    rfl
  · have hbefore : ∀ x ∈ before, x.text ≠ [] := fun x hx =>
      hne x (he ▸ List.mem_append_left _ hx)
    rw [← getLast?_textOf_cons (t := t) hbefore hb]
    exact hname.front

/-- What follows a token is nothing, or it starts as the next token does. -/
theorem Tokenizes.back_of_literal (h : Tokenizes cs (t :: ts)) (ht : t.isName = false) :
    (textOf ts).head?.all Text.isWord = true := by
  cases ts with
  | nil => rfl
  | cons s rest =>
    have hs : s.isName = true := by
      have halternate : t.isName ≠ s.isName := (List.isChain_cons_cons.mp h.alternate).1
      rw [ht] at halternate
      simpa using halternate.symm
    have hhead := (h.names [t] s rest rfl hs).head
    obtain ⟨c, cs, hc⟩ := List.exists_cons_of_ne_nil (h.ne_nil s (by simp))
    rw [hc] at hhead
    rw [textOf_cons, hc]
    exact hhead

theorem Tokenizes.first_eq (h : Tokenizes cs (t :: ts)) : first cs = t := by
  rw [← h.joined, textOf_cons]
  apply TypeToken.first_eq (h.ne_nil t List.mem_cons_self)
  · exact h.names [] t ts rfl
  · exact fun ht => ⟨h.literals t List.mem_cons_self ht, h.back_of_literal ht⟩

theorem Tokenizes.list_eq (h : Tokenizes cs ts) : list cs = ts := by
  induction ts generalizing cs with
  | nil =>
    rw [← h.joined]
    rfl
  | cons t rest ih =>
    have hcs : cs = t.text ++ textOf rest := h.joined.symm.trans (textOf_cons t rest)
    have hne : cs ≠ [] := hcs ▸ List.append_ne_nil_of_left_ne_nil (h.ne_nil t List.mem_cons_self) _
    have hlater : later cs = textOf rest := by
      rw [later, h.first_eq, hcs, List.drop_left]
    rw [list_of_ne_nil hne, h.first_eq, hlater, ih h.tail]

theorem literal_first {cs : List Char} (h : (first cs).isName = false) :
    ∀ c ∈ (first cs).text, Text.isWord c = false := by
  intro c hc
  rw [first_text_of_literal h] at hc
  simpa using List.mem_takeWhile_imp hc

/-- A first token in front of the tokens of what follows it. -/
theorem Tokenizes.cons (hcs : cs ≠ []) (h : Tokenizes (later cs) ts) :
    Tokenizes cs (first cs :: ts) := by
  have halternate : ∀ s ∈ ts.head?, (first cs).isName ≠ s.isName := by
    intro s hs
    obtain ⟨rest, rfl⟩ : ∃ rest, ts = s :: rest := List.head?_eq_some_iff.mp hs
    rw [← h.first_eq]
    apply isName_first_later
    rw [← h.joined, textOf_cons]
    exact List.append_ne_nil_of_left_ne_nil (h.ne_nil s List.mem_cons_self) _
  refine ⟨?_, ?_, h.alternate.cons halternate, ?_, ?_⟩
  · rw [textOf_cons, h.joined, first_append_later]
  · exact List.forall_mem_cons.mpr ⟨first_ne_nil hcs, h.ne_nil⟩
  · exact List.forall_mem_cons.mpr ⟨literal_first, h.literals⟩
  · intro before t after he ht
    cases before with
    | nil =>
      cases he
      rw [h.joined]
      exact isName_first_text ht
    | cons b before =>
      rw [List.cons_append, List.cons.injEq] at he
      obtain ⟨rfl, rfl⟩ := he
      have hname := h.names before t after rfl ht
      apply hname.of_front
      by_cases hb : before = []
      · -- The name follows the first token, which therefore is a literal.
        subst hb
        have hn : (first cs).isName = false := by
          simpa [ht] using halternate t rfl
        have hlast := literal_first hn
        rw [textOf_cons, textOf, List.flatMap_nil, List.append_nil]
        cases hl : (first cs).text.getLast? with
        | none => rfl
        | some c => exact hlast c (List.mem_of_getLast? hl)
      · rw [getLast?_textOf_cons (fun s hs => h.ne_nil s (List.mem_append_left _ hs)) hb]
        exact hname.front

theorem tokenizes_list (cs : List Char) : Tokenizes cs (list cs) := by
  induction hn : cs.length using Nat.strong_induction_on generalizing cs with
  | _ n ih =>
    subst hn
    by_cases h : cs = []
    · subst h
      refine ⟨rfl, ?_, .nil, ?_, ?_⟩
      · exact fun t ht => absurd ht List.not_mem_nil
      · exact fun t ht => absurd ht List.not_mem_nil
      · intro before t after he
        simp [list_nil] at he
    · rw [list_of_ne_nil h]
      exact (ih _ (length_later_lt h) _ rfl).cons h

end

/-- The tokens that are read in a text are its tokens in this sense, and it has no others. -/
theorem tokens_exact (cs : List Char) (ts : List TypeToken) : list cs = ts ↔ Tokenizes cs ts :=
  ⟨fun h => h ▸ tokenizes_list cs, fun h => h.list_eq⟩

/-- A path of one character is too short, and a mark with no word behind it ends nothing. -/
example : ((list "module:x~y, module:ab~ module:ab~c".toList).filter (·.isName)).map
    (fun t => String.ofList t.text) = ["module", "x", "y", "module", "ab", "module:ab~c"] := by
  decide +kernel

end DocSite.TypeToken
