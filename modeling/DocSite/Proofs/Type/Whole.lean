import DocSite.Proofs.Type.Linked

/-! When a type expression that is the longname of a type becomes one link. The tokenizer knows
words and the members of modules, so a longname is read as one token only where it is one of these,
with a path that is long enough; every other longname falls apart. What short names stand for can
still lead elsewhere. -/
namespace DocSite
set_option autoImplicit false

/-! ## Names that are one token -/

namespace TypeToken

/-- A word, or the name of a module's member with a path of two characters or more. -/
inductive IsSingleName : List Char → Prop where
  | word {cs : List Char} : cs ≠ [] → (∀ c ∈ cs, Text.isWord c = true) → IsSingleName cs
  | member {path word : List Char} {mark : Char} : 2 ≤ path.length →
      (∀ c ∈ path, isPathChar c = true) → path.getLast?.any Text.isWord = true →
      isMark mark = true → word ≠ [] → (∀ c ∈ word, Text.isWord c = true) →
      IsSingleName (moduleWord ++ ':' :: (path ++ mark :: word))

section
variable {cs word : List Char} {mark : Char}

theorem isName_nil_iff : IsName [] cs [] ↔ IsSingleName cs := by
  constructor
  · intro h
    cases h with
    | word run _ => exact .word run.ne_nil run.all
    | member tail joined _ goesOn =>
      obtain ⟨path, mark, word, rfl, hpath, hlong, hlast, hmark, hword⟩ := goesOn
      rw [joined]
      exact .member hlong hpath.all hlast hmark hword.ne_nil hword.all
  · intro h
    cases h with
    | word hne hall =>
      refine .word ⟨hne, hall, rfl, rfl⟩ fun _ => ?_
      rintro ⟨_, rest, ⟨path, mark, word, rfl, -⟩, he⟩
      cases he
    | member hlong hpath hlast hmark hne hword =>
      have hpathNe : _ ≠ [] := List.ne_nil_of_length_pos (Nat.lt_of_lt_of_le Nat.two_pos hlong)
      have hcolon : isPathChar ':' = false := by decide
      have hmodule : moduleWord.all Text.isWord = true := by decide
      refine .member _ rfl ⟨by decide, List.all_eq_true.mp hmodule, rfl, rfl⟩
        ⟨_, _, _, rfl, ⟨hpathNe, hpath, hcolon, isPathChar_of_isMark hmark⟩, hlong, hlast, hmark,
          ⟨hne, hword, isWord_of_isMark hmark, rfl⟩⟩

theorem list_eq_singleton_iff : list cs = [⟨cs, true⟩] ↔ IsSingleName cs := by
  rw [← isName_nil_iff]
  constructor
  · intro h
    exact (tokenizes_list cs).names [] ⟨cs, true⟩ [] h rfl
  · intro h
    have hne : cs ≠ [] := by
      rintro rfl
      exact absurd h.head (by decide)
    have hfirst : first cs = ⟨cs, true⟩ := by
      have hread : first (cs ++ []) = ⟨cs, true⟩ :=
        first_eq (t := ⟨cs, true⟩) hne (fun _ => h) fun he => by cases he
      rwa [List.append_nil] at hread
    have hlater : later cs = [] := by rw [later, hfirst, List.drop_length]
    rw [list_of_ne_nil hne, hfirst, hlater, list_nil]

theorem isSingleName_of_list_eq {t : TypeToken} (h : list cs = [t]) (hn : t.isName = true) :
    IsSingleName cs := by
  have htext : textOf [t] = cs := h ▸ (tokenizes_list cs).joined
  have htext : t.text = cs := by
    rwa [textOf_cons, textOf, List.flatMap_nil, List.append_nil] at htext
  rw [← list_eq_singleton_iff, h, ← htext, ← hn]

end

end TypeToken

/-! ## Labels -/

/-- What follows the last mark of a name or, where there is none, the kind of an external name. -/
def lastPart (cs : List Char) : List Char :=
  if cs.any TypeToken.isMark then (cs.reverse.takeWhile (!TypeToken.isMark ·)).reverse
  else ("external:".toList.isPrefixOf? cs).getD cs

/-- The label of a type: its longname or, where long names are made compact, the last part of it. -/
def typeLabel (compact : Bool) (name : String) : String :=
  if compact then String.ofList (lastPart name.toList) else name

section
variable {cs word before : List Char} {mark : Char}

theorem isMark_of_isWord {c : Char} (h : Text.isWord c = true) : TypeToken.isMark c = false := by
  cases hm : TypeToken.isMark c with
  | false => rfl
  | true =>
    rw [TypeToken.isWord_of_isMark hm] at h
    cases h

theorem lastSegment?_append {word : List Char} (h : lastSegment? cs = some word)
    (before : List Char) : lastSegment? (before ++ cs) = some word := by
  induction before with
  | nil => exact h
  | cons c rest ih => rw [List.cons_append, lastSegment?, ih]

theorem lastSegment?_of_word (h : ∀ c ∈ cs, Text.isWord c = true) : lastSegment? cs = none := by
  induction cs with
  | nil => rfl
  | cons c rest ih =>
    obtain ⟨hc, hrest⟩ := List.forall_mem_cons.mp h
    rw [lastSegment?, ih hrest, isMark_of_isWord hc]
    rfl

theorem lastSegment?_mark (hmark : TypeToken.isMark mark = true) (hne : word ≠ [])
    (hword : ∀ c ∈ word, Text.isWord c = true) : lastSegment? (mark :: word) = some word := by
  have htake : word.takeWhile Text.isWord = word := List.takeWhile_eq_self_iff.mpr hword
  have hempty : word.isEmpty = false := List.isEmpty_eq_false_iff.mpr hne
  rw [lastSegment?, lastSegment?_of_word hword]
  simp [htake, hmark, hempty]

theorem not_external_of_word (h : ∀ c ∈ cs, Text.isWord c = true) :
    "external:".toList.isPrefixOf? cs = none := by
  cases hp : "external:".toList.isPrefixOf? cs with
  | none => rfl
  | some rest =>
    have hcs := List.isPrefixOf?_eq_some_iff_append_eq.mp hp
    have hcolon : ':' ∈ cs := hcs ▸ List.mem_append_left _ (by decide)
    exact absurd (h ':' hcolon) (by decide)

theorem externalWord?_of_word (h : ∀ c ∈ cs, Text.isWord c = true) : externalWord? cs = none := by
  have hdrop : ∀ c ∈ cs.dropWhile Text.isBlank, Text.isWord c = true :=
    fun c hc => h c ((List.dropWhile_sublist _).subset hc)
  rw [externalWord?, not_external_of_word hdrop]

theorem lastPart_of_word (h : ∀ c ∈ cs, Text.isWord c = true) : lastPart cs = cs := by
  have hany : cs.any TypeToken.isMark = false := List.any_eq_false.mpr fun c hc => by
    rw [isMark_of_isWord (h c hc)]
    decide
  rw [lastPart, hany, not_external_of_word h]
  rfl

theorem lastPart_append_mark (hmark : TypeToken.isMark mark = true)
    (hword : ∀ c ∈ word, Text.isWord c = true) (before : List Char) :
    lastPart (before ++ mark :: word) = word := by
  have hany : (before ++ mark :: word).any TypeToken.isMark = true :=
    List.any_eq_true.mpr ⟨mark, List.mem_append_right _ List.mem_cons_self, hmark⟩
  have hreverse : (before ++ mark :: word).reverse = word.reverse ++ mark :: before.reverse := by
    simp
  have htake : (word.reverse ++ mark :: before.reverse).takeWhile (!TypeToken.isMark ·) =
      word.reverse := by
    refine TypeToken.takeWhile_append_of_back (fun c hc => ?_) (by simp [hmark])
    rw [isMark_of_isWord (hword c (List.mem_reverse.mp hc))]
    rfl
  rw [lastPart, if_pos hany, hreverse, htake, List.reverse_reverse]

theorem newline_not_mem_of_single (h : TypeToken.IsSingleName cs) : '\n' ∉ cs := by
  have hnot : ∀ {p : Char → Bool} {run : List Char}, p '\n' = false → (∀ c ∈ run, p c = true) →
      '\n' ∉ run := fun hp hall hmem => by
    rw [hall '\n' hmem] at hp
    cases hp
  cases h with
  | word _ hall => exact hnot (by decide) hall
  | member _ hpath _ hmark _ hword =>
    rw [List.mem_append, List.mem_cons, List.mem_append, List.mem_cons]
    rintro (hmem | he | hmem | rfl | hmem)
    · revert hmem
      decide
    · exact absurd he (by decide)
    · exact hnot (by decide) hpath hmem
    · exact absurd hmark (by decide)
    · exact hnot (by decide) hword hmem

/-- A name that is one token is shown under the label that it is to have. -/
theorem shortTypeName_of_single {name : String} (h : TypeToken.IsSingleName name.toList) :
    shortTypeName name = String.ofList (lastPart name.toList) := by
  have hline : name.toList.takeWhile (· != '\n') = name.toList := by
    refine List.takeWhile_eq_self_iff.mpr fun c hc => bne_iff_ne.mpr ?_
    rintro rfl
    exact newline_not_mem_of_single h hc
  unfold shortTypeName
  dsimp only
  rw [hline]
  generalize hcs : name.toList = cs at h
  cases h with
  | word _ hall => -- A word has neither a mark nor the colon of a kind.
    rw [lastSegment?_of_word hall, externalWord?_of_word hall, lastPart_of_word hall, ← hcs,
      String.ofList_toList]
  | member _ _ _ hmark hne hword =>
    rw [← List.cons_append, ← List.append_assoc,
      lastSegment?_append (lastSegment?_mark hmark hne hword), lastPart_append_mark hmark hword]

end

/-! ## Expressions that are one link -/

namespace Html.IsAnchor

theorem markup_ne_empty {h : Html} (hh : h.IsAnchor) : h.markup ≠ "" := by
  obtain ⟨address, label, he⟩ := hh
  intro hempty
  rw [hempty, String.toList_empty] at he
  cases he

end Html.IsAnchor

theorem Registry.linkTo_anchor_or_text (r : Registry) {name : String} (hname : name ≠ "")
    (s : String) : (r.linkTo (some name) (.text s)).IsAnchor ∨
      ∃ shown, shown ≠ "" ∧ r.linkTo (some name) (.text s) = .text shown := by
  have hanchor : ∀ address other : String, (anchorWith (.text address) .empty
      (if (Html.text s).isEmpty then .text other else .text s)).IsAnchor := by
    intro address other
    split <;> exact isAnchor_anchorWith _ _
  unfold linkTo linkWith
  dsimp only
  split
  · exact .inl (hanchor _ _)
  · split
    · exact .inl (hanchor _ _)
    · right
      split
      · exact ⟨name, hname, rfl⟩
      · rename_i hempty
        refine ⟨s, ?_, rfl⟩
        rintro rfl
        exact hempty rfl

namespace TypeLinker

section
variable {l : TypeLinker} {r : Registry} {t : TypeToken}

theorem token_anchor_or_text (hne : t.text ≠ []) : (l.token r t).IsAnchor ∨
    ∃ shown, shown ≠ "" ∧ l.token r t = .text shown := by
  unfold token
  dsimp only
  split
  · rename_i hlinked
    rw [Bool.and_eq_true, TypeIndex.isUnique, Bool.and_eq_true, bne_iff_ne] at hlinked
    exact r.linkTo_anchor_or_text hlinked.2.1 _
  · exact .inr ⟨_, by simpa using hne, rfl⟩

theorem markup_token_ne_empty (hne : t.text ≠ []) : (l.token r t).markup ≠ "" := by
  rcases token_anchor_or_text (l := l) (r := r) hne with ha | ⟨shown, hshown, he⟩
  · exact ha.markup_ne_empty
  · rw [he]
    have hempty := Html.isEmpty_text hshown
    exact fun hm => by simp [Html.isEmpty, hm] at hempty

/-- An expression that is one link has one token, and this token is linked. -/
theorem single_token {text : String} (h : (l.expression r text).IsAnchor) :
    ∃ t, TypeToken.list text.toList = [t] ∧ t.isName = true ∧
      l.expression r text = l.token r t := by
  have hne := (TypeToken.tokenizes_list text.toList).ne_nil
  have hwhole : l.expression r text = .each (TypeToken.list text.toList) (l.token r) := rfl
  cases hts : TypeToken.list text.toList with
  | nil =>
    rw [hwhole, hts] at h
    exact absurd rfl h.markup_ne_empty
  | cons t rest =>
    rw [hts] at hne hwhole
    obtain ⟨ht, hrest⟩ := List.forall_mem_cons.mp hne
    have hmarkup : (l.expression r text).markup.toList ++ [] =
        (l.token r t).markup.toList ++ (Html.each rest (l.token r)).markup.toList := by
      rw [List.append_nil, hwhole, ← String.toList_append]
      rfl
    rcases token_anchor_or_text (l := l) (r := r) ht with ha | ⟨shown, hshown, he⟩
    · -- Two links with the same start end at the same place, so nothing follows the first piece.
      obtain ⟨-, hnil⟩ := h.separable ha _ _ hmarkup
      have hlater : rest = [] := by
        cases rest with
        | nil => rfl
        | cons next others =>
          have hempty := (String.append_eq_empty_iff.mp (String.toList_eq_nil_iff.mp hnil.symm)).1
          exact absurd hempty (markup_token_ne_empty (hrest next List.mem_cons_self))
      refine ⟨t, by rw [hlater], ?_, ?_⟩
      · cases hn : t.isName with
        | true => rfl
        | false =>
          rw [token_of_not_isName hn] at ha
          exact absurd rfl (ha.not_text (by rwa [String.toList_ofList]) [] [])
      · rw [hwhole, hlater]
        exact Html.append_empty _
    · rw [he] at hmarkup
      exact absurd hmarkup (h.not_text (by simpa using hshown) _ _)

end

section
variable {s : Store} {r : Registry} {compact expand : Bool} {name url : String}

/-- The expression of a name is a link just where the name is one token and stands for a type, and
then it is the link to this type. -/
theorem expression_eq_anchor_iff {h : Html} (ha : h.IsAnchor) :
    (ofStore s compact expand).expression r name = h ↔
      TypeToken.IsSingleName name.toList ∧ ∃ meant, s.StandsFor name expand meant ∧
        s.HasOnly meant ∧
        r.linkTo (some meant) (.text (if compact then shortTypeName meant else meant)) = h := by
  constructor
  · rintro rfl
    obtain ⟨t, ht, hn, he⟩ := single_token ha
    have hsingle := TypeToken.isSingleName_of_list_eq ht hn
    have htext : t = ⟨name.toList, true⟩ := by
      rw [TypeToken.list_eq_singleton_iff.mpr hsingle] at ht
      exact (List.singleton_inj.mp ht).symm
    have hpiece : IsPiece s r compact expand t ((ofStore s compact expand).token r t) :=
      isPiece_token (ht ▸ List.mem_cons_self)
    refine ⟨hsingle, ?_⟩
    rw [← he] at hpiece
    generalize (ofStore s compact expand).expression r name = whole at hpiece ha
    cases hpiece with
    | link _ meant only =>
      rw [htext, String.ofList_toList] at meant
      exact ⟨_, meant, only, rfl⟩
    | text _ =>
      refine absurd rfl (ha.not_text ?_ [] [])
      rw [String.toList_ofList]
      exact (TypeToken.tokenizes_list name.toList).ne_nil t (ht ▸ List.mem_cons_self)
  · rintro ⟨hsingle, meant, hstands, honly, rfl⟩
    have htokens := TypeToken.list_eq_singleton_iff.mpr hsingle
    have hname : name ≠ "" := by
      rintro rfl
      rw [String.toList_empty, TypeToken.list_nil] at htokens
      cases htokens
    have hlinks : (ofStore s compact expand).links (String.ofList name.toList) = true := by
      rw [String.ofList_toList]
      exact (links_ofStore_iff hname).mpr ⟨meant, hstands, honly⟩
    have htoken := token_of_links (r := r) (t := ⟨name.toList, true⟩) rfl hlinks
    rw [String.ofList_toList, link, meant_eq hstands] at htoken
    rw [expression, htokens, Html.each, List.map_cons, List.map_nil, Html.concat, Html.concat,
      Html.append_empty, htoken]
    rfl

/-- The longname of the only type that has it becomes the link to this type, under its label, just
where the longname is one token: a word, or the name of a module's member whose path has two
characters or more. Where short names are expanded, it must also not be the name of a type that is
linked in another way. -/
theorem linked_whole_iff (honly : s.HasOnly name) (hu : r.url? name = some url) (hne : url ≠ "")
    (compact : Bool) :
    ((ofStore s compact false).expression r name =
        r.linkTo (some name) (.text (typeLabel compact name)) ↔
      TypeToken.IsSingleName name.toList) ∧
    ((ofStore s compact true).expression r name =
        r.linkTo (some name) (.text (typeLabel compact name)) ↔
      TypeToken.IsSingleName name.toList ∧ ∃ meant, s.StandsFor name true meant ∧ s.HasOnly meant ∧
        r.linkTo (some meant) (.text (if compact then shortTypeName meant else meant)) =
          r.linkTo (some name) (.text (typeLabel compact name))) := by
  have ha := Registry.isAnchor_linkTo hu hne (typeLabel compact name)
  refine ⟨?_, expression_eq_anchor_iff ha⟩
  rw [expression_eq_anchor_iff ha]
  refine and_iff_left_of_imp fun hsingle => ⟨name, .itself, honly, ?_⟩
  rw [typeLabel, shortTypeName_of_single hsingle]

def shortModule : Store :=
  ⟨[{ kind := "typedef", name := "P", longname := some "module:a~P", memberof := some "module:a",
      scope := some "inner" }]⟩

/-- The path is one character, so that the longname falls apart and its type is not linked. -/
theorem shortModule_not_whole :
    shortModule.HasOnly "module:a~P" ∧
      (ofStore shortModule false false).expression
          (({} : Registry).register "module:a~P" "module-a.html#~P").1 "module:a~P" ≠
        (({} : Registry).register "module:a~P" "module-a.html#~P").1.linkTo (some "module:a~P")
          (.text "module:a~P") := by
  have honly : shortModule.HasOnly "module:a~P" := by
    unfold Store.HasOnly
    decide +kernel
  have hu : (({} : Registry).register "module:a~P" "module-a.html#~P").1.url? "module:a~P" =
      some "module-a.html#~P" := by decide +kernel
  refine ⟨honly, fun hwhole => ?_⟩
  have hsingle := ((linked_whole_iff honly hu (by decide) false).1.mp hwhole)
  have htokens := TypeToken.list_eq_singleton_iff.mpr hsingle
  revert htokens
  decide +kernel

end

end TypeLinker

end DocSite
