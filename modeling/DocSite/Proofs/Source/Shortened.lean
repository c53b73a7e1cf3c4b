import DocSite.Proofs.Files.Tree
import DocSite.Proofs.Link.Address
import DocSite.Source.Path

/-! Short forms of paths. The parts that directories have in common are put together again without
empty parts and dots, so what they spell need not stand in front of a path. It does where paths are
spelled plainly, and then each path keeps a short form of its own. -/
namespace DocSite
set_option autoImplicit false

namespace Text

theorem pieces_append {p : Char → Bool} {before : List Char} (h : ∀ c ∈ before, p c = false)
    {sep : Char} (hsep : p sep = true) (after : List Char) :
    pieces p (before ++ sep :: after) = before :: pieces p after := by
  induction before with
  | nil => simp [pieces, hsep]
  | cons c rest ih =>
    have hc : p c = false := h c List.mem_cons_self
    have hrest := ih fun d hd => h d (List.mem_cons_of_mem _ hd)
    simp [pieces, hc, hrest]

theorem dropEnd_append {p : Char → Bool} {tail : List Char} (hne : tail ≠ [])
    (h : ∀ c ∈ tail, p c = false) (cs : List Char) : dropEnd p (cs ++ tail) = cs ++ tail := by
  obtain ⟨front, last, rfl⟩ := tail.eq_nil_or_concat'.resolve_left hne
  have hlast : p last = false := h last (by simp)
  simp [dropEnd, hlast]

theorem dropEnd_concat {p : Char → Bool} {sep : Char} (h : p sep = true) (cs : List Char) :
    dropEnd p (cs ++ [sep]) = dropEnd p cs := by
  simp [dropEnd, h]

end Text

namespace Source

/-! ## Plain paths -/

/-- A part of a path without slashes of either kind that is neither empty nor a dot. -/
structure IsPart (part : String) : Prop where
  no_slash : '/' ∉ part.toList
  no_backslash : '\\' ∉ part.toList
  ne_empty : part ≠ ""
  ne_dot : part ≠ "."

/-- Parts with a slash after each. -/
def spelled (parts : List String) : List Char := parts.flatMap fun part => part.toList ++ ['/']

def rootMark (absolute : Bool) : List Char := if absolute then ['/'] else []

/-- A path is the root or nothing, the parts of its directory and the name of the file. -/
structure Spells (path : String) (absolute : Bool) (parts : List String) (name : String) :
    Prop where
  isPart : ∀ part ∈ parts, IsPart part
  isName : IsPart name
  eq : path.toList = rootMark absolute ++ spelled parts ++ name.toList

/-- A path that is spelled plainly. -/
def IsPlain (path : String) : Prop := ∃ absolute parts name, Spells path absolute parts name

section
variable {path name : String} {absolute : Bool} {parts : List String}

theorem IsPart.not_slash {part : String} (h : IsPart part) :
    ∀ c ∈ part.toList, (c == '/') = false :=
  fun _ hc => beq_eq_false_iff_ne.mpr fun e => h.no_slash (e ▸ hc)

theorem IsPart.toList_ne_nil {part : String} (h : IsPart part) : part.toList ≠ [] :=
  fun hnil => h.ne_empty (String.toList_inj.mp hnil)

theorem spelled_concat (front : List String) (last : String) :
    spelled (front ++ [last]) = spelled front ++ last.toList ++ ['/'] := by
  simp [spelled]

theorem toList_join_concat (front : List String) (last : String) :
    (Text.join "/" (front ++ [last])).toList = spelled front ++ last.toList := by
  induction front with
  | nil => rfl
  | cons first rest ih =>
    have hjoin : Text.join "/" (first :: (rest ++ [last])) =
        first ++ "/" ++ Text.join "/" (rest ++ [last]) := by
      cases rest <;> rfl
    rw [List.cons_append, hjoin]
    simp [spelled, ih]

/-- The directory of a plain path is its parts with slashes between them. -/
theorem Spells.directoryOf (h : Spells path absolute parts name) :
    (Source.directoryOf path).toList = rootMark absolute ++ (Text.join "/" parts).toList := by
  unfold Source.directoryOf
  rcases parts.eq_nil_or_concat' with rfl | ⟨front, last, rfl⟩
  · cases absolute with
    | false =>
      have hnone : Text.cutLast? '/' path.toList = none := by
        rw [Text.cutLast?_eq_none, h.eq]
        exact h.isName.no_slash
      rw [hnone]
      rfl
    | true =>
      have hcut : Text.cutLast? '/' path.toList = some ([], name.toList) := by
        rw [h.eq]
        exact Text.cutLast?_append h.isName.no_slash []
      rw [hcut]
      simp [Text.dropEnd, rootMark, Text.join]
  · have hlast : IsPart last := h.isPart last (by simp)
    have hcut : Text.cutLast? '/' path.toList =
        some (rootMark absolute ++ spelled front ++ last.toList, name.toList) := by
      rw [h.eq, spelled_concat]
      simpa using Text.cutLast?_append h.isName.no_slash
        (rootMark absolute ++ spelled front ++ last.toList)
    have hbare : Text.dropEnd (· == '/')
        (rootMark absolute ++ spelled front ++ last.toList ++ ['/']) =
          rootMark absolute ++ spelled front ++ last.toList := by
      rw [Text.dropEnd_concat (by rfl), Text.dropEnd_append hlast.toList_ne_nil hlast.not_slash]
    have hne : (rootMark absolute ++ spelled front ++ last.toList).isEmpty = false := by
      simp [hlast.toList_ne_nil]
    rw [hcut]
    dsimp only
    rw [hbare, hne, toList_join_concat, ← List.append_assoc]
    simp

theorem pieces_join (h : ∀ part ∈ parts, IsPart part) (hne : parts ≠ []) :
    Text.pieces (· == '/') (Text.join "/" parts).toList = parts.map String.toList := by
  induction parts with
  | nil => exact absurd rfl hne
  | cons first rest ih =>
    have hfirst : IsPart first := h first List.mem_cons_self
    cases rest with
    | nil => exact Text.pieces_of_not_mem hfirst.not_slash
    | cons next rest =>
      have hjoin : (Text.join "/" (first :: next :: rest)).toList =
          first.toList ++ '/' :: (Text.join "/" (next :: rest)).toList := by
        simp [Text.join]
      rw [hjoin, Text.pieces_append hfirst.not_slash (by rfl),
        ih (fun part hpart => h part (List.mem_cons_of_mem _ hpart)) (List.cons_ne_nil _ _)]
      rfl

/-- Cutting the directory of a plain path gives its parts back. -/
theorem Spells.partsOf (h : Spells path absolute parts name) :
    Source.partsOf (Source.directoryOf path) = parts := by
  have hkept : parts.filter (fun part => part != "" && part != ".") = parts := by
    refine List.filter_eq_self.mpr fun part hpart => ?_
    have hpart := h.isPart part hpart
    simp [hpart.ne_empty, hpart.ne_dot]
  have hjoin : (Text.pieces (· == '/') (Text.join "/" parts).toList).map String.ofList =
      if parts = [] then [""] else parts := by
    by_cases hne : parts = []
    · subst hne
      rfl
    · rw [pieces_join h.isPart hne, if_neg hne, List.map_map]
      exact (List.map_congr_left fun part _ => String.ofList_toList).trans (List.map_id parts)
  unfold Source.partsOf Text.splitAt
  rw [h.directoryOf]
  cases absolute with
  | false =>
    rw [rootMark, if_neg Bool.false_ne_true, List.nil_append, hjoin]
    by_cases hne : parts = []
    · subst hne
      rfl
    · rw [if_neg hne, hkept]
  | true =>
    have hroot : Text.pieces (· == '/') (rootMark true ++ (Text.join "/" parts).toList) =
        [] :: Text.pieces (· == '/') (Text.join "/" parts).toList := by
      simp [rootMark, Text.pieces]
    rw [hroot, List.map_cons, hjoin]
    by_cases hne : parts = []
    · subst hne
      rfl
    · rw [if_neg hne]
      exact hkept

/-- The directory of a plain path starts with a slash where the path does. -/
theorem Spells.startsWith (h : Spells path absolute parts name) :
    (Source.directoryOf path).startsWith "/" = absolute := by
  have hfirst : (Source.directoryOf path).startsWith "/" = true ↔ absolute = true := by
    rw [String.startsWith_string_iff, h.directoryOf]
    cases absolute with
    | true => simp [rootMark]
    | false =>
      cases parts with
      | nil => simp [rootMark, Text.join]
      | cons first rest =>
        have hfirst : IsPart first := h.isPart first List.mem_cons_self
        obtain ⟨more, hmore⟩ : ∃ more, (Text.join "/" (first :: rest)).toList =
            first.toList ++ more := by
          cases rest with
          | nil => exact ⟨[], (List.append_nil _).symm⟩
          | cons next rest =>
            exact ⟨'/' :: (Text.join "/" (next :: rest)).toList, by simp [Text.join]⟩
        obtain ⟨c, cs, hcs⟩ := List.exists_cons_of_ne_nil hfirst.toList_ne_nil
        have hc : c ≠ '/' := fun e => hfirst.no_slash (by simp [hcs, e])
        rw [hmore, hcs]
        simp [rootMark, Ne.symm hc]
  exact Bool.eq_iff_iff.mpr hfirst

end

/-! ## What paths have in common -/

theorem commonParts_isPrefix (xs ys : List String) :
    commonParts xs ys <+: xs ∧ commonParts xs ys <+: ys := by
  induction xs generalizing ys with
  | nil => simp [commonParts]
  | cons x xs ih =>
    cases ys with
    | nil => simp [commonParts]
    | cons y ys =>
      rw [commonParts]
      by_cases hxy : x = y
      · subst hxy
        rw [if_pos (beq_self_eq_true x)]
        simpa [List.prefix_cons_inj] using ih ys
      · rw [if_neg (by simpa using hxy)]
        simp

theorem commonOfAll_isPrefix (lists : List (List String)) :
    ∀ parts ∈ lists, commonOfAll lists <+: parts := by
  induction lists with
  | nil => exact fun _ hparts => absurd hparts List.not_mem_nil
  | cons first rest ih =>
    cases rest with
    | nil =>
      intro parts hparts
      rw [List.mem_singleton.mp hparts]
      exact List.prefix_refl first
    | cons next rest =>
      rw [commonOfAll]
      · intro parts hparts
        rcases List.mem_cons.mp hparts with rfl | hparts
        · exact (commonParts_isPrefix _ _).1
        · exact (commonParts_isPrefix _ _).2.trans (ih parts hparts)
      · exact fun hnil => by cases hnil

theorem spelled_isPrefix {front parts : List String} (h : front <+: parts) :
    spelled front <+: spelled parts := by
  obtain ⟨back, rfl⟩ := h
  exact ⟨spelled back, by simp [spelled]⟩

/-- Parts with a slash after each, put together as a common directory is. -/
theorem ofList_dropEnd_join {parts : List String} (h : ∀ part ∈ parts, IsPart part)
    (absolute : Bool) (hne : absolute = true ∨ parts ≠ []) :
    Text.dropEnd (· == '/') (rootMark absolute ++ (Text.join "/" parts).toList) ++ ['/'] =
      rootMark absolute ++ spelled parts := by
  rcases parts.eq_nil_or_concat' with rfl | ⟨front, last, rfl⟩
  · obtain rfl := hne.resolve_right fun hnil => hnil rfl
    rfl
  · have hlast : IsPart last := h last (by simp)
    rw [toList_join_concat, ← List.append_assoc,
      Text.dropEnd_append hlast.toList_ne_nil hlast.not_slash, spelled_concat]
    simp

theorem Spells.no_backslash {path name : String} {absolute : Bool} {parts : List String}
    (h : Spells path absolute parts name) : '\\' ∉ path.toList := by
  have hroot : '\\' ∉ rootMark absolute := by cases absolute <;> decide
  have hparts : '\\' ∉ spelled parts := by
    intro hm
    obtain ⟨part, hpart, hm⟩ := List.mem_flatMap.mp hm
    rcases List.mem_append.mp hm with hm | hm
    · exact (h.isPart part hpart).no_backslash hm
    · exact absurd hm (by decide)
  rw [h.eq, List.mem_append, List.mem_append]
  rintro ((hm | hm) | hm)
  · exact hroot hm
  · exact hparts hm
  · exact h.isName.no_backslash hm

section
variable {paths : List String}

/-- Plain paths have nothing in common, or they start alike and have the parts in common that all
their directories start with. -/
theorem commonPrefix_cases (h : ∀ path ∈ paths, IsPlain path) :
    commonPrefix paths = "" ∨
      ∃ absolute, (∀ path ∈ paths, (directoryOf path).startsWith "/" = absolute) ∧
        (commonPrefix paths).toList = rootMark absolute ++
          spelled (commonOfAll (paths.map fun path => partsOf (directoryOf path))) := by
  unfold commonPrefix
  dsimp only
  split
  · exact .inl rfl
  · rename_i hmixed
    simp only [Bool.or_eq_true, List.isEmpty_iff, Bool.and_eq_true, Bool.not_eq_true', bne_iff_ne,
      not_or, not_and, not_not, List.isEmpty_eq_false_iff] at hmixed
    obtain ⟨hpaths, hmixed⟩ := hmixed
    obtain ⟨absolute, hall, hroot⟩ : ∃ absolute : Bool,
        (∀ path ∈ paths, (directoryOf path).startsWith "/" = absolute) ∧
          (if ((paths.map directoryOf).filter (·.startsWith "/")).isEmpty then "" else "/") =
            String.ofList (rootMark absolute) := by
      by_cases hnone : (paths.map directoryOf).filter (·.startsWith "/") = []
      · refine ⟨false, fun path hpath => ?_, by rw [hnone]; rfl⟩
        rw [List.filter_eq_nil_iff] at hnone
        exact Bool.eq_false_iff.mpr (hnone _ (List.mem_map_of_mem hpath))
      · refine ⟨true, fun path hpath => ?_, if_neg (by simpa using hnone)⟩
        have hevery := List.length_filter_eq_length_iff.mp (hmixed hnone)
        exact hevery _ (List.mem_map_of_mem hpath)
    have hparts : ∀ part ∈ commonOfAll (paths.map fun path => partsOf (directoryOf path)),
        IsPart part := by
      obtain ⟨first, hfirst⟩ := List.exists_mem_of_ne_nil paths hpaths
      obtain ⟨_, parts, name, hspells⟩ := h first hfirst
      have hfront := commonOfAll_isPrefix _ _
        (List.mem_map_of_mem (f := fun path => partsOf (directoryOf path)) hfirst)
      rw [hspells.partsOf] at hfront
      exact fun part hpart => hspells.isPart part (hfront.subset hpart)
    have hmap : (paths.map directoryOf).map partsOf =
        paths.map fun path => partsOf (directoryOf path) := List.map_map
    rw [hroot, hmap]
    split
    · exact .inl rfl
    · rename_i hne
      refine .inr ⟨absolute, hall, ?_⟩
      rw [String.toList_append, String.toList_ofList, String.toList_append, String.toList_ofList]
      refine ofList_dropEnd_join hparts absolute ?_
      by_contra hnone
      rw [not_or, not_not] at hnone
      obtain ⟨habsolute, hempty⟩ := hnone
      rw [Bool.not_eq_true] at habsolute
      rw [habsolute, hempty] at hne
      exact hne (by rfl)

/-- In front of plain paths stands what they have in common. -/
theorem commonPrefix_isPrefix (h : ∀ path ∈ paths, IsPlain path) :
    ∀ path ∈ paths, ∃ rest, path.toList = (commonPrefix paths).toList ++ rest ∧ rest ≠ [] ∧
      '\\' ∉ rest := by
  intro path hpath
  obtain ⟨absolute, parts, name, hspells⟩ := h path hpath
  have hsuffix : ∃ rest, path.toList = (commonPrefix paths).toList ++ rest ∧ rest ≠ [] := by
    rcases commonPrefix_cases h with hnone | ⟨root, hall, hcommon⟩
    · refine ⟨path.toList, by rw [hnone]; rfl, ?_⟩
      rw [hspells.eq]
      simp [hspells.isName.toList_ne_nil]
    · obtain rfl : absolute = root := hspells.startsWith.symm.trans (hall path hpath)
      have hfront := commonOfAll_isPrefix _ _
        (List.mem_map_of_mem (f := fun path => partsOf (directoryOf path)) hpath)
      rw [hspells.partsOf] at hfront
      obtain ⟨back, hback⟩ := spelled_isPrefix hfront
      refine ⟨back ++ name.toList, ?_, by simp [hspells.isName.toList_ne_nil]⟩
      rw [hcommon, hspells.eq, ← hback]
      simp only [List.append_assoc]
  obtain ⟨rest, heq, hne⟩ := hsuffix
  refine ⟨rest, heq, hne, fun hm => hspells.no_backslash ?_⟩
  rw [heq]
  exact List.mem_append_right _ hm

/-! ## Short forms -/

theorem shortened_of_append {head path : String} {rest : List Char}
    (h : path.toList = head.toList ++ rest) (hrest : '\\' ∉ rest) :
    shortened head path = String.ofList rest := by
  have hcut : (if head != "" && path.startsWith head then
      String.ofList (path.toList.drop head.length) else path) = String.ofList rest := by
    by_cases hhead : head = ""
    · subst hhead
      have hpath : path.toList = rest := h
      rw [if_neg (by simp), ← hpath, String.ofList_toList]
    · have hstarts : path.startsWith head = true :=
        String.startsWith_string_iff.mpr ⟨rest, h.symm⟩
      rw [if_pos (by simp [hhead, hstarts]), h, ← String.length_toList, List.drop_left]
  have hkept : rest.flatMap (fun c => if c == '\\' then "/".toList else [c]) = rest := by
    have hsame : ∀ c ∈ rest, (if c == '\\' then "/".toList else [c]) = [c] := fun c hc =>
      if_neg (by simpa using fun e : c = '\\' => hrest (e ▸ hc))
    rw [List.flatMap_congr hsame, List.flatMap_singleton']
  have hlist : (String.ofList rest).toList = rest := String.toList_ofList
  unfold shortened
  dsimp only
  rw [hcut, Text.replaceChar, hlist, hkept]

/-- Different paths that are spelled plainly have short forms, which are different. -/
theorem shortPaths_of_plain (h : ∀ path ∈ paths, IsPlain path) (hd : paths.Nodup) :
    ((filesOf paths).map File.shortPath).Nodup ∧ ∀ f ∈ filesOf paths, f.shortPath ≠ "" := by
  have hshort : ∀ path ∈ paths,
      path = commonPrefix paths ++ shortened (commonPrefix paths) path ∧
        shortened (commonPrefix paths) path ≠ "" := by
    intro path hpath
    obtain ⟨rest, heq, hne, hrest⟩ := commonPrefix_isPrefix h path hpath
    rw [shortened_of_append heq hrest]
    refine ⟨String.toList_inj.mp (by rw [heq, String.toList_append, String.toList_ofList]), ?_⟩
    intro hempty
    exact hne (String.ofList_eq_empty_iff.mp hempty)
  constructor
  · have hmap : (filesOf paths).map File.shortPath =
        paths.map (shortened (commonPrefix paths)) := List.map_map
    rw [hmap]
    refine List.Nodup.map_on (fun p hp q hq he => ?_) hd
    rw [(hshort p hp).1, (hshort q hq).1, he]
  · intro f hf
    obtain ⟨path, hpath, rfl⟩ := List.mem_map.mp hf
    exact (hshort path hpath).2

end

end Source
end DocSite
