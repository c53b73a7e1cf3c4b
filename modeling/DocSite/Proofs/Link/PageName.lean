import DocSite.Link.PageName
import DocSite.Proofs.Text.Lowercase
import Mathlib.Data.List.Perm.Subperm
import Mathlib.Tactic.FinCases

/-! The names of pages. The search for a free form of a name always ends, at the least number whose
form is free; and every stem is safe to use in file names and addresses. -/
namespace DocSite.PageName
set_option autoImplicit false

/-! ## Numbered forms -/

theorem toList_numbered_succ (name : String) (n : ℕ) :
    (numbered name (n + 1)).toList = name.toList ++ '_' :: Nat.toDigits 10 (n + 1) := by
  simp [numbered, String.toList_append]

theorem isDigit_toDigits (n : ℕ) : ∀ c ∈ Nat.toDigits 10 n, c.isDigit = true :=
  fun _ hc => Nat.isDigit_of_mem_toDigits (by decide) (by decide) hc

/-- A numbered form holds the characters of the name, underscores and digits. -/
theorem mem_numbered {name : String} {n : ℕ} {c : Char} (h : c ∈ (numbered name n).toList) :
    c ∈ name.toList ∨ c = '_' ∨ c.isDigit = true := by
  cases n with
  | zero => exact .inl h
  | succ n =>
    rw [toList_numbered_succ, List.mem_append, List.mem_cons] at h
    rcases h with h | h | h
    · exact .inl h
    · exact .inr (.inl h)
    · exact .inr (.inr (isDigit_toDigits _ c h))

theorem toDigits_injective {m n : ℕ} (h : Nat.toDigits 10 m = Nat.toDigits 10 n) : m = n := by
  have hv := congrArg (fun ds => Nat.ofDigitChars 10 ds 0) h
  simpa using hv

theorem lower_numbered_succ (name : String) (n : ℕ) :
    Text.lower (numbered name (n + 1)).toList =
      Text.lower (name.toList ++ ['_']) ++ Nat.toDigits 10 (n + 1) := by
  rw [toList_numbered_succ]
  unfold Text.lower
  rw [Text.lowerAfter_append_underscore, Text.lowerAfter_digits _ _ (isDigit_toDigits _)]

theorem lower_numbered_succ_ne (name : String) (n : ℕ) :
    Text.lower (numbered name (n + 1)).toList ≠ Text.lower name.toList := by
  intro h
  have hl := congrArg List.length h
  rw [lower_numbered_succ, List.length_append, Text.lower_length_append] at hl
  have hu : (Text.lower ['_']).length = 1 := rfl
  omega

/-- Forms of one name with different numbers differ without regard to case. -/
theorem lowercase_numbered_injective (name : String) {m n : ℕ}
    (h : Text.lowercase (numbered name m) = Text.lowercase (numbered name n)) : m = n := by
  have h : Text.lower (numbered name m).toList = Text.lower (numbered name n).toList :=
    String.ofList_injective h
  cases m with
  | zero =>
    cases n with
    | zero => rfl
    | succ n => exact absurd h.symm (lower_numbered_succ_ne name n)
  | succ m =>
    cases n with
    | zero => exact absurd h (lower_numbered_succ_ne name m)
    | succ n =>
      rw [lower_numbered_succ, lower_numbered_succ] at h
      exact toDigits_injective (List.append_cancel_left h)

/-! ## The free number -/

/-- Some form is free: there is one more of them than there are taken names. -/
theorem exists_free (taken : List String) (name : String) :
    ∃ n ≤ taken.length, Text.lowercase (numbered name n) ∉ taken := by
  by_contra hall
  have hsub : (List.range (taken.length + 1)).map
      (fun n => Text.lowercase (numbered name n)) ⊆ taken := by
    intro s hs
    obtain ⟨n, hn, rfl⟩ := List.mem_map.mp hs
    by_contra hfree
    exact hall ⟨n, Nat.lt_succ_iff.mp (List.mem_range.mp hn), hfree⟩
  have hnd : ((List.range (taken.length + 1)).map
      (fun n => Text.lowercase (numbered name n))).Nodup :=
    List.nodup_range.map fun _ _ h => lowercase_numbered_injective name h
  have hle := (hnd.subperm hsub).length_le
  rw [List.length_map, List.length_range] at hle
  omega

/-- The number found is the least one whose form is free. -/
theorem freeNumber_spec (taken : List String) (name : String) :
    Text.lowercase (numbered name (freeNumber taken name)) ∉ taken ∧
      ∀ m < freeNumber taken name, Text.lowercase (numbered name m) ∈ taken := by
  obtain ⟨n, hn, hfree⟩ := exists_free taken name
  cases hf : (List.range (taken.length + 1)).find? fun n =>
      !taken.contains (Text.lowercase (numbered name n)) with
  | none =>
    have hall := List.find?_eq_none.mp hf n (List.mem_range.mpr (Nat.lt_succ_of_le hn))
    exact absurd (by simpa using hall) hfree
  | some k =>
    have hk : freeNumber taken name = k := by rw [freeNumber, hf]; rfl
    obtain ⟨hfree, _, hless⟩ := List.find?_range_eq_some.mp hf
    rw [hk]
    exact ⟨by simpa using hfree, fun m hm => by simpa using hless m hm⟩

theorem lowercase_free_not_mem (taken : List String) (name : String) :
    Text.lowercase (free taken name) ∉ taken := (freeNumber_spec taken name).1

/-! ## Stems -/

/-- Characters that no stem holds. -/
def reserved : List Char := ['\\', '/', '?', '*', ':', '|', '\'', '"', '<', '>', '~', '#']

theorem isDigit_of_reserved {c : Char} (h : c ∈ reserved) : c.isDigit = false := by
  fin_cases h <;> rfl

/-- A stem: not empty, without reserved characters, and not led by an underscore. -/
structure IsStem (s : String) : Prop where
  nonempty : s.toList ≠ []
  unreserved : ∀ c ∈ s.toList, c ∉ reserved
  head : s.toList.head? ≠ some '_'

theorem safeChar_unreserved (c : Char) : safeChar c ∉ reserved := by
  unfold safeChar
  split
  · decide
  · split
    · decide
    · simp_all [reserved, isUnsafe]

theorem dropVariation_subset (cs : List Char) : dropVariation cs ⊆ cs := by
  unfold dropVariation
  have hcut : ∀ (body before : List Char) {after : List Char},
      Text.cutFirst? '(' body = some (before, after) → before ⊆ body := by
    intro body before after h
    rw [(Text.cutFirst?_eq_some h).1]
    exact List.subset_append_left _ _
  split
  rename_i x body tail hsplit
  split at hsplit
  · rename_i hend
    obtain ⟨rfl, rfl⟩ : cs.dropLast = body ∧ ['\n'] = tail := by simpa using hsplit
    have hlast : cs.getLast? = some '\n' := by simpa using (Bool.and_eq_true_iff.mp hend).1
    split
    · split
      · rename_i before after hc
        have hb := hcut _ _ hc
        intro c hm
        rcases List.mem_append.mp hm with hm | hm
        · exact List.mem_of_mem_dropLast (List.mem_of_mem_dropLast (hb hm))
        · rw [List.mem_singleton.mp hm]
          exact List.mem_of_getLast? hlast
      · exact List.Subset.refl _
    · exact List.Subset.refl _
  · obtain ⟨rfl, rfl⟩ : cs = body ∧ [] = tail := by simpa using hsplit
    split
    · split
      · rename_i before after hc
        have hb := hcut _ _ hc
        intro c hm
        rw [List.append_nil] at hm
        exact List.mem_of_mem_dropLast (hb hm)
      · exact List.Subset.refl _
    · exact List.Subset.refl _

theorem dropMark_subset (cs : List Char) : dropMark cs ⊆ cs := by
  cases cs with
  | nil => exact List.Subset.refl _
  | cons c rest =>
    rw [dropMark]
    split
    · exact List.subset_cons_self _ _
    · exact List.Subset.refl _

theorem baseChars_unreserved (cs : List Char) : ∀ c ∈ baseChars cs, c ∉ reserved := by
  intro c hc
  unfold baseChars at hc
  split at hc
  · rw [List.mem_singleton.mp hc]
    decide
  · have hm := dropVariation_subset _ (dropMark_subset _ hc)
    obtain ⟨d, _, rfl⟩ := List.mem_map.mp hm
    exact safeChar_unreserved d

theorem startsWith_underscore (s : String) :
    s.startsWith "_" = true ↔ s.toList.head? = some '_' := by
  rw [String.startsWith_string_iff]
  cases s.toList <;> simp [eq_comm]

theorem stem_isStem (name : String) : IsStem (stem name) := by
  have hb : (base name).toList = baseChars name.toList := by simp [base]
  have hu : ∀ c ∈ (base name).toList, c ∉ reserved := by
    rw [hb]
    exact baseChars_unreserved _
  by_cases h : (base name).startsWith "_" = true
  · have hs : (stem name).toList = '-' :: (base name).toList := by
      simp [stem, h, String.toList_append]
    refine ⟨by simp [hs], ?_, by simp [hs]⟩
    intro c hc
    rw [hs] at hc
    rcases List.mem_cons.mp hc with rfl | hc
    · decide
    · exact hu c hc
  · have hs : stem name = base name := by simp [stem, h]
    rw [hs]
    refine ⟨by rw [hb]; exact baseChars_ne_nil _, hu, ?_⟩
    exact fun hh => h ((startsWith_underscore _).mpr hh)

theorem IsStem.numbered {s : String} (h : IsStem s) (n : ℕ) : IsStem (numbered s n) := by
  have hunreserved : ∀ c ∈ (PageName.numbered s n).toList, c ∉ reserved := by
    intro c hc
    rcases mem_numbered hc with hc | rfl | hd
    · exact h.unreserved c hc
    · decide
    · intro hr
      rw [isDigit_of_reserved hr] at hd
      cases hd
  cases n with
  | zero => exact h
  | succ n =>
    have hl := toList_numbered_succ s n
    refine ⟨by simp [hl], hunreserved, ?_⟩
    rw [hl, List.head?_append_of_ne_nil _ h.nonempty]
    exact h.head

theorem free_isStem (taken : List String) (name : String) : IsStem (free taken (stem name)) :=
  (stem_isStem name).numbered _

end DocSite.PageName
