import DocSite.Text.Lower
import Mathlib.Tactic

/-! Lowercasing and numbers at the end of a text. Lowercasing a character depends on its
neighbours only through the final sigma, and no neighbour is seen past an underscore: so the
lowercase forms of one text with different numbers after an underscore differ. -/
namespace DocSite.Text
set_option autoImplicit false

/-! ## Lengths -/

/-- The number of characters that the lowercase form of a character has. -/
def lowerWidth (c : Char) : ℕ := if c == 'İ' then 2 else 1

theorem lowerAfter_length (before cs : List Char) :
    (lowerAfter before cs).length = (cs.map lowerWidth).sum := by
  induction cs generalizing before with
  | nil => rfl
  | cons c rest ih =>
    simp only [lowerAfter, List.length_append, ih, List.map_cons, List.sum_cons]
    congr 1
    unfold lowerWidth
    by_cases hs : c = 'Σ'
    · subst hs; rfl
    · by_cases hi : c = 'İ'
      · subst hi; rfl
      · simp [hs, hi]

theorem lower_length_append (xs ys : List Char) :
    (lower (xs ++ ys)).length = (lower xs).length + (lower ys).length := by
  simp [lower, lowerAfter_length]

/-! ## Behind an underscore -/

theorem isCaseIgnorable_underscore : isCaseIgnorable '_' = false := by decide

/-- What follows an underscore does not count for the characters before it. -/
theorem startsCased_append_underscore (cs ds : List Char) :
    startsCased (cs ++ '_' :: ds) = startsCased (cs ++ ['_']) := by
  unfold startsCased
  induction cs with
  | nil => simp [isCaseIgnorable_underscore]
  | cons c rest ih =>
    by_cases h : isCaseIgnorable c
    · simpa [h] using ih
    · simp [h]

theorem lowerAfter_append_underscore (before cs ds : List Char) :
    lowerAfter before (cs ++ '_' :: ds) =
      lowerAfter before (cs ++ ['_']) ++ lowerAfter ('_' :: (cs.reverse ++ before)) ds := by
  induction cs generalizing before with
  | nil => simp [lowerAfter]
  | cons c rest ih =>
    have hr := startsCased_append_underscore rest ds
    simp only [List.cons_append, lowerAfter, hr, ih, List.append_assoc, List.reverse_cons,
      List.nil_append]

theorem toNat_of_isDigit {c : Char} (h : c.isDigit = true) : 48 ≤ c.toNat ∧ c.toNat ≤ 57 :=
  Char.isDigit_iff_toNat.mp h

theorem toLower_of_isDigit {c : Char} (h : c.isDigit = true) : c.toLower = c := by
  have hc := (toNat_of_isDigit h).2
  unfold Char.toLower
  rw [dif_neg]
  rintro ⟨hA, _⟩
  have hA : 65 ≤ c.toNat := UInt32.le_iff_toNat_le.mp hA
  omega

theorem lowerAfter_digits (before ds : List Char) (h : ∀ c ∈ ds, c.isDigit = true) :
    lowerAfter before ds = ds := by
  induction ds generalizing before with
  | nil => rfl
  | cons c rest ih =>
    have hc := h c (List.mem_cons_self ..)
    have hrest := ih (c :: before) fun d hd => h d (List.mem_cons_of_mem c hd)
    have hs : c ≠ 'Σ' := by rintro rfl; revert hc; decide
    have hi : c ≠ 'İ' := by rintro rfl; revert hc; decide
    have hn : c.toNat < 128 := Nat.lt_of_le_of_lt (toNat_of_isDigit hc).2 (by decide)
    simp [lowerAfter, hs, hi, lowerChar, hn, toLower_of_isDigit hc, hrest]

end DocSite.Text
