import DocSite.Text.Split
import Mathlib.Data.List.TakeWhile

/-! Trimming takes a run of characters off either end of a text and nothing else, so that runs of
such characters around a text do not show in what is left. -/
namespace DocSite.Text
set_option autoImplicit false

section
variable {p : Char → Bool}

/-- Runs at both ends are taken off, whatever stands between them. -/
theorem trimWhere_pad {lead trail : List Char} (hlead : ∀ c ∈ lead, p c = true)
    (htrail : ∀ c ∈ trail, p c = true) (cs : List Char) :
    trimWhere p (lead ++ cs ++ trail) = trimWhere p cs := by
  have hend : ∀ xs : List Char, dropEnd p (xs ++ trail) = dropEnd p xs := by
    intro xs
    rw [dropEnd, dropEnd, List.reverse_append,
      List.dropWhile_append_of_pos fun c hc => htrail c (List.mem_reverse.mp hc)]
  rw [trimWhere, trimWhere, List.append_assoc, List.dropWhile_append_of_pos hlead,
    List.dropWhile_append]
  split
  · rename_i hcs
    rw [List.isEmpty_iff.mp hcs, List.dropWhile_eq_nil_iff.mpr htrail]
  · exact hend _

/-- What trimming takes off are two runs. -/
theorem exists_trimWhere (p : Char → Bool) (cs : List Char) :
    ∃ lead trail, (∀ c ∈ lead, p c = true) ∧ (∀ c ∈ trail, p c = true) ∧
      cs = lead ++ trimWhere p cs ++ trail := by
  refine ⟨cs.takeWhile p, ((cs.dropWhile p).reverse.takeWhile p).reverse,
    fun _ => List.mem_takeWhile_imp,
    fun _ hc => List.mem_takeWhile_imp (List.mem_reverse.mp hc), ?_⟩
  rw [trimWhere, dropEnd, List.append_assoc, ← List.reverse_append,
    List.takeWhile_append_dropWhile, List.reverse_reverse, List.takeWhile_append_dropWhile]

theorem trimWhere_trimWhere (p : Char → Bool) (cs : List Char) :
    trimWhere p (trimWhere p cs) = trimWhere p cs := by
  obtain ⟨lead, trail, hlead, htrail, hcs⟩ := exists_trimWhere p cs
  calc trimWhere p (trimWhere p cs) = trimWhere p (lead ++ trimWhere p cs ++ trail) :=
        (trimWhere_pad hlead htrail _).symm
    _ = trimWhere p cs := by rw [← hcs]

theorem trimWhere_eq_nil_iff {cs : List Char} :
    trimWhere p cs = [] ↔ ∀ c ∈ cs, p c = true := by
  constructor
  · intro h
    obtain ⟨lead, trail, hlead, htrail, hcs⟩ := exists_trimWhere p cs
    rw [h, List.append_nil] at hcs
    intro c hc
    rw [hcs] at hc
    exact (List.mem_append.mp hc).elim (hlead c) (htrail c)
  · intro h
    have := trimWhere_pad h (fun c hc => absurd hc List.not_mem_nil) []
    simpa [trimWhere, dropEnd] using this

/-- A text that trimming leaves has nothing to be taken off its front. -/
theorem dropWhile_of_trimWhere_eq {cs : List Char} (h : trimWhere p cs = cs) :
    cs.dropWhile p = cs := by
  refine (List.dropWhile_suffix p).eq_of_length_le ?_
  calc cs.length = (dropEnd p (cs.dropWhile p)).length := by rw [← trimWhere, h]
    _ = ((cs.dropWhile p).reverse.dropWhile p).length := by rw [dropEnd, List.length_reverse]
    _ ≤ (cs.dropWhile p).reverse.length := (List.dropWhile_suffix p).length_le
    _ = (cs.dropWhile p).length := List.length_reverse

end

/-- Cutting at a separator that does not occur before gives the two parts back. -/
theorem cutFirst?_append {sep : Char} {before : List Char} (h : sep ∉ before)
    (after : List Char) : cutFirst? sep (before ++ sep :: after) = some (before, after) := by
  induction before with
  | nil => simp [cutFirst?]
  | cons c rest ih =>
    obtain ⟨hc, hrest⟩ := not_or.mp (fun hm => h (List.mem_cons.mpr hm))
    simp [cutFirst?, ih hrest, Ne.symm hc]

end DocSite.Text
