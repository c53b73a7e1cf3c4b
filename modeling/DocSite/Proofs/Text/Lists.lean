import DocSite.Text.Split
import Mathlib.Data.List.Nodup

/-! Lists of texts: put together with a separator, and without repetition. -/
namespace DocSite.Text
set_option autoImplicit false

theorem join_eq_intercalate (sep : String) (texts : List String) :
    join sep texts = sep.intercalate texts := by
  induction texts with
  | nil => rfl
  | cons s rest ih =>
    cases rest with
    | nil => rw [join, String.intercalate_singleton]
    | cons t rest =>
      rw [join, ih, String.intercalate_cons_cons]
      exact List.cons_ne_nil t rest

/-- What has been seen stays in front, and of the rest only what is new is kept. -/
theorem foldl_distinct (texts seen : List String) :
    texts.foldl (fun seen s => if seen.contains s then seen else seen ++ [s]) seen =
      seen ++ (texts.filter (!seen.contains ·)).eraseDups := by
  induction texts generalizing seen with
  | nil => simp
  | cons s rest ih =>
    rw [List.foldl_cons]
    by_cases hs : s ∈ seen
    · have hcontains : seen.contains s = true := List.contains_iff_mem.mpr hs
      rw [if_pos hcontains, ih, List.filter_cons_of_neg (by simp [hs])]
    · have hcontains : ¬ seen.contains s = true := fun h => hs (List.contains_iff_mem.mp h)
      rw [if_neg hcontains, ih, List.filter_cons_of_pos (by simp [hs]), List.eraseDups_cons,
        List.filter_filter, List.append_assoc, List.singleton_append]
      have hnew : (fun t => !(seen ++ [s]).contains t) = fun t => !t == s && !seen.contains t := by
        funext t
        by_cases ht : t = s <;> simp [ht]
      rw [hnew]

theorem distinct_eq_eraseDups (texts : List String) : distinct texts = texts.eraseDups := by
  have h := foldl_distinct texts []
  have hall : (texts.filter fun t => !([] : List String).contains t) = texts :=
    List.filter_eq_self.mpr fun _ _ => rfl
  rwa [hall, List.nil_append] at h

theorem mem_distinct {texts : List String} {s : String} : s ∈ distinct texts ↔ s ∈ texts := by
  rw [distinct_eq_eraseDups, List.mem_eraseDups]

theorem nodup_distinct (texts : List String) : (distinct texts).Nodup := by
  have hfold : ∀ (texts seen : List String), seen.Nodup →
      (texts.foldl (fun seen s => if seen.contains s then seen else seen ++ [s]) seen).Nodup := by
    intro texts
    induction texts with
    | nil => exact fun _ hseen => hseen
    | cons s rest ih =>
      intro seen hseen
      rw [List.foldl_cons]
      by_cases hs : s ∈ seen
      · rw [if_pos (List.contains_iff_mem.mpr hs)]
        exact ih seen hseen
      · rw [if_neg fun h => hs (List.contains_iff_mem.mp h)]
        exact ih _ (List.concat_eq_append ▸ hseen.concat hs)
  exact hfold texts [] List.nodup_nil

end DocSite.Text
