import DocSite.Proofs.Link.Assignment
import Mathlib.Data.List.TakeWhile

/-! The page of an address is what stands before its first number sign; a fragment never changes it,
and the file of a key is its own page. The fragment that is read back stands after the last number
sign, so it is the one that was put in only where there is no other sign. -/
namespace DocSite
set_option autoImplicit false

theorem Text.cutFirst?_fst (sep : Char) (cs : List Char) :
    ((Text.cutFirst? sep cs).map (·.1)).getD cs = cs.takeWhile (· != sep) := by
  induction cs with
  | nil => rfl
  | cons c rest ih =>
    simp only [Text.cutFirst?]
    by_cases hc : c = sep
    · simp [hc]
    · rw [if_neg (by simpa using hc), List.takeWhile_cons, if_pos (by simpa using hc), ← ih]
      cases Text.cutFirst? sep rest <;> rfl

theorem Text.cutLast?_eq_none {sep : Char} {cs : List Char} :
    Text.cutLast? sep cs = none ↔ sep ∉ cs := by
  induction cs with
  | nil => simp [Text.cutLast?]
  | cons c rest ih =>
    rw [Text.cutLast?, List.mem_cons, not_or, ← ih]
    cases Text.cutLast? sep rest with
    | some cut => simp
    | none => simp [@eq_comm _ sep c]

/-- Cutting at a separator that none follows gives the two parts back. -/
theorem Text.cutLast?_append {sep : Char} {after : List Char} (h : sep ∉ after)
    (before : List Char) : Text.cutLast? sep (before ++ sep :: after) = some (before, after) := by
  induction before with
  | nil => simp [Text.cutLast?, Text.cutLast?_eq_none.mpr h]
  | cons c rest ih => rw [List.cons_append, Text.cutLast?, ih]

theorem Text.cutLast?_eq_some {sep : Char} {cs before after : List Char}
    (h : Text.cutLast? sep cs = some (before, after)) :
    cs = before ++ sep :: after ∧ sep ∉ after := by
  induction cs generalizing before with
  | nil => cases h
  | cons c rest ih =>
    rw [Text.cutLast?] at h
    split at h
    · rename_i hcut
      cases h
      obtain ⟨rfl, hnot⟩ := ih hcut
      exact ⟨rfl, hnot⟩
    · rename_i hcut
      split at h
      · rename_i hc
        cases h
        exact ⟨by rw [beq_iff_eq.mp hc, List.nil_append], Text.cutLast?_eq_none.mp hcut⟩
      · cases h

namespace Address

theorem page_eq (url : String) : page url = String.ofList (url.toList.takeWhile (· != '#')) := by
  rw [← Text.cutFirst?_fst, page, Text.beforeFirst]
  cases Text.cutFirst? '#' url.toList <;> simp

theorem page_append_mark (url tail : String) : page (url ++ "#" ++ tail) = page url := by
  rw [page_eq, page_eq]
  congr 1
  rw [String.toList_append, String.toList_append]
  induction url.toList with
  | nil => rfl
  | cons c rest ih =>
    by_cases hc : c = '#'
    · simp [hc]
    · simpa [hc] using ih

theorem page_withFragment (url fragment : String) :
    page (withFragment url fragment) = page url := by
  unfold withFragment
  split
  · rfl
  · exact page_append_mark url fragment

/-- A fragment can be put after the page alone. -/
theorem page_page_append {tail : String} (h : tail.startsWith "#" = true) (url : String) :
    page (page url ++ tail) = page url := by
  obtain ⟨rest, hrest⟩ := String.startsWith_string_iff.mp h
  rw [page_eq, page_eq, String.toList_append, String.toList_ofList, ← hrest]
  congr 1
  induction url.toList with
  | nil => rfl
  | cons c cs ih =>
    by_cases hc : c = '#'
    · simp [hc]
    · simpa [hc] using ih

theorem page_of_not_mem {url : String} (h : '#' ∉ url.toList) : page url = url := by
  rw [page_eq, List.takeWhile_eq_self_iff.mpr, String.ofList_toList]
  intro c hc
  exact bne_iff_ne.mpr fun e => h (e ▸ hc)

theorem mark_not_mem_page (url : String) : '#' ∉ (page url).toList := by
  rw [page_eq, String.toList_ofList]
  intro h
  exact absurd (List.mem_takeWhile_imp h) (by decide)

/-! ## Fragments -/

theorem fragment?_eq_none {url : String} : fragment? url = none ↔ '#' ∉ url.toList := by
  rw [fragment?, Text.afterLast?, Option.map_eq_none_iff, Text.cutLast?_eq_none]

theorem fragment?_eq_some {url fragment : String} (h : fragment? url = some fragment) :
    ∃ head, url = head ++ "#" ++ fragment ∧ '#' ∉ fragment.toList := by
  obtain ⟨⟨before, after⟩, hcut, rfl⟩ := Option.map_eq_some_iff.mp h
  obtain ⟨hsplit, hnot⟩ := Text.cutLast?_eq_some hcut
  refine ⟨String.ofList before, ?_, by rwa [String.toList_ofList]⟩
  rw [← String.toList_inj, hsplit]
  simp

/-- An address has one number sign only where neither part has one of its own. -/
theorem unmarked_of_append_eq {head tail before after : String}
    (h : head ++ "#" ++ tail = before ++ "#" ++ after) (hhead : '#' ∉ head.toList)
    (htail : '#' ∉ tail.toList) : '#' ∉ before.toList ∧ '#' ∉ after.toList := by
  have hcount := congrArg (fun s => s.toList.count '#') h
  simp only [String.toList_append, List.count_append] at hcount
  rw [List.count_eq_zero_of_not_mem hhead, List.count_eq_zero_of_not_mem htail] at hcount
  constructor
  · rw [← List.count_eq_zero]
    omega
  · rw [← List.count_eq_zero]
    omega

theorem fragment?_append {fragment : String} (h : '#' ∉ fragment.toList) (head : String) :
    fragment? (head ++ "#" ++ fragment) = some fragment := by
  have hlist : (head ++ "#" ++ fragment).toList = head.toList ++ '#' :: fragment.toList := by
    simp
  rw [fragment?, Text.afterLast?, hlist, Text.cutLast?_append h, Option.map_some]
  exact congrArg some String.ofList_toList

end Address

namespace Registry

theorem mark_not_mem_file {s : String} (h : PageName.IsStem s) : '#' ∉ (s ++ extension).toList := by
  rw [String.toList_append, List.mem_append]
  rintro (hc | hc)
  · exact h.unreserved _ hc (by decide)
  · revert hc
    decide

theorem Assigned.page_file {r : Registry} {stems : List (String × String)} (h : Assigned r stems)
    {key file : String} (hk : r.files.get? key = some file) : Address.page file = file := by
  obtain ⟨stem, hm, rfl⟩ := h.get?_iff.mp hk
  exact Address.page_of_not_mem (mark_not_mem_file (h.isStem _ hm))

end Registry
end DocSite
