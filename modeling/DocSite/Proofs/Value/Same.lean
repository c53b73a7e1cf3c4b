import DocSite.Proofs.Doclet.Sorted
import DocSite.Proofs.Value.Keyed
import DocSite.Value.Merge

/-! Equality of values by what they hold, and lists that take up what they lack. What counts as the
same passes on from value to value, so a list takes up another one item by item or all at once. -/
namespace DocSite
set_option autoImplicit false

instance : Std.TransCmp Double.order := by
  rw [Double.order_eq_compareOn]
  infer_instance

namespace Value

/-! ## The same value -/

theorem sameNumber_iff {x y : Double} : sameNumber x y = true ↔ Double.order x y = .eq := beq_iff_eq

theorem same_null_iff {y : Value} : same null y = true ↔ y = null := by
  cases y <;> simp [same, number?]

theorem same_text_iff {s : String} {y : Value} : same (text s) y = true ↔ y = text s := by
  cases y <;> simp [same, number?]
  exact eq_comm

theorem same_list_iff {xs : List Value} {y : Value} :
    same (list xs) y = true ↔ ∃ ys, y = list ys ∧ sameItems xs ys = true := by
  cases y <;> simp [same, number?]

theorem same_mapping_iff {xs : List (String × Value)} {y : Value} :
    same (mapping xs) y = true ↔
      ∃ ys, y = mapping ys ∧ xs.length = ys.length ∧ sameFields xs ys = true := by
  cases y <;> simp [same, number?]

theorem same_number_iff {x y : Value} {a : Double} (hx : x.number? = some a) :
    same x y = true ↔ ∃ b, y.number? = some b ∧ Double.order a b = .eq := by
  cases x <;> cases hx <;> cases y <;> simp [same, number?, sameNumber_iff]

theorem sameFields_iff {xs ys : List (String × Value)} :
    sameFields xs ys = true ↔ ∀ p ∈ xs, ∃ w, ys.lookup p.1 = some w ∧ same p.2 w = true := by
  induction xs with
  | nil => simp [sameFields]
  | cons x xs ih =>
    rw [sameFields, Bool.and_eq_true, ih, List.forall_mem_cons]
    refine and_congr_left' ?_
    cases ys.lookup x.1 <;> simp

theorem sameItems_refl {xs : List Value} (h : ∀ x ∈ xs, same x x = true) :
    sameItems xs xs = true := by
  induction xs with
  | nil => rfl
  | cons x xs ih =>
    rw [List.forall_mem_cons] at h
    rw [sameItems, h.1, ih h.2, Bool.and_self]

theorem sameItems_trans {xs ys zs : List Value}
    (h : ∀ x ∈ xs, ∀ {y z}, same x y = true → same y z = true → same x z = true)
    (hxy : sameItems xs ys = true) (hyz : sameItems ys zs = true) : sameItems xs zs = true := by
  induction xs generalizing ys zs with
  | nil =>
    cases ys with
    | nil => exact hyz
    | cons y ys => cases hxy
  | cons x xs ih =>
    cases ys with
    | nil => cases hxy
    | cons y ys =>
      cases zs with
      | nil => cases hyz
      | cons z zs =>
        rw [sameItems, Bool.and_eq_true] at hxy hyz ⊢
        rw [List.forall_mem_cons] at h
        exact ⟨h.1 hxy.1 hyz.1, ih h.2 hxy.2 hyz.2⟩

theorem WellKeyed.same_refl {v : Value} (h : v.WellKeyed) : same v v = true := by
  induction h with
  | null => rfl
  | bool b => exact (same_number_iff rfl).mpr ⟨_, rfl, Std.ReflCmp.compare_self⟩
  | int n => exact (same_number_iff rfl).mpr ⟨_, rfl, Std.ReflCmp.compare_self⟩
  | real x => exact (same_number_iff rfl).mpr ⟨_, rfl, Std.ReflCmp.compare_self⟩
  | text s => exact same_text_iff.mpr rfl
  | list within ih =>
    exact same_list_iff.mpr ⟨_, rfl, sameItems_refl ih⟩
  | @mapping fields nodup within ih =>
    refine same_mapping_iff.mpr ⟨fields, rfl, rfl, sameFields_iff.mpr fun p hp => ?_⟩
    exact ⟨p.2, Table.get?_eq_some_of_mem (t := ⟨fields⟩) nodup hp, ih p hp⟩

theorem WellKeyed.same_trans {x y z : Value} (h : x.WellKeyed) (hxy : same x y = true)
    (hyz : same y z = true) : same x z = true := by
  have number : ∀ {x a}, number? x = some a → ∀ {y z}, same x y = true → same y z = true →
      same x z = true := by
    intro x a hx y z hxy hyz
    obtain ⟨b, hb, hab⟩ := (same_number_iff hx).mp hxy
    obtain ⟨c, hc, hbc⟩ := (same_number_iff hb).mp hyz
    exact (same_number_iff hx).mpr ⟨c, hc, Std.TransCmp.eq_trans hab hbc⟩
  induction h generalizing y z with
  | null => exact same_null_iff.mp hxy ▸ hyz
  | bool b => exact number rfl hxy hyz
  | int n => exact number rfl hxy hyz
  | real x => exact number rfl hxy hyz
  | text s => exact same_text_iff.mp hxy ▸ hyz
  | @list xs within ih =>
    obtain ⟨ys, rfl, hitems⟩ := same_list_iff.mp hxy
    obtain ⟨zs, rfl, hothers⟩ := same_list_iff.mp hyz
    exact same_list_iff.mpr ⟨zs, rfl, sameItems_trans ih hitems hothers⟩
  | @mapping xs nodup within ih =>
    obtain ⟨ys, rfl, hlxy, hxy⟩ := same_mapping_iff.mp hxy
    obtain ⟨zs, rfl, hlyz, hyz⟩ := same_mapping_iff.mp hyz
    refine same_mapping_iff.mpr ⟨zs, rfl, hlxy.trans hlyz, sameFields_iff.mpr fun p hp => ?_⟩
    obtain ⟨w, hw, hpw⟩ := sameFields_iff.mp hxy p hp
    obtain ⟨u, hu, hwu⟩ := sameFields_iff.mp hyz _ (Table.mem_of_get?_eq_some (t := ⟨ys⟩) hw)
    exact ⟨u, hu, ih p hp hpw hwu⟩

/-! ## Lists that take up what they lack -/

theorem isAmong_iff {v : Value} {items : List Value} :
    v.isAmong items = true ↔ ∃ w ∈ items, same v w = true := List.any_eq_true

theorem isAmong_append_left {v : Value} {items : List Value} (h : v.isAmong items = true)
    (more : List Value) : v.isAmong (items ++ more) = true := by
  rw [isAmong, List.any_append, ← isAmong, h, Bool.true_or]

theorem extend_cons_of_among {v : Value} {base : List Value} (h : v.isAmong base = true)
    (rest : List Value) : extend base (v :: rest) = extend base rest := by
  rw [extend, if_pos h]

theorem extend_cons_of_not_among {v : Value} {base : List Value} (h : ¬ v.isAmong base = true)
    (rest : List Value) : extend base (v :: rest) = extend (base ++ [v]) rest := by
  rw [extend, if_neg h]

theorem extend_append (base xs ys : List Value) :
    extend base (xs ++ ys) = extend (extend base xs) ys := by
  induction xs generalizing base with
  | nil => rfl
  | cons x xs ih => rw [List.cons_append, extend, extend, ih]

/-- What a list takes up goes behind what it holds. -/
theorem exists_extend_eq (base xs : List Value) : ∃ more, extend base xs = base ++ more := by
  induction xs generalizing base with
  | nil => exact ⟨[], (List.append_nil base).symm⟩
  | cons x xs ih =>
    rw [extend]
    split
    · exact ih base
    · obtain ⟨more, hmore⟩ := ih (base ++ [x])
      exact ⟨x :: more, by rw [hmore, List.append_assoc, List.singleton_append]⟩

theorem mem_extend {v : Value} {base xs : List Value} (h : v ∈ extend base xs) :
    v ∈ base ∨ v ∈ xs := by
  induction xs generalizing base with
  | nil => exact .inl h
  | cons x xs ih =>
    rw [extend] at h
    rcases ih h with h | h
    · split at h
      · exact .inl h
      · rcases List.mem_append.mp h with h | h
        · exact .inl h
        · exact .inr (List.mem_singleton.mp h ▸ List.mem_cons_self)
    · exact .inr (List.mem_cons_of_mem _ h)

theorem isAmong_extend_left {v : Value} {base : List Value} (h : v.isAmong base = true)
    (xs : List Value) : v.isAmong (extend base xs) = true := by
  obtain ⟨more, hmore⟩ := exists_extend_eq base xs
  exact hmore ▸ isAmong_append_left h more

theorem isAmong_extend_of_mem {v : Value} (hv : v.WellKeyed) {xs : List Value} (h : v ∈ xs)
    (base : List Value) : v.isAmong (extend base xs) = true := by
  obtain ⟨front, back, rfl⟩ := List.append_of_mem h
  rw [extend_append]
  by_cases hamong : v.isAmong (extend base front) = true
  · exact isAmong_extend_left hamong _
  · rw [extend_cons_of_not_among hamong]
    exact isAmong_extend_left (isAmong_iff.mpr ⟨v, by simp, hv.same_refl⟩) back

/-- A list that holds all of another takes up nothing. -/
theorem extend_of_among {base xs : List Value} (h : ∀ v ∈ xs, v.isAmong base = true) :
    extend base xs = base := by
  induction xs with
  | nil => rfl
  | cons x xs ih =>
    rw [List.forall_mem_cons] at h
    rw [extend_cons_of_among h.1, ih h.2]

theorem extend_self {xs : List Value} (h : ∀ v ∈ xs, v.WellKeyed) : extend xs xs = xs :=
  extend_of_among fun v hv => isAmong_iff.mpr ⟨v, hv, (h v hv).same_refl⟩

theorem extend_extend_self {xs : List Value} (h : ∀ v ∈ xs, v.WellKeyed) (base : List Value) :
    extend (extend base xs) xs = extend base xs :=
  extend_of_among fun v hv => isAmong_extend_of_mem (h v hv) hv base

/-- Taking up an extended list is taking up the list and then what it was extended by. -/
theorem extend_extend {xs ys : List Value} (hxs : ∀ v ∈ xs, v.WellKeyed)
    (hys : ∀ v ∈ ys, v.WellKeyed) (base : List Value) :
    extend base (extend xs ys) = extend (extend base xs) ys := by
  induction ys generalizing xs with
  | nil => rfl
  | cons y ys ih =>
    rw [List.forall_mem_cons] at hys
    by_cases hamong : y.isAmong xs = true
    · -- What is the same as an item of the list is the same as what the item was taken up as.
      have hbase : y.isAmong (extend base xs) = true := by
        obtain ⟨x, hx, hyx⟩ := isAmong_iff.mp hamong
        obtain ⟨w, hw, hxw⟩ := isAmong_iff.mp (isAmong_extend_of_mem (hxs x hx) hx base)
        exact isAmong_iff.mpr ⟨w, hw, hys.1.same_trans hyx hxw⟩
      rw [extend_cons_of_among hamong, extend_cons_of_among hbase, ih hxs hys.2]
    · have hall : ∀ v ∈ xs ++ [y], v.WellKeyed := by
        intro v hv
        rcases List.mem_append.mp hv with hv | hv
        · exact hxs v hv
        · exact List.mem_singleton.mp hv ▸ hys.1
      rw [extend_cons_of_not_among hamong, ih hall hys.2, extend_append, extend, extend, extend]

/-- An empty list takes up the first of each value, in the order of the list. -/
theorem extend_nil (xs : List Value) : extend [] xs = xs.eraseDupsBy same := by
  have hloop : ∀ (seen xs : List Value),
      extend seen.reverse xs = List.eraseDupsBy.loop same xs seen := by
    intro seen xs
    induction xs generalizing seen with
    | nil => rfl
    | cons x xs ih =>
      have hany : x.isAmong seen.reverse = seen.any (same x) := List.any_reverse
      rw [extend, List.eraseDupsBy.loop, hany]
      cases seen.any (same x) with
      | true => exact ih seen
      | false =>
        have hseen : seen.reverse ++ [x] = (x :: seen).reverse := List.reverse_cons.symm
        rw [if_neg Bool.false_ne_true, hseen]
        exact ih (x :: seen)
  exact hloop [] xs

end Value
end DocSite
