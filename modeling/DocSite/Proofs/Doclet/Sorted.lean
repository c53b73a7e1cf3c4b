import DocSite.Doclet.Order
import DocSite.Proofs.Doclet.StableSort
import Mathlib.Data.Rat.Cast.Order
import Mathlib.Algebra.Order.Ring.Rat
import Mathlib.Tactic.Ring

/-! Sorting by several fields. Keys stand on a line, and where no number without value is beside
another number the comparison of keys is that of the line, so each stable sort orders by its field
and keeps what was ordered before where the field does not decide. Doclets that some field tells
apart have one sorted order only then, whatever order they come in. -/
namespace DocSite
set_option autoImplicit false

/-! ## The line of keys -/

namespace Double

/-- Where a number stands: first one without value, then the negative infinity, the finite numbers
by their values, the positive infinity. -/
def place : Double → ℤ ×ₗ ℚ
  | undefined => toLex (-2, 0)
  | infinite true => toLex (-1, 0)
  | finite negative mantissa exponent => toLex (0, signed negative mantissa * 2 ^ exponent)
  | infinite false => toLex (1, 0)

theorem compare_mul_pos {x y : ℤ} {c : ℚ} (hc : 0 < c) :
    compare x y = compare ((x : ℚ) * c) ((y : ℚ) * c) := by
  rcases lt_trichotomy x y with h | h | h
  · have hq : (x : ℚ) * c < y * c := mul_lt_mul_of_pos_right (by exact_mod_cast h) hc
    rw [compare_lt_iff_lt.mpr h, compare_lt_iff_lt.mpr hq]
  · rw [h, compare_eq_iff_eq.mpr rfl, compare_eq_iff_eq.mpr rfl]
  · have hq : (y : ℚ) * c < x * c := mul_lt_mul_of_pos_right (by exact_mod_cast h) hc
    rw [compare_gt_iff_gt.mpr h, compare_gt_iff_gt.mpr hq]

theorem compareScaled_eq (a p b q : ℤ) :
    compareScaled a p b q = compare ((a : ℚ) * 2 ^ p) ((b : ℚ) * 2 ^ q) := by
  have hscale : ∀ (c e low : ℤ), low ≤ e →
      ((c * (Nat.pow 2 (e - low).toNat : Nat) : ℤ) : ℚ) * 2 ^ low = c * 2 ^ e := by
    intro c e low hle
    have hnat : ((e - low).toNat : ℤ) = e - low := Int.toNat_of_nonneg (by omega)
    have hpow : ((2 : ℚ) ^ (e - low).toNat) = 2 ^ (e - low) := by
      rw [← zpow_natCast, hnat]
    push_cast
    rw [Nat.pow_eq, Nat.cast_pow, Nat.cast_ofNat, hpow, mul_assoc, ← zpow_add₀ (by decide)]
    congr 2
    omega
  have hpos : (0 : ℚ) < 2 ^ min p q := zpow_pos (by decide) _
  rw [compareScaled, compare_mul_pos hpos, hscale a p _ (min_le_left p q),
    hscale b q _ (min_le_right p q)]

theorem order_eq_compareOn : order = compareOn place := by
  funext x y
  cases x with
  | undefined => cases y with
    | infinite b => cases b <;> rfl
    | _ => rfl
  | infinite a => cases y with
    | infinite b => cases a <;> cases b <;> rfl
    | _ => cases a <;> rfl
  | finite s m e => cases y with
    | finite t n f => exact compareScaled_eq _ _ _ _
    | infinite b => cases b <;> rfl
    | undefined => rfl

end Double

namespace SortKey

/-- How two keys compare. -/
def order : SortKey → SortKey → Ordering
  | missing, missing => .eq
  | missing, _ => .lt
  | _, missing => .gt
  | number x, number y => Double.order x y
  | number _, text _ => .lt
  | text _, number _ => .gt
  | text s, text t => compare s t

/-- Two keys can be compared unless one of two numbers alone is without value. -/
def comparable : SortKey → SortKey → Bool
  | number x, number y => (x == .undefined) == (y == .undefined)
  | _, _ => true

/-- Where a key stands: missing values first, then numbers, then texts. -/
def place : SortKey → ℤ ×ₗ (ℤ ×ₗ ℚ) ×ₗ String
  | missing => toLex (0, toLex (toLex (0, 0), ""))
  | number x => toLex (1, toLex (x.place, ""))
  | text s => toLex (2, toLex (toLex (0, 0), s))

theorem order_eq_compareOn : order = compareOn place := by
  funext x y
  cases x with
  | missing => cases y <;> rfl
  | number a => cases y with
    | number b =>
      have hplace : compareOn place (number a) (number b) =
          (compare a.place b.place).then (compare "" "") := rfl
      have hempty : compare "" "" = .eq := by decide
      rw [hplace, hempty, Ordering.then_eq, order, Double.order_eq_compareOn]
      rfl
    | _ => rfl
  | text s => cases y <;> rfl

instance : Std.TransCmp order := by
  rw [order_eq_compareOn]
  infer_instance

/-! ## Asking which key is less -/

theorem order_of_lt {x y : SortKey} (h : x.lt y = true) : order x y = .lt := by
  cases x with
  | missing => cases y with
    | missing => cases h
    | _ => rfl
  | number a => cases y with
    | number b => exact beq_iff_eq.mp ((Bool.and_eq_true_iff).mp h).2
    | missing => cases h
    | text t => rfl
  | text s => cases y with
    | text t => exact compareOfLessAndEq_eq_lt.mpr (decide_eq_true_iff.mp h)
    | _ => cases h

/-- Keys that can be compared are asked for in their order. -/
theorem lt_eq_order {x y : SortKey} (h : x.comparable y = true) :
    x.lt y = (order x y == .lt) := by
  refine Bool.eq_iff_iff.mpr ⟨fun hlt => beq_iff_eq.mpr (order_of_lt hlt), fun hlt => ?_⟩
  have hlt : order x y = .lt := beq_iff_eq.mp hlt
  cases x with
  | missing => cases y with
    | missing => cases hlt
    | _ => rfl
  | number a => cases y with
    | number b =>
      refine Bool.and_eq_true_iff.mpr ⟨bne_iff_ne.mpr ?_, beq_iff_eq.mpr hlt⟩
      rintro rfl
      have hb : b = .undefined := by simpa [comparable] using h
      rw [hb] at hlt
      cases hlt
    | missing => cases hlt
    | text t => rfl
  | text s => cases y with
    | text t => exact decide_eq_true (compareOfLessAndEq_eq_lt.mp hlt)
    | _ => cases hlt

/-- No key is less than one that may stand before it. -/
theorem lt_eq_false {x y : SortKey} (h : order x y ≠ .gt) : y.lt x = false := by
  refine Bool.eq_false_iff.mpr fun hlt => h ?_
  have hswap : order x y = (order y x).swap := Std.OrientedCmp.eq_swap
  rw [hswap, order_of_lt hlt]
  rfl

end SortKey

/-! ## Sorting by one field -/

namespace OrderField

variable {f : OrderField} {a b : Doclet} {ds : List Doclet}

/-- How two doclets compare in a field, the other way round in a descending one. -/
def order (f : OrderField) (a b : Doclet) : Ordering :=
  if f.descending then SortKey.order (f.key b) (f.key a) else SortKey.order (f.key a) (f.key b)

/-- Whether a doclet may stand before another one in a field. -/
def le (f : OrderField) (a b : Doclet) : Bool := (f.order a b).isLE

instance (f : OrderField) : Std.TransCmp fun a b : Doclet => SortKey.order (f.key a) (f.key b) where
  eq_swap := Std.OrientedCmp.eq_swap
  isLE_trans := Std.TransCmp.isLE_trans

instance (f : OrderField) : Std.TransCmp f.order where
  eq_swap := by
    intro a b
    unfold order
    split <;> exact Std.OrientedCmp.eq_swap
  isLE_trans := by
    intro a b c hab hbc
    unfold order at hab hbc ⊢
    split at hab
    · rename_i hdesc
      rw [if_pos hdesc] at hbc ⊢
      exact Std.TransCmp.isLE_trans hbc hab
    · rename_i hasc
      rw [if_neg hasc] at hbc ⊢
      exact Std.TransCmp.isLE_trans hab hbc

theorem le_trans (f : OrderField) (a b c : Doclet) (hab : f.le a b = true)
    (hbc : f.le b c = true) : f.le a c = true :=
  Std.TransCmp.isLE_trans hab hbc

theorem le_total (f : OrderField) (a b : Doclet) : (f.le a b || f.le b a) = true := by
  have hswap : f.order b a = (f.order a b).swap := Std.OrientedCmp.eq_swap
  rw [le, le, hswap]
  cases f.order a b <;> rfl

/-- The keys of two doclets differ in a field. -/
def Tells (f : OrderField) (a b : Doclet) : Prop :=
  SortKey.order (a.field f.name).sortKey (b.field f.name).sortKey ≠ .eq

theorem Tells.symm (h : f.Tells a b) : f.Tells b a :=
  fun he => h (Std.OrientedCmp.eq_symm he)

theorem tells_iff : f.Tells a b ↔ f.order a b ≠ .eq := by
  unfold order
  split
  · exact ⟨fun h => h.symm, fun h => Tells.symm h⟩
  · rfl

theorem not_le_of_tells (h : f.Tells a b) (hab : f.le a b = true) : ¬ f.le b a = true :=
  fun hba => tells_iff.mp h (Std.OrientedCmp.isLE_antisymm hab hba)

/-- Sorting by one field moves doclets and nothing else. -/
theorem pass_perm (f : OrderField) (ds : List Doclet) : (f.pass ds).Perm ds := by
  unfold pass
  dsimp only
  split
  · exact (List.reverse_perm _).trans ((RunSort.sort_perm _ _).trans (List.reverse_perm ds))
  · exact RunSort.sort_perm _ ds

theorem pass_of_pairwise (h : ds.Pairwise fun a b => f.le a b = true) : f.pass ds = ds := by
  unfold pass
  dsimp only
  split
  · rename_i hdesc
    rw [RunSort.sort_of_pairwise, List.reverse_reverse]
    refine List.pairwise_reverse.mpr (h.imp fun {a b} hle => SortKey.lt_eq_false ?_)
    rw [le, order, if_pos hdesc] at hle
    exact Ordering.isLE_iff_ne_gt.mp hle
  · rename_i hasc
    refine RunSort.sort_of_pairwise (h.imp fun {a b} hle => SortKey.lt_eq_false ?_)
    rw [le, order, if_neg hasc] at hle
    exact Ordering.isLE_iff_ne_gt.mp hle

/-- Where the keys can be compared, a pass is the stable sort by the field. -/
theorem pass_eq_mergeSort (h : ∀ a ∈ ds, ∀ b ∈ ds, (f.key a).comparable (f.key b) = true) :
    f.pass ds = ds.mergeSort f.le := by
  have hsort : ∀ xs : List Doclet, (∀ d ∈ xs, d ∈ ds) →
      RunSort.sort (fun a b => (f.key a).lt (f.key b)) xs =
        xs.mergeSort fun a b => (SortKey.order (f.key a) (f.key b)).isLE := by
    intro xs hxs
    have hfollows : RunSort.Follows (fun a b => (f.key a).lt (f.key b))
        (fun a b => SortKey.order (f.key a) (f.key b)) xs :=
      fun a ha b hb => SortKey.lt_eq_order (h a (hxs a ha) b (hxs b hb))
    exact RunSort.sort_eq_mergeSort hfollows
  unfold pass
  dsimp only
  split
  · rename_i hdesc
    have horder : ∀ a b, f.order a b = SortKey.order (f.key b) (f.key a) :=
      fun a b => if_pos hdesc
    rw [hsort _ fun d hd => List.mem_reverse.mp hd]
    -- Turned round, the sorted list is ordered the other way, and so are the doclets of each key.
    refine eq_of_pairwise_of_filter f.order (List.pairwise_reverse.mpr ?_) ?_ fun d => ?_
    · refine (List.pairwise_mergeSort (fun a b c => Std.TransCmp.isLE_trans) ?_ _).imp
        fun {a b} hle => ?_
      · intro a b
        have hswap : SortKey.order (f.key b) (f.key a) =
            (SortKey.order (f.key a) (f.key b)).swap := Std.OrientedCmp.eq_swap
        rw [hswap]
        cases SortKey.order (f.key a) (f.key b) <;> rfl
      · rw [horder]
        exact Ordering.isLE_iff_ne_gt.mp hle
    · exact (List.pairwise_mergeSort f.le_trans f.le_total ds).imp
        fun hle => Ordering.isLE_iff_ne_gt.mp hle
    · have heq : ∀ a b, (f.order d a == .eq) = true → (f.order d b == .eq) = true →
          f.order a b = .eq := fun a b ha hb =>
        Std.TransCmp.eq_trans (Std.OrientedCmp.eq_symm (beq_iff_eq.mp ha)) (beq_iff_eq.mp hb)
      rw [List.filter_reverse, filter_mergeSort, filter_mergeSort f.le_trans f.le_total,
        List.filter_reverse, List.reverse_reverse]
      · intro a b ha hb
        rw [le, heq a b ha hb]
        rfl
      · exact fun a b c => Std.TransCmp.isLE_trans
      · intro a b
        have hswap : SortKey.order (f.key b) (f.key a) =
            (SortKey.order (f.key a) (f.key b)).swap := Std.OrientedCmp.eq_swap
        rw [hswap]
        cases SortKey.order (f.key a) (f.key b) <;> rfl
      · intro a b ha hb
        have hba := heq b a hb ha
        rw [horder] at hba
        rw [hba]
        rfl
  · rename_i hasc
    rw [hsort ds fun d hd => hd]
    congr 1
    funext a b
    rw [le, order, if_neg hasc]

end OrderField

/-! ## Sorting by several fields -/

/-- Sorting moves doclets and nothing else. -/
theorem orderBy_perm (fields : List OrderField) (ds : List Doclet) :
    (orderBy fields ds).Perm ds := by
  induction fields with
  | nil => exact List.Perm.refl _
  | cons f rest ih => exact (f.pass_perm _).trans ih

/-- In none of the fields does a number without value stand beside another number. -/
def Comparable (fields : List OrderField) (ds : List Doclet) : Prop :=
  ∀ f ∈ fields, ∀ a ∈ ds, ∀ b ∈ ds, (f.key a).comparable (f.key b) = true

instance (fields : List OrderField) (ds : List Doclet) : Decidable (Comparable fields ds) :=
  inferInstanceAs (Decidable (∀ f ∈ fields, ∀ a ∈ ds, ∀ b ∈ ds, _))

theorem Comparable.perm {fields : List OrderField} {ds es : List Doclet} (h : Comparable fields ds)
    (hperm : ds.Perm es) : Comparable fields es :=
  fun f hf a ha b hb => h f hf a (hperm.mem_iff.mpr ha) b (hperm.mem_iff.mpr hb)

theorem Comparable.map {fields : List OrderField} {ds : List Doclet} {g : Doclet → Doclet}
    (h : Comparable fields ds) (hg : ∀ f ∈ fields, ∀ d, f.key (g d) = f.key d) :
    Comparable fields (ds.map g) := by
  intro f hf x hx y hy
  obtain ⟨a, ha, rfl⟩ := List.mem_map.mp hx
  obtain ⟨b, hb, rfl⟩ := List.mem_map.mp hy
  rw [hg f hf, hg f hf]
  exact h f hf a ha b hb

/-- Each pass is a stable sort of what the passes before it give. -/
theorem orderBy_cons {f : OrderField} {rest : List OrderField} {ds : List Doclet}
    (h : Comparable (f :: rest) ds) :
    orderBy (f :: rest) ds = (orderBy rest ds).mergeSort f.le :=
  OrderField.pass_eq_mergeSort ((h.perm (orderBy_perm rest ds).symm) f List.mem_cons_self)

/-- Whether a doclet may stand before another one in all fields together. -/
def MayPrecede : List OrderField → Doclet → Doclet → Prop
  | [], _, _ => True
  | f :: rest, a, b => f.le a b = true ∧ (f.le b a = true → MayPrecede rest a b)

theorem pairwise_orderBy {fields : List OrderField} {ds : List Doclet}
    (h : Comparable fields ds) : (orderBy fields ds).Pairwise (MayPrecede fields) := by
  induction fields with
  | nil => exact List.pairwise_of_forall fun _ _ => trivial
  | cons f rest ih =>
    rw [orderBy_cons h]
    exact pairwise_mergeSort_and f.le_trans f.le_total
      (ih fun g hg => h g (List.mem_cons_of_mem f hg))

theorem not_mayPrecede_both {fields : List OrderField} {a b : Doclet}
    (h : ∃ f ∈ fields, f.Tells a b) (hab : MayPrecede fields a b) :
    ¬ MayPrecede fields b a := by
  induction fields with
  | nil =>
    obtain ⟨f, hf, -⟩ := h
    cases hf
  | cons first rest ih =>
    intro hba
    obtain ⟨f, hf, htells⟩ := h
    rcases List.mem_cons.mp hf with rfl | hf
    · exact OrderField.not_le_of_tells htells hab.1 hba.1
    · exact ih ⟨f, hf, htells⟩ (hab.2 hba.1) (hba.2 hab.1)

/-- Doclets that the fields tell apart have one sorted order. -/
theorem orderBy_eq_of_perm {fields : List OrderField} {ds es : List Doclet} (hperm : ds.Perm es)
    (hc : Comparable fields ds) (hapart : ds.Pairwise fun a b => ∃ f ∈ fields, f.Tells a b) :
    orderBy fields ds = orderBy fields es := by
  -- Both results are ordered in all fields, and of two different doclets only one may go first.
  have hsymm : Std.Symm fun a b : Doclet => ∃ f ∈ fields, f.Tells a b :=
    ⟨fun a b ⟨f, hf, htells⟩ => ⟨f, hf, htells.symm⟩⟩
  refine List.Perm.eq_of_pairwise (fun a b ha hb hab hba => ?_) (pairwise_orderBy hc)
    (pairwise_orderBy (hc.perm hperm)) ((orderBy_perm fields ds).trans
      (hperm.trans (orderBy_perm fields es).symm))
  have ha : a ∈ ds := (orderBy_perm fields ds).mem_iff.mp ha
  have hb : b ∈ ds := hperm.mem_iff.mpr ((orderBy_perm fields es).mem_iff.mp hb)
  by_contra hne
  exact not_mayPrecede_both (hapart.forall ha hb hne) hab hba

theorem orderBy_of_pairwise {fields : List OrderField} {ds : List Doclet}
    (h : ∀ f ∈ fields, ds.Pairwise fun a b => f.le a b = true) : orderBy fields ds = ds := by
  induction fields with
  | nil => rfl
  | cons f rest ih =>
    have hrest : orderBy rest ds = ds := ih fun g hg => h g (List.mem_cons_of_mem f hg)
    change f.pass (orderBy rest ds) = ds
    rw [hrest]
    exact OrderField.pass_of_pairwise (h f List.mem_cons_self)

end DocSite
