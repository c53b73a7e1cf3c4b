import DocSite.Doclet.RunSort
import Mathlib.Data.List.Pairwise
import Mathlib.Data.Prod.Lex

/-! Stable sorting. An ordered list in which entries of one place keep the order that they had is
determined by these two facts. So a sort by runs gives what any other stable sort gives, as long as
what it asks of its items is answered by an order; whatever the answers are, it only moves items. -/
namespace DocSite
set_option autoImplicit false

/-! ## What a stable sort is determined by -/

section
variable {α : Type}

/-- A stable sort orders, and where the order does not decide it keeps what held before. -/
theorem pairwise_mergeSort_and {le : α → α → Bool} {R : α → α → Prop}
    (trans : ∀ a b c, le a b = true → le b c = true → le a c = true)
    (total : ∀ a b, (le a b || le b a) = true) {xs : List α} (h : xs.Pairwise R) :
    (xs.mergeSort le).Pairwise fun a b => le a b = true ∧ (le b a = true → R a b) := by
  induction xs with
  | nil => simp
  | cons x rest ih =>
    obtain ⟨hx, hrest⟩ := List.pairwise_cons.mp h
    -- The head goes into the sorted rest behind what it must not precede, before all else.
    obtain ⟨before, after, hall, hsplit, hbefore⟩ := List.mergeSort_cons trans total x rest
    have hsorted := List.pairwise_mergeSort trans total (x :: rest)
    have hmem : ∀ y ∈ before ++ after, y ∈ rest := by
      intro y hy
      rw [← hsplit] at hy
      exact List.mem_mergeSort.mp hy
    have hold := ih hrest
    rw [hsplit, List.pairwise_append] at hold
    rw [hall, List.pairwise_append, List.pairwise_cons] at hsorted
    rw [hall, List.pairwise_append, List.pairwise_cons]
    obtain ⟨hold₁, hold₂, hcross⟩ := hold
    obtain ⟨-, ⟨hafter, -⟩, -⟩ := hsorted
    refine ⟨hold₁, ⟨fun y hy => ⟨hafter y hy, fun _ => ?_⟩, hold₂⟩, fun y hy z hz => ?_⟩
    · exact hx y (hmem y (List.mem_append_right _ hy))
    · rcases List.mem_cons.mp hz with rfl | hz
      · have hnot : le z y = false := by simpa using hbefore y hy
        have hle : le y z = true := by simpa [hnot] using total y z
        exact ⟨hle, fun hc => by rw [hnot] at hc; cases hc⟩
      · exact hcross y hy z hz

/-- Entries that may all stand before each other keep their order in a sort. -/
theorem filter_mergeSort {le : α → α → Bool}
    (trans : ∀ a b c, le a b = true → le b c = true → le a c = true)
    (total : ∀ a b, (le a b || le b a) = true) {p : α → Bool}
    (h : ∀ a b, p a = true → p b = true → le a b = true) (xs : List α) :
    (xs.mergeSort le).filter p = xs.filter p := by
  have hsorted : (xs.filter p).Pairwise fun a b => le a b = true :=
    List.pairwise_of_forall_mem_list fun a ha b hb =>
      h a b (List.mem_filter.mp ha).2 (List.mem_filter.mp hb).2
  have hsub : (xs.filter p).Sublist (xs.mergeSort le) :=
    List.sublist_mergeSort trans total hsorted List.filter_sublist
  -- The sublist has all that is kept, so nothing else is.
  have hkept : (xs.filter p).Sublist ((xs.mergeSort le).filter p) := by
    simpa [List.filter_filter] using hsub.filter p
  exact (hkept.eq_of_length ((List.mergeSort_perm xs le).filter p).length_eq.symm).symm

variable (cmp : α → α → Ordering) [Std.TransCmp cmp]

theorem mem_filter_self {a : α} {xs : List α} : a ∈ xs.filter (cmp a · == .eq) ↔ a ∈ xs := by
  have hself : cmp a a = .eq := Std.ReflCmp.compare_self
  rw [List.mem_filter, hself]
  exact and_iff_left rfl

/-- Ordered lists in which the entries of each place come in the same order are the same. -/
theorem eq_of_pairwise_of_filter {xs ys : List α}
    (hx : xs.Pairwise fun a b => cmp a b ≠ .gt) (hy : ys.Pairwise fun a b => cmp a b ≠ .gt)
    (h : ∀ a, xs.filter (cmp a · == .eq) = ys.filter (cmp a · == .eq)) : xs = ys := by
  have hmem : ∀ a, a ∈ xs ↔ a ∈ ys := fun a => by
    rw [← mem_filter_self cmp, h a, mem_filter_self]
  induction xs generalizing ys with
  | nil =>
    cases ys with
    | nil => rfl
    | cons y ys => exact absurd ((hmem y).mpr List.mem_cons_self) List.not_mem_nil
  | cons x xs ih =>
    cases ys with
    | nil => exact absurd ((hmem x).mp List.mem_cons_self) List.not_mem_nil
    | cons y ys =>
      obtain ⟨hxs, hxrest⟩ := List.pairwise_cons.mp hx
      obtain ⟨hys, hyrest⟩ := List.pairwise_cons.mp hy
      have hself : ∀ a, cmp a a = .eq := fun a => Std.ReflCmp.compare_self
      -- Each head is somewhere in the other list, so neither stands behind the other.
      have hxy : cmp x y ≠ .gt := by
        rcases List.mem_cons.mp ((hmem y).mpr List.mem_cons_self) with rfl | hm
        · simp [hself]
        · exact hxs y hm
      have hyx : cmp y x ≠ .gt := by
        rcases List.mem_cons.mp ((hmem x).mp List.mem_cons_self) with rfl | hm
        · simp [hself]
        · exact hys x hm
      have heq : cmp x y = .eq := by
        have hswap : cmp y x = (cmp x y).swap := Std.OrientedCmp.eq_swap
        rw [hswap] at hyx
        cases hc : cmp x y <;> simp_all
      have hhead := h x
      rw [List.filter_cons_of_pos (by simp [hself]), List.filter_cons_of_pos (by simp [heq])]
        at hhead
      obtain ⟨rfl, -⟩ := List.cons.inj hhead
      have htail : ∀ a, xs.filter (cmp a · == .eq) = ys.filter (cmp a · == .eq) := by
        intro a
        have ha := h a
        rw [List.filter_cons, List.filter_cons] at ha
        split at ha
        · exact (List.cons.inj ha).2
        · exact ha
      refine congrArg (x :: ·) (ih hxrest hyrest htail fun a => ?_)
      rw [← mem_filter_self cmp, htail a, mem_filter_self]

end

/-! ## Runs and places -/

namespace RunSort

section
variable {α : Type} (lt : α → α → Bool)

theorem runOn_append (falls : Bool) (last : α) (xs : List α) :
    (runOn lt falls last xs).1 ++ (runOn lt falls last xs).2 = xs := by
  induction xs generalizing last with
  | nil => rfl
  | cons x rest ih =>
    rw [runOn]
    split
    · exact congrArg (x :: ·) (ih x)
    · rfl

/-- The run at the front, turned round or not, and what it leaves are the items. -/
theorem firstRun_eq (xs : List α) : ∃ run,
    run ++ (firstRun lt xs).2 = xs ∧
      ((firstRun lt xs).1 = run ∨ (firstRun lt xs).1 = run.reverse) := by
  unfold firstRun
  split
  · rename_i x y rest
    refine ⟨x :: (runOn lt (lt y x) x (y :: rest)).1,
      congrArg (x :: ·) (runOn_append lt _ _ _), ?_⟩
    dsimp only
    split
    · exact .inr rfl
    · exact .inl rfl
  · exact ⟨_, List.append_nil _, .inl rfl⟩

theorem insert_of_drop_nil {lt : α → α → Bool} {x : α} {xs : List α}
    (h : xs.drop (xs.length / 2) = []) : insert lt x xs = [x] := by
  rw [insert]
  split
  · rfl
  · rename_i hcons
    rw [h] at hcons
    cases hcons

theorem insert_of_drop_cons {lt : α → α → Bool} {x y : α} {xs after : List α}
    (h : xs.drop (xs.length / 2) = y :: after) :
    insert lt x xs =
      if lt x y then insert lt x (xs.take (xs.length / 2)) ++ y :: after
      else xs.take (xs.length / 2) ++ y :: insert lt x after := by
  rw [insert]
  split
  · rename_i hnil
    rw [h] at hnil
    cases hnil
  · rename_i hcons
    rw [h] at hcons
    cases hcons
    rfl

/-- Nothing stands behind the middle of nothing alone. -/
theorem eq_nil_of_drop_half {xs : List α} (h : xs.drop (xs.length / 2) = []) : xs = [] := by
  have hlength := congrArg List.length h
  rw [List.length_drop, List.length_nil] at hlength
  exact List.eq_nil_of_length_eq_zero (by omega)

theorem eq_of_drop_half {y : α} {xs after : List α} (h : xs.drop (xs.length / 2) = y :: after) :
    xs = xs.take (xs.length / 2) ++ y :: after := by
  rw [← h, List.take_append_drop]

/-- An item is put somewhere between the others. -/
theorem insert_split (x : α) (xs : List α) :
    ∃ before after, xs = before ++ after ∧ insert lt x xs = before ++ x :: after := by
  fun_induction insert lt x xs with
  | case1 xs hdrop => exact ⟨[], [], eq_nil_of_drop_half hdrop, rfl⟩
  | case2 xs y after hdrop hlt ih =>
    obtain ⟨front, back, htake, hin⟩ := ih
    refine ⟨front, back ++ y :: after, ?_, ?_⟩
    · rw [← List.append_assoc, ← htake]
      exact eq_of_drop_half hdrop
    · rw [hin, List.append_assoc, List.cons_append]
  | case3 xs y after hdrop hlt ih =>
    obtain ⟨front, back, hafter, hin⟩ := ih
    refine ⟨xs.take (xs.length / 2) ++ y :: front, back, ?_, ?_⟩
    · rw [List.append_assoc, List.cons_append, ← hafter]
      exact eq_of_drop_half hdrop
    · rw [hin, List.append_assoc, List.cons_append]

theorem insert_perm (x : α) (xs : List α) : (insert lt x xs).Perm (xs ++ [x]) := by
  obtain ⟨before, after, rfl, hin⟩ := insert_split lt x xs
  rw [hin, List.append_assoc]
  have hcomm : ([x] ++ after).Perm (after ++ [x]) := List.perm_append_comm
  exact hcomm.append_left before

theorem foldl_insert_perm (xs sorted : List α) :
    (xs.foldl (fun sorted x => insert lt x sorted) sorted).Perm (sorted ++ xs) := by
  induction xs generalizing sorted with
  | nil => rw [List.foldl_nil, List.append_nil]
  | cons x rest ih =>
    have hone := (insert_perm lt x sorted).append_right rest
    rw [List.append_assoc, List.singleton_append] at hone
    exact (ih _).trans hone

/-- Sorting moves items and nothing else, whatever is less than what. -/
theorem sort_perm (xs : List α) : (sort lt xs).Perm xs := by
  obtain ⟨run, hrun, hfirst⟩ := firstRun_eq lt xs
  refine (foldl_insert_perm lt (firstRun lt xs).2 (firstRun lt xs).1).trans ?_
  rcases hfirst with h | h
  · rw [h, hrun]
  · rw [h]
    exact ((List.reverse_perm run).append_right _).trans (by rw [hrun])

end

/-! ## Items that are ordered or renamed -/

section
variable {α : Type} {lt : α → α → Bool}

theorem runOn_of_pairwise {last : α} {xs : List α}
    (h : (last :: xs).Pairwise fun a b => lt b a = false) : runOn lt false last xs = (xs, []) := by
  induction xs generalizing last with
  | nil => rfl
  | cons x rest ih =>
    obtain ⟨hlast, hrest⟩ := List.pairwise_cons.mp h
    rw [runOn, if_pos (by rw [hlast x List.mem_cons_self]; rfl), ih hrest]

/-- Items of which none is less than one before it stay as they are. -/
theorem sort_of_pairwise {xs : List α} (h : xs.Pairwise fun a b => lt b a = false) :
    sort lt xs = xs := by
  match xs with
  | [] => rfl
  | [x] => rfl
  | x :: y :: rest =>
    have hyx : lt y x = false := (List.pairwise_cons.mp h).1 y List.mem_cons_self
    rw [sort, firstRun, hyx, runOn_of_pairwise h]
    rfl

variable {β : Type} {lt' : β → β → Bool} {f : α → β}

theorem runOn_map (h : ∀ a b, lt' (f a) (f b) = lt a b) (falls : Bool) (last : α) (xs : List α) :
    runOn lt' falls (f last) (xs.map f) =
      ((runOn lt falls last xs).1.map f, (runOn lt falls last xs).2.map f) := by
  induction xs generalizing last with
  | nil => rfl
  | cons x rest ih =>
    rw [List.map_cons, runOn, runOn, h, ih]
    split <;> rfl

theorem insert_map (h : ∀ a b, lt' (f a) (f b) = lt a b) (x : α) (xs : List α) :
    insert lt' (f x) (xs.map f) = (insert lt x xs).map f := by
  fun_induction insert lt x xs with
  | case1 xs hdrop =>
    rw [insert_of_drop_nil (by rw [List.length_map, ← List.map_drop, hdrop, List.map_nil])]
    rfl
  | case2 xs y after hdrop hlt ih =>
    rw [insert_of_drop_cons (by rw [List.length_map, ← List.map_drop, hdrop, List.map_cons]), h,
      if_pos hlt, List.length_map, ← List.map_take, ih, List.map_append, List.map_cons]
  | case3 xs y after hdrop hlt ih =>
    rw [insert_of_drop_cons (by rw [List.length_map, ← List.map_drop, hdrop, List.map_cons]), h,
      if_neg hlt, List.length_map, ← List.map_take, ih, List.map_append, List.map_cons]

/-- Sorting goes along with a change of the items that no comparison sees. -/
theorem sort_map (h : ∀ a b, lt' (f a) (f b) = lt a b) (xs : List α) :
    sort lt' (xs.map f) = (sort lt xs).map f := by
  have hfirst : firstRun lt' (xs.map f) =
      ((firstRun lt xs).1.map f, (firstRun lt xs).2.map f) := by
    match xs with
    | [] => rfl
    | [x] => rfl
    | x :: y :: rest =>
      have hrun := runOn_map h (lt y x) x (y :: rest)
      rw [List.map_cons] at hrun
      rw [List.map_cons, List.map_cons, firstRun, firstRun, h, hrun]
      cases lt y x
      · rfl
      · exact congrArg (·, _) (by rw [← List.map_cons, ← List.map_reverse]; rfl)
  have hfold : ∀ left sorted : List α,
      (left.map f).foldl (fun sorted x => insert lt' x sorted) (sorted.map f) =
        (left.foldl (fun sorted x => insert lt x sorted) sorted).map f := by
    intro left
    induction left with
    | nil => exact fun _ => rfl
    | cons x rest ih =>
      intro sorted
      rw [List.map_cons, List.foldl_cons, List.foldl_cons, insert_map h, ih]
  rw [sort, sort, hfirst]
  exact hfold _ _

end

/-! ## Sorting by an order -/

section
variable {α : Type} {lt : α → α → Bool} {cmp : α → α → Ordering}

/-- What a sort asks about some items is answered by an order. -/
def Follows (lt : α → α → Bool) (cmp : α → α → Ordering) (xs : List α) : Prop :=
  ∀ a ∈ xs, ∀ b ∈ xs, lt a b = (cmp a b == .lt)

theorem Follows.mono {xs ys : List α} (h : Follows lt cmp ys) (hsub : ∀ a ∈ xs, a ∈ ys) :
    Follows lt cmp xs := fun a ha b hb => h a (hsub a ha) b (hsub b hb)

theorem Follows.cons_mono {x : α} {xs ys : List α} (h : Follows lt cmp (x :: ys))
    (hsub : ∀ a ∈ xs, a ∈ ys) : Follows lt cmp (x :: xs) :=
  h.mono (List.cons_subset_cons x hsub)

theorem Follows.head_lt_iff {x y : α} {xs : List α} (h : Follows lt cmp (x :: xs)) (hy : y ∈ xs) :
    lt x y = true ↔ cmp x y = .lt := by
  rw [h x List.mem_cons_self y (List.mem_cons_of_mem _ hy), beq_iff_eq]

variable [Std.TransCmp cmp]

theorem lt_of_lt_of_ne_gt {a b c : α} (hab : cmp a b = .lt) (hbc : cmp b c ≠ .gt) :
    cmp a c = .lt :=
  Std.TransCmp.lt_of_lt_of_isLE hab (Ordering.isLE_iff_ne_gt.mpr hbc)

theorem ne_gt_of_not_lt {a b : α} (h : cmp b a ≠ .lt) : cmp a b ≠ .gt :=
  fun hgt => h (Std.OrientedCmp.lt_of_gt hgt)

theorem runOn_pairwise (falls : Bool) {last : α} {xs : List α}
    (h : Follows lt cmp (last :: xs)) :
    (last :: (runOn lt falls last xs).1).Pairwise fun a b => (cmp b a == .lt) = falls := by
  induction xs generalizing last with
  | nil => exact List.pairwise_singleton _ _
  | cons x rest ih =>
    have hx := h x (List.mem_cons_of_mem _ List.mem_cons_self) last List.mem_cons_self
    rw [runOn]
    split
    · rename_i hgoes
      have hfirst : (cmp x last == .lt) = falls := hx.symm.trans (beq_iff_eq.mp hgoes)
      have hrest := ih (h.mono fun a ha => List.mem_cons_of_mem _ ha)
      refine List.pairwise_cons.mpr ⟨fun y hy => ?_, hrest⟩
      rcases List.mem_cons.mp hy with rfl | hy
      · exact hfirst
      · have hnext := (List.pairwise_cons.mp hrest).1 y hy
        cases falls with
        | true =>
          rw [beq_iff_eq] at hfirst hnext ⊢
          exact Std.TransCmp.lt_trans hnext hfirst
        | false =>
          rw [beq_eq_false_iff_ne] at hfirst hnext ⊢
          intro hlt
          exact hnext (lt_of_lt_of_ne_gt hlt (ne_gt_of_not_lt hfirst))
    · exact List.pairwise_singleton _ _

/-- A run that falls has one item of each place, so turning it round changes no place. -/
theorem filter_reverse_of_falls {run : List α} (h : run.Pairwise fun a b => cmp b a = .lt) (d : α) :
    run.reverse.filter (cmp d · == .eq) = run.filter (cmp d · == .eq) := by
  have hone : ∀ xs : List α, (xs.Pairwise fun a b => cmp b a = .lt) →
      (∀ x ∈ xs, cmp d x = .eq) → xs.reverse = xs := by
    intro xs hxs hall
    match xs with
    | [] => rfl
    | [x] => rfl
    | x :: y :: rest =>
      have hlt := (List.pairwise_cons.mp hxs).1 y List.mem_cons_self
      have heq : cmp y x = .eq := Std.TransCmp.eq_trans
        (Std.OrientedCmp.eq_symm (hall y (List.mem_cons_of_mem _ List.mem_cons_self)))
        (hall x List.mem_cons_self)
      rw [hlt] at heq
      cases heq
  rw [List.filter_reverse]
  exact hone _ (h.filter _) fun x hx => beq_iff_eq.mp (List.mem_filter.mp hx).2

/-- The run at the front is ordered, and the items of each place are in their order. -/
theorem firstRun_ordered {xs : List α} (h : Follows lt cmp xs) :
    ((firstRun lt xs).1.Pairwise fun a b => cmp a b ≠ .gt) ∧
    ∀ d, (firstRun lt xs).1.filter (cmp d · == .eq) ++ (firstRun lt xs).2.filter (cmp d · == .eq) =
      xs.filter (cmp d · == .eq) := by
  match xs with
  | [] => exact ⟨List.Pairwise.nil, fun _ => rfl⟩
  | [x] => exact ⟨List.pairwise_singleton _ _, fun _ => List.append_nil _⟩
  | x :: y :: rest =>
    have hjoin := runOn_append lt (lt y x) x (y :: rest)
    have hrun := runOn_pairwise (lt y x) h
    rw [firstRun]
    dsimp only
    cases hfalls : lt y x with
    | true =>
      rw [hfalls] at hrun hjoin
      have hstrict := hrun.imp fun {a b} hlt => beq_iff_eq.mp hlt
      refine ⟨List.pairwise_reverse.mpr (hstrict.imp fun {a b} hlt => ?_), fun d => ?_⟩
      · rw [hlt]
        decide
      · rw [if_pos rfl, filter_reverse_of_falls hstrict, ← List.filter_append, List.cons_append,
          hjoin]
    | false =>
      rw [hfalls] at hrun hjoin
      refine ⟨hrun.imp fun {a b} hlt => ne_gt_of_not_lt (beq_eq_false_iff_ne.mp hlt), fun d => ?_⟩
      rw [if_neg Bool.false_ne_true, ← List.filter_append, List.cons_append, hjoin]

/-- Among ordered items the place that halving finds is behind what the item is not less than. -/
theorem insert_ordered {x : α} {xs : List α} (h : Follows lt cmp (x :: xs))
    (hsorted : xs.Pairwise fun a b => cmp a b ≠ .gt) :
    ∃ before after, xs = before ++ after ∧ insert lt x xs = before ++ x :: after ∧
      (∀ b ∈ before, cmp x b ≠ .lt) ∧ ∀ c ∈ after, cmp x c = .lt := by
  fun_induction insert lt x xs with
  | case1 xs hdrop => exact ⟨[], [], eq_nil_of_drop_half hdrop, rfl, by simp, by simp⟩
  | case2 xs y after hdrop hlt ih =>
    have hy : y ∈ xs := List.mem_of_mem_drop (hdrop ▸ List.mem_cons_self)
    have hxy : cmp x y = .lt := (h.head_lt_iff hy).mp hlt
    have hparts := hsorted
    rw [eq_of_drop_half hdrop, List.pairwise_append, List.pairwise_cons] at hparts
    obtain ⟨front, back, htake, hin, hfront, hback⟩ :=
      ih (h.cons_mono fun _ => List.mem_of_mem_take) hparts.1
    refine ⟨front, back ++ y :: after, ?_, ?_, hfront, fun c hc => ?_⟩
    · rw [← List.append_assoc, ← htake]
      exact eq_of_drop_half hdrop
    · rw [hin, List.append_assoc, List.cons_append]
    · rcases List.mem_append.mp hc with hc | hc
      · exact hback c hc
      · rcases List.mem_cons.mp hc with rfl | hc
        · exact hxy
        · exact lt_of_lt_of_ne_gt hxy (hparts.2.1.1 c hc)
  | case3 xs y after hdrop hlt ih =>
    have hafter : ∀ a ∈ y :: after, a ∈ xs := fun a ha => List.mem_of_mem_drop (hdrop ▸ ha)
    have hxy : cmp x y ≠ .lt := fun hxy =>
      hlt ((h.head_lt_iff (hafter y List.mem_cons_self)).mpr hxy)
    have hparts := hsorted
    rw [eq_of_drop_half hdrop, List.pairwise_append, List.pairwise_cons] at hparts
    obtain ⟨front, back, hsplit, hin, hfront, hback⟩ :=
      ih (h.cons_mono fun a ha => hafter a (List.mem_cons_of_mem _ ha)) hparts.2.1.2
    refine ⟨xs.take (xs.length / 2) ++ y :: front, back, ?_, ?_, fun b hb => ?_, hback⟩
    · rw [List.append_assoc, List.cons_append, ← hsplit]
      exact eq_of_drop_half hdrop
    · rw [hin, List.append_assoc, List.cons_append]
    · rcases List.mem_append.mp hb with hb | hb
      · intro hxb
        exact hxy (lt_of_lt_of_ne_gt hxb (hparts.2.2 b hb y List.mem_cons_self))
      · rcases List.mem_cons.mp hb with rfl | hb
        · exact hxy
        · exact hfront b hb

/-- Ordered items stay ordered, and the new one comes last of its place. -/
theorem insert_keeps {x : α} {xs : List α} (h : Follows lt cmp (x :: xs))
    (hsorted : xs.Pairwise fun a b => cmp a b ≠ .gt) :
    ((insert lt x xs).Pairwise fun a b => cmp a b ≠ .gt) ∧
    ∀ d, (insert lt x xs).filter (cmp d · == .eq) = (xs ++ [x]).filter (cmp d · == .eq) := by
  obtain ⟨before, after, rfl, hin, hbefore, hafter⟩ := insert_ordered h hsorted
  obtain ⟨hsorted₁, hsorted₂, hcross⟩ := List.pairwise_append.mp hsorted
  rw [hin]
  constructor
  · refine List.pairwise_append.mpr ⟨hsorted₁, List.pairwise_cons.mpr ⟨fun c hc => ?_, hsorted₂⟩,
      fun b hb c hc => ?_⟩
    · rw [hafter c hc]
      decide
    · rcases List.mem_cons.mp hc with rfl | hc
      · exact ne_gt_of_not_lt (hbefore b hb)
      · exact hcross b hb c hc
  · intro d
    rw [List.append_assoc, List.filter_append, List.filter_append, List.filter_append,
      List.filter_cons]
    split
    · rename_i hd
      have hnone : after.filter (cmp d · == .eq) = [] := by
        refine List.filter_eq_nil_iff.mpr fun c hc heq => ?_
        have hlt : cmp d c = .lt := Std.TransCmp.lt_of_eq_of_lt (beq_iff_eq.mp hd) (hafter c hc)
        rw [hlt] at heq
        cases heq
      have hx : [x].filter (cmp d · == .eq) = [x] := by simpa using hd
      rw [hnone, hx]
      rfl
    · rename_i hd
      have hx : [x].filter (cmp d · == .eq) = [] := by simpa using hd
      rw [hx, List.append_nil]

theorem foldl_insert_keeps {xs sorted : List α} (h : Follows lt cmp (sorted ++ xs))
    (hsorted : sorted.Pairwise fun a b => cmp a b ≠ .gt) :
    ((xs.foldl (fun sorted x => insert lt x sorted) sorted).Pairwise fun a b => cmp a b ≠ .gt) ∧
    ∀ d, (xs.foldl (fun sorted x => insert lt x sorted) sorted).filter (cmp d · == .eq) =
      (sorted ++ xs).filter (cmp d · == .eq) := by
  induction xs generalizing sorted with
  | nil =>
    rw [List.foldl_nil, List.append_nil]
    exact ⟨hsorted, fun _ => rfl⟩
  | cons x rest ih =>
    have hone := insert_keeps (h.mono fun a ha => by
      rcases List.mem_cons.mp ha with rfl | ha
      · exact List.mem_append_right _ List.mem_cons_self
      · exact List.mem_append_left _ ha) hsorted
    have hmem : ∀ a ∈ insert lt x sorted ++ rest, a ∈ sorted ++ x :: rest := by
      intro a ha
      have hperm := (insert_perm lt x sorted).append_right rest
      rw [List.append_assoc, List.singleton_append] at hperm
      exact hperm.mem_iff.mp ha
    obtain ⟨hpairwise, hfilter⟩ := ih (h.mono hmem) hone.1
    refine ⟨hpairwise, fun d => ?_⟩
    rw [List.foldl_cons, hfilter, List.filter_append, hone.2, ← List.filter_append,
      List.append_assoc, List.singleton_append]

/-- Where an order answers what it asks, the sort by runs is the stable sort by this order. -/
theorem sort_eq_mergeSort {xs : List α} (h : Follows lt cmp xs) :
    sort lt xs = xs.mergeSort fun a b => (cmp a b).isLE := by
  have trans : ∀ a b c, (cmp a b).isLE = true → (cmp b c).isLE = true → (cmp a c).isLE = true :=
    fun a b c => Std.TransCmp.isLE_trans
  have total : ∀ a b, ((cmp a b).isLE || (cmp b a).isLE) = true := by
    intro a b
    have hswap : cmp b a = (cmp a b).swap := Std.OrientedCmp.eq_swap
    rw [hswap]
    cases cmp a b <;> rfl
  obtain ⟨run, hrun, hfirst⟩ := firstRun_eq lt xs
  have hmem : ∀ a ∈ (firstRun lt xs).1 ++ (firstRun lt xs).2, a ∈ xs := by
    intro a ha
    rw [← hrun, List.mem_append]
    rcases List.mem_append.mp ha with ha | ha
    · rcases hfirst with he | he
      · exact .inl (he ▸ ha)
      · exact .inl (List.mem_reverse.mp (he ▸ ha))
    · exact .inr ha
  obtain ⟨hordered, hplaces⟩ := firstRun_ordered h
  obtain ⟨hpairwise, hfilter⟩ := foldl_insert_keeps (h.mono hmem) hordered
  refine eq_of_pairwise_of_filter cmp hpairwise ?_ fun d => ?_
  · refine (List.pairwise_mergeSort trans total xs).imp fun {a b} hle => ?_
    exact Ordering.isLE_iff_ne_gt.mp hle
  · rw [filter_mergeSort trans total, ← hplaces d, ← List.filter_append]
    · exact hfilter d
    · intro a b ha hb
      have hab : cmp a b = .eq :=
        Std.TransCmp.eq_trans (Std.OrientedCmp.eq_symm (beq_iff_eq.mp ha)) (beq_iff_eq.mp hb)
      rw [hab]
      rfl

end

end RunSort
end DocSite
