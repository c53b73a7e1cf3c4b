import DocSite.Proofs.Doclet.Sorted

/-! Sorting by several fields, one pass for each, is one stable sort. A list that is ordered, and in
which doclets with the same keys keep the order that they had, is determined by these two facts; so
the passes give what a single sort by all keys together gives, the first field most significant. -/
namespace DocSite
set_option autoImplicit false

/-! ## One order from the fields -/

namespace SortKey

/-- The kinds of keys in the order in which they come. -/
def kind : SortKey → ℕ
  | missing => 0
  | number _ => 1
  | text _ => 2

theorem order_of_kind_lt {x y : SortKey} (h : x.kind < y.kind) : order x y = .lt := by
  cases x <;> cases y <;> first | rfl | simp [kind] at h

theorem order_of_kind_gt {x y : SortKey} (h : y.kind < x.kind) : order x y = .gt := by
  cases x <;> cases y <;> first | rfl | simp [kind] at h

end SortKey

namespace OrderField

/-- Missing values come first, then numbers, then texts, and the other way round in a descending
field. -/
theorem order_of_kind_lt {f : OrderField} {a b : Doclet} (h : (f.key a).kind < (f.key b).kind) :
    f.order a b = if f.descending then .gt else .lt := by
  unfold order
  rw [SortKey.order_of_kind_lt h, SortKey.order_of_kind_gt h]

end OrderField

/-- How two doclets compare in several fields, the first one most significant. -/
def lexOrder : List OrderField → Doclet → Doclet → Ordering
  | [], _, _ => .eq
  | f :: rest, a, b => (f.order a b).then (lexOrder rest a b)

instance lexOrder_transCmp (fields : List OrderField) : Std.TransCmp (lexOrder fields) := by
  induction fields with
  | nil => exact { eq_swap := rfl, isLE_trans := fun _ _ => rfl }
  | cons f rest ih => exact inferInstanceAs (Std.TransCmp (compareLex f.order (lexOrder rest)))

theorem lexOrder_eq_eq_iff {fields : List OrderField} {a b : Doclet} :
    lexOrder fields a b = .eq ↔ ∀ f ∈ fields, f.order a b = .eq := by
  induction fields with
  | nil => simp [lexOrder]
  | cons f rest ih => simp [lexOrder, Ordering.then_eq_eq, ih]

/-! ## The passes together -/

section
variable {fields : List OrderField} {ds : List Doclet}

theorem MayPrecede.lexOrder_ne_gt {a b : Doclet} (h : MayPrecede fields a b) :
    lexOrder fields a b ≠ .gt := by
  induction fields with
  | nil => simp [lexOrder]
  | cons f rest ih =>
    obtain ⟨hle, hrest⟩ := h
    have hswap : f.order b a = (f.order a b).swap := Std.OrientedCmp.eq_swap
    rw [OrderField.le] at hle hrest
    rw [hswap] at hrest
    rw [lexOrder]
    cases hf : f.order a b with
    | lt => simp
    | eq => exact ih (hrest (by rw [hf]; rfl))
    | gt =>
      rw [hf] at hle
      cases hle

theorem pairwise_lexOrder (h : Comparable fields ds) :
    (orderBy fields ds).Pairwise fun a b => lexOrder fields a b ≠ .gt :=
  (pairwise_orderBy h).imp MayPrecede.lexOrder_ne_gt

/-- Doclets with the same keys keep their order through all passes. -/
theorem filter_orderBy (h : Comparable fields ds) (d : Doclet) :
    (orderBy fields ds).filter (lexOrder fields d · == .eq) =
      ds.filter (lexOrder fields d · == .eq) := by
  have hpass : ∀ (p : Doclet → Bool) (passes : List OrderField), Comparable passes ds →
      (∀ f ∈ passes, ∀ a b, p a = true → p b = true → f.le a b = true) →
        (orderBy passes ds).filter p = ds.filter p := by
    intro p passes hc h
    induction passes with
    | nil => rfl
    | cons f rest ih =>
      rw [orderBy_cons hc, filter_mergeSort f.le_trans f.le_total (h f List.mem_cons_self)]
      exact ih (fun g hg => hc g (List.mem_cons_of_mem f hg))
        fun g hg => h g (List.mem_cons_of_mem f hg)
  refine hpass _ fields h fun f hf a b ha hb => ?_
  have ha : f.order d a = .eq := lexOrder_eq_eq_iff.mp (beq_iff_eq.mp ha) f hf
  have hb : f.order d b = .eq := lexOrder_eq_eq_iff.mp (beq_iff_eq.mp hb) f hf
  have hab : f.order a b = .eq := Std.TransCmp.eq_trans (Std.OrientedCmp.eq_symm ha) hb
  rw [OrderField.le, hab]
  rfl

/-- One pass for each field is one stable sort by all of them. -/
theorem orderBy_eq_mergeSort (h : Comparable fields ds) :
    orderBy fields ds = ds.mergeSort fun a b => (lexOrder fields a b).isLE := by
  have trans : ∀ a b c, (lexOrder fields a b).isLE = true → (lexOrder fields b c).isLE = true →
      (lexOrder fields a c).isLE = true := fun a b c => Std.TransCmp.isLE_trans
  have total : ∀ a b, ((lexOrder fields a b).isLE || (lexOrder fields b a).isLE) = true := by
    intro a b
    have hswap : lexOrder fields b a = (lexOrder fields a b).swap := Std.OrientedCmp.eq_swap
    rw [hswap]
    cases lexOrder fields a b <;> rfl
  refine eq_of_pairwise_of_filter (lexOrder fields) (pairwise_lexOrder h) ?_ fun d => ?_
  · refine (List.pairwise_mergeSort trans total ds).imp fun {a b} h => ?_
    intro hgt
    rw [hgt] at h
    cases h
  · rw [filter_orderBy h, filter_mergeSort trans total]
    intro a b ha hb
    have hab : lexOrder fields a b = .eq :=
      Std.TransCmp.eq_trans (Std.OrientedCmp.eq_symm (beq_iff_eq.mp ha)) (beq_iff_eq.mp hb)
    rw [hab]
    rfl

end

/-- Sorting by an order moves doclets and nothing else. Unless a number without value stands beside
another number in one of the fields, it is one stable sort by all fields. The result is ordered by
them, the first one most significant, each field with missing values before numbers and those before
texts unless it is descending; doclets with the same keys keep their order. So sorting again changes
nothing, and doclets whose keys differ are sorted in one way, whatever order they come in. -/
theorem orderByText_sorts_stably (spec : String) (ds : List Doclet) :
    (orderByText spec ds).Perm ds ∧
    (Comparable (OrderField.listOfString spec) ds →
      (orderByText spec ds = ds.mergeSort fun a b =>
        (lexOrder (OrderField.listOfString spec) a b).isLE) ∧
      ((orderByText spec ds).Pairwise fun a b =>
        lexOrder (OrderField.listOfString spec) a b ≠ .gt) ∧
      (∀ f ∈ OrderField.listOfString spec, ∀ a b, (f.key a).kind < (f.key b).kind →
        f.order a b = if f.descending then .gt else .lt) ∧
      (∀ d, (orderByText spec ds).filter (lexOrder (OrderField.listOfString spec) d · == .eq) =
        ds.filter (lexOrder (OrderField.listOfString spec) d · == .eq)) ∧
      orderByText spec (orderByText spec ds) = orderByText spec ds ∧
      ∀ es : List Doclet, ds.Perm es →
        (ds.Pairwise fun a b => lexOrder (OrderField.listOfString spec) a b ≠ .eq) →
        orderByText spec es = orderByText spec ds) := by
  refine ⟨orderBy_perm _ ds, fun h => ⟨orderBy_eq_mergeSort h, pairwise_lexOrder h,
    fun f _ a b hkind => OrderField.order_of_kind_lt hkind, filter_orderBy h, ?_,
    fun es hperm hapart => ?_⟩⟩
  · have hagain := h.perm (orderBy_perm (OrderField.listOfString spec) ds).symm
    exact eq_of_pairwise_of_filter _ (pairwise_lexOrder hagain) (pairwise_lexOrder h)
      (filter_orderBy hagain)
  · refine (orderBy_eq_of_perm hperm h (hapart.imp fun {a b} hne => ?_)).symm
    by_contra hsame
    refine hne (lexOrder_eq_eq_iff.mpr fun f hf => ?_)
    by_contra hf'
    exact hsame ⟨f, hf, OrderField.tells_iff.mpr hf'⟩

/-- A text, a number and a missing value to sort by under one name. -/
def mixedKinds : List Doclet :=
  [{ name := "a", deprecated := .text "old" }, { name := "a", deprecated := .int 2 },
    { name := "a" }]

theorem mixedKinds_sorted :
    orderByText "name, deprecated DESC" mixedKinds.reverse = mixedKinds := by
  have hfields : OrderField.listOfString "name, deprecated DESC" =
      [⟨"name", false⟩, ⟨"deprecated", true⟩] := by decide
  obtain ⟨-, -, -, -, -, hsame⟩ :=
    (orderByText_sorts_stably "name, deprecated DESC" mixedKinds).2 (by rw [hfields]; decide)
  rw [hsame mixedKinds.reverse mixedKinds.reverse_perm.symm (by rw [hfields]; decide), orderByText,
    hfields]
  exact orderBy_of_pairwise (by decide)

/-- The numbers two and one with a number without value between them. -/
def valueless : List Doclet :=
  [{ name := "a", deprecated := .int 2 }, { name := "b", deprecated := .real .undefined },
    { name := "c", deprecated := .int 1 }]

/-- A number without value keeps others from being sorted: the two before one stays where it is. So
the same doclets in another order, though no two have the same key, are left in that other order. -/
theorem valueless_unsorted :
    orderByText "deprecated" valueless = valueless ∧
    (¬ valueless.Pairwise fun a b => (b.field "deprecated").sortKey.lt
      (a.field "deprecated").sortKey = false) ∧
    (valueless.Pairwise fun a b => (a.field "deprecated").sortKey ≠
      (b.field "deprecated").sortKey) ∧
    orderByText "deprecated" valueless.reverse ≠ orderByText "deprecated" valueless := by
  have hfields : OrderField.listOfString "deprecated" = [⟨"deprecated", false⟩] := by decide
  have hkeep : orderByText "deprecated" valueless = valueless := by
    rw [orderByText, hfields]
    rfl
  have hturned : orderByText "deprecated" valueless.reverse = valueless.reverse := by
    rw [orderByText, hfields]
    rfl
  refine ⟨hkeep, by decide, by decide, ?_⟩
  rw [hkeep, hturned]
  intro h
  have hname := congrArg (fun ds : List Doclet => ds.map Doclet.name) h
  revert hname
  decide

end DocSite
