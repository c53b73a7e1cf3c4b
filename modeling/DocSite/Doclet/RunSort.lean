/-! A stable sort that only asks whether one item is less than another one. The longest run at the
front is taken as it is, turned round if it falls; every further item is put behind those that it is
not less than, where halving looks. A question that has no good answer, such as one about a number
without value, leaves items where the questions happen to put them. -/
namespace DocSite.RunSort
set_option autoImplicit false

variable {α : Type} (lt : α → α → Bool)

/-- The items that go on falling from the last one, or go on without falling, and the rest. -/
def runOn (falls : Bool) (last : α) : List α → List α × List α
  | [] => ([], [])
  | x :: rest =>
    if lt x last == falls then
      let (run, left) := runOn falls x rest
      (x :: run, left)
    else ([], x :: rest)

/-- The longest run at the front in rising order, and the rest. -/
def firstRun : List α → List α × List α
  | x :: y :: rest =>
    let falls := lt y x
    let (run, left) := runOn lt falls x (y :: rest)
    (if falls then (x :: run).reverse else x :: run, left)
  | xs => (xs, [])

/-- An item put in its place, where halving looks for it. -/
def insert (x : α) (xs : List α) : List α :=
  match _ : xs.drop (xs.length / 2) with
  | [] => [x]
  | y :: after =>
    if lt x y then insert x (xs.take (xs.length / 2)) ++ y :: after
    else xs.take (xs.length / 2) ++ y :: insert x after
termination_by xs.length
decreasing_by
  all_goals
    rename_i hafter _
    have hlength := congrArg List.length hafter
    simp only [List.length_drop, List.length_cons, List.length_take] at hlength ⊢
    omega

/-- Items sorted: the run at the front, and the others put in their places one by one. -/
def sort (xs : List α) : List α :=
  let (run, rest) := firstRun lt xs
  rest.foldl (fun sorted x => insert lt x sorted) run

end DocSite.RunSort
