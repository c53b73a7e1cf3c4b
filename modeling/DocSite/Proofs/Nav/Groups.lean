import DocSite.Proofs.Nav.Parts
import Mathlib.Data.List.Basic

/-! The groups of a tree as a list: each group stands before those under it, and these stand in the
order in which they were made. Putting an item into a tree adds it to what the groups hold, behind
what its group holds already. -/
namespace DocSite.NavGroup
set_option autoImplicit false

mutual

/-- A group with its level and all the groups under it with theirs. -/
def groupsFrom (level : Int) : NavGroup → List (Int × NavGroup)
  | g@⟨_, children, _, _⟩ => (level, g) :: groupsUnder (level + 1) children

def groupsUnder (level : Int) : List (String × NavGroup) → List (Int × NavGroup)
  | [] => []
  | (_, g) :: rest => groupsFrom level g ++ groupsUnder level rest

end

/-- The groups of a tree, the root included. -/
def groups (g : NavGroup) : List NavGroup := (g.groupsFrom 0).map (·.2)

section
variable {g : NavGroup} {level : Int} {key : String} {children : List (String × NavGroup)}

theorem groupsFrom_eq (level : Int) (g : NavGroup) :
    g.groupsFrom level = (level, g) :: groupsUnder (level + 1) g.children := by
  cases g
  rw [groupsFrom]

theorem groupsUnder_eq_flatMap (level : Int) (children : List (String × NavGroup)) :
    groupsUnder level children = children.flatMap (·.2.groupsFrom level) := by
  induction children with
  | nil => rfl
  | cons child rest ih => rw [groupsUnder, ih, List.flatMap_cons]

/-- Induction over the groups of a tree: what holds of a group once it holds of those under it. -/
theorem induct_children {P : NavGroup → Prop} (h : ∀ g, (∀ c ∈ g.children, P c.2) → P g)
    (g : NavGroup) : P g :=
  h g fun c hc => by
    have hchild : sizeOf c < sizeOf g.children := List.sizeOf_lt_of_mem hc
    exact induct_children h c.2
termination_by sizeOf g
decreasing_by
  obtain ⟨key, child⟩ := c
  cases g
  simp only [mk.sizeOf_spec, Prod.mk.sizeOf_spec] at hchild ⊢
  omega

end

end DocSite.NavGroup
