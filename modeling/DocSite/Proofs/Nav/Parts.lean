import DocSite.Nav.Tree

/-! What holds of every part of a navigation tree: of the heading and the class of each group, and
of the link and the doclet of each item, wherever they stand. Putting an item into a tree keeps
it. -/
namespace DocSite.NavGroup
set_option autoImplicit false

section
variable (G : String → Option String → Prop) (I : Html → Option Doclet → Prop)

mutual

/-- `G` holds of every group in a tree and `I` of every item. -/
def Each : NavGroup → Prop
  | ⟨title, children, items, css⟩ => G title css ∧ EachChild children ∧ EachItem items

def EachChild : List (String × NavGroup) → Prop
  | [] => True
  | (_, g) :: rest => Each g ∧ EachChild rest

def EachItem : List NavItem → Prop
  | [] => True
  | ⟨link, doclet, details⟩ :: rest => I link doclet ∧ EachDetail details ∧ EachItem rest

def EachDetail : List NavGroup → Prop
  | [] => True
  | g :: rest => Each g ∧ EachDetail rest

end

end

section
variable {G : String → Option String → Prop} {I : Html → Option Doclet → Prop}

theorem eachItem_append {xs ys : List NavItem} (hx : EachItem G I xs) (hy : EachItem G I ys) :
    EachItem G I (xs ++ ys) := by
  induction xs with
  | nil => exact hy
  | cons x rest ih =>
    obtain ⟨link, doclet, details⟩ := x
    rw [EachItem] at hx
    rw [List.cons_append, EachItem]
    exact ⟨hx.1, hx.2.1, ih hx.2.2⟩

theorem eachDetail_append {xs ys : List NavGroup} (hx : EachDetail G I xs)
    (hy : EachDetail G I ys) : EachDetail G I (xs ++ ys) := by
  induction xs with
  | nil => exact hy
  | cons g rest ih =>
    rw [EachDetail] at hx
    rw [List.cons_append, EachDetail]
    exact ⟨hx.1, ih hx.2⟩

theorem eachItem_map {link : Doclet → Html} {ds : List Doclet}
    (h : ∀ d ∈ ds, I (link d) (some d)) :
    EachItem G I (ds.map fun d => { link := link d, doclet := some d }) := by
  induction ds with
  | nil => trivial
  | cons d rest ih =>
    obtain ⟨hx, hrest⟩ := List.forall_mem_cons.mp h
    rw [List.map_cons, EachItem]
    exact ⟨hx, trivial, ih hrest⟩

theorem EachChild.lookup {key : String} {g : NavGroup} {children : List (String × NavGroup)}
    (h : EachChild G I children) (hg : children.lookup key = some g) : g.Each G I := by
  induction children with
  | nil => cases hg
  | cons child rest ih =>
    obtain ⟨k, first⟩ := child
    rw [EachChild] at h
    rw [List.lookup_cons] at hg
    split at hg
    · rw [← Option.some.inj hg]
      exact h.1
    · exact ih h.2 hg

theorem EachChild.put {key : String} {g : NavGroup} {children : List (String × NavGroup)}
    (h : EachChild G I children) (hg : g.Each G I) :
    EachChild G I (Table.put key g children) := by
  induction children with
  | nil =>
    rw [Table.put, EachChild]
    exact ⟨hg, h⟩
  | cons child rest ih =>
    obtain ⟨k, first⟩ := child
    rw [EachChild] at h
    rw [Table.put]
    split
    · rw [EachChild]
      exact ⟨hg, h.2⟩
    · rw [EachChild]
      exact ⟨h.1, ih h.2⟩

/-- The prefixes that the groups on a path are headed by, after a first part. -/
def slugsFrom (slug : String) : List String → List String
  | [] => []
  | segment :: rest => extend slug segment :: slugsFrom (extend slug segment) rest

/-- An item is put somewhere in a tree; the groups that this makes are headed by prefixes of its
path. -/
theorem Each.insertFrom {slug : String} {item : NavItem} {path : List String} {g : NavGroup}
    (h : g.Each G I) (hitem : EachItem G I [item])
    (hslugs : ∀ title ∈ slugsFrom slug path, G title none) :
    (insertFrom slug item path g).Each G I := by
  induction path generalizing slug g with
  | nil =>
    obtain ⟨title, children, items, css⟩ := g
    rw [Each] at h
    rw [NavGroup.insertFrom, Each]
    exact ⟨h.1, h.2.1, eachItem_append h.2.2 hitem⟩
  | cons segment rest ih =>
    obtain ⟨title, children, items, css⟩ := g
    rw [Each] at h
    obtain ⟨hslug, hrest⟩ := List.forall_mem_cons.mp hslugs
    have hchild : ((children.lookup (extend slug segment)).getD
        { heading := extend slug segment }).Each G I := by
      cases hg : children.lookup (extend slug segment) with
      | none => exact ⟨hslug, trivial, trivial⟩
      | some child => exact h.2.1.lookup hg
    rw [NavGroup.insertFrom, Each]
    exact ⟨h.1, h.2.1.put (ih hchild hrest), h.2.2⟩

end

end DocSite.NavGroup
