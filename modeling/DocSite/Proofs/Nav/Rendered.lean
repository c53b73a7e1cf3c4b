import DocSite.Nav.Menu
import DocSite.Proofs.Link.Tags
import DocSite.Proofs.Nav.Groups
import DocSite.Proofs.Nav.Nested

/-! What a rendered tree shows. It is a row of blocks: the items of its groups, group by group, and
around them the headings and the lists of those groups that are shown as such. Whether empty groups
are skipped decides which headings and lists there are, and nothing about the items. -/
namespace DocSite
set_option autoImplicit false

/-! ## Blocks -/

namespace Html

section
variable {α β : Type}

theorem each_append (f : α → Html) (xs ys : List α) :
    each (xs ++ ys) f = each xs f ++ each ys f := by
  rw [each, List.map_append, concat_append, each, each]

theorem each_map (f : β → Html) (g : α → β) (xs : List α) :
    each (xs.map g) f = each xs (f ∘ g) := by
  rw [each, each, List.map_map]

theorem each_congr {f g : α → Html} {xs : List α} (h : ∀ x ∈ xs, f x = g x) :
    each xs f = each xs g :=
  congrArg concat (List.map_congr_left h)

theorem each_flatMap (f : β → Html) (g : α → List β) (xs : List α) :
    each (xs.flatMap g) f = each xs fun x => each (g x) f := by
  induction xs with
  | nil => rfl
  | cons x rest ih =>
    rw [List.flatMap_cons, each_append, ih]
    rfl

theorem markup_each_eq_empty_iff {f : α → Html} {xs : List α} :
    (each xs f).markup = "" ↔ ∀ x ∈ xs, (f x).markup = "" := by
  induction xs with
  | nil => exact iff_of_true rfl fun _ h => absurd h List.not_mem_nil
  | cons x rest ih =>
    rw [List.forall_mem_cons, ← ih, ← String.append_eq_empty_iff]
    rfl

end

end Html

namespace NavGroup

/-- The items of the groups of a tree, each with the level of its group. -/
def placedItems (level : Int) (g : NavGroup) : List (Int × NavItem) :=
  (g.groupsFrom level).flatMap fun p => p.2.items.map (p.1, ·)

theorem placedItems_eq (level : Int) (g : NavGroup) : g.placedItems level =
    g.items.map (level, ·) ++ g.children.flatMap (·.2.placedItems (level + 1)) := by
  rw [placedItems, groupsFrom_eq, List.flatMap_cons, groupsUnder_eq_flatMap, List.flatMap_assoc]
  rfl

end NavGroup

namespace Menu

/-- A block of a rendered tree: a part of the frame of a group, or an item. -/
inductive Block where
  | heading (level : Int) (title : String)
  | opening (level : Int) (css : Option String)
  | closing (level : Int)
  | item (level : Int) (item : NavItem)

namespace Block

def item? : Block → Option (Int × NavItem)
  | item level i => some (level, i)
  | _ => none

def listTag (css : Option String) : Html :=
  .raw "<ul" ++ (match css.filter (· != "") with
    | some c => Html.attr "class" (.text c)
    | none => .empty) ++ .raw ">"

def entryTag (doclet : Option Doclet) : Html :=
  .raw "<li" ++ (doclet.map dataAttributes).getD .empty ++ .raw ">"

/-- The lines of an item: its link and the lists of its members, one level below its entry. -/
def itemLines (skipEmpty : Bool) (level : Int) (i : NavItem) : Html :=
  line (level + 1) (entryTag i.doclet) ++ line (level + 2) i.link ++
    Html.each i.details (render skipEmpty (level + 2)) ++ line (level + 1) (.raw "</li>")

def markup (skipEmpty : Bool) : Block → Html
  | heading level title => Menu.heading level title
  | opening level css => line level (listTag css)
  | closing level => line level (.raw "</ul>")
  | item level i => itemLines skipEmpty level i

end Block

/-- Blocks in the frame of a group. There is none around nothing, and none for a group without items
of its own when such groups are skipped. -/
def framed (level : Int) (skipEmpty : Bool) (title : String) (css : Option String)
    (hasItems : Bool) (body : List Block) : List Block :=
  if body.isEmpty then []
  else if !hasItems && skipEmpty then body
  else .heading level title :: .opening level css :: body ++ [.closing level]

mutual

def blocks (skipEmpty : Bool) (level : Int) : NavGroup → List Block
  | ⟨title, children, items, css⟩ =>
    framed level skipEmpty title css (!items.isEmpty)
      (items.map (.item level) ++ blocksUnder skipEmpty (level + 1) children)

def blocksUnder (skipEmpty : Bool) (level : Int) : List (String × NavGroup) → List Block
  | [] => []
  | (_, g) :: rest => blocks skipEmpty level g ++ blocksUnder skipEmpty level rest

end

section
variable {skipEmpty : Bool} {level : Int} {g : NavGroup}

theorem blocksUnder_eq_flatMap (skipEmpty : Bool) (level : Int)
    (children : List (String × NavGroup)) : blocksUnder skipEmpty level children =
      children.flatMap (blocks skipEmpty level ·.2) := by
  induction children with
  | nil => rfl
  | cons child rest ih => rw [blocksUnder, ih, List.flatMap_cons]

theorem blocks_eq (skipEmpty : Bool) (level : Int) (g : NavGroup) : blocks skipEmpty level g =
    framed level skipEmpty g.heading g.css (!g.items.isEmpty)
      (g.items.map (.item level) ++ g.children.flatMap (blocks skipEmpty (level + 1) ·.2)) := by
  cases g
  rw [blocks, blocksUnder_eq_flatMap]

theorem renderDetails_eq_each (skipEmpty : Bool) (level : Int) (details : List NavGroup) :
    renderDetails skipEmpty level details = Html.each details (render skipEmpty level) := by
  induction details with
  | nil => rfl
  | cons g rest ih =>
    rw [renderDetails, ih]
    rfl

theorem renderItems_eq_each (skipEmpty : Bool) (level : Int) (items : List NavItem) :
    renderItems skipEmpty level items = Html.each items (Block.itemLines skipEmpty level) := by
  induction items with
  | nil => rfl
  | cons i rest ih =>
    obtain ⟨link, doclet, details⟩ := i
    rw [renderItems, renderDetails_eq_each, ih]
    rfl

theorem renderChildren_eq_each (skipEmpty : Bool) (level : Int)
    (children : List (String × NavGroup)) : renderChildren skipEmpty level children =
      Html.each children (render skipEmpty level ·.2) := by
  induction children with
  | nil => rfl
  | cons child rest ih =>
    rw [renderChildren, ih]
    rfl

theorem render_eq (skipEmpty : Bool) (level : Int) (g : NavGroup) : render skipEmpty level g =
    frame level skipEmpty g.heading g.css (!g.items.isEmpty)
      (Html.each g.items (Block.itemLines skipEmpty level) ++
        Html.each g.children (render skipEmpty (level + 1) ·.2)) := by
  cases g
  rw [render, renderItems_eq_each, renderChildren_eq_each]

/-! ## Nothing to show -/

theorem markup_line_ne_empty (level : Int) (h : Html) : (line level h).markup ≠ "" := by
  intro he
  obtain ⟨-, hend⟩ := String.append_eq_empty_iff.mp he
  exact absurd hend (by decide)

theorem markup_item_ne_empty (i : NavItem) :
    (Block.itemLines skipEmpty level i).markup ≠ "" := by
  intro he
  rw [Block.itemLines, Html.markup_append] at he
  exact markup_line_ne_empty _ _ (String.append_eq_empty_iff.mp he).2

theorem markup_frame_eq_empty_iff {title : String} {css : Option String} {hasItems : Bool}
    {body : Html} : (frame level skipEmpty title css hasItems body).markup = "" ↔
      body.markup = "" := by
  unfold frame
  split
  · rename_i hempty
    exact iff_of_true rfl (beq_iff_eq.mp hempty)
  · rename_i hempty
    split
    · rfl
    · refine iff_of_false (fun he => ?_) fun he => hempty (beq_iff_eq.mpr he)
      exact markup_line_ne_empty _ _ (String.append_eq_empty_iff.mp he).2

theorem framed_eq_nil_iff {title : String} {css : Option String} {hasItems : Bool}
    {body : List Block} : framed level skipEmpty title css hasItems body = [] ↔ body = [] := by
  unfold framed
  split
  · rename_i hempty
    exact iff_of_true rfl (List.isEmpty_iff.mp hempty)
  · rename_i hempty
    split
    · rfl
    · exact iff_of_false (List.cons_ne_nil _ _) fun he => hempty (List.isEmpty_iff.mpr he)

theorem markup_render_eq_empty_iff :
    (render skipEmpty level g).markup = "" ↔ g.placedItems level = [] := by
  induction g using NavGroup.induct_children generalizing level with
  | h g ih =>
    rw [render_eq, markup_frame_eq_empty_iff, Html.markup_append, String.append_eq_empty_iff,
      Html.markup_each_eq_empty_iff, Html.markup_each_eq_empty_iff, NavGroup.placedItems_eq,
      List.append_eq_nil_iff, List.flatMap_eq_nil_iff, List.map_eq_nil_iff]
    refine and_congr ⟨fun h => ?_, fun h => ?_⟩ (forall₂_congr fun c hc => ih c hc)
    · exact List.eq_nil_iff_forall_not_mem.mpr fun i hi => markup_item_ne_empty i (h i hi)
    · rw [h]
      exact fun _ hi => absurd hi List.not_mem_nil

theorem blocks_eq_nil_iff : blocks skipEmpty level g = [] ↔ g.placedItems level = [] := by
  induction g using NavGroup.induct_children generalizing level with
  | h g ih =>
    rw [blocks_eq, framed_eq_nil_iff, NavGroup.placedItems_eq, List.append_eq_nil_iff,
      List.append_eq_nil_iff, List.flatMap_eq_nil_iff, List.flatMap_eq_nil_iff,
      List.map_eq_nil_iff, List.map_eq_nil_iff]
    exact and_congr_right fun _ => forall₂_congr fun c hc => ih c hc

/-! ## Rendering by blocks -/

theorem each_framed {title : String} {css : Option String} {hasItems : Bool} {body : List Block}
    (h : (Html.each body (Block.markup skipEmpty)).isEmpty = body.isEmpty) :
    Html.each (framed level skipEmpty title css hasItems body) (Block.markup skipEmpty) =
      frame level skipEmpty title css hasItems (Html.each body (Block.markup skipEmpty)) := by
  unfold framed frame
  rw [h]
  split
  · rfl
  · split
    · rfl
    · have hcons : ∀ (b : Block) (bs : List Block), Html.each (b :: bs) (Block.markup skipEmpty) =
          b.markup skipEmpty ++ Html.each bs (Block.markup skipEmpty) := fun _ _ => rfl
      rw [List.cons_append, List.cons_append, hcons, hcons, Html.each_append, hcons,
        ← Html.append_assoc, ← Html.append_assoc]
      exact congrArg _ (Html.append_empty _)

theorem render_eq_each_blocks :
    render skipEmpty level g = Html.each (blocks skipEmpty level g) (Block.markup skipEmpty) := by
  induction g using NavGroup.induct_children generalizing level with
  | h g ih =>
    have hbody : Html.each g.items (Block.itemLines skipEmpty level) ++
        Html.each g.children (render skipEmpty (level + 1) ·.2) =
          Html.each (g.items.map (.item level) ++
            g.children.flatMap (blocks skipEmpty (level + 1) ·.2)) (Block.markup skipEmpty) := by
      rw [Html.each_append, Html.each_map, Html.each_flatMap]
      exact congrArg _ (Html.each_congr fun c hc => ih c hc)
    rw [render_eq, hbody, blocks_eq, each_framed]
    -- What is shown is empty just where there is no block, so the frames agree.
    rw [Bool.eq_iff_iff, List.isEmpty_iff, Html.isEmpty, beq_iff_eq, ← hbody,
      ← markup_frame_eq_empty_iff, ← render_eq, markup_render_eq_empty_iff,
      ← blocks_eq_nil_iff, blocks_eq, framed_eq_nil_iff]

theorem filterMap_framed {title : String} {css : Option String} {hasItems : Bool}
    {body : List Block} :
    (framed level skipEmpty title css hasItems body).filterMap Block.item? =
      body.filterMap Block.item? := by
  unfold framed
  split
  · rename_i hempty
    rw [List.isEmpty_iff.mp hempty]
  · split
    · rfl
    · rw [List.cons_append, List.cons_append, List.filterMap_cons_none rfl,
        List.filterMap_cons_none rfl, List.filterMap_append]
      exact List.append_nil _

/-- The blocks that are items are those of the groups, in their order. -/
theorem filterMap_blocks (skipEmpty : Bool) (level : Int) (g : NavGroup) :
    (blocks skipEmpty level g).filterMap Block.item? = g.placedItems level := by
  induction g using NavGroup.induct_children generalizing level with
  | h g ih =>
    rw [blocks_eq, filterMap_framed, List.filterMap_append, List.filterMap_map,
      NavGroup.placedItems_eq, List.filterMap_flatMap]
    exact congrArg₂ _ (congrFun (List.filterMap_eq_map (f := (level, ·))) g.items)
      (List.flatMap_congr fun c hc => ih c hc _)

end

/-! ## Balanced menus -/

section
variable {names : List String}

theorem tags?_line (level : Int) {h : Html} {tags : List Html.Tag} (ht : h.tags? = some tags) :
    (line level h).tags? = some tags := by
  have hindent : (indent level).tags? = some [] := by
    refine Html.tagsFrom_of_not_mem fun hmem => ?_
    rw [indent, Html.raw, String.toList_ofList, List.mem_replicate] at hmem
    exact absurd hmem.2 (by decide)
  have hend : (Html.raw "\n").tags? = some [] := rfl
  have hall := Html.tags?_append (Html.tags?_append hindent ht) hend
  rwa [List.nil_append, List.append_nil] at hall

theorem balanced_line (level : Int) {h : Html} (hh : h.Balanced names) :
    (line level h).Balanced names := by
  obtain ⟨tags, ht, hn⟩ := hh
  exact ⟨tags, tags?_line level ht, hn⟩

theorem balanced_heading (level : Int) (title : String) : (heading level title).Balanced names := by
  unfold heading
  split
  · exact Html.balanced_empty
  · dsimp only
    split
    all_goals
      exact Html.Balanced.between (tags?_line _ rfl) (balanced_line _ (Html.balanced_text _))
        (tags?_line _ rfl)

/-- The vocabulary in which every text and every attribute may occur. -/
def anything : Vocabulary := ⟨[], fun _ => True, fun _ _ => True⟩

theorem tags?_listTag (css : Option String) :
    (Block.listTag css).tags? = some [⟨"ul", false⟩] := by
  have hmark : (match css.filter (· != "") with
      | some c => Html.attr "class" (.text c)
      | none => .empty).IsAttributes anything := by
    split
    · exact Html.isAttributes_attr (by decide) trivial
    · exact Html.isAttributes_empty
  exact Html.tags?_opening (by decide) hmark rfl

theorem balanced_frame {level : Int} {skipEmpty hasItems : Bool} {title : String}
    {css : Option String} {body : Html} (hbody : body.Balanced names) :
    (frame level skipEmpty title css hasItems body).Balanced names := by
  unfold frame
  split
  · exact Html.balanced_empty
  · split
    · exact hbody
    · have hlist := Html.Balanced.between (tags?_line level (tags?_listTag css)) hbody
        (tags?_line level (h := .raw "</ul>") rfl)
      have hall := (balanced_heading level title).append hlist
      rw [← Html.append_assoc, ← Html.append_assoc] at hall
      exact hall

/-- The links of a tree, those of its details included, are balanced. -/
abbrev LinksBalanced (names : List String) (g : NavGroup) : Prop :=
  g.Each (fun _ _ => True) fun link _ => link.Balanced names

mutual

theorem balanced_render (skipEmpty : Bool) (level : Int) :
    ∀ {g : NavGroup}, LinksBalanced names g → (render skipEmpty level g).Balanced names
  | ⟨title, children, items, css⟩, h => by
    rw [LinksBalanced, NavGroup.Each] at h
    rw [render]
    exact balanced_frame ((balanced_renderItems skipEmpty level h.2.2).append
      (balanced_renderChildren skipEmpty (level + 1) h.2.1))

theorem balanced_renderChildren (skipEmpty : Bool) (level : Int) :
    ∀ {children : List (String × NavGroup)},
      NavGroup.EachChild (fun _ _ => True) (fun link _ => link.Balanced names) children →
        (renderChildren skipEmpty level children).Balanced names
  | [], _ => by
    rw [renderChildren]
    exact Html.balanced_empty
  | (_, g) :: rest, h => by
    rw [NavGroup.EachChild] at h
    rw [renderChildren]
    exact (balanced_render skipEmpty level h.1).append
      (balanced_renderChildren skipEmpty level h.2)

theorem balanced_renderItems (skipEmpty : Bool) (level : Int) :
    ∀ {items : List NavItem},
      NavGroup.EachItem (fun _ _ => True) (fun link _ => link.Balanced names) items →
        (renderItems skipEmpty level items).Balanced names
  | [], _ => by
    rw [renderItems]
    exact Html.balanced_empty
  | ⟨link, doclet, details⟩ :: rest, h => by
    rw [NavGroup.EachItem] at h
    have hdata : ((doclet.map dataAttributes).getD .empty).IsAttributes anything := by
      cases doclet with
      | none => exact Html.isAttributes_empty
      | some d => exact isAttributes_dataAttributes ⟨trivial, fun _ _ => trivial, trivial⟩
    have hopen : (Html.raw "<li" ++ (doclet.map dataAttributes).getD .empty ++ .raw ">").tags? =
        some [⟨"li", false⟩] := Html.tags?_opening (by decide) hdata rfl
    have hbody := (balanced_line (level + 2) h.1).append
      (balanced_renderDetails skipEmpty (level + 2) h.2.1)
    have hitem := Html.Balanced.between (tags?_line (level + 1) hopen) hbody
      (tags?_line (level + 1) (h := .raw "</li>") rfl)
    have hall := hitem.append (balanced_renderItems skipEmpty level h.2.2)
    rw [renderItems]
    simpa only [Html.append_assoc] using hall

theorem balanced_renderDetails (skipEmpty : Bool) (level : Int) :
    ∀ {details : List NavGroup},
      NavGroup.EachDetail (fun _ _ => True) (fun link _ => link.Balanced names) details →
        (renderDetails skipEmpty level details).Balanced names
  | [], _ => by
    rw [renderDetails]
    exact Html.balanced_empty
  | g :: rest, h => by
    rw [NavGroup.EachDetail] at h
    rw [renderDetails]
    exact (balanced_render skipEmpty level h.1).append
      (balanced_renderDetails skipEmpty level h.2)

end

/-! ## Whole menus -/

end

end Menu
end DocSite
