import DocSite.Proofs.Doclet.Unplaced

/-! The sidebar does not show where doclets stand in the dump: trees that are built from doclets
without their places look the same. -/
namespace DocSite
set_option autoImplicit false

/-! ## Trees -/

namespace NavGroup

mutual

/-- A tree whose doclets have no places. -/
def unplaced : NavGroup → NavGroup
  | ⟨title, children, items, css⟩ => ⟨title, unplacedChildren children, unplacedItems items, css⟩

def unplacedChildren : List (String × NavGroup) → List (String × NavGroup)
  | [] => []
  | (key, g) :: rest => (key, unplaced g) :: unplacedChildren rest

def unplacedItems : List NavItem → List NavItem
  | [] => []
  | ⟨link, doclet, details⟩ :: rest =>
    ⟨link, doclet.map Doclet.unplaced, unplacedDetails details⟩ :: unplacedItems rest

def unplacedDetails : List NavGroup → List NavGroup
  | [] => []
  | g :: rest => unplaced g :: unplacedDetails rest

end

theorem unplacedChildren_eq_map (children : List (String × NavGroup)) :
    unplacedChildren children = children.map fun p => (p.1, p.2.unplaced) := by
  induction children with
  | nil => rw [unplacedChildren, List.map_nil]
  | cons child rest ih => rw [unplacedChildren, List.map_cons, ih]

theorem unplacedItems_append (xs ys : List NavItem) :
    unplacedItems (xs ++ ys) = unplacedItems xs ++ unplacedItems ys := by
  induction xs with
  | nil => rw [unplacedItems, List.nil_append, List.nil_append]
  | cons x rest ih =>
    obtain ⟨link, doclet, details⟩ := x
    rw [List.cons_append, unplacedItems, unplacedItems, ih, List.cons_append]

theorem unplacedDetails_append (xs ys : List NavGroup) :
    unplacedDetails (xs ++ ys) = unplacedDetails xs ++ unplacedDetails ys := by
  induction xs with
  | nil => rw [unplacedDetails, List.nil_append, List.nil_append]
  | cons g rest ih => rw [List.cons_append, unplacedDetails, unplacedDetails, ih, List.cons_append]

theorem insertFrom_unplaced {item item' : NavItem} (hitem : unplacedItems [item] = [item'])
    (path : List String) (slug : String) (g : NavGroup) :
    insertFrom slug item' path g.unplaced = (insertFrom slug item path g).unplaced := by
  induction path generalizing slug g with
  | nil =>
    obtain ⟨title, children, items, css⟩ := g
    rw [insertFrom, insertFrom, unplaced, unplaced, unplacedItems_append, hitem]
  | cons segment rest ih =>
    obtain ⟨title, children, items, css⟩ := g
    rw [insertFrom, insertFrom, unplaced, unplaced]
    dsimp only
    rw [unplacedChildren_eq_map, unplacedChildren_eq_map, Table.lookup_map, ← Table.put_map, ← ih]
    congr 3
    cases children.lookup (extend slug segment) <;> rfl

end NavGroup

/-! ## The markup of trees -/

namespace Menu

mutual

theorem render_unplaced (skipEmpty : Bool) (level : Int) :
    ∀ g : NavGroup, render skipEmpty level g.unplaced = render skipEmpty level g
  | ⟨title, children, items, css⟩ => by
    have hempty : (NavGroup.unplacedItems items).isEmpty = items.isEmpty := by
      cases items with
      | nil => rw [NavGroup.unplacedItems]
      | cons item rest =>
        obtain ⟨link, doclet, details⟩ := item
        rw [NavGroup.unplacedItems]
        rfl
    rw [NavGroup.unplaced, render, render, hempty, renderItems_unplaced, renderChildren_unplaced]

theorem renderChildren_unplaced (skipEmpty : Bool) (level : Int) :
    ∀ children : List (String × NavGroup),
      renderChildren skipEmpty level (NavGroup.unplacedChildren children) =
        renderChildren skipEmpty level children
  | [] => by rw [NavGroup.unplacedChildren]
  | (key, g) :: rest => by
    rw [NavGroup.unplacedChildren, renderChildren, renderChildren, render_unplaced,
      renderChildren_unplaced]

theorem renderItems_unplaced (skipEmpty : Bool) (level : Int) :
    ∀ items : List NavItem,
      renderItems skipEmpty level (NavGroup.unplacedItems items) =
        renderItems skipEmpty level items
  | [] => by rw [NavGroup.unplacedItems]
  | ⟨link, doclet, details⟩ :: rest => by
    have hdata : (doclet.map Doclet.unplaced).map dataAttributes = doclet.map dataAttributes := by
      cases doclet <;> rfl
    rw [NavGroup.unplacedItems, renderItems, renderItems, hdata, renderDetails_unplaced,
      renderItems_unplaced]

theorem renderDetails_unplaced (skipEmpty : Bool) (level : Int) :
    ∀ details : List NavGroup,
      renderDetails skipEmpty level (NavGroup.unplacedDetails details) =
        renderDetails skipEmpty level details
  | [] => by rw [NavGroup.unplacedDetails]
  | g :: rest => by
    rw [NavGroup.unplacedDetails, renderDetails, renderDetails, render_unplaced,
      renderDetails_unplaced]

end

end Menu

/-! ## Building trees -/

/-- An entry whose doclet has no place. -/
def NavEntry.unplaced : NavEntry → NavEntry
  | symbol d => symbol d.unplaced
  | page name => page name

namespace NavGroup

theorem detailsOfKind_unplaced (r : Registry) (members : List Doclet) (kind css : String) :
    detailsOfKind r (members.map Doclet.unplaced) kind css =
      unplacedDetails (detailsOfKind r members kind css) := by
  have hitems : ∀ ds : List Doclet, (ds.map Doclet.unplaced).map (fun d =>
      ({ link := r.linkTo d.longname (.text d.name), doclet := some d } : NavItem)) =
        unplacedItems (ds.map fun d =>
          { link := r.linkTo d.longname (.text d.name), doclet := some d }) := by
    intro ds
    induction ds with
    | nil => rw [List.map_nil, List.map_nil, unplacedItems]
    | cons d rest ih =>
      rw [List.map_cons, List.map_cons, List.map_cons, unplacedItems, ih]
      rfl
  unfold detailsOfKind
  rw [filter_unplaced fun _ => rfl]
  cases members.filter (·.kind == kind) with
  | nil => rfl
  | cons d rest =>
    have h := hitems (d :: rest)
    rw [List.map_cons] at h ⊢
    dsimp only
    rw [h]
    rfl

theorem detailsOf_unplaced (s : Store) (settings : Settings) (r : Registry) (longname : String) :
    detailsOf s.unplaced settings r longname =
      (detailsOf s settings r longname).map unplacedDetails := by
  unfold detailsOf
  dsimp only
  rw [s.find_unplaced fun _ => rfl, Query.selectOf_unplaced]
  cases Query.selectOf (settings.detailsFilter.map Query.ofFields) (s.find fun d =>
      ["member", "function"].contains d.kind && d.memberof == some longname) with
  | error e => rfl
  | ok chosen =>
    have hsorted : orderByText settings.detailsOrder (chosen.map Doclet.unplaced) =
        (orderByText settings.detailsOrder chosen).map Doclet.unplaced := orderBy_unplaced _ _
    simp only [Except.map, hsorted, detailsOfKind_unplaced, unplacedDetails_append]

theorem addEntry_unplaced (s : Store) (settings : Settings) (link : LinkMaker) (g : NavGroup)
    (state : NavState) (entry : NavEntry) :
    addEntry s.unplaced settings link g.unplaced state entry.unplaced =
      (addEntry s settings link g state entry).map fun p => (p.1.unplaced, p.2) := by
  have halone : ∀ markup : Html, g.unplaced.insert [] { link := markup } =
      (g.insert [] { link := markup }).unplaced := by
    intro markup
    refine insertFrom_unplaced ?_ [] "" g
    rw [unplacedItems, unplacedItems, unplacedDetails]
    rfl
  cases entry with
  | page name =>
    rw [NavEntry.unplaced, addEntry, addEntry]
    dsimp only
    rw [halone]
    rfl
  | symbol d =>
    have hlong : d.unplaced.longnameOrEmpty = d.longnameOrEmpty := rfl
    have hshown : displayName settings.listByLongname d.unplaced =
        displayName settings.listByLongname d := rfl
    have hname : d.unplaced.name = d.name := rfl
    rw [NavEntry.unplaced, addEntry, addEntry]
    dsimp only
    rw [hlong, hshown, hname]
    split
    · rw [halone]
      rfl
    · split
      · rfl
      · have hdetails : ∀ r longname, (if settings.showDetails then
            detailsOf s.unplaced settings r longname else .ok []) =
              (if settings.showDetails then detailsOf s settings r longname else .ok []).map
                unplacedDetails := by
          intro r longname
          split
          · exact detailsOf_unplaced s settings r longname
          · rw [Except.map, unplacedDetails]
        rw [hdetails]
        cases if settings.showDetails then detailsOf s settings _ _ else .ok [] with
        | error e => rfl
        | ok details =>
          have hitem : ∀ markup : Html,
              unplacedItems [{ link := markup, doclet := some d, details := details }] =
                [{ link := markup, doclet := some d.unplaced
                   details := unplacedDetails details }] := by
            intro markup
            rw [unplacedItems, unplacedItems]
            rfl
          simp only [Except.map, insert, insertFrom_unplaced (hitem _)]

theorem addEntries_unplaced (s : Store) (settings : Settings) (link : LinkMaker) (g : NavGroup)
    (state : NavState) (entries : List NavEntry) :
    addEntries s.unplaced settings link g.unplaced state (entries.map NavEntry.unplaced) =
      (addEntries s settings link g state entries).map fun p => (p.1.unplaced, p.2) := by
  induction entries generalizing g state with
  | nil => rfl
  | cons entry rest ih =>
    rw [List.map_cons, addEntries, addEntries, addEntry_unplaced]
    cases addEntry s settings link g state entry with
    | error e => rfl
    | ok p => exact ih p.1 p.2

end NavGroup

/-! ## The sidebar -/

namespace Sidebar

theorem entriesOf_unplaced (s : Store) (tutorials : List Tutorial) (section_ : Section) :
    entriesOf s.unplaced tutorials section_ =
      (entriesOf s tutorials section_).map NavEntry.unplaced := by
  have hsymbols : ∀ kind, (s.unplaced.ofKind kind).map NavEntry.symbol =
      ((s.ofKind kind).map NavEntry.symbol).map NavEntry.unplaced := by
    intro kind
    rw [s.ofKind_unplaced, List.map_map, List.map_map]
    rfl
  cases section_ with
  | tutorials =>
    rw [entriesOf, entriesOf, List.map_map]
    rfl
  | _ => exact hsymbols _

theorem buildTrees_unplaced (s : Store) (settings : Settings) (tutorials : List Tutorial)
    (state : NavState) (sections : List Section) :
    buildTrees s.unplaced settings tutorials state sections =
      (buildTrees s settings tutorials state sections).map fun p =>
        (p.1.map fun t => (t.1, t.2.unplaced), p.2) := by
  induction sections generalizing state with
  | nil => rfl
  | cons section_ rest ih =>
    have hroot : NavGroup.unplaced { heading := section_.title } =
        { heading := section_.title } := by
      rw [NavGroup.unplaced, NavGroup.unplacedChildren, NavGroup.unplacedItems]
    have hbuild : ∀ state, NavGroup.build s.unplaced settings (linkOf section_) section_.title state
        (entriesOf s.unplaced tutorials section_) =
          (NavGroup.build s settings (linkOf section_) section_.title state
            (entriesOf s tutorials section_)).map fun p => (p.1.unplaced, p.2) := by
      intro state
      have h := NavGroup.addEntries_unplaced s settings (linkOf section_)
        { heading := section_.title } state (entriesOf s tutorials section_)
      rw [hroot] at h
      rw [NavGroup.build, NavGroup.build, entriesOf_unplaced, h]
    rw [buildTrees, buildTrees]
    dsimp only
    rw [hbuild]
    cases NavGroup.build s settings (linkOf section_) section_.title _ _ with
    | error e => rfl
    | ok p =>
      simp only [Except.map, ih]
      cases buildTrees s settings tutorials _ rest <;> rfl

theorem sectionPart_unplaced (settings : Settings) (trees : List (Section × NavGroup))
    (section_ : Section) :
    sectionPart settings (trees.map fun t => (t.1, t.2.unplaced)) section_ =
      sectionPart settings trees section_ := by
  unfold sectionPart
  rw [Table.lookup_map]
  cases trees.lookup section_ with
  | none => rfl
  | some tree => exact Menu.render_unplaced settings.skipEmptyGroups 0 tree

theorem linkedGlobals_unplaced (listTypedefs : Bool) (seen : List String) (ds : List Doclet) :
    linkedGlobals listTypedefs seen (ds.map Doclet.unplaced) =
      (linkedGlobals listTypedefs seen ds).map Doclet.unplaced := by
  induction ds generalizing seen with
  | nil => rfl
  | cons d rest ih =>
    have hlong : d.unplaced.longnameOrEmpty = d.longnameOrEmpty := rfl
    have hkind : d.unplaced.kind = d.kind := rfl
    rw [List.map_cons, linkedGlobals, linkedGlobals]
    dsimp only
    rw [hlong, hkind]
    split
    · exact ih seen
    · split
      · rw [ih, List.map_cons]
      · exact ih _

theorem globalsPart_unplaced (r : Registry) (settings : Settings) (seen : List String)
    (globals : List Doclet) :
    globalsPart r settings seen (globals.map Doclet.unplaced) =
      globalsPart r settings seen globals := by
  unfold globalsPart
  rw [List.isEmpty_map, linkedGlobals_unplaced]
  cases linkedGlobals settings.listTypedefs seen globals with
  | nil => rfl
  | cons d rest =>
    simp only [List.map_cons, Html.each, List.map_map]
    rfl

theorem render_unplaced (s : Store) (settings : Settings) (tutorials : List Tutorial)
    (r : Registry) : render s.unplaced settings tutorials r = render s settings tutorials r := by
  unfold render
  rw [buildTrees_unplaced]
  cases buildTrees s settings tutorials ⟨r, []⟩ Section.all with
  | error e => rfl
  | ok p =>
    have hsections : sectionPart settings (p.1.map fun t => (t.1, t.2.unplaced)) =
        sectionPart settings p.1 := funext (sectionPart_unplaced settings p.1)
    simp only [Except.map, hsections, s.globals_unplaced, globalsPart_unplaced]

end Sidebar

end DocSite
