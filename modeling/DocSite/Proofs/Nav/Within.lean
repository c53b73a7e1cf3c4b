import DocSite.Proofs.Link.Leads
import DocSite.Proofs.Nav.Parts
import DocSite.Proofs.Publish.Setup

/-! Where the links of the sidebar lead. Trees are built from links that the registry made, and
their markup holds no other ones; links of the menu are none of the program's. -/
namespace DocSite
open Registry (Hosted Sound Reaches Quiet Later Leads)
set_option autoImplicit false

/-! ## Trees -/

namespace NavGroup

mutual

/-- Every link in a tree is of the sort. -/
def Within (P : String → Prop) : NavGroup → Prop
  | ⟨_, children, items, _⟩ => ChildrenWithin P children ∧ ItemsWithin P items

/-- Every link in the groups under a group is of the sort. -/
def ChildrenWithin (P : String → Prop) : List (String × NavGroup) → Prop
  | [] => True
  | (_, g) :: rest => Within P g ∧ ChildrenWithin P rest

/-- Every link in the items of a group is of the sort. -/
def ItemsWithin (P : String → Prop) : List NavItem → Prop
  | [] => True
  | ⟨link, _, details⟩ :: rest => link.Within P ∧ DetailsWithin P details ∧ ItemsWithin P rest

/-- Every link in the lists under an item is of the sort. -/
def DetailsWithin (P : String → Prop) : List NavGroup → Prop
  | [] => True
  | g :: rest => Within P g ∧ DetailsWithin P rest

end

section
variable {P : String → Prop}

mutual

theorem within_iff_each :
    ∀ {g : NavGroup}, g.Within P ↔ g.Each (fun _ _ => True) (fun link _ => link.Within P)
  | ⟨_, children, items, _⟩ => by
    rw [Within, Each, childrenWithin_iff_each, itemsWithin_iff_each, true_and]

theorem childrenWithin_iff_each : ∀ {children : List (String × NavGroup)},
    ChildrenWithin P children ↔ EachChild (fun _ _ => True) (fun link _ => link.Within P) children
  | [] => by rw [ChildrenWithin, EachChild]
  | (_, g) :: rest => by
    rw [ChildrenWithin, EachChild, within_iff_each, childrenWithin_iff_each]

theorem itemsWithin_iff_each : ∀ {items : List NavItem},
    ItemsWithin P items ↔ EachItem (fun _ _ => True) (fun link _ => link.Within P) items
  | [] => by rw [ItemsWithin, EachItem]
  | ⟨_, _, details⟩ :: rest => by
    rw [ItemsWithin, EachItem, detailsWithin_iff_each, itemsWithin_iff_each]

theorem detailsWithin_iff_each : ∀ {details : List NavGroup},
    DetailsWithin P details ↔ EachDetail (fun _ _ => True) (fun link _ => link.Within P) details
  | [] => by rw [DetailsWithin, EachDetail]
  | g :: rest => by
    rw [DetailsWithin, EachDetail, within_iff_each, detailsWithin_iff_each]

end

theorem detailsWithin_append {gs hs : List NavGroup} (hg : DetailsWithin P gs)
    (hh : DetailsWithin P hs) : DetailsWithin P (gs ++ hs) :=
  detailsWithin_iff_each.mpr
    (eachDetail_append (detailsWithin_iff_each.mp hg) (detailsWithin_iff_each.mp hh))

/-- An item is put somewhere in a tree, whose other links stay. -/
theorem Within.insertFrom {slug : String} {item : NavItem} {path : List String} {g : NavGroup}
    (h : g.Within P) (hitem : ItemsWithin P [item]) : (insertFrom slug item path g).Within P :=
  within_iff_each.mpr (Each.insertFrom (within_iff_each.mp h) (itemsWithin_iff_each.mp hitem)
    fun _ _ => trivial)

end

end NavGroup

/-! ## The markup of trees -/

namespace Menu

section
variable {P : String → Prop}

theorem within_line {level : Int} {h : Html} : (line level h).Within P ↔ h.Within P := by
  simp [line, indent]

theorem within_dataAttributes (d : Doclet) : (dataAttributes d).Within P := by
  simp [dataAttributes, dataAttribute]

theorem within_frame {level : Int} {skipEmpty hasItems : Bool} {title : String}
    {css : Option String} {body : Html} (h : body.Within P) :
    (frame level skipEmpty title css hasItems body).Within P := by
  have hheading : (heading level title).Within P := by
    simp [heading, within_line]
  unfold frame
  split
  · exact Html.within_empty
  · split
    · exact h
    · dsimp only
      split <;> simp [within_line, hheading, h]

mutual

theorem within_render {skipEmpty : Bool} {level : Int} :
    ∀ {g : NavGroup}, g.Within P → (render skipEmpty level g).Within P
  | ⟨title, children, items, css⟩, h => by
    rw [NavGroup.Within] at h
    rw [render]
    exact within_frame (Html.within_append.mpr ⟨within_renderItems h.2, within_renderChildren h.1⟩)

theorem within_renderChildren {skipEmpty : Bool} {level : Int} :
    ∀ {children : List (String × NavGroup)}, NavGroup.ChildrenWithin P children →
      (renderChildren skipEmpty level children).Within P
  | [], _ => by
    rw [renderChildren]
    exact Html.within_empty
  | (_, g) :: rest, h => by
    rw [NavGroup.ChildrenWithin] at h
    rw [renderChildren]
    exact Html.within_append.mpr ⟨within_render h.1, within_renderChildren h.2⟩

theorem within_renderItems {skipEmpty : Bool} {level : Int} :
    ∀ {items : List NavItem}, NavGroup.ItemsWithin P items →
      (renderItems skipEmpty level items).Within P
  | [], _ => by
    rw [renderItems]
    exact Html.within_empty
  | ⟨link, doclet, details⟩ :: rest, h => by
    rw [NavGroup.ItemsWithin] at h
    have hdoclet : ((doclet.map dataAttributes).getD .empty).Within P := by
      cases doclet with
      | none => exact Html.within_empty
      | some d => exact within_dataAttributes d
    have hdetails : (renderDetails skipEmpty (level + 2) details).Within P :=
      within_renderDetails h.2.1
    have hrest : (renderItems skipEmpty level rest).Within P := within_renderItems h.2.2
    rw [renderItems]
    simp [within_line, h.1, hdoclet, hdetails, hrest]

theorem within_renderDetails {skipEmpty : Bool} {level : Int} :
    ∀ {details : List NavGroup}, NavGroup.DetailsWithin P details →
      (renderDetails skipEmpty level details).Within P
  | [], _ => by
    rw [renderDetails]
    exact Html.within_empty
  | g :: rest, h => by
    rw [NavGroup.DetailsWithin] at h
    rw [renderDetails]
    exact Html.within_append.mpr ⟨within_render h.1, within_renderDetails h.2⟩

end

end

end Menu

/-! ## Building trees -/

namespace NavGroup

section
variable {G : Prop} {P : String → Prop} {r R : Registry} {store : Store} {settings : Settings}

theorem within_detailsOfKind (hr : r.LinksWithin P) (members : List Doclet) (kind css : String) :
    DetailsWithin P (detailsOfKind r members kind css) := by
  have hitems : ∀ ds : List Doclet, ItemsWithin P (ds.map fun d =>
      { link := r.linkTo d.longname (.text d.name), doclet := some d }) := by
    intro ds
    induction ds with
    | nil => trivial
    | cons d rest ih =>
      rw [List.map_cons, ItemsWithin]
      exact ⟨Registry.within_linkTo hr (Html.within_text _) _, trivial, ih⟩
  unfold detailsOfKind
  split
  · trivial
  · exact ⟨⟨trivial, hitems _⟩, trivial⟩

theorem within_detailsOf (hr : r.LinksWithin P) {longname : String} {details : List NavGroup}
    (h : detailsOf store settings r longname = .ok details) : DetailsWithin P details := by
  unfold detailsOf at h
  dsimp only at h
  split at h
  · cases h
  · cases h
    exact detailsWithin_append (within_detailsOfKind hr _ _ _) (within_detailsOfKind hr _ _ _)

theorem within_shownDetails (hr : r.LinksWithin P) {longname : String} {details : List NavGroup}
    (h : shownDetails store settings r longname = .ok details) : DetailsWithin P details := by
  unfold shownDetails at h
  split at h
  · exact within_detailsOf hr h
  · cases h
    trivial

variable {link : LinkMaker}

/-- The step lemma: adding one entry to a tree. -/
theorem Added.within
    (hlink : ∀ r longname label, Sound r → Later (link r longname label).2 R →
      (link r longname label).1.Within (Leads G R))
    {g g' : NavGroup} {state state' : NavState} {entry : NavEntry} (hs : Sound state.registry)
    (hg : g.Within (Leads G R)) (h : Added store settings link g state entry g' state')
    (hR : Later state'.registry R) : g'.Within (Leads G R) := by
  have hone : ∀ {markup : Html} {doclet : Option Doclet} {details : List NavGroup},
      markup.Within (Leads G R) → DetailsWithin (Leads G R) details →
        ItemsWithin (Leads G R) [{ link := markup, doclet := doclet, details := details }] :=
    fun hm hd => ⟨hm, hd, trivial⟩
  cases h with
  | named _ _ => exact hg.insertFrom (hone (hlink _ _ _ hs hR) trivial)
  | seen _ _ => exact hg
  | listed _ _ hdetails =>
    have hunder : DetailsWithin (Leads G R) _ := within_shownDetails hR.linksWithin hdetails
    exact hg.insertFrom (hone (hlink _ _ _ hs hR) hunder)

theorem within_addEntries
    (hlink : ∀ r longname label, Sound r → Later (link r longname label).2 R →
      (link r longname label).1.Within (Leads G R))
    (hquiet : ∀ r longname label, Quiet r (link r longname label).2) {entries : List NavEntry}
    {g g' : NavGroup} {state state' : NavState}
    (h : addEntries store settings link g state entries = .ok (g', state'))
    (hs : Sound state.registry) (hg : g.Within (Leads G R)) (hR : Later state'.registry R) :
    g'.Within (Leads G R) := by
  induction entries generalizing g state with
  | nil =>
    cases h
    exact hg
  | cons entry rest ih =>
    obtain ⟨g₁, state₁, hentry, hrest⟩ := addEntries_cons_ok h
    have hlater := (quiet_addEntries hquiet hrest).later.trans hR
    have hg₁ := hentry.within hlink hs hg hlater
    exact ih hrest ((hentry.quiet hquiet).weaken.sound hs) hg₁

end

end NavGroup

/-! ## The sidebar -/

namespace Sidebar

section
variable {G : Prop} {r r' R : Registry} {store : Store} {settings : Settings} {ts : List Tutorial}

theorem within_linkOf (section_ : Section) (r : Registry) (longname label : String) (hs : Sound r)
    (h : Later (linkOf section_ r longname label).2 R) :
    (linkOf section_ r longname label).1.Within (Leads G R) := by
  have hsymbol : ∀ label, Later r R → (LinkMaker.symbol r longname label).1.Within (Leads G R) := by
    intro label hr
    simp only [LinkMaker.symbol]
    exact Registry.within_linkTo hr.linksWithin (Html.within_text label) (some longname)
  cases section_ with
  | tutorials =>
    change Later (r.tutorialLink label none).2 R at h
    change (r.tutorialLink label none).1.Within (Leads G R)
    exact Registry.within_tutorialLink hs h
  | externals => exact hsymbol (unquoted label) h
  | _ => exact hsymbol label h

theorem within_buildTrees {sections : List Section} {state state' : NavState}
    {trees : List (Section × NavGroup)}
    (h : buildTrees store settings ts state sections = .ok (trees, state'))
    (hs : Sound state.registry) (hR : Later state'.registry R) : ∀ p ∈ trees, p.2.Within (Leads G R) := by
  induction sections generalizing state trees with
  | nil =>
    cases h
    exact fun _ hp => absurd hp List.not_mem_nil
  | cons section_ rest ih =>
    obtain ⟨tree, after, later, hbuild, hrest, rfl⟩ := buildTrees_cons_ok h
    have hlater := (quiet_buildTrees hrest).later.trans hR
    have hempty : NavGroup.Within (Leads G R) { heading := section_.title } := ⟨trivial, trivial⟩
    have htree := NavGroup.within_addEntries (within_linkOf section_) (quiet_linkOf section_)
      hbuild hs hempty hlater
    have hafter : Sound after.registry :=
      (NavGroup.quiet_addEntries (quiet_linkOf section_) hbuild).weaken.sound hs
    exact List.forall_mem_cons.mpr ⟨htree, ih hrest hafter⟩

theorem within_globalsPart (hs : Sound r) (hR : Sound R) (h : Later r R) {globals : List Doclet}
    (hG : globals ≠ [] → G) (seen : List String) :
    (globalsPart r settings seen globals).Within (Leads G R) := by
  have hlink : ∀ name s, (r.linkTo name (.text s)).Within (Leads G R) := fun name s =>
    Registry.within_linkTo h.linksWithin (Html.within_text s) name
  have hglobals : globals ≠ [] → Leads G R r.globalUrl := by
    intro hne
    refine .globals (hG hne) ?_
    rw [hs.globalUrl, hR.globalUrl]
    exact hs.page_file hs.globals
  unfold globalsPart
  split
  · exact Html.within_empty
  · rename_i hne
    split
    · simp [hglobals fun e => hne (List.isEmpty_iff.mpr e)]
    · simp [hlink]

theorem within_menuLink {P : String → Prop} (label : String) (attrs : List (String × String)) :
    (menuLink label attrs).Within P := by
  simp [menuLink]

/-- Every link of the sidebar leads somewhere that the last registry knows. -/
theorem within_render (hs : Sound r) (hR : Sound R) (hG : store.globals ≠ [] → G) {sidebar : Html}
    (h : render store settings ts r = .ok (sidebar, r')) (hlater : Later r' R) :
    sidebar.Within (Leads G R) := by
  have hquiet := quiet_render h
  obtain ⟨trees, state, htrees, rfl, rfl⟩ := render_ok h
  have hwithin := within_buildTrees (G := G) htrees hs hlater
  have hsections : ∀ section_, (sectionPart settings trees section_).Within (Leads G R) :=
    sectionPart_of_trees Html.within_empty fun p hp => Menu.within_render (hwithin p hp)
  have hhome : Leads G R r.homeUrl := by
    refine .home ?_
    rw [hs.homeUrl, hR.homeUrl]
    exact hs.page_file hs.home
  have hglobals : (globalsPart state.registry settings state.seen store.globals).Within
      (Leads G R) := within_globalsPart (hquiet.weaken.sound hs) hR hlater hG _
  simp [assembled, within_menuLink, hsections, hhome, hglobals]

end

end Sidebar

end DocSite
