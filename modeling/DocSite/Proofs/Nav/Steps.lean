import DocSite.Nav.Sidebar

/-! What building the sidebar does, read off once: how an entry joins a tree, how entries and
sections follow one another, and of which parts the sidebar is made. What holds of the trees, of the
longnames that are seen and of the registry is proved from these lemmas. -/
namespace DocSite
set_option autoImplicit false

/-! ## Entries -/

def NavEntry.name : NavEntry → String
  | symbol d => d.name
  | page name => name

/-- The groups that a doclet is listed under, none when names are not split. -/
def Doclet.navPath (settings : Settings) (d : Doclet) : List String :=
  if settings.groupByPath then (splitPath (displayName settings.listByLongname d)).1 else []

/-- The label of a doclet: the last part of the name it is listed under. -/
def Doclet.navLabel (settings : Settings) (d : Doclet) : String :=
  (splitPath (displayName settings.listByLongname d)).2

namespace NavGroup

/-- The lists of members under a symbol, as far as they are shown. -/
def shownDetails (s : Store) (settings : Settings) (r : Registry) (longname : String) :
    Except Fault (List NavGroup) :=
  if settings.showDetails then detailsOf s settings r longname else .ok []

/-- What an entry adds to a tree. Without a longname it is only named; a longname that was seen adds
nothing; another one is listed with its details, and is seen from then on. -/
inductive Added (s : Store) (settings : Settings) (link : LinkMaker) (g : NavGroup)
    (state : NavState) : NavEntry → NavGroup → NavState → Prop where
  | named (entry : NavEntry) : entry.longname = "" →
      Added s settings link g state entry
        (g.insert [] { link := (link state.registry "" entry.name).1 })
        { state with registry := (link state.registry "" entry.name).2 }
  | seen {d : Doclet} : d.longnameOrEmpty ≠ "" → d.longnameOrEmpty ∈ state.seen →
      Added s settings link g state (.symbol d) g state
  | listed {d : Doclet} {details : List NavGroup} : d.longnameOrEmpty ≠ "" →
      d.longnameOrEmpty ∉ state.seen →
      shownDetails s settings (link state.registry d.longnameOrEmpty (d.navLabel settings)).2
        d.longnameOrEmpty = .ok details →
      Added s settings link g state (.symbol d)
        (g.insert (d.navPath settings)
          { link := (link state.registry d.longnameOrEmpty (d.navLabel settings)).1
            doclet := some d
            details := details })
        ⟨(link state.registry d.longnameOrEmpty (d.navLabel settings)).2,
          state.seen ++ [d.longnameOrEmpty]⟩

section
variable {s : Store} {settings : Settings} {link : LinkMaker} {g g' : NavGroup}
  {state state' : NavState}

theorem addEntry_ok {entry : NavEntry}
    (h : addEntry s settings link g state entry = .ok (g', state')) :
    Added s settings link g state entry g' state' := by
  unfold addEntry at h
  split at h
  · rename_i name
    cases h
    exact .named (.page name) rfl
  · rename_i d
    dsimp only at h
    split at h
    · rename_i hempty
      cases h
      exact .named (.symbol d) (beq_iff_eq.mp hempty)
    · rename_i hne
      have hne : d.longnameOrEmpty ≠ "" := fun he => hne (beq_iff_eq.mpr he)
      split at h
      · rename_i hseen
        cases h
        exact .seen hne (List.contains_iff_mem.mp hseen)
      · rename_i hseen
        have hseen : d.longnameOrEmpty ∉ state.seen := fun hm =>
          hseen (List.contains_iff_mem.mpr hm)
        split at h
        · cases h
        · rename_i hdetails
          cases h
          exact .listed hne hseen hdetails

theorem addEntries_cons_ok {entry : NavEntry} {rest : List NavEntry}
    (h : addEntries s settings link g state (entry :: rest) = .ok (g', state')) :
    ∃ g₁ state₁, Added s settings link g state entry g₁ state₁ ∧
      addEntries s settings link g₁ state₁ rest = .ok (g', state') := by
  rw [addEntries] at h
  split at h
  · cases h
  · rename_i g₁ state₁ hentry
    exact ⟨g₁, state₁, addEntry_ok hentry, h⟩

end

end NavGroup

/-! ## Sections -/

namespace Sidebar

/-- The sidebar that shows the trees of sections in an order. -/
def assembled (s : Store) (settings : Settings) (r : Registry)
    (trees : List (Section × NavGroup)) (state : NavState) (order : List Section) : Html :=
  .element "h2" [] (.link r.homeUrl (.raw "Home")) ++
    .each settings.menu (fun m => menuLink m.1 m.2) ++
    .each order (sectionPart settings trees) ++
    globalsPart state.registry settings state.seen s.globals

section
variable {s : Store} {settings : Settings} {tutorials : List Tutorial}

/-- A section that claims goes on from the longnames that are seen; another one starts without any
and leaves them as they were. -/
theorem buildTrees_cons_ok {section_ : Section} {rest : List Section} {state state' : NavState}
    {trees : List (Section × NavGroup)}
    (h : buildTrees s settings tutorials state (section_ :: rest) = .ok (trees, state')) :
    ∃ tree after later,
      NavGroup.addEntries s settings (linkOf section_) { heading := section_.title }
        ⟨state.registry, if claims section_ then state.seen else []⟩
        (entriesOf s tutorials section_) = .ok (tree, after) ∧
      buildTrees s settings tutorials
        ⟨after.registry, if claims section_ then after.seen else state.seen⟩ rest =
          .ok (later, state') ∧
      trees = (section_, tree) :: later := by
  rw [buildTrees] at h
  dsimp only at h
  split at h
  · cases h
  · rename_i tree after hbuild
    split at h
    · cases h
    · rename_i later last hrest
      cases h
      exact ⟨tree, after, later, hbuild, hrest, rfl⟩

theorem sectionPart_of_trees {P : Html → Prop} {trees : List (Section × NavGroup)}
    (hempty : P .empty)
    (htrees : ∀ p ∈ trees, P (Menu.render settings.skipEmptyGroups 0 p.2)) (section_ : Section) :
    P (sectionPart settings trees section_) := by
  unfold sectionPart
  split
  · rename_i tree hfound
    obtain ⟨before, after, rfl, -⟩ := List.lookup_eq_some_iff.mp hfound
    exact htrees (section_, tree) (List.mem_append_right _ List.mem_cons_self)
  · exact hempty

theorem render_ok {r r' : Registry} {html : Html}
    (h : render s settings tutorials r = .ok (html, r')) :
    ∃ trees state, buildTrees s settings tutorials ⟨r, []⟩ Section.all = .ok (trees, state) ∧
      r' = state.registry ∧ html = assembled s settings r trees state settings.sectionOrder := by
  unfold render at h
  split at h
  · cases h
  · rename_i trees state hbuild
    cases h
    exact ⟨trees, state, hbuild, rfl, rfl⟩

end

end Sidebar

end DocSite
