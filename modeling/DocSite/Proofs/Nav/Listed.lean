import DocSite.Proofs.Nav.Rendered
import DocSite.Proofs.Nav.Steps
import Mathlib.Data.List.Count
import Mathlib.Data.List.Nodup
import Mathlib.Data.List.Lookmap

/-! Which section lists a symbol. Sections that claim what they list share the longnames that are
seen, so of the sections with a longname the first one lists it, once; modules and globals follow
rules of their own. The order in which sections are shown has no part in it. -/
namespace DocSite
set_option autoImplicit false

/-! ## The longnames of a tree -/

namespace NavGroup

/-- The longnames of items, without those of their details. -/
def listedItems (items : List NavItem) : List String :=
  items.filterMap fun i => i.doclet.map Doclet.longnameOrEmpty

mutual

/-- The longnames that a tree lists, details left out. -/
def listed : NavGroup → List String
  | ⟨_, children, items, _⟩ => listedItems items ++ listedChildren children

def listedChildren : List (String × NavGroup) → List String
  | [] => []
  | (_, g) :: rest => listed g ++ listedChildren rest

end

section
variable {l : String}

theorem count_listedChildren_put (key : String) (g : NavGroup)
    (children : List (String × NavGroup)) :
    (listedChildren (Table.put key g children)).count l +
        (((children.lookup key).map listed).getD []).count l =
      (listedChildren children).count l + g.listed.count l := by
  induction children with
  | nil => simp [Table.put, listedChildren]
  | cons child rest ih =>
    obtain ⟨k, first⟩ := child
    by_cases hk : k = key
    · simp [Table.put, listedChildren, hk]
      omega
    · have hk' : (key == k) = false := by simpa using Ne.symm hk
      simp only [Table.put, beq_iff_eq, hk, if_false, listedChildren, List.lookup_cons, hk',
        List.count_append] at ih ⊢
      omega

/-- An item that is put into a tree is listed there beside what was listed before. -/
theorem count_listed_insertFrom (item : NavItem) (path : List String) (slug : String)
    (g : NavGroup) :
    (insertFrom slug item path g).listed.count l =
      g.listed.count l + (listedItems [item]).count l := by
  induction path generalizing slug g with
  | nil =>
    obtain ⟨title, children, items, css⟩ := g
    simp only [insertFrom, listed, listedItems, List.filterMap_append, List.count_append]
    omega
  | cons segment rest ih =>
    obtain ⟨title, children, items, css⟩ := g
    have hput := count_listedChildren_put (l := l) (extend slug segment)
      (insertFrom (extend slug segment) item rest
        ((children.lookup (extend slug segment)).getD { heading := extend slug segment })) children
    rw [ih] at hput
    simp only [insertFrom, listed, List.count_append]
    cases hc : children.lookup (extend slug segment) with
    | none =>
      simp only [hc, Option.getD_none, Option.map_none, listed, listedItems, listedChildren,
        List.filterMap_nil, List.append_nil, List.count_nil] at hput ⊢
      omega
    | some child =>
      simp only [hc, Option.getD_some, Option.map_some] at hput ⊢
      omega

end

theorem listedChildren_eq_flatMap (children : List (String × NavGroup)) :
    listedChildren children = children.flatMap fun c => c.2.listed := by
  induction children with
  | nil => rfl
  | cons child rest ih => rw [listedChildren, ih, List.flatMap_cons]

/-- The longnames of a tree are those of its items in the order in which they are rendered. -/
theorem listed_eq (level : Int) (g : NavGroup) :
    g.listed = (g.placedItems level).filterMap fun p => p.2.doclet.map Doclet.longnameOrEmpty := by
  induction g using induct_children generalizing level with
  | h g ih =>
    have hitems : listedItems g.items = (g.items.map (level, ·)).filterMap
        fun p => p.2.doclet.map Doclet.longnameOrEmpty := by
      rw [List.filterMap_map]
      rfl
    have hchildren : listedChildren g.children =
        (g.children.flatMap (·.2.placedItems (level + 1))).filterMap
          fun p => p.2.doclet.map Doclet.longnameOrEmpty := by
      rw [listedChildren_eq_flatMap, List.filterMap_flatMap]
      exact List.flatMap_congr fun c hc => ih c hc _
    rw [placedItems_eq, List.filterMap_append, ← hitems, ← hchildren]
    cases g
    rw [listed]

/-! ## Adding entries -/

/-- Of some names those that were not seen before are listed once more, and all are seen then. -/
structure Lists (names seen seen' before after : List String) : Prop where
  seen_iff : ∀ l, l ∈ seen' ↔ l ∈ seen ∨ l ∈ names
  count_eq : ∀ l, after.count l = before.count l + if l ∈ names ∧ l ∉ seen then 1 else 0

theorem Lists.nil (seen before : List String) : Lists [] seen seen before before :=
  ⟨fun _ => by simp, fun _ => by simp⟩

theorem Lists.append {names names' seen seen' seen'' before between after : List String}
    (h : Lists names seen seen' before between) (h' : Lists names' seen' seen'' between after) :
    Lists (names ++ names') seen seen'' before after := by
  refine ⟨fun l => ?_, fun l => ?_⟩
  · rw [h'.seen_iff, h.seen_iff, List.mem_append, or_assoc]
  · rw [h'.count_eq, h.count_eq]
    have hseen := h.seen_iff l
    by_cases hs : l ∈ seen <;> by_cases hn : l ∈ names <;> by_cases hn' : l ∈ names' <;>
      simp [hs, hn, hn', hseen]

/-- The longnames of entries; those without one are only named. -/
def longnamesOf (entries : List NavEntry) : List String :=
  (entries.map NavEntry.longname).filter (· != "")

theorem longnamesOf_symbol {d : Doclet} (h : d.longnameOrEmpty ≠ "") :
    longnamesOf [.symbol d] = [d.longnameOrEmpty] := by
  simpa [longnamesOf, NavEntry.longname] using h

section
variable {s : Store} {settings : Settings} {link : LinkMaker} {g g' : NavGroup}
  {state state' : NavState}

/-- The step lemma: an entry is listed under its longname unless it was seen. -/
theorem Added.lists {entry : NavEntry} (h : Added s settings link g state entry g' state') :
    Lists (longnamesOf [entry]) state.seen state'.seen g.listed g'.listed := by
  cases h with
  | named _ hempty =>
    have hnone : longnamesOf [entry] = [] := by simp [longnamesOf, hempty]
    rw [hnone]
    exact ⟨fun _ => by simp, fun l => by simp [insert, count_listed_insertFrom, listedItems]⟩
  | seen hne hseen =>
    rename_i d
    rw [longnamesOf_symbol hne]
    refine ⟨fun l => ?_, fun l => ?_⟩
    · rw [List.mem_singleton]
      exact ⟨.inl, fun hl => hl.elim id fun he => he ▸ hseen⟩
    · rw [if_neg (fun hl => hl.2 (List.mem_singleton.mp hl.1 ▸ hseen)), Nat.add_zero]
  | listed hne hseen hdetails =>
    rename_i d _
    rw [longnamesOf_symbol hne]
    refine ⟨fun l => by simp, fun l => ?_⟩
    rw [insert, count_listed_insertFrom]
    by_cases hl : l = d.longnameOrEmpty
    · simp [listedItems, hl, hseen]
    · simp [listedItems, hl, Ne.symm hl]

theorem lists_addEntries {entries : List NavEntry}
    (h : addEntries s settings link g state entries = .ok (g', state')) :
    Lists (longnamesOf entries) state.seen state'.seen g.listed g'.listed := by
  induction entries generalizing g state with
  | nil =>
    cases h
    exact .nil ..
  | cons entry rest ih =>
    obtain ⟨g₁, state₁, hentry, hrest⟩ := addEntries_cons_ok h
    have happend : longnamesOf (entry :: rest) = longnamesOf [entry] ++ longnamesOf rest := by
      rw [longnamesOf, longnamesOf, longnamesOf, ← List.filter_append, ← List.map_append]
      rfl
    rw [happend]
    exact hentry.lists.append (ih hrest)

end

/-! ## Settings that have no part in it -/

theorem addEntries_order (order : List Section) (s : Store) (settings : Settings)
    (link : LinkMaker) (g : NavGroup) (state : NavState) (entries : List NavEntry) :
    addEntries s { settings with sectionOrder := order } link g state entries =
      addEntries s settings link g state entries := by
  induction entries generalizing g state with
  | nil => rfl
  | cons entry rest ih =>
    have hentry : addEntry s { settings with sectionOrder := order } link g state entry =
        addEntry s settings link g state entry := rfl
    rw [addEntries, addEntries, hentry]
    split
    · rfl
    · exact ih _ _

end NavGroup

/-! ## The trees of all sections -/

namespace Sidebar

/-- The longnames of what a section is about; tutorials have none. -/
def longnames (s : Store) : Section → List String
  | .tutorials => []
  | section_ => ((s.ofKind (kindOf section_)).map Doclet.longnameOrEmpty).filter (· != "")

/-- The sections that claim what they list, in the order in which they do. -/
def claimants : List Section := [.classes, .externals, .events, .namespaces, .mixins, .interfaces]

/-- The first section with a longname among those that claim. -/
def firstClaim (s : Store) (l : String) : Option Section :=
  claimants.find? fun section_ => (longnames s section_).contains l

/-- The longnames that a section lists. -/
def listing (trees : List (Section × NavGroup)) (section_ : Section) : List String :=
  ((trees.lookup section_).map NavGroup.listed).getD []

/-- The first section with a longname among some sections, unless it was seen. -/
def nextClaim (s : Store) (seen : List String) (sections : List Section) (l : String) :
    Option Section :=
  if l ∈ seen then none else sections.find? fun σ => claims σ && (longnames s σ).contains l

section
variable {s : Store} {settings : Settings} {tutorials : List Tutorial}

theorem longnamesOf_entriesOf (section_ : Section) :
    NavGroup.longnamesOf (entriesOf s tutorials section_) = longnames s section_ := by
  cases section_ with
  | tutorials =>
    simp [entriesOf, longnames, NavGroup.longnamesOf, NavEntry.longname]
  | _ => rw [NavGroup.longnamesOf, entriesOf, List.map_map] <;> first | rfl | exact Section.noConfusion

theorem nextClaim_all (l : String) : nextClaim s [] Section.all l = firstClaim s l := by
  have hall : Section.all.filter claims = claimants := by decide
  rw [nextClaim, if_neg List.not_mem_nil, firstClaim, ← hall, List.find?_filter]
  congr 1
  funext σ
  simp

/-- The step lemma: a section that claims takes what it is first to have, and the others choose
from the rest. -/
theorem nextClaim_cons {seen seen' : List String} {section_ : Section} {rest : List Section}
    (hclaims : claims section_ = true)
    (hseen : ∀ l, l ∈ seen' ↔ l ∈ seen ∨ l ∈ longnames s section_) (l : String) :
    nextClaim s seen (section_ :: rest) l =
      if l ∈ longnames s section_ ∧ l ∉ seen then some section_ else nextClaim s seen' rest l := by
  unfold nextClaim
  by_cases hs : l ∈ seen
  · simp [hs, hseen]
  · by_cases hl : l ∈ longnames s section_ <;> simp [hs, hl, hseen, hclaims]

theorem nextClaim_cons_of_not_claims {section_ : Section} (hclaims : claims section_ = false)
    (seen : List String) (rest : List Section) (l : String) :
    nextClaim s seen (section_ :: rest) l = nextClaim s seen rest l := by
  simp [nextClaim, hclaims]

theorem mem_of_nextClaim {seen : List String} {sections : List Section} {l : String}
    {section_ : Section} (h : nextClaim s seen sections l = some section_) :
    section_ ∈ sections := by
  rw [nextClaim] at h
  split at h
  · cases h
  · exact List.mem_of_find?_eq_some h

/-- What building the trees of some sections does: a section that claims lists the longnames it is
first to have, another one lists all it has, and what was claimed is seen. -/
structure Claimed (s : Store) (seen seen' : List String) (sections : List Section)
    (trees : List (Section × NavGroup)) : Prop where
  seen_iff : ∀ l, l ∈ seen' ↔ l ∈ seen ∨ (nextClaim s seen sections l).isSome
  once : ∀ σ ∈ sections, claims σ = true → ∀ l,
    (listing trees σ).count l = if nextClaim s seen sections l = some σ then 1 else 0
  all : ∀ σ ∈ sections, claims σ = false → ∀ l,
    (listing trees σ).count l = if l ∈ longnames s σ then 1 else 0

theorem listing_cons_self (σ : Section) (tree : NavGroup) (trees : List (Section × NavGroup)) :
    listing ((σ, tree) :: trees) σ = tree.listed := by
  simp [listing]

theorem listing_cons_of_ne {σ τ : Section} (h : τ ≠ σ) (tree : NavGroup)
    (trees : List (Section × NavGroup)) :
    listing ((σ, tree) :: trees) τ = listing trees τ := by
  have h' : (τ == σ) = false := by simpa using h
  rw [listing, List.lookup_cons, h', listing]

theorem claimed_buildTrees {sections : List Section} {state state' : NavState}
    {trees : List (Section × NavGroup)} (distinct : sections.Nodup)
    (h : buildTrees s settings tutorials state sections = .ok (trees, state')) :
    Claimed s state.seen state'.seen sections trees := by
  induction sections generalizing state trees with
  | nil =>
    cases h
    exact ⟨fun l => by simp [nextClaim], fun _ hσ => absurd hσ List.not_mem_nil,
      fun _ hσ => absurd hσ List.not_mem_nil⟩
  | cons σ rest ih =>
    obtain ⟨hfresh, distinct⟩ := List.nodup_cons.mp distinct
    obtain ⟨tree, after, later, hbuild, hrest, rfl⟩ := buildTrees_cons_ok h
    have hhead : NavGroup.Lists (NavGroup.longnamesOf (entriesOf s tutorials σ))
        (if claims σ then state.seen else []) after.seen [] tree.listed :=
      NavGroup.lists_addEntries hbuild
    rw [longnamesOf_entriesOf] at hhead
    have htail := ih distinct hrest
    have hne : ∀ τ ∈ rest, τ ≠ σ := fun τ hτ he => hfresh (he ▸ hτ)
    -- A section that claims shares what is seen, another one starts from nothing.
    cases hclaims : claims σ with
    | true =>
      simp only [hclaims, if_true] at hhead htail
      have hnext : ∀ l, nextClaim s state.seen (σ :: rest) l = _ :=
        nextClaim_cons hclaims hhead.seen_iff
      refine ⟨fun l => ?_, fun τ hτ hc l => ?_, fun τ hτ hc l => ?_⟩
      · rw [htail.seen_iff, hhead.seen_iff, hnext]
        by_cases hs : l ∈ state.seen <;> by_cases hl : l ∈ longnames s σ <;> simp [hs, hl]
      · rcases List.mem_cons.mp hτ with rfl | hτ
        · rw [listing_cons_self, hhead.count_eq, hnext]
          have hother : nextClaim s after.seen rest l ≠ some τ :=
            fun he => hfresh (mem_of_nextClaim he)
          by_cases hl : l ∈ longnames s τ ∧ l ∉ state.seen <;> simp [hl, hother]
        · rw [listing_cons_of_ne (hne τ hτ), htail.once τ hτ hc, hnext]
          by_cases hl : l ∈ longnames s σ ∧ l ∉ state.seen
          · have hnone : nextClaim s after.seen rest l = none :=
              if_pos ((hhead.seen_iff l).mpr (.inr hl.1))
            simp [hl, hnone, (hne τ hτ).symm]
          · rw [if_neg hl]
      · rcases List.mem_cons.mp hτ with rfl | hτ
        · rw [hclaims] at hc
          cases hc
        · rw [listing_cons_of_ne (hne τ hτ), htail.all τ hτ hc]
    | false =>
      simp only [hclaims, Bool.false_eq_true, if_false] at hhead htail
      have hnext := nextClaim_cons_of_not_claims (s := s) hclaims state.seen rest
      refine ⟨fun l => ?_, fun τ hτ hc l => ?_, fun τ hτ hc l => ?_⟩
      · rw [htail.seen_iff, hnext]
      · rcases List.mem_cons.mp hτ with rfl | hτ
        · rw [hclaims] at hc
          cases hc
        · rw [listing_cons_of_ne (hne τ hτ), htail.once τ hτ hc, hnext]
      · rcases List.mem_cons.mp hτ with rfl | hτ
        · rw [listing_cons_self, hhead.count_eq]
          simp
        · rw [listing_cons_of_ne (hne τ hτ), htail.all τ hτ hc]

theorem buildTrees_order (order : List Section) (sections : List Section) (state : NavState) :
    buildTrees s { settings with sectionOrder := order } tutorials state sections =
      buildTrees s settings tutorials state sections := by
  induction sections generalizing state with
  | nil => rfl
  | cons σ rest ih =>
    simp only [buildTrees, NavGroup.build, NavGroup.addEntries_order, ih]

end

/-! ## The globals -/

theorem mem_linkedGlobals {listTypedefs : Bool} {seen : List String} {ds : List Doclet}
    {d : Doclet} (h : d ∈ linkedGlobals listTypedefs seen ds) : d.longnameOrEmpty ∉ seen := by
  induction ds generalizing seen with
  | nil => cases h
  | cons first rest ih =>
    rw [linkedGlobals] at h
    dsimp only at h
    have hrest : d ∈ linkedGlobals listTypedefs (first.longnameOrEmpty :: seen) rest →
        d.longnameOrEmpty ∉ seen := fun hd hs => ih hd (List.mem_cons_of_mem _ hs)
    split at h
    · exact ih h
    · split at h
      · rename_i hlinked
        rcases List.mem_cons.mp h with rfl | hd
        · simp only [Bool.and_eq_true, Bool.not_eq_true', List.contains_eq_mem,
            decide_eq_false_iff_not] at hlinked
          exact hlinked.2
        · exact hrest hd
      · exact hrest h

theorem nodup_linkedGlobals (listTypedefs : Bool) (seen : List String) (ds : List Doclet) :
    ((linkedGlobals listTypedefs seen ds).map Doclet.longnameOrEmpty).Nodup := by
  induction ds generalizing seen with
  | nil => exact List.nodup_nil
  | cons first rest ih =>
    rw [linkedGlobals]
    dsimp only
    split
    · exact ih seen
    · split
      · rw [List.map_cons, List.nodup_cons]
        refine ⟨fun hmem => ?_, ih _⟩
        obtain ⟨d, hd, he⟩ := List.mem_map.mp hmem
        exact mem_linkedGlobals hd (he ▸ List.mem_cons_self)
      · exact ih _

/-! ## What a section shows -/

/-- Markup shows longnames: it is a row of blocks whose items have just these. -/
def Shows (settings : Settings) (part : Html) (longnames : List String) : Prop :=
  ∃ bs : List Menu.Block, part = .each bs (Menu.Block.markup settings.skipEmptyGroups) ∧
    (bs.filterMap Menu.Block.item?).filterMap (fun p => p.2.doclet.map Doclet.longnameOrEmpty) =
      longnames

/-- A section shows what its tree lists. -/
theorem shows_sectionPart (settings : Settings) (trees : List (Section × NavGroup))
    (section_ : Section) :
    Shows settings (sectionPart settings trees section_) (listing trees section_) := by
  unfold sectionPart listing
  cases trees.lookup section_ with
  | none => exact ⟨[], rfl, rfl⟩
  | some tree =>
    refine ⟨Menu.blocks settings.skipEmptyGroups 0 tree, Menu.render_eq_each_blocks, ?_⟩
    rw [Menu.filterMap_blocks, Option.map_some, Option.getD_some, tree.listed_eq 0]

/-! ## The sidebar -/

section
variable {s : Store} {settings : Settings} {tutorials : List Tutorial} {r r' : Registry}
  {html : Html}

theorem render_order {trees : List (Section × NavGroup)} {state : NavState}
    (h : buildTrees s settings tutorials ⟨r, []⟩ Section.all = .ok (trees, state))
    (order : List Section) :
    render s { settings with sectionOrder := order } tutorials r =
      .ok (assembled s settings r trees state order, state.registry) := by
  unfold render
  rw [buildTrees_order, h]
  rfl

/-- Of the sections that claim, the first one with a longname lists it, once, and the others do
not; modules are all listed, each once; the globals that are linked are each linked once and none
of them is listed by a section that claims. The order in which the sections are shown selects
among the same trees, and a section that is shown has an entry for each item of its tree. -/
theorem render_lists_once (h : render s settings tutorials r = .ok (html, r')) :
    ∃ trees state, buildTrees s settings tutorials ⟨r, []⟩ Section.all = .ok (trees, state) ∧
      html = assembled s settings r trees state settings.sectionOrder ∧
      (∀ order, render s { settings with sectionOrder := order } tutorials r =
        .ok (assembled s settings r trees state order, r')) ∧
      (∀ σ, Shows settings (sectionPart settings trees σ) (listing trees σ)) ∧
      (∀ σ ∈ claimants, ∀ l,
        (listing trees σ).count l = if firstClaim s l = some σ then 1 else 0) ∧
      (∀ l, (listing trees .modules).count l = if l ∈ longnames s .modules then 1 else 0) ∧
      ((linkedGlobals settings.listTypedefs state.seen s.globals).map
        Doclet.longnameOrEmpty).Nodup ∧
      ∀ d ∈ linkedGlobals settings.listTypedefs state.seen s.globals,
        firstClaim s d.longnameOrEmpty = none := by
  obtain ⟨trees, state, hbuild, hr, hhtml⟩ := render_ok h
  have hclaimed := claimed_buildTrees (by decide) hbuild
  have hclaims : ∀ σ ∈ claimants, σ ∈ Section.all ∧ claims σ = true := by decide
  refine ⟨trees, state, hbuild, hhtml, fun order => hr ▸ render_order hbuild order,
    shows_sectionPart settings trees, fun σ hσ l => ?_, fun l => ?_, nodup_linkedGlobals _ _ _,
    fun d hd => ?_⟩
  · rw [hclaimed.once σ (hclaims σ hσ).1 (hclaims σ hσ).2, nextClaim_all]
  · exact hclaimed.all .modules (by decide) (by decide) l
  · have hseen := mem_linkedGlobals hd
    rw [hclaimed.seen_iff, nextClaim_all] at hseen
    simpa using hseen

/-- A class, a namespace and a function of one name, and a function beside them. -/
def sharedName : Store :=
  ⟨[{ kind := "function", name := "a", longname := some "a" },
    { kind := "namespace", name := "a", longname := some "a" },
    { kind := "class", name := "a", longname := some "a" },
    { kind := "function", name := "b", longname := some "b" }]⟩

/-- The class is listed, the namespace and the function of its name are not. -/
theorem sharedName_lists_once :
    ∃ html r', render sharedName {} [] {} = .ok (html, r') ∧
      ∃ trees state, buildTrees sharedName {} [] ⟨{}, []⟩ Section.all = .ok (trees, state) ∧
        (listing trees .classes).count "a" = 1 ∧ (listing trees .namespaces).count "a" = 0 ∧
        ∀ d ∈ linkedGlobals false state.seen sharedName.globals, d.longnameOrEmpty ≠ "a" := by
  have hfirst : firstClaim sharedName "a" = some .classes := by decide +kernel
  have hruns : (render sharedName {} [] {}).toOption.isSome = true := by decide +kernel
  cases h : render sharedName {} [] {} with
  | error e =>
    rw [h] at hruns
    cases hruns
  | ok p =>
    obtain ⟨trees, state, hbuild, -, -, -, honce, -, -, hglobals⟩ := render_lists_once h
    refine ⟨p.1, p.2, rfl, trees, state, hbuild, ?_, ?_, fun d hd he => ?_⟩
    · rw [honce .classes (by decide), hfirst, if_pos rfl]
    · rw [honce .namespaces (by decide), hfirst]
      rfl
    · have hnone := hglobals d hd
      rw [he, hfirst] at hnone
      cases hnone

end

end Sidebar

end DocSite
