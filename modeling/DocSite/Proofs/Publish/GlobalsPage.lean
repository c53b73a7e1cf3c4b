import DocSite.Proofs.Publish.Signatures

/-! What the page of globals lists. The page asks the store for the doclets of a kind that have no
container; the globals are those of them that no module exports directly. So every global is listed,
in the order of the store, and beside the globals the exports that name no container. -/
namespace DocSite
set_option autoImplicit false

/-- What is kept of a doclet until pages are written. Constants become members, and externals may
lose the quotes of their name. -/
structure Doclet.ShownFrom (shown d : Doclet) : Prop where
  kind : shown.kind = if d.kind = "constant" then "member" else d.kind
  memberof : shown.memberof = d.memberof
  longname : shown.longname = d.longname
  name : d.kind ≠ "external" → shown.name = d.name

/-- A doclet that a module exports directly and that names no container, of a kind that is global
without one. -/
def Doclet.IsStrayExport (d : Doclet) : Prop :=
  d.kind ∈ Store.globalKinds ∧ d.memberof = none ∧ d.isModuleExports = true

namespace Page

/-- The kinds that the page of globals lists as members, methods and type definitions. -/
def listedKinds : List String := ["member", "function", "typedef"]

/-- Lists of doclets under the headings of the page of globals. -/
def listsOf (c : Context) (under : String → List Doclet) : Html :=
  .raw "\n" ++ .raw "\n" ++ .raw "\n" ++
  descriptions "Members" (readable c) (under "member") ++ .raw "\n" ++
  descriptions "Methods" (callable c) (under "function") ++ .raw "\n" ++
  descriptions "Type Definitions" (typedef c) (under "typedef") ++ .raw "\n" ++
  descriptions "Events" (callable c) (under "event")

theorem belongings_none (c : Context) : belongings c none = listsOf c (membersOf c none) := by
  simp [belongings, listsOf, Html.when]

section
variable {c : Context}

theorem mem_membersOf {container : Option String} {kind : String} {d : Doclet} :
    d ∈ membersOf c container kind ↔
      d ∈ c.store.doclets ∧ d.kind = kind ∧ d.memberof = container := by
  simp [membersOf, Store.find]

/-- The globals of a kind are those without a container that no module exports. -/
theorem globals_ofKind {kind : String} (h : kind ∈ listedKinds) :
    c.store.globals.filter (·.kind == kind) =
      (membersOf c none kind).filter (!·.isModuleExports) := by
  have hglobal : kind ∈ Store.globalKinds := by
    simp only [listedKinds, List.mem_cons, List.not_mem_nil, or_false] at h
    rcases h with rfl | rfl | rfl <;> decide
  rw [Store.globals, membersOf, Store.find, Store.find, List.filter_filter, List.filter_filter]
  refine List.filter_congr fun d _ => ?_
  by_cases hk : d.kind = kind
  · cases d.memberof <;> simp [hk, hglobal]
  · simp [beq_eq_false_iff_ne.mpr hk]

end
end Page

namespace Doclet.ShownFrom

variable {shown d : Doclet}

theorem kind_ne_constant (h : shown.ShownFrom d) : shown.kind ≠ "constant" := by
  rw [h.kind]
  split
  · decide
  · assumption

/-- A doclet that is shown under a kind of globals was of one before. -/
theorem kind_mem_iff (h : shown.ShownFrom d) :
    shown.kind ∈ Page.listedKinds ↔ d.kind ∈ Store.globalKinds := by
  rw [h.kind]
  by_cases hk : d.kind = "constant"
  · rw [if_pos hk, hk]
    decide
  · simp [hk, Page.listedKinds, Store.globalKinds]

theorem isModuleExports (h : shown.ShownFrom d) (hk : d.kind ∈ Store.globalKinds) :
    shown.isModuleExports = d.isModuleExports := by
  have hexternal : d.kind ≠ "external" := by
    intro he
    rw [he] at hk
    revert hk
    decide
  have hmodule : (shown.kind != "module") = (d.kind != "module") := by
    rw [h.kind]
    split
    · rename_i hc
      rw [hc]
      rfl
    · rfl
  rw [Doclet.isModuleExports, Doclet.isModuleExports, hmodule, h.longname, h.name hexternal]

/-- A doclet is listed as an export that names no container just where it was one. -/
theorem isStrayExport_iff (h : shown.ShownFrom d) :
    d.IsStrayExport ↔
      shown.kind ∈ Page.listedKinds ∧ shown.memberof = none ∧ shown.isModuleExports = true := by
  unfold IsStrayExport
  rw [h.kind_mem_iff, h.memberof]
  refine and_congr_right fun hk => ?_
  rw [h.isModuleExports hk]

end Doclet.ShownFrom

namespace Site

section
variable {settings : Settings} {store : Store} {tutorial : Tutorial} {readme : Option String}
  {files : FileTree} {out : Path} {around : Surroundings} {sidebar : Html} {start t : Site}

theorem shownFrom_signed (l : TypeLinker) (r : Registry) (table : Table Doclet) (d : Doclet) :
    (addTrail l r table (addCall l r d)).ShownFrom d := by
  have hkind := addTrail_kind l r table (addCall l r d)
  obtain ⟨_, _, _, _, htrail⟩ := addTrail_frame l r table (addCall l r d)
  obtain ⟨_, _, hcall⟩ := addCall_frame l r d
  rw [htrail] at hkind ⊢
  rw [hcall] at hkind ⊢
  exact ⟨hkind, rfl, rfl, fun _ => rfl⟩

theorem shownFrom_locate (sources : List Source.File) {shown d : Doclet}
    (h : shown.ShownFrom (locate sources d)) : shown.ShownFrom d := by
  unfold locate at h
  split at h
  · split at h
    · exact h
    · exact ⟨h.kind, h.memberof, h.longname, h.name⟩
  · exact h

theorem shownFrom_unquoted {shown d : Doclet} (h : shown.ShownFrom d) :
    (if shown.kind == "external" then { shown with name := unquoted shown.name }
      else shown).ShownFrom d := by
  by_cases hk : shown.kind = "external"
  · rw [if_pos (by simpa using hk)]
    refine ⟨h.kind, h.memberof, h.longname, fun hd => absurd ?_ hd⟩
    have hkind := h.kind
    rw [hk] at hkind
    split at hkind
    · exact absurd hkind (by decide)
    · exact hkind.symm
  · rw [if_neg (by simpa using hk)]
    exact h

/-- Pages show the doclets that the run started with, in their order. -/
theorem exists_shown (h : ready settings store tutorial files out around = .ok (sidebar, start)) :
    ∃ f : Doclet → Doclet,
      start.store.doclets =
        (Site.start settings store files out).store.doclets.map f ∧
      ∀ d, (f d).ShownFrom d := by
  obtain ⟨hstore, -⟩ := ready_addressed h
  rw [hstore, addressed]
  simp only [Store.unquoteExternals, addSignatures, Store.map, registerAll_store, List.map_map]
  refine ⟨_, rfl, fun d => ?_⟩
  exact shownFrom_unquoted (shownFrom_locate _ (shownFrom_signed ..))

/-- The page of globals lists the doclets of each kind that name no container. The globals, each of
a kind that is listed, are those of them that no module exports, in the same order; so the page
lists the globals alone just where no export went without a container. -/
theorem globals_page_lists_iff
    (h : ready settings store tutorial files out around = .ok (sidebar, start))
    (hc : ComesTo sidebar (sourcesOf settings store files out) readme tutorial.children start
      .globals t) :
    Page.belongings t.context none = Page.listsOf t.context (Page.membersOf t.context none) ∧
    (∀ d ∈ t.store.globals, d.kind ∈ Page.listedKinds) ∧
    (∀ kind ∈ Page.listedKinds, t.store.globals.filter (·.kind == kind) =
      (Page.membersOf t.context none kind).filter (!·.isModuleExports)) ∧
    ((∀ kind ∈ Page.listedKinds,
        Page.membersOf t.context none kind = t.store.globals.filter (·.kind == kind)) ↔
      ∀ d ∈ (Site.start settings store files out).store.doclets, ¬d.IsStrayExport) := by
  obtain ⟨f, hdoclets, hshown⟩ := exists_shown h
  have hstore : t.store = start.store := (hc.onward (fresh_ready h).1.sound).1.store
  have hof : ∀ d, d ∈ t.store.doclets ↔
      ∃ e ∈ (Site.start settings store files out).store.doclets, f e = d := by
    intro d
    rw [hstore, hdoclets, List.mem_map]
  have hglobals : ∀ kind ∈ Page.listedKinds, t.store.globals.filter (·.kind == kind) =
      (Page.membersOf t.context none kind).filter (!·.isModuleExports) :=
    fun kind hk => Page.globals_ofKind (c := t.context) hk
  refine ⟨Page.belongings_none _, fun d hd => ?_, hglobals, ?_⟩
  · obtain ⟨hd, hglobal⟩ := List.mem_filter.mp hd
    obtain ⟨e, -, rfl⟩ := (hof d).mp hd
    simp only [Bool.and_eq_true, List.contains_iff_mem] at hglobal
    have hne := (hshown e).kind_ne_constant
    have hkind := hglobal.1.1
    simpa [Store.globalKinds, Page.listedKinds, hne] using hkind
  · constructor
    · intro hsame e he hstray
      obtain ⟨hkind, hmemberof, hexport⟩ := (hshown e).isStrayExport_iff.mp hstray
      have hlisted : f e ∈ Page.membersOf t.context none (f e).kind :=
        Page.mem_membersOf.mpr ⟨(hof (f e)).mpr ⟨e, he, rfl⟩, rfl, hmemberof⟩
      rw [hsame _ hkind, hglobals _ hkind] at hlisted
      simp [hexport] at hlisted
    · intro hnone kind hk
      rw [hglobals kind hk]
      refine (List.filter_eq_self.mpr fun d hd => ?_).symm
      obtain ⟨hd, hkind, hmemberof⟩ := Page.mem_membersOf.mp hd
      obtain ⟨e, he, rfl⟩ := (hof d).mp hd
      cases hexport : (f e).isModuleExports with
      | false => rfl
      | true =>
        exact absurd ((hshown e).isStrayExport_iff.mpr ⟨hkind ▸ hk, hmemberof, hexport⟩)
          (hnone e he)

/-- Without listings, a run comes to the page of globals in the state in which it is ready. -/
theorem comesTo_globals
    (h : ready settings store tutorial files out around = .ok (sidebar, start))
    (hlist : settings.listSources = false) (hglobals : start.store.globals.isEmpty = false) :
    ComesTo sidebar (sourcesOf settings store files out) readme tutorial.children start .globals
      start := by
  have hlistings : writeListings sidebar (sourcesOf settings store files out) start =
      .ok start := by
    rw [writeListings, (fresh_ready h).2.1, hlist]
    rfl
  have hsplit : ∃ after, pageJobs readme tutorial.children start = [] ++ .globals :: after := by
    rw [pageJobs, hglobals]
    exact ⟨_, rfl⟩
  obtain ⟨after, hsplit⟩ := hsplit
  exact .page hlistings hsplit rfl

end

/-- A module exports a function directly, and beside them there is a global. -/
def exportedFunction : Store :=
  ⟨[{ kind := "function", name := "f", longname := some "f", scope := some "global" },
    { position := 1, kind := "function", name := "module:m", longname := some "module:m" }]⟩

/-- The page of globals lists the export as a method. -/
theorem exportedFunction_listed :
    ∃ sidebar start,
      ready plainSettings exportedFunction .root plainTheme (Path.ofString "out") {} =
        .ok (sidebar, start) ∧
      ComesTo sidebar (sourcesOf plainSettings exportedFunction plainTheme (Path.ofString "out"))
        none Tutorial.root.children start .globals start ∧
      ¬∀ kind ∈ Page.listedKinds, Page.membersOf start.context none kind =
        start.store.globals.filter (·.kind == kind) := by
  have hglobals : (ready plainSettings exportedFunction .root plainTheme (Path.ofString "out")
      {}).toOption.map (fun p => p.2.store.globals.isEmpty) = some false := by
    simp only [ready, Registry.addTutorials, Tutorial.root]
    decide +kernel
  have hstray : ∃ d ∈ (Site.start plainSettings exportedFunction plainTheme
      (Path.ofString "out")).store.doclets,
      d.kind ∈ Store.globalKinds ∧ d.memberof = none ∧ d.isModuleExports = true := by
    decide +kernel
  cases hready : ready plainSettings exportedFunction .root plainTheme (Path.ofString "out")
      {} with
  | error e =>
    rw [hready] at hglobals
    cases hglobals
  | ok found =>
    obtain ⟨sidebar, start⟩ := found
    rw [hready] at hglobals
    have hcomes : ComesTo sidebar (sourcesOf plainSettings exportedFunction plainTheme
        (Path.ofString "out")) none Tutorial.root.children start .globals start :=
      comesTo_globals hready rfl (Option.some.inj hglobals)
    obtain ⟨-, -, -, hiff⟩ := globals_page_lists_iff hready hcomes
    refine ⟨sidebar, start, rfl, hcomes, fun hsame => ?_⟩
    obtain ⟨d, hd, hexport⟩ := hstray
    exact hiff.mp hsame d hd hexport

end Site
end DocSite
