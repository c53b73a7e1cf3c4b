import DocSite.Proofs.Doclet.Sorted
import DocSite.Proofs.Nav.Within
import DocSite.Proofs.Page.Within
import DocSite.Proofs.Publish.Run

/-! Where the links on the pages of a run lead. Doclets that carry no link are given links while
they are prepared, pages take theirs from doclets, from the sidebar and from the registry; all of
them are explained by the registry in the end. -/
namespace DocSite
open Registry (Hosted Sound Reaches Quiet Later Leads)
set_option autoImplicit false

/-- The hosts of the doclets of a run; none for those among the globals. -/
def Site.hostsOf (settings : Settings) (store : Store) (files : FileTree) (out : Path) :
    List (Option String) := (Site.start settings store files out).store.doclets.map Doclet.host?

/-! ## Preparing a store -/

namespace Store

section
variable {P : String → Prop} {s : Store}

theorem Within.prune (h : s.Within P) (includePrivate : Bool) : (s.prune includePrivate).Within P :=
  fun d hd => h d (List.mem_of_mem_filter hd)

theorem Within.sort (h : s.Within P) (spec : String) : (s.sort spec).Within P :=
  fun d hd => h d ((orderBy_perm _ s.doclets).mem_iff.mp hd)

theorem Within.addListeners (h : s.Within P) : s.addListeners.Within P := by
  refine h.map fun d hd => ?_
  split
  · exact ⟨hd.signature, hd.attributes, hd.ancestors, hd.see⟩
  · exact hd

theorem Within.unquoteExternals (h : s.Within P) : s.unquoteExternals.Within P := by
  refine h.map fun d hd => ?_
  split
  · exact ⟨hd.signature, hd.attributes, hd.ancestors, hd.see⟩
  · exact hd

end

end Store

namespace Site

section
variable {G : Prop} {P : String → Prop} {r R : Registry} {s s' : Site}

theorem within_prepareStore {store : Store} (h : store.Within P) (settings : Settings) :
    (prepareStore settings store).Within P := by
  have hprune := h.prune settings.includePrivate
  unfold prepareStore
  dsimp only
  split
  · exact (hprune.sort _).addListeners
  · exact hprune.addListeners

theorem within_linkReferences (hs : Sound r) (hR : Sound R) {d : Doclet}
    (hG : d.host? = none → G) {refs : List Reference}
    (h : ∀ ref ∈ refs, ref.Within (Leads G R)) (hlater : Later (linkReferences r d refs).2 R) :
    ∀ ref ∈ (linkReferences r d refs).1, ref.Within (Leads G R) := by
  induction refs generalizing r with
  | nil => exact fun _ hm => absurd hm List.not_mem_nil
  | cons ref rest ih =>
    have hrest : ∀ ref ∈ rest, ref.Within (Leads G R) := fun x hx => h x (List.mem_cons_of_mem _ hx)
    cases ref with
    | symbol see =>
      rw [linkReferences] at hlater ⊢
      dsimp only at hlater ⊢
      have hfirst := r.hosting_memberReference d see
      have hothers := hosting_linkReferences (r.memberReference d see).2 d rest
      refine List.forall_mem_cons.mpr ⟨?_, ih (hfirst.sound hs) hrest hlater⟩
      exact Registry.within_memberReference hs hR hG (hothers.later.trans hlater)
    | link markup =>
      rw [linkReferences] at hlater ⊢
      exact List.forall_mem_cons.mpr ⟨h _ (List.mem_cons_self ..), ih hs hrest hlater⟩

theorem within_normalizeAll (hs : Sound r) (hR : Sound R) {ds : List Doclet}
    (hG : ∀ d ∈ ds, d.host? = none → G) (h : ∀ d ∈ ds, d.Within (Leads G R))
    (hlater : Later (normalizeAll r ds).2 R) :
    ∀ d ∈ (normalizeAll r ds).1, d.Within (Leads G R) := by
  induction ds generalizing r with
  | nil => exact fun _ hm => absurd hm List.not_mem_nil
  | cons d rest ih =>
    have hd := h d (List.mem_cons_self ..)
    rw [normalizeAll] at hlater ⊢
    dsimp only at hlater ⊢
    have hfirst := hosting_linkReferences r d d.see
    have hothers := hosting_normalizeAll (linkReferences r d d.see).2 rest
    have hsee := within_linkReferences hs hR (hG d (List.mem_cons_self ..)) hd.see
      (hothers.later.trans hlater)
    refine List.forall_mem_cons.mpr ⟨⟨hd.signature, hd.attributes, hd.ancestors, hsee⟩, ?_⟩
    exact ih (hfirst.sound hs) (fun x hx => hG x (List.mem_cons_of_mem _ hx))
      (fun x hx => h x (List.mem_cons_of_mem _ hx)) hlater

/-- Normalizing changes the examples and the references of doclets alone. -/
theorem map_host?_normalizeAll (r : Registry) (ds : List Doclet) :
    (normalizeAll r ds).1.map Doclet.host? = ds.map Doclet.host? := by
  induction ds generalizing r with
  | nil => rfl
  | cons d rest ih =>
    rw [normalizeAll]
    dsimp only
    rw [List.map_cons, List.map_cons, ih]
    rfl

/-- The doclets that a run starts with. -/
theorem within_start {settings : Settings} {store : Store} {files : FileTree} {out : Path}
    (hR : Sound R) (hG : none ∈ hostsOf settings store files out → G)
    (h : store.Within fun _ => False)
    (hlater : Later (start settings store files out).registry R) :
    (start settings store files out).store.Within (Leads G R) := by
  have hstore : store.Within (Leads G R) := fun d hd => (h d hd).mono fun _ hf => hf.elim
  have hprepared := within_prepareStore hstore settings
  refine within_normalizeAll Registry.sound_initial hR (fun d hd hh => hG ?_) ?_ hlater
  · rw [hostsOf, start, normalize]
    dsimp only
    rw [map_host?_normalizeAll]
    exact List.mem_map.mpr ⟨d, hd, hh⟩
  dsimp only
  split
  · refine Store.Within.map hprepared fun d hd => ?_
    exact ⟨hd.signature, hd.attributes, hd.ancestors, hd.see⟩
  · exact hprepared

/-! ## Signatures and trails -/

theorem within_addCall (hr : r.LinksWithin P) (l : TypeLinker) {d : Doclet} (h : d.Within P) :
    (addCall l r d).Within P := by
  have hanchor : Doclet.Within P { d with anchor := anchorOf r d } :=
    ⟨h.signature, h.attributes, h.ancestors, h.see⟩
  unfold addCall
  dsimp only
  split
  · exact (hanchor.addCallSignature hr l).addAttributes
  · exact hanchor

theorem within_addTrail (hr : r.LinksWithin P) (l : TypeLinker) (table : Table Doclet) {d : Doclet}
    (h : d.Within P) : (addTrail l r table d).Within P := by
  have htrail : Doclet.Within P { d with ancestors := ancestorLinks table r d } :=
    ⟨h.signature, h.attributes, within_ancestorLinks hr table d, h.see⟩
  have hkind : ∀ e : Doclet, e.Within P →
      (if e.kind == "constant" then { e with kind := "member" } else e).Within P := by
    intro e he
    split
    · exact ⟨he.signature, he.attributes, he.ancestors, he.see⟩
    · exact he
  refine hkind _ ?_
  split
  · exact (htrail.addTypeSignature hr l).addAttributes
  · exact htrail

theorem registerDoclet_store (s : Site) (d : Doclet) : (s.registerDoclet d).store = s.store := by
  unfold registerDoclet
  split
  · rfl
  · unfold register
    dsimp only
    split <;> rfl

theorem foldl_registerDoclet_store (ds : List Doclet) (s : Site) :
    (ds.foldl registerDoclet s).store = s.store := by
  induction ds generalizing s with
  | nil => rfl
  | cons d rest ih => exact (ih _).trans (registerDoclet_store s d)

theorem registerAll_store (s : Site) (sources : List Source.File) :
    (s.registerAll sources).store = s.store.map (locate sources) := by
  unfold Site.registerAll
  dsimp only
  rw [foldl_registerDoclet_store]

theorem within_registerAll (h : s.store.Within P) (sources : List Source.File) :
    (s.registerAll sources).store.Within P := by
  rw [registerAll_store]
  refine h.map fun d hd => ?_
  unfold locate
  split
  · split
    · exact hd
    · exact ⟨hd.signature, hd.attributes, hd.ancestors, hd.see⟩
  · exact hd

theorem within_addSignatures (h : s.store.Within P) (hr : s.registry.LinksWithin P) :
    s.addSignatures.store.Within P := by
  have hcalls := h.map fun d hd => within_addCall hr s.linker hd
  exact hcalls.map fun d hd => within_addTrail hr s.linker _ hd

/-- The doclets that pages are made of. -/
theorem within_prepare (h : s.store.Within (Leads G R)) {sources : List Source.File}
    (hp : s.prepare sources = .ok s') (hlater : Later s'.registry R) :
    s'.store.Within (Leads G R) := by
  unfold prepare at hp
  obtain ⟨s₁, h₁, hp⟩ := Fault.bind_eq_ok_iff.mp hp
  cases hp
  obtain ⟨⟨files, log, _, rfl⟩, _⟩ := onlyFiles_copyFiles h₁
  have hfiles : ({ s with files := files, log := log } : Site).store.Within (Leads G R) := h
  have hregistered := within_registerAll hfiles sources
  exact (within_addSignatures hregistered hlater.linksWithin).unquoteExternals

/-! ## Pages -/

variable {sidebar : Html}

theorem Drawn.sound {settings : Settings} {store : Store} {page : Html}
    (h : Drawn sidebar settings store r page) : Sound r := by
  induction h with
  | own sound => exact sound
  | fixed sound => exact sound
  | topics sound => exact sound
  | listing sound => exact sound
  | tutorial sound _ t => exact (quiet_tutorialLinks _ t.children).weaken.sound sound
  | @resolved r r' page page' _ hr ih =>
    have hq := r.quiet_resolveTags page
    rw [hr] at hq
    exact hq.weaken.sound ih
  | later _ hr ih => exact hr.weaken.sound ih

theorem within_topics (h : s.store.Within P) (hr : s.registry.LinksWithin P)
    {topics : List Page.Topic} (about : ∀ d, .symbol d ∈ topics → d ∈ s.store.doclets) :
    (Page.topics s.context topics).Within P := by
  have hcontext : s.context.Within P := ⟨hr, h⟩
  refine Page.within_topics hcontext fun t ht d hd => ?_
  subst hd
  exact h d (about d ht)

theorem within_listingContent (code : String) : (listingContent (.raw code)).Within P := by
  simp [listingContent]

theorem within_tutorialLinks (hs : Sound r) {ts : List Tutorial}
    (hlater : Later (tutorialLinks r ts).2 R) : (tutorialLinks r ts).1.Within (Leads G R) := by
  induction ts generalizing r with
  | nil => exact Html.within_empty
  | cons t rest ih =>
    rw [tutorialLinks] at hlater ⊢
    dsimp only at hlater ⊢
    have hfirst : Quiet r (r.tutorialLink t.name none).2 :=
      Registry.reaches_tutorialLink r t.name none
    have hrest := quiet_tutorialLinks (r.tutorialLink t.name none).2 rest
    have hlink : (r.tutorialLink t.name none).1.Within (Leads G R) :=
      Registry.within_tutorialLink hs (hrest.later.trans hlater)
    have hothers := ih (hfirst.weaken.sound hs) hlater
    simp [hlink, hothers]

theorem within_tutorialContent (hs : Sound r) {markdown : String → String} {t : Tutorial}
    (hlater : Later (tutorialContent markdown r t).2 R) :
    (tutorialContent markdown r t).1.Within (Leads G R) := by
  have hlinks : (tutorialLinks r t.children).1.Within (Leads G R) := within_tutorialLinks hs hlater
  have hmarkup : (t.markup markdown).Within (Leads G R) := by
    unfold Tutorial.markup
    split <;> exact Html.within_raw _
  simp [tutorialContent, hlinks, hmarkup]

/-- The links of a page are those of its doclets, of the sidebar and of the registry. -/
theorem Drawn.within {settings : Settings} {store : Store} {page : Html}
    (h : Drawn sidebar settings store r page) (hsidebar : sidebar.Within (Leads G R))
    (hstore : store.Within (Leads G R)) (hlater : Later r R) : page.Within (Leads G R) := by
  induction h with
  | own _ markup => exact Html.within_raw _
  | fixed _ look => exact Page.within_look look
  | topics _ _ hst about =>
    subst hst
    exact Page.within_frame hsidebar (within_topics hstore hlater.linksWithin about) _ _
  | listing _ title code => exact Page.within_frame hsidebar (within_listingContent code) _ _
  | tutorial hs _ t title =>
    exact Page.within_frame hsidebar (within_tutorialContent hs hlater) _ _
  | @resolved r r' page page' hd hr ih =>
    have hq := r.quiet_resolveTags page
    rw [hr] at hq
    exact Registry.within_resolveTags hd.sound hr hlater (ih (hq.later.trans hlater))
  | later _ hr ih => exact ih (hr.later.trans hlater)

theorem Emits.within {ps : List (String × Html)} (h : Emits sidebar Hosted s ps s')
    (hsidebar : sidebar.Within (Leads G R)) (hstore : s.store.Within (Leads G R))
    (hlater : Later s'.registry R) : ∀ p ∈ ps, p.2.Within (Leads G R) := by
  induction h with
  | nil => exact fun _ hp => absurd hp List.not_mem_nil
  | link _ step ih => exact ih ((Registry.Reaches.later (.single step)).trans hlater)
  | note _ _ ih => exact ih hlater
  | print _ _ ih => exact ih hlater
  | write h _ drawn hw ih =>
    rw [(writePage_frame hw).2.2.1] at hlater
    rw [h.store_eq] at drawn
    have hpage := drawn.within hsidebar hstore hlater
    exact List.forall_mem_append.mpr ⟨ih hlater, List.forall_mem_singleton.mpr hpage⟩

end

/-! ## The whole run -/

section
variable {settings : Settings} {store : Store} {tutorial : Tutorial} {readme : Option String}
  {files : FileTree} {out : Path} {around : Surroundings} {s prepared : Site} {sidebar : Html}
  {r : Registry} {listed : List String}

/-- From the doclets that are prepared to the last page the registry only grows. -/
theorem Stages.later
    (h : Stages settings store tutorial files out around s prepared sidebar r listed) :
    Later prepared.registry s.registry :=
  ((Registry.later_addTutorials _ _).trans h.quiet.later).trans h.emits.reaches.later

/-- Every link on a page of a run leads somewhere that the registry knows in the end. -/
theorem publish_leads (hstore : store.Within fun _ => False)
    (h : publish settings store tutorial readme files out around = .ok s) :
    ∀ p ∈ s.made, p.2.Within
      (Leads (none ∈ hostsOf settings store files out ∨ s.store.globals ≠ []) s.registry) := by
  obtain ⟨prepared, sidebar, r, listed, stages⟩ := publish_stages h
  have hlater : Later (start settings store files out).registry s.registry :=
    stages.unwritten.reached.later.trans stages.later
  have hstart : (opened settings store files out).store.Within
      (Leads (none ∈ hostsOf settings store files out ∨ s.store.globals ≠ []) s.registry) :=
    within_start stages.sound .inl hstore hlater
  have hprepared := within_prepare hstart stages.prepare stages.later
  have hglobals : prepared.store.globals ≠ [] →
      none ∈ hostsOf settings store files out ∨ s.store.globals ≠ [] := by
    rw [stages.emits.store_eq]
    exact Or.inr
  have hsidebar := Sidebar.within_render stages.titled stages.sound hglobals stages.render
    stages.emits.reaches.later
  exact stages.emits.within hsidebar hprepared (.refl _)

/-- The tutorials that are known after a run are those of the tree. -/
theorem publish_known (h : publish settings store tutorial readme files out around = .ok s)
    {name : String} (hname : (s.registry.tutorials.get? name).isSome) :
    name ∈ Tutorial.namesOf tutorial.children := by
  obtain ⟨prepared, sidebar, r, listed, stages⟩ := publish_stages h
  have hstart : (opened settings store files out).registry.tutorials = .empty :=
    (hosting_normalizeAll _ _).tutorials_eq.trans Registry.initial_tutorials
  rw [stages.emits.reaches.tutorials_eq, stages.quiet.tutorials_eq] at hname
  rcases Registry.addTutorials_known hname with hold | hnew
  · rw [stages.unwritten.reached.tutorials_eq, hstart, Table.get?_empty] at hold
    cases hold
  · exact hnew

end

end Site

end DocSite
