import DocSite.Proofs.Link.OwnPage
import DocSite.Proofs.Publish.Headings
import DocSite.Proofs.Publish.PagesApart

/-! Which doclets the pages of containers describe. When these pages are written every container has
an address, so the longname and the kind of a container belong to exactly one page. -/
namespace DocSite
open Registry (Sound Reaches Quiet)
set_option autoImplicit false

/-! ## Addresses of doclets -/

theorem Registry.url?_linkAll_of_mem {ds : List Doclet} {d : Doclet} (hd : d ∈ ds) (r : Registry) :
    ∃ url, (r.linkAll ds).url? d.linkName = some url := by
  obtain ⟨before, after, rfl⟩ := List.append_of_mem hd
  rw [linkAll_append]
  exact ⟨_, (reaches_linkAll _ after).urls_mono (link_self _ d)⟩

namespace Site

section
variable {s s' : Site} {sidebar : Html}

theorem foldl_registerDoclet_registry (ds : List Doclet) (s : Site) :
    (ds.foldl registerDoclet s).registry = s.registry.linkAll (ds.filter (·.kind != "file")) := by
  induction ds generalizing s with
  | nil => rfl
  | cons d rest ih =>
    rw [List.foldl_cons, ih, List.filter_cons]
    unfold registerDoclet
    by_cases hk : d.kind = "file"
    · simp [hk]
    · simp only [hk, beq_iff_eq, bne_iff_ne, ne_eq, not_false_eq_true, if_true, if_false]
      rw [register_registry]
      rfl

theorem registerAll_registry (s : Site) (sources : List Source.File) :
    (s.registerAll sources).registry =
      s.registry.linkAll (s.store.doclets.filter (·.kind != "file")) :=
  foldl_registerDoclet_registry s.store.doclets s

/-- Every doclet that is no file has an address. -/
theorem url?_registerAll {d : Doclet} (hd : d ∈ s.store.doclets) (hk : d.kind ≠ "file")
    (sources : List Source.File) :
    ∃ url, (s.registerAll sources).registry.url? d.linkName = some url := by
  have hmem : d ∈ s.store.doclets.filter (·.kind != "file") := by simp [hd, hk]
  rw [registerAll_registry]
  exact Registry.url?_linkAll_of_mem hmem s.registry

/-! ## What preparing keeps of a container -/

/-- What tells which page a container belongs to; none for a doclet that is no container. -/
def containerKey (d : Doclet) : Option (Nat × String × Option String) :=
  if d.isContainer then some (d.position, d.kind, d.longname) else none

theorem containerKey_congr {d e : Doclet} (hp : e.position = d.position) (hk : e.kind = d.kind)
    (hl : e.longname = d.longname) : containerKey e = containerKey d := by
  rw [containerKey, containerKey, Doclet.isContainer, Doclet.isContainer, hp, hk, hl]

theorem containerKey_eq_none {d : Doclet} {kind : String} (hk : d.kind = kind)
    (h : Doclet.containerKinds.contains kind = false) : containerKey d = none := by
  rw [containerKey, Doclet.isContainer, hk, h]
  rfl

theorem containerKey_unquoted (d : Doclet) :
    containerKey (if d.kind == "external" then { d with name := unquoted d.name } else d) =
      containerKey d := by
  split
  · exact containerKey_congr rfl rfl rfl
  · rfl

theorem containerKey_locate (sources : List Source.File) (d : Doclet) :
    containerKey (locate sources d) = containerKey d := by
  unfold locate
  split
  · split
    · rfl
    · exact containerKey_congr rfl rfl rfl
  · rfl

theorem containerKey_addCall (l : TypeLinker) (r : Registry) (d : Doclet) :
    containerKey (addCall l r d) = containerKey d := by
  obtain ⟨signature, attributes, h⟩ := addCall_frame l r d
  rw [h]
  exact containerKey_congr rfl rfl rfl

theorem addTrail_kind (l : TypeLinker) (r : Registry) (table : Table Doclet) (d : Doclet) :
    (addTrail l r table d).kind = if d.kind = "constant" then "member" else d.kind := by
  have hread : ∀ e : Doclet, ((e.addTypeSignature l r).addAttributes).kind = e.kind := fun _ => rfl
  unfold addTrail
  dsimp only
  by_cases hk : d.kind = "constant"
  · simp [hk, hread]
  · by_cases hm : d.kind = "member" <;> simp [hk, hm, hread]

/-- Constants become members, and neither are containers. -/
theorem containerKey_addTrail (l : TypeLinker) (r : Registry) (table : Table Doclet) (d : Doclet) :
    containerKey (addTrail l r table d) = containerKey d := by
  have hkind := addTrail_kind l r table d
  by_cases hk : d.kind = "constant"
  · rw [if_pos hk] at hkind
    rw [containerKey_eq_none hkind (by decide), containerKey_eq_none hk (by decide)]
  · rw [if_neg hk] at hkind
    obtain ⟨ancestors, signature, attributes, kind, h⟩ := addTrail_frame l r table d
    rw [h] at hkind ⊢
    exact containerKey_congr rfl hkind rfl

/-- Preparing changes doclets one by one, and none becomes a container of another page. -/
theorem prepare_doclets {sources : List Source.File} (h : s.prepare sources = .ok s') :
    ∃ f : Doclet → Doclet, s'.store.doclets = s.store.doclets.map f ∧
      ∀ d, containerKey (f d) = containerKey d := by
  unfold prepare at h
  obtain ⟨s₁, h₁, h⟩ := Fault.bind_eq_ok_iff.mp h
  cases h
  obtain ⟨⟨files, log, _, rfl⟩, _⟩ := onlyFiles_copyFiles h₁
  simp only [Store.unquoteExternals, addSignatures, Store.map, registerAll_store, List.map_map]
  refine ⟨_, rfl, fun d => ?_⟩
  simp only [Function.comp_apply, containerKey_unquoted, containerKey_addTrail,
    containerKey_addCall, containerKey_locate]

theorem eq_of_containerKey_eq {d e : Doclet} (hd : d.isContainer = true)
    (h : containerKey d = containerKey e) :
    e.isContainer = true ∧ e.kind = d.kind ∧ e.longname = d.longname := by
  rw [containerKey, if_pos hd, containerKey] at h
  split at h
  · rename_i he
    obtain ⟨-, hkey⟩ := Prod.mk.inj (Option.some.inj h)
    obtain ⟨hkind, hlongname⟩ := Prod.mk.inj hkey
    exact ⟨he, hkind.symm, hlongname.symm⟩
  · cases h

/-- Whatever conflicts were met, every container with a longname has an address in the end. -/
theorem url?_prepare {sources : List Source.File} (h : s.prepare sources = .ok s') {d : Doclet}
    (hd : d ∈ s'.store.doclets) (hc : d.isContainer = true) {l : String}
    (hl : d.longname = some l) (hne : l ≠ "") : ∃ url, s'.registry.url? l = some url := by
  obtain ⟨f, hdoclets, hkey⟩ := prepare_doclets h
  rw [hdoclets] at hd
  obtain ⟨e, he, rfl⟩ := List.mem_map.mp hd
  obtain ⟨hec, -, hel⟩ := eq_of_containerKey_eq hc (hkey e)
  have hname : e.linkName = l := by rw [Doclet.linkName, hel, hl]; simp [hne]
  have hfile : e.kind ≠ "file" := by
    intro hk
    rw [Doclet.isContainer, hk] at hec
    revert hec
    decide
  unfold prepare at h
  obtain ⟨s₁, h₁, h⟩ := Fault.bind_eq_ok_iff.mp h
  cases h
  obtain ⟨⟨files, log, _, rfl⟩, _⟩ := onlyFiles_copyFiles h₁
  rw [← hname]
  exact url?_registerAll (s := { s with files := files, log := log }) he hfile sources

/-! ## Pages of containers -/

/-- The page for the doclets of one kind that share a longname. -/
structure ContainerPage where
  pageType : String
  longname : String
  url : String
  kind : String
  docs : List Doclet

/-- The name of the first doclet on the page. -/
def ContainerPage.title (p : ContainerPage) : String := (p.docs.head?.map Doclet.name).getD ""

def sharing (store : Store) (kind longname : String) : List Doclet :=
  store.find fun d => d.kind == kind && d.longname == some longname

def pagesOfType (store : Store) (longname url : String) (type : String × String) :
    List ContainerPage :=
  match sharing store type.2 longname with
  | [] => []
  | docs => [⟨type.1, longname, url, type.2, docs⟩]

/-- The pages of all longnames that have an address, in the order in which they are written. -/
def containerPages (r : Registry) (store : Store) : List ContainerPage :=
  r.urls.entries.flatMap fun entry => pageTypes.flatMap (pagesOfType store entry.1 entry.2)

def writeContainerPage (sidebar : Html) (s : Site) (p : ContainerPage) : Except Fault Site :=
  s.writeTopics sidebar p.pageType p.title (p.docs.map .symbol) p.url

theorem writeTopics_store {pageType title : String} {topics : List Page.Topic} {url : String}
    (h : writeTopics sidebar s pageType title topics url = .ok s') : s'.store = s.store := by
  obtain ⟨_, _, _, _, _, _, _, _, hw⟩ := writeTopics_eq h
  exact (writePage_frame hw).2.1

theorem writeContainer_eq (sidebar : Html) (s : Site) (longname url : String)
    (type : String × String) :
    writeContainer sidebar longname url s type =
      (pagesOfType s.store longname url type).foldlM (writeContainerPage sidebar) s := by
  unfold writeContainer pagesOfType sharing
  split
  · rename_i hnil
    rw [hnil]
    rfl
  · rename_i d rest hcons
    rw [hcons]
    simp [writeContainerPage, ContainerPage.title]

/-- Writing the containers is writing their pages, which are settled before the first one. -/
theorem writeContainers_eq (sidebar : Html) (s : Site) :
    s.writeContainers sidebar =
      (containerPages s.registry s.store).foldlM (writeContainerPage sidebar) s := by
  -- Writing a page leaves the store, so the doclets of every later page are still those of `s`.
  have hpage : ∀ p s₁ s₂, s₁.store = s.store → writeContainerPage sidebar s₁ p = .ok s₂ →
      s₂.store = s.store := fun p s₁ s₂ hs h => (writeTopics_store h).trans hs
  have htype : ∀ longname url type s₁, s₁.store = s.store →
      writeContainer sidebar longname url s₁ type =
        (pagesOfType s.store longname url type).foldlM (writeContainerPage sidebar) s₁ :=
    fun longname url type s₁ hs => hs ▸ writeContainer_eq sidebar s₁ longname url type
  have hkept : ∀ longname url type s₁ s₂, s₁.store = s.store →
      writeContainer sidebar longname url s₁ type = .ok s₂ → s₂.store = s.store := by
    intro longname url type s₁ s₂ hs h
    rw [htype longname url type s₁ hs] at h
    exact Fault.foldlM_preserves (P := fun s' => s'.store = s.store) hpage hs h
  unfold writeContainers containerPages
  rw [Fault.foldlM_flatMap]
  refine Fault.foldlM_congr (P := fun s' => s'.store = s.store) ?_ ?_ rfl
  · intro entry s₁ s₂ hs h
    exact Fault.foldlM_preserves (P := fun s' => s'.store = s.store) (hkept entry.1 entry.2) hs h
  · intro entry s₁ hs
    rw [Fault.foldlM_flatMap]
    exact Fault.foldlM_congr (P := fun s' => s'.store = s.store) (hkept entry.1 entry.2)
      (htype entry.1 entry.2) hs

end

/-! ## The page of a container -/

section
variable {store : Store} {r : Registry}

theorem mem_pagesOfType {longname url : String} {type : String × String} {p : ContainerPage} :
    p ∈ pagesOfType store longname url type ↔
      sharing store type.2 longname ≠ [] ∧
        p = ⟨type.1, longname, url, type.2, sharing store type.2 longname⟩ := by
  unfold pagesOfType
  split
  · rename_i hnil
    simp [hnil]
  · rename_i hne
    have hne : sharing store type.2 longname ≠ [] := hne
    simp [hne]

theorem mem_containerPages {p : ContainerPage} : p ∈ containerPages r store ↔
    (p.longname, p.url) ∈ r.urls.entries ∧ (p.pageType, p.kind) ∈ pageTypes ∧ p.docs ≠ [] ∧
      p.docs = sharing store p.kind p.longname := by
  simp only [containerPages, List.mem_flatMap, mem_pagesOfType]
  constructor
  · rintro ⟨entry, he, type, hk, hne, rfl⟩
    exact ⟨he, hk, hne, rfl⟩
  · rintro ⟨he, hk, hne, hdocs⟩
    refine ⟨_, he, _, hk, hdocs ▸ hne, ?_⟩
    cases p
    exact congrArg _ hdocs

theorem mem_sharing {d : Doclet} {kind longname : String} :
    d ∈ sharing store kind longname ↔
      d ∈ store.doclets ∧ d.kind = kind ∧ d.longname = some longname := by
  simp [sharing, Store.find]

/-- Every kind of page has one type. -/
theorem pageTypes_nodup : (pageTypes.map Prod.snd).Nodup := by decide

theorem isContainer_iff {d : Doclet} :
    d.isContainer = true ↔ ∃ pageType, (pageType, d.kind) ∈ pageTypes := by
  have hkind : d.isContainer = true ↔ d.kind ∈ pageTypes.map Prod.snd := by
    simp [Doclet.isContainer, Doclet.containerKinds, pageTypes]
    tauto
  rw [hkind, List.mem_map]
  constructor
  · rintro ⟨⟨pageType, _⟩, htype, rfl⟩
    exact ⟨pageType, htype⟩
  · rintro ⟨pageType, htype⟩
    exact ⟨_, htype, rfl⟩

/-- No longname has two pages of one kind. -/
theorem nodup_containerPages (hs : Sound r) :
    ((containerPages r store).map fun p => (p.longname, p.kind)).Nodup := by
  -- The keys of the pages are some of the pairs of a longname with an address and a kind.
  have hone : ∀ longname url type,
      ((pagesOfType store longname url type).map fun p => (p.longname, p.kind)).Sublist
        [(longname, type.2)] := by
    intro longname url type
    unfold pagesOfType
    split
    · exact List.nil_sublist _
    · exact List.Sublist.refl _
  have hkinds : ∀ longname url,
      ((pageTypes.flatMap (pagesOfType store longname url)).map
        fun p => (p.longname, p.kind)).Sublist
          ((pageTypes.map Prod.snd).map (Prod.mk longname)) := by
    intro longname url
    rw [List.map_flatMap, List.map_map, List.map_eq_flatMap]
    exact List.Sublist.flatMap_right _ fun type _ => hone longname url type
  have hall : ((containerPages r store).map fun p => (p.longname, p.kind)).Sublist
      (r.urls.keys.product (pageTypes.map Prod.snd)) := by
    rw [containerPages, List.map_flatMap, List.product, Table.keys, List.flatMap_map]
    exact List.Sublist.flatMap_right _ fun entry _ => hkinds entry.1 entry.2
  exact hall.nodup (hs.urls_nodup.product pageTypes_nodup)

/-- The doclets of a container's kind and longname are described on one page, which no other page
repeats. -/
theorem container_mem_one_page (hs : Sound r) {d : Doclet} (hd : d ∈ store.doclets)
    (hc : d.isContainer = true) {l url : String} (hl : d.longname = some l)
    (hu : r.url? l = some url) :
    ∃ pageType before after, (pageType, d.kind) ∈ pageTypes ∧ containerPages r store =
        before ++ ⟨pageType, l, url, d.kind, sharing store d.kind l⟩ :: after ∧
      d ∈ sharing store d.kind l ∧ ∀ p ∈ before ++ after, d ∉ p.docs := by
  have hmem : d ∈ sharing store d.kind l := mem_sharing.mpr ⟨hd, rfl, hl⟩
  obtain ⟨pageType, htype⟩ := isContainer_iff.mp hc
  have hpage : ⟨pageType, l, url, d.kind, sharing store d.kind l⟩ ∈ containerPages r store :=
    mem_containerPages.mpr ⟨Table.mem_of_get?_eq_some hu, htype, List.ne_nil_of_mem hmem, rfl⟩
  obtain ⟨before, after, hsplit⟩ := List.append_of_mem hpage
  refine ⟨pageType, before, after, htype, hsplit, hmem, fun p hp hdocs => ?_⟩
  have hnodup : ((containerPages r store).map fun p => (p.longname, p.kind)).Nodup :=
    nodup_containerPages hs
  rw [hsplit, List.map_append, List.map_cons, List.nodup_middle, List.nodup_cons,
    ← List.map_append] at hnodup
  -- A page that shows the doclet has its kind and its longname.
  have hin : p ∈ containerPages r store := by
    rw [hsplit]
    rcases List.mem_append.mp hp with hp | hp
    · exact List.mem_append_left _ hp
    · exact List.mem_append_right _ (List.mem_cons_of_mem _ hp)
  obtain ⟨-, -, -, hp'⟩ := mem_containerPages.mp hin
  rw [hp'] at hdocs
  obtain ⟨-, hkind, hlong⟩ := mem_sharing.mp hdocs
  have hlong : p.longname = l := Option.some.inj (hlong.symm.trans hl)
  exact hnodup.1 (List.mem_map.mpr ⟨p, hp, by rw [hlong, hkind]⟩)

end

/-! ## The whole run -/

/-- A run up to the pages of containers, with the sidebar of its pages. -/
def upToContainers (settings : Settings) (store : Store) (tutorial : Tutorial)
    (readme : Option String) (files : FileTree) (out : Path) (around : Surroundings) :
    Except Fault (Html × Site) := do
  let sources := sourcesOf settings store files out
  let s ← (opened settings store files out).prepare sources
  let (sidebar, r) ← Sidebar.render s.store settings tutorial.children
    (s.registry.addTutorials tutorial.children)
  let s ← writeListings sidebar sources { s with registry := r, around := around }
  let s ← s.writeGlobals sidebar
  let s ← s.writeHome sidebar readme
  return (sidebar, s)

/-- What a run still does once the pages of containers are written. -/
def afterContainers (tutorial : Tutorial) (sidebar : Html) (s : Site) : Except Fault Site := do
  let s ← s.writeTutorials sidebar tutorial.children
  return s.print ("Generated " ++ toString s.written.length ++ " HTML pages into: " ++
    s.root.display)

section
variable {settings : Settings} {store : Store} {tutorial : Tutorial} {readme : Option String}
  {files : FileTree} {out : Path} {around : Surroundings} {sidebar : Html} {s : Site}

/-- A doclet without the quotes that the settings take off. -/
def withoutQuotes (settings : Settings) (d : Doclet) : Doclet :=
  match settings.quoteRule with
  | some rule => d.removeQuotes rule
  | none => d

theorem publish_eq_containers :
    publish settings store tutorial readme files out around =
      (upToContainers settings store tutorial readme files out around >>= fun (sidebar, s) =>
        s.writeContainers sidebar >>= afterContainers tutorial sidebar) := by
  simp only [upToContainers, publish, writePages, bind_assoc, pure_bind]
  rfl

theorem containerKey_normalizeAll (r : Registry) (ds : List Doclet) :
    (normalizeAll r ds).1.map containerKey = ds.map containerKey := by
  induction ds generalizing r with
  | nil => rfl
  | cons d rest ih =>
    rw [normalizeAll]
    exact congrArg₂ List.cons (containerKey_congr rfl rfl rfl) (ih _)

theorem containerKey_opened (settings : Settings) (store : Store) (files : FileTree) (out : Path) :
    (opened settings store files out).store.doclets.map containerKey =
      (prepareStore settings store).doclets.map fun d => containerKey (withoutQuotes settings d) := by
  unfold opened start normalize withoutQuotes
  dsimp only
  rw [containerKey_normalizeAll]
  cases settings.quoteRule with
  | none => rfl
  | some rule => exact List.map_map

/-- Between preparing and the pages of containers the store stays, and addresses are only added. -/
theorem upToContainers_stages
    (h : upToContainers settings store tutorial readme files out around = .ok (sidebar, s)) :
    ∃ prepared, (opened settings store files out).prepare (sourcesOf settings store files out) =
        .ok prepared ∧
      s.store = prepared.store ∧ Sound s.registry ∧
      ∀ l url, prepared.registry.url? l = some url → s.registry.url? l = some url := by
  unfold upToContainers at h
  obtain ⟨prepared, hp, h⟩ := Fault.bind_eq_ok_iff.mp h
  obtain ⟨⟨sidebar', r⟩, hr, h⟩ := Fault.bind_eq_ok_iff.mp h
  obtain ⟨s₁, h₁, h⟩ := Fault.bind_eq_ok_iff.mp h
  obtain ⟨s₂, h₂, h⟩ := Fault.bind_eq_ok_iff.mp h
  obtain ⟨s₃, h₃, h⟩ := Fault.bind_eq_ok_iff.mp h
  cases h
  have hsound := ((unwritten_prepare (fresh_opened ..).sound hp).1.reached.sound
    (fresh_opened ..).sound).addTutorials tutorial.children
  have hquiet := Sidebar.quiet_render hr
  have hs := hquiet.weaken.sound hsound
  obtain ⟨_, _, e₁, _, _, _⟩ := emits_writeListings hs h₁
  have hs₁ := e₁.reaches.sound hs
  obtain ⟨_, e₂, _⟩ := emits_writeGlobals hs₁ h₂
  have hs₂ := e₂.weaken.reaches.sound hs₁
  obtain ⟨_, e₃, _⟩ := emits_writeHome hs₂ h₃
  have hlater : Registry.Later prepared.registry s.registry :=
    (((Registry.later_addTutorials _ tutorial.children).trans hquiet.later).trans
      e₁.reaches.later).trans (e₂.reaches.later.trans e₃.reaches.later)
  refine ⟨prepared, hp, ?_, e₃.weaken.reaches.sound hs₂, fun l url hl => hlater.urls l url hl⟩
  rw [e₃.store_eq, e₂.store_eq, e₁.store_eq]

/-- A run that gets as far as the pages of containers goes on with one page after another. They are
settled by then, and the doclets are those that were not hidden, without their quotes. Every
container with a longname is on exactly one of the pages: the page of its kind at the address of its
longname, with the type of that kind and the doclets of that kind and longname in the order of the
store. -/
theorem containers_rendered_once
    (h : upToContainers settings store tutorial readme files out around = .ok (sidebar, s)) :
    (publish settings store tutorial readme files out around =
      ((containerPages s.registry s.store).foldlM (writeContainerPage sidebar) s >>=
        afterContainers tutorial sidebar)) ∧
    (s.store.doclets.map containerKey =
      (prepareStore settings store).doclets.map fun d => containerKey (withoutQuotes settings d)) ∧
    ∀ d ∈ s.store.doclets, d.isContainer = true → ∀ l, d.longname = some l → l ≠ "" →
      ∃ url pageType before after, s.registry.url? l = some url ∧ (pageType, d.kind) ∈ pageTypes ∧
        containerPages s.registry s.store =
          before ++ ⟨pageType, l, url, d.kind, sharing s.store d.kind l⟩ :: after ∧
        d ∈ sharing s.store d.kind l ∧ ∀ p ∈ before ++ after, d ∉ p.docs := by
  obtain ⟨prepared, hp, hstore, hsound, hurls⟩ := upToContainers_stages h
  refine ⟨?_, ?_, fun d hd hc l hl hne => ?_⟩
  · rw [publish_eq_containers, h, ← writeContainers_eq]
    rfl
  · obtain ⟨f, hdoclets, hkey⟩ := prepare_doclets hp
    rw [hstore, hdoclets, List.map_map, ← containerKey_opened]
    exact List.map_congr_left fun d _ => hkey d
  · rw [hstore] at hd
    obtain ⟨url, hu⟩ := url?_prepare hp hd hc hl hne
    rw [← hstore] at hd
    obtain ⟨pageType, before, after, hone⟩ :=
      container_mem_one_page hsound hd hc hl (hurls l url hu)
    exact ⟨url, pageType, before, after, hurls l url hu, hone⟩

/-- The module and the class that it exports have one longname, and each has one page. -/
theorem exportedClass_rendered_once :
    ∃ sidebar s, upToContainers plainSettings exportedClass .root none plainTheme
        (Path.ofString "out") {} = .ok (sidebar, s) ∧
      ∃ d ∈ s.store.doclets, d.isContainer = true ∧ d.longname = some "module:m" ∧
        "module:m" ≠ "" ∧ ∃ url pageType before after, s.registry.url? "module:m" = some url ∧
          (pageType, d.kind) ∈ pageTypes ∧ containerPages s.registry s.store =
            before ++ ⟨pageType, "module:m", url, d.kind, sharing s.store d.kind "module:m"⟩ ::
              after ∧
          ∀ p ∈ before ++ after, d ∉ p.docs := by
  have hrun : (upToContainers plainSettings exportedClass .root none plainTheme
      (Path.ofString "out") {}).toOption.map (fun p => p.2.store.doclets.map containerKey) =
      some [some (0, "module", some "module:m"), some (0, "class", some "module:m")] := by
    simp only [upToContainers, Registry.addTutorials, Tutorial.root]
    decide +kernel
  cases h : upToContainers plainSettings exportedClass .root none plainTheme
      (Path.ofString "out") {} with
  | error e =>
    rw [h] at hrun
    cases hrun
  | ok p =>
    obtain ⟨sidebar, s⟩ := p
    rw [h] at hrun
    have hdoclets : s.store.doclets.map containerKey =
        [some (0, "module", some "module:m"), some (0, "class", some "module:m")] :=
      Option.some.inj hrun
    have hmodule : some (0, "module", some "module:m") ∈ s.store.doclets.map containerKey := by
      rw [hdoclets]
      exact List.mem_cons_self ..
    obtain ⟨d, hd, hkey⟩ := List.mem_map.mp hmodule
    have hc : d.isContainer = true := by
      by_contra hn
      rw [containerKey, if_neg hn] at hkey
      cases hkey
    rw [containerKey, if_pos hc] at hkey
    have hl : d.longname = some "module:m" :=
      (Prod.mk.inj (Prod.mk.inj (Option.some.inj hkey)).2).2
    obtain ⟨-, -, hone⟩ := containers_rendered_once h
    obtain ⟨url, pageType, before, after, hu, htype, hpages, -, hothers⟩ :=
      hone d hd hc "module:m" hl (by decide)
    exact ⟨sidebar, s, rfl, d, hd, hc, hl, by decide, url, pageType, before, after, hu, htype,
      hpages, hothers⟩

end

end Site
end DocSite
