import DocSite.Proofs.Doclet.Sorted
import DocSite.Proofs.Nav.Unplaced
import DocSite.Proofs.Page.Unplaced
import DocSite.Proofs.Publish.LinksClosed

/-! What a run does not depend on: the places of doclets in the dump, the hidden doclets and, where
doclets are sorted by keys that tell them apart, the order of the dump. -/
namespace DocSite
set_option autoImplicit false

namespace Site

/-- A state whose doclets have no places. -/
def unplaced (s : Site) : Site := { s with store := s.store.unplaced }

/-! ## Preparing the doclets -/

theorem prepareStore_unplaced (settings : Settings) (s : Store) :
    prepareStore settings s.unplaced = (prepareStore settings s).unplaced := by
  unfold prepareStore
  dsimp only
  rw [s.prune_unplaced]
  split
  · rw [Store.sort_unplaced, Store.addListeners_unplaced]
  · rw [Store.addListeners_unplaced]

theorem linkReferences_unplaced (r : Registry) (d : Doclet) (refs : List Reference) :
    linkReferences r d.unplaced refs = linkReferences r d refs := by
  induction refs generalizing r with
  | nil => rfl
  | cons ref rest ih =>
    cases ref with
    | symbol see =>
      have hfirst : r.memberReference d.unplaced see = r.memberReference d see := rfl
      rw [linkReferences, linkReferences, hfirst]
      dsimp only
      rw [ih]
    | link markup =>
      rw [linkReferences, linkReferences]
      dsimp only
      rw [ih]

theorem normalizeAll_unplaced (r : Registry) (ds : List Doclet) :
    normalizeAll r (ds.map Doclet.unplaced) =
      ((normalizeAll r ds).1.map Doclet.unplaced, (normalizeAll r ds).2) := by
  induction ds generalizing r with
  | nil => rfl
  | cons d rest ih =>
    have hsee : d.unplaced.see = d.see := rfl
    rw [List.map_cons, normalizeAll, normalizeAll, hsee, linkReferences_unplaced]
    dsimp only
    rw [ih]
    rfl

theorem normalize_unplaced (s : Site) : s.unplaced.normalize = s.normalize.unplaced := by
  have hall : ∀ store : Store, normalizeAll s.registry store.unplaced.doclets =
      ((normalizeAll s.registry store.doclets).1.map Doclet.unplaced,
        (normalizeAll s.registry store.doclets).2) :=
    fun store => normalizeAll_unplaced s.registry store.doclets
  have hregistry : s.unplaced.registry = s.registry := rfl
  have hsettings : s.unplaced.settings = s.settings := rfl
  have hstore : s.unplaced.store = s.store.unplaced := rfl
  unfold normalize
  rw [hregistry, hsettings, hstore]
  cases s.settings.quoteRule with
  | none =>
    dsimp only
    rw [hall]
    rfl
  | some rule =>
    have hrule : ∀ d, Doclet.removeQuotes rule d.unplaced =
        (Doclet.removeQuotes rule d).unplaced := fun _ => rfl
    dsimp only
    rw [s.store.map_unplaced hrule, hall]
    rfl

theorem start_unplaced (settings : Settings) (store : Store) (files : FileTree) (out : Path) :
    start settings store.unplaced files out = (start settings store files out).unplaced := by
  rw [start, start, prepareStore_unplaced]
  exact normalize_unplaced
    { settings := settings
      store := prepareStore settings store
      registry := .initial
      files := files
      root := out }

theorem rootFor_unplaced (out : Path) (s : Store) : rootFor out s.unplaced = rootFor out s := by
  unfold rootFor packageDirectory?
  rw [s.ofKind_unplaced]
  cases s.ofKind "package" <;> rfl

theorem linker_unplaced (s : Site) : s.unplaced.linker = s.linker := by
  have hindex : TypeIndex.ofStore s.unplaced.store = TypeIndex.ofStore s.store :=
    TypeIndex.ofStore_unplaced s.store
  rw [linker, hindex]
  rfl

/-! ## Files that are not pages -/

theorem withFiles_unplaced (s : Site) (change : FileTree → Except PathError FileTree) :
    s.unplaced.withFiles change = (s.withFiles change).map unplaced := by
  have hfiles : s.unplaced.files = s.files := rfl
  rw [withFiles, withFiles, hfiles]
  cases change s.files <;> rfl

theorem copyOnto_unplaced (s : Site) (source : Option Path) (target : Path) (bytes : List UInt8) :
    s.unplaced.copyOnto source target bytes =
      (s.copyOnto source target bytes).map unplaced := by
  have hsame : s.unplaced.isSamePlace = s.isSamePlace := rfl
  rw [copyOnto, copyOnto, hsame]
  split
  · rfl
  · exact withFiles_unplaced s _

theorem copyTo_unplaced (s : Site) (source : Option Path) (file : Path) (bytes : List UInt8) :
    s.unplaced.copyTo source file bytes = (s.copyTo source file bytes).map unplaced := by
  refine Fault.bind_map (withFiles_unplaced s _) fun made => ?_
  have hfiles : made.unplaced.files = made.files := rfl
  have htarget : s.unplaced.root = s.root := rfl
  rw [hfiles, htarget]
  cases made.files.isDirectory (s.root ++ file) with
  | error e => rfl
  | ok inside => exact copyOnto_unplaced made source _ bytes

theorem copyUserFile_unplaced (directory : Path) (s : Site) (file : Path) :
    copyUserFile directory s.unplaced file = (copyUserFile directory s file).map unplaced := by
  have hfiles : s.unplaced.files = s.files := rfl
  rw [copyUserFile, copyUserFile, hfiles]
  cases s.files.read (directory ++ file) with
  | error e => rfl
  | ok bytes => exact copyTo_unplaced s _ file bytes

theorem foldlM_unplaced {α : Type} {step : Site → α → Except Fault Site}
    (h : ∀ s x, step s.unplaced x = (step s x).map unplaced) (xs : List α) (s : Site) :
    xs.foldlM step s.unplaced = (xs.foldlM step s).map unplaced := by
  have hfold := Fault.foldlM_map (f := unplaced) (g := id) h xs s
  rwa [List.map_id] at hfold

theorem copyUserFiles_unplaced (s : Site) (directory : String) :
    s.unplaced.copyUserFiles directory = (s.copyUserFiles directory).map unplaced := by
  have hfiles : s.unplaced.files = s.files := rfl
  unfold copyUserFiles
  dsimp only
  rw [hfiles]
  cases s.files.isDirectory (Path.ofString directory) with
  | error e => rfl
  | ok known =>
    cases known with
    | false => rfl
    | true => exact foldlM_unplaced (copyUserFile_unplaced (Path.ofString directory)) _ s

theorem copyFiles_unplaced (s : Site) : s.unplaced.copyFiles = s.copyFiles.map unplaced := by
  refine Fault.bind_map (withFiles_unplaced s _) fun s => ?_
  refine Fault.bind_map (foldlM_unplaced (fun s a => copyTo_unplaced s none a.1 a.2) _ s) fun s => ?_
  refine Fault.bind_map (withFiles_unplaced s _) fun s => ?_
  exact foldlM_unplaced copyUserFiles_unplaced s.settings.staticFiles s

/-! ## Addresses and signatures -/

theorem register_unplaced (s : Site) (longname url : String) :
    s.unplaced.register longname url = (s.register longname url).unplaced := by
  have hregistry : s.unplaced.registry = s.registry := rfl
  unfold register
  rw [hregistry]
  cases s.registry.register longname url with
  | mk r conflict => cases conflict <;> rfl

theorem registerDoclet_unplaced (s : Site) (d : Doclet) :
    s.unplaced.registerDoclet d.unplaced = (s.registerDoclet d).unplaced := by
  have hkind : d.unplaced.kind = d.kind := rfl
  have hurl : s.unplaced.registry.urlFor d.unplaced = s.registry.urlFor d := rfl
  have hname : d.unplaced.linkName = d.linkName := rfl
  unfold registerDoclet
  rw [hkind, hurl, hname]
  split
  · rfl
  · exact register_unplaced { s with registry := (s.registry.urlFor d).2 } d.linkName _

theorem locate_unplaced (sources : List Source.File) (d : Doclet) :
    locate sources d.unplaced = (locate sources d).unplaced := by
  have horigin : d.unplaced.origin = d.origin := rfl
  have hpath : d.unplaced.sourcePath? = d.sourcePath? := rfl
  unfold locate
  rw [horigin, hpath]
  split
  · split <;> rfl
  · rfl

theorem registerAll_unplaced (s : Site) (sources : List Source.File) :
    s.unplaced.registerAll sources = (s.registerAll sources).unplaced := by
  have hfold : ∀ (ds : List Doclet) (s : Site),
      (ds.map Doclet.unplaced).foldl registerDoclet s.unplaced =
        (ds.foldl registerDoclet s).unplaced := by
    intro ds
    induction ds with
    | nil => exact fun _ => rfl
    | cons d rest ih =>
      intro s
      rw [List.map_cons, List.foldl_cons, List.foldl_cons, registerDoclet_unplaced]
      exact ih _
  have hdoclets : s.unplaced.store.doclets = s.store.doclets.map Doclet.unplaced := rfl
  unfold registerAll
  dsimp only
  rw [hdoclets, hfold]
  have hmap := Store.map_unplaced (locate_unplaced sources)
    (s.store.doclets.foldl registerDoclet s).store
  exact congrArg (fun store => { s.store.doclets.foldl registerDoclet s with store := store }) hmap

theorem addCall_unplaced (l : TypeLinker) (r : Registry) (d : Doclet) :
    addCall l r d.unplaced = (addCall l r d).unplaced := Doclet.ite_unplaced rfl rfl rfl

theorem addTrail_unplaced (l : TypeLinker) (r : Registry) (ds : List Doclet) (d : Doclet) :
    addTrail l r (byLongname (ds.map Doclet.unplaced)) d.unplaced =
      (addTrail l r (byLongname ds) d).unplaced := by
  have htyped : ∀ e : Doclet,
      (if e.unplaced.kind == "member" || e.unplaced.kind == "constant" then
        (e.unplaced.addTypeSignature l r).addAttributes else e.unplaced) =
      (if e.kind == "member" || e.kind == "constant" then
        (e.addTypeSignature l r).addAttributes else e).unplaced :=
    fun _ => Doclet.ite_unplaced rfl rfl rfl
  have hmember : ∀ e : Doclet,
      (if e.unplaced.kind == "constant" then { e.unplaced with kind := "member" }
        else e.unplaced) =
      (if e.kind == "constant" then { e with kind := "member" } else e).unplaced :=
    fun _ => Doclet.ite_unplaced rfl rfl rfl
  have hd := htyped { d with ancestors := ancestorLinks (byLongname ds) r d }
  unfold addTrail
  rw [ancestorLinks_unplaced]
  exact (congrArg (fun e : Doclet => if e.kind == "constant" then { e with kind := "member" }
    else e) hd).trans (hmember _)

theorem addSignatures_unplaced (s : Site) :
    s.unplaced.addSignatures = s.addSignatures.unplaced := by
  have hcalls : s.unplaced.store.map (addCall s.linker s.registry) =
      (s.store.map (addCall s.linker s.registry)).unplaced :=
    Store.map_unplaced (addCall_unplaced s.linker s.registry) s.store
  have htrails : ∀ store : Store, store.unplaced.map
      (addTrail s.linker s.registry (byLongname store.unplaced.doclets)) =
        (store.map (addTrail s.linker s.registry (byLongname store.doclets))).unplaced := by
    intro store
    exact Store.map_unplaced (addTrail_unplaced s.linker s.registry store.doclets) store
  have hregistry : s.unplaced.registry = s.registry := rfl
  unfold addSignatures
  dsimp only
  rw [linker_unplaced, hregistry, hcalls, htrails]
  rfl

theorem prepare_unplaced (s : Site) (sources : List Source.File) :
    s.unplaced.prepare sources = (s.prepare sources).map unplaced := by
  refine Fault.bind_map (copyFiles_unplaced s) fun s => ?_
  have hready : (s.unplaced.registerAll sources).addSignatures =
      (s.registerAll sources).addSignatures.unplaced := by
    rw [registerAll_unplaced, addSignatures_unplaced]
  have hstore : (s.registerAll sources).addSignatures.unplaced.store.unquoteExternals =
      (s.registerAll sources).addSignatures.store.unquoteExternals.unplaced :=
    Store.unquoteExternals_unplaced _
  dsimp only
  rw [hready, hstore]
  rfl

/-! ## Pages -/

theorem writePage_unplaced (s : Site) (url : String) (page : Html) :
    s.unplaced.writePage url page = (s.writePage url page).map unplaced := by
  have hfiles : s.unplaced.files = s.files := rfl
  have hroot : s.unplaced.root = s.root := rfl
  have haround : s.unplaced.around = s.around := rfl
  unfold writePage
  dsimp only
  rw [hfiles, hroot, haround]
  cases s.files.put (s.root ++ Path.ofString (Address.page url)) (Page.bytesOf page.markup) with
  | ok files => cases s.around.refuses (s.root ++ Path.ofString (Address.page url)) <;> rfl
  | error e => cases e <;> rfl

theorem resolveTags_unplaced (s : Site) (page : Html) :
    s.unplaced.resolveTags page = (s.resolveTags page).map fun p => (p.1, p.2.unplaced) := by
  have hregistry : s.unplaced.registry = s.registry := rfl
  unfold resolveTags
  rw [hregistry]
  cases s.registry.resolveTags page with
  | mk outcome r => cases outcome <;> rfl

theorem context_unplaced (s : Site) : s.unplaced.context = s.context.unplaced := by
  unfold context
  rw [linker_unplaced]
  rfl

/-- Templates are given no places. -/
theorem templateVariables_unplaced (s : Site) (sidebar : Html) (title : String)
    (content : Page.Content) :
    s.unplaced.templateVariables sidebar title content =
      s.templateVariables sidebar title content := by
  have hsettings : s.unplaced.settings = s.settings := rfl
  rw [templateVariables, templateVariables, hsettings, context_unplaced,
    Page.Context.unplaced_unplaced]

theorem pageOf_unplaced (s : Site) (form : Page.Form) (v : Page.Variables) (framed : Html × Site) :
    s.unplaced.pageOf form v (framed.1, framed.2.unplaced) =
      (s.pageOf form v framed).map fun p => (p.1, p.2.unplaced) := by
  have hfiles : s.unplaced.files = s.files := rfl
  have hsettings : s.unplaced.settings = s.settings := rfl
  have haround : s.unplaced.around = s.around := rfl
  unfold pageOf
  dsimp only
  rw [hfiles, hsettings]
  refine Fault.bind_map_right fun look => ?_
  cases look with
  | drawn =>
    dsimp only
    unfold draw
    rw [haround]
    cases s.around.draw (Page.design s.files s.settings form) v <;> rfl
  | _ => rfl

theorem topicPage_unplaced (s : Site) (sidebar : Html) (pageType title : String)
    (topics : List Page.Topic) :
    s.unplaced.topicPage sidebar pageType title (topics.map Page.Topic.unplaced) =
      (s.topicPage sidebar pageType title topics).map fun p => (p.1, p.2.unplaced) := by
  have hsettings : s.unplaced.settings = s.settings := rfl
  have hgiven : (topics.map Page.Topic.unplaced).map Page.Topic.unplaced =
      topics.map Page.Topic.unplaced := by
    rw [List.map_map]
    exact List.map_congr_left fun t _ => t.unplaced_unplaced
  unfold topicPage
  rw [templateVariables_unplaced, hsettings, context_unplaced, hgiven, Page.topics_unplaced]
  exact s.pageOf_unplaced .container _ (_, s)

theorem writeTopics_unplaced (sidebar : Html) (s : Site) (pageType title : String)
    (topics : List Page.Topic) (url : String) :
    writeTopics sidebar s.unplaced pageType title (topics.map Page.Topic.unplaced) url =
      (writeTopics sidebar s pageType title topics url).map unplaced := by
  refine Fault.bind_map (topicPage_unplaced s sidebar pageType title topics) fun p => ?_
  exact Fault.bind_map (resolveTags_unplaced p.2 p.1) fun p => writePage_unplaced p.2 url p.1

/-! ## Listings -/

theorem addListing_unplaced (s : Site) (title : String) :
    s.unplaced.addListing title = ((s.addListing title).1, (s.addListing title).2.unplaced) :=
  congrArg (Prod.mk _) (register_unplaced
    { s with registry := (s.registry.allocate title ("<source>" ++ title)).2 } title _)

theorem writeListing_unplaced (sidebar : Html) (s : Site) (file : Source.File) :
    writeListing sidebar s.unplaced file = (writeListing sidebar s file).map unplaced := by
  have hread : s.unplaced.readSource = s.readSource := rfl
  have hpage : ∀ (s : Site) (code : String), s.unplaced.listingPage sidebar file.title code =
      (s.listingPage sidebar file.title code).map fun p => (p.1, p.2.unplaced) := by
    intro s code
    unfold listingPage
    dsimp only
    rw [templateVariables_unplaced]
    exact s.pageOf_unplaced .source _ (_, s)
  unfold writeListing
  rw [hread, addListing_unplaced]
  refine Fault.bind_map_right fun code => ?_
  cases code with
  | error reason => rfl
  | ok code =>
    exact Fault.bind_map (hpage (s.addListing file.title).2 code) fun p =>
      writePage_unplaced p.2 (s.addListing file.title).1 p.1

theorem writeListings_unplaced (sidebar : Html) (sources : List Source.File) (s : Site) :
    writeListings sidebar sources s.unplaced =
      (writeListings sidebar sources s).map unplaced := by
  have hsettings : s.unplaced.settings = s.settings := rfl
  unfold writeListings
  rw [hsettings]
  split
  · exact foldlM_unplaced (writeListing_unplaced sidebar) sources
      (s.print ("Writing " ++ toString sources.length ++ " source listings..."))
  · rfl

/-! ## Pages of topics -/

theorem writeGlobals_unplaced (sidebar : Html) (s : Site) :
    writeGlobals sidebar s.unplaced = (writeGlobals sidebar s).map unplaced := by
  have hempty : s.unplaced.store.globals.isEmpty = s.store.globals.isEmpty := by
    have hglobals : s.unplaced.store.globals = s.store.globals.map Doclet.unplaced :=
      s.store.globals_unplaced
    rw [hglobals, List.isEmpty_map]
  unfold writeGlobals
  rw [hempty]
  split
  · rfl
  · exact writeTopics_unplaced sidebar s "" "Global" [.globals] s.registry.globalUrl

theorem symbols_unplaced (ds : List Doclet) :
    (ds.map Doclet.unplaced).map Page.Topic.symbol =
      (ds.map Page.Topic.symbol).map Page.Topic.unplaced := by
  rw [List.map_map, List.map_map]
  rfl

theorem writeHome_unplaced (sidebar : Html) (readme : Option String) (s : Site) :
    writeHome sidebar readme s.unplaced = (writeHome sidebar readme s).map unplaced := by
  have hkind : ∀ kind, (s.unplaced.store.ofKind kind).map Page.Topic.symbol =
      ((s.store.ofKind kind).map Page.Topic.symbol).map Page.Topic.unplaced := by
    intro kind
    have hstore : s.unplaced.store.ofKind kind = (s.store.ofKind kind).map Doclet.unplaced :=
      s.store.ofKind_unplaced kind
    rw [hstore, symbols_unplaced]
  have h := writeTopics_unplaced sidebar s "" "Home"
    ((s.store.ofKind "package").map .symbol ++ .readme readme s.settings.mainPageTitle ::
      (s.store.ofKind "file").map .symbol) s.registry.homeUrl
  rw [List.map_append, List.map_cons, ← hkind, ← hkind] at h
  exact h

theorem writeContainer_unplaced (sidebar : Html) (longname url : String) (s : Site)
    (type : String × String) :
    writeContainer sidebar longname url s.unplaced type =
      (writeContainer sidebar longname url s type).map unplaced := by
  have hfind : (s.unplaced.store.find fun d => d.kind == type.2 && d.longname == some longname) =
      (s.store.find fun d => d.kind == type.2 && d.longname == some longname).map
        Doclet.unplaced := s.store.find_unplaced fun _ => rfl
  unfold writeContainer
  rw [hfind]
  cases s.store.find fun d => d.kind == type.2 && d.longname == some longname with
  | nil => rfl
  | cons d rest =>
    have h := writeTopics_unplaced sidebar s type.1 d.name ((d :: rest).map .symbol) url
    rw [← symbols_unplaced, List.map_cons] at h
    exact h

theorem writeContainers_unplaced (sidebar : Html) (s : Site) :
    writeContainers sidebar s.unplaced = (writeContainers sidebar s).map unplaced :=
  foldlM_unplaced (fun s entry =>
    foldlM_unplaced (writeContainer_unplaced sidebar entry.1 entry.2) pageTypes s)
    s.registry.urls.entries s

/-! ## Tutorials -/

theorem tutorialPage_unplaced (s : Site) (sidebar : Html) (t : Tutorial) :
    s.unplaced.tutorialPage sidebar t =
      (s.tutorialPage sidebar t).map fun p => (p.1, p.2.unplaced) := by
  unfold tutorialPage
  dsimp only
  rw [templateVariables_unplaced]
  exact s.pageOf_unplaced .tutorial _
    (_, { s with registry := (tutorialContent s.around.markdown s.registry t).2 })

theorem writeTutorial_unplaced (sidebar : Html) (s : Site) (t : Tutorial) :
    writeTutorial sidebar s.unplaced t = (writeTutorial sidebar s t).map unplaced := by
  refine Fault.bind_map (tutorialPage_unplaced s sidebar t) fun p => ?_
  refine Fault.bind_map (resolveTags_unplaced p.2 p.1) fun p => ?_
  exact writePage_unplaced { p.2 with registry := (p.2.registry.tutorialUrl t.name).2 } _ p.1

theorem writeTutorials_unplaced (sidebar : Html) :
    ∀ (s : Site) (ts : List Tutorial),
      writeTutorials sidebar s.unplaced ts = (writeTutorials sidebar s ts).map unplaced
  | s, [] => by
    rw [writeTutorials, writeTutorials]
    rfl
  | s, ⟨name, title, content, format, children⟩ :: rest => by
    rw [writeTutorials, writeTutorials]
    refine Fault.bind_map (writeTutorial_unplaced sidebar s _) fun s => ?_
    refine Fault.bind_map (writeTutorials_unplaced sidebar s children) fun s => ?_
    exact writeTutorials_unplaced sidebar s rest

/-! ## The whole run -/

theorem writePages_unplaced (sidebar : Html) (sources : List Source.File)
    (readme : Option String) (tutorials : List Tutorial) (s : Site) :
    writePages sidebar sources readme tutorials s.unplaced =
      (writePages sidebar sources readme tutorials s).map unplaced := by
  refine Fault.bind_map (writeListings_unplaced sidebar sources s) fun s => ?_
  refine Fault.bind_map (writeGlobals_unplaced sidebar s) fun s => ?_
  refine Fault.bind_map (writeHome_unplaced sidebar readme s) fun s => ?_
  refine Fault.bind_map (writeContainers_unplaced sidebar s) fun s => ?_
  exact writeTutorials_unplaced sidebar s tutorials

/-- The places of doclets are not looked at: a run ends alike without them. -/
theorem publish_unplaced (settings : Settings) (store : Store) (tutorial : Tutorial)
    (readme : Option String) (files : FileTree) (out : Path) (around : Surroundings) :
    publish settings store.unplaced tutorial readme files out around =
      (publish settings store tutorial readme files out around).map unplaced := by
  have hroot : ∀ s : Site, rootFor out s.unplaced.store = rootFor out s.store :=
    fun s => rootFor_unplaced out s.store
  have hsources : ∀ s : Site, s.unplaced.store.sourceFiles = s.store.sourceFiles :=
    fun s => s.store.sourceFiles_unplaced
  have hsidebar : ∀ s : Site, Sidebar.render s.unplaced.store settings tutorial.children =
      Sidebar.render s.store settings tutorial.children :=
    fun s => funext (Sidebar.render_unplaced s.store settings tutorial.children)
  unfold publish
  dsimp only
  rw [start_unplaced, hroot, hsources]
  refine Fault.bind_map (prepare_unplaced { start settings store files out with
    root := rootFor out (start settings store files out).store } _) fun s => ?_
  rw [hsidebar]
  refine Fault.bind_map_right fun p => ?_
  refine Fault.bind_map (writePages_unplaced p.1 _ readme tutorial.children
    { s with registry := p.2, around := around }) fun s => ?_
  rfl

/-- A run looks at the doclets only after they are prepared. -/
theorem publish_eq_of_prepareStore_eq {settings : Settings} {store store' : Store}
    (h : prepareStore settings store = prepareStore settings store') (tutorial : Tutorial)
    (readme : Option String) (files : FileTree) (out : Path) (around : Surroundings) :
    publish settings store tutorial readme files out around =
      publish settings store' tutorial readme files out around := by
  have hstart : start settings store files out = start settings store' files out := by
    rw [start, start, h]
  unfold publish
  rw [hstart]

theorem prepareStore_prune (settings : Settings) (store : Store) :
    prepareStore settings (store.prune settings.includePrivate) = prepareStore settings store := by
  have hprune : (store.prune settings.includePrivate).prune settings.includePrivate =
      store.prune settings.includePrivate := by
    simp only [Store.prune, Store.removeWhere, List.filter_filter, Bool.and_self]
  rw [prepareStore, prepareStore, hprune]

/-- Prepared doclets are the same when the same doclets are left and their sort keys differ. -/
theorem prepareStore_eq_of_perm {settings : Settings} {store store' : Store}
    (hsorts : settings.sorts = true)
    (hperm : (store.prune settings.includePrivate).doclets.Perm
      (store'.prune settings.includePrivate).doclets)
    (hc : Comparable (OrderField.listOfString settings.effectiveSortFields)
      (store.prune settings.includePrivate).doclets)
    (hapart : (store.prune settings.includePrivate).doclets.Pairwise fun d e =>
      ∃ f ∈ OrderField.listOfString settings.effectiveSortFields, f.Tells d e) :
    prepareStore settings store = prepareStore settings store' := by
  have hsort : (store.prune settings.includePrivate).sort settings.effectiveSortFields =
      (store'.prune settings.includePrivate).sort settings.effectiveSortFields :=
    congrArg Store.mk (orderBy_eq_of_perm hperm hc hapart)
  unfold prepareStore
  dsimp only
  rw [if_pos hsorts, if_pos hsorts, hsort]

/-- Two dumps whose doclets are the same but for the hidden ones and for their order give the same
site, or the same fault, if doclets are sorted, their sort keys differ and no number without value
is to be sorted beside another number. Hidden doclets alone never make a difference. -/
theorem publish_ignores_dump_order (settings : Settings) (tutorial : Tutorial)
    (readme : Option String) (files : FileTree) (out : Path) (around : Surroundings) :
    (∀ store store' : Store, settings.sorts = true →
      ((store.prune settings.includePrivate).doclets.map Doclet.unplaced).Perm
        ((store'.prune settings.includePrivate).doclets.map Doclet.unplaced) →
      Comparable (OrderField.listOfString settings.effectiveSortFields)
        (store.prune settings.includePrivate).doclets →
      ((store.prune settings.includePrivate).doclets.Pairwise fun d e =>
        ∃ f ∈ OrderField.listOfString settings.effectiveSortFields, f.Tells d e) →
      (publish settings store tutorial readme files out around).map unplaced =
        (publish settings store' tutorial readme files out around).map unplaced) ∧
    ∀ store : Store, publish settings store tutorial readme files out around =
      publish settings (store.prune settings.includePrivate) tutorial readme files out around := by
  refine ⟨fun store store' hsorts hperm hc hapart => ?_, fun store => ?_⟩
  · have hleft : ∀ s : Store, (s.unplaced.prune settings.includePrivate).doclets =
        (s.prune settings.includePrivate).doclets.map Doclet.unplaced := by
      intro s
      rw [s.prune_unplaced]
      rfl
    -- Without their places the doclets that are left are the same but for their order, and sorting
    -- gives them one order.
    have hprepared : prepareStore settings store.unplaced =
        prepareStore settings store'.unplaced := by
      refine prepareStore_eq_of_perm hsorts ?_ ?_ ?_
      · rwa [hleft, hleft]
      · rw [hleft]
        exact hc.map fun _ _ _ => rfl
      · rw [hleft, List.pairwise_map]
        exact hapart
    calc (publish settings store tutorial readme files out around).map unplaced
        = publish settings store.unplaced tutorial readme files out around :=
          (publish_unplaced ..).symm
      _ = publish settings store'.unplaced tutorial readme files out around :=
          publish_eq_of_prepareStore_eq hprepared ..
      _ = (publish settings store' tutorial readme files out around).map unplaced :=
          publish_unplaced ..
  · exact publish_eq_of_prepareStore_eq (prepareStore_prune settings store).symm ..

/-- Two classes with a private function between them. -/
def forwards : Store :=
  ⟨[{ position := 0, kind := "class", name := "A", longname := some "A" },
    { position := 1, kind := "function", name := "b", longname := some "b",
      access := some "private" },
    { position := 2, kind := "class", name := "C", longname := some "C" }]⟩

/-- The classes the other way around. -/
def backwards : Store :=
  ⟨[{ position := 0, kind := "class", name := "C", longname := some "C" },
    { position := 1, kind := "class", name := "A", longname := some "A" }]⟩

def sortingSettings : Settings := { plainSettings with sorts := true }

theorem forwards_backwards_alike :
    (publish sortingSettings forwards .root none plainTheme (Path.ofString "out")).map unplaced =
      (publish sortingSettings backwards .root none plainTheme (Path.ofString "out")).map
        unplaced ∧
    outcome (publish sortingSettings forwards .root none plainTheme (Path.ofString "out")) =
      some ([⟨"", ["out", "index.html"]⟩, ⟨"", ["out", "A.html"]⟩, ⟨"", ["out", "C.html"]⟩],
        []) := by
  constructor
  · refine (publish_ignores_dump_order sortingSettings .root none plainTheme
      (Path.ofString "out") {}).1 forwards backwards rfl ?_ ?_ ?_
    · exact List.Perm.swap _ _ []
    · have hfields : OrderField.listOfString sortingSettings.effectiveSortFields =
          [⟨"name", false⟩, ⟨"version", false⟩, ⟨"since", false⟩] := by decide
      rw [hfields]
      decide
    · refine List.pairwise_pair.mpr ⟨⟨"name", false⟩, by decide, ?_⟩
      unfold OrderField.Tells
      decide
  · have hfields : OrderField.listOfString sortingSettings.effectiveSortFields =
        [⟨"name", false⟩, ⟨"version", false⟩, ⟨"since", false⟩] := by decide
    have hsort : (forwards.prune false).sort sortingSettings.effectiveSortFields =
        forwards.prune false := by
      rw [Store.sort, orderByText, hfields, orderBy_of_pairwise (by decide)]
    have hprepared : prepareStore sortingSettings forwards = (forwards.prune false).addListeners :=
      congrArg Store.addListeners hsort
    simp only [publish, start, hprepared, writePages, writeTutorials, Registry.addTutorials,
      Tutorial.root]
    decide +kernel

/-- Three classes that are sorted by numbers, one of them without value. Two of them would have one
file name in a directory that does not tell letters apart by their case. -/
def valuelessClasses : Store :=
  ⟨[{ kind := "class", name := "A", longname := some "A", deprecated := .int 2 },
    { kind := "class", name := "b", longname := some "b", deprecated := .real .undefined },
    { kind := "class", name := "a", longname := some "a", deprecated := .int 1 }]⟩

def deprecatedFirst : Settings :=
  { plainSettings with
    sorts := true
    sortFields := some "deprecated" }

/-- Where a number without value is to be sorted beside others, the order of the dump shows in the
pages, though no two of the doclets have the same key. -/
theorem valuelessClasses_show_order :
    deprecatedFirst.sorts = true ∧
    ((valuelessClasses.prune deprecatedFirst.includePrivate).doclets.Perm
      ((⟨valuelessClasses.doclets.reverse⟩ : Store).prune deprecatedFirst.includePrivate).doclets) ∧
    ((valuelessClasses.prune deprecatedFirst.includePrivate).doclets.Pairwise fun d e =>
      ∃ f ∈ OrderField.listOfString deprecatedFirst.effectiveSortFields, f.key d ≠ f.key e) ∧
    outcome (publish deprecatedFirst valuelessClasses .root none plainTheme (Path.ofString "out")) =
      some ([⟨"", ["out", "index.html"]⟩, ⟨"", ["out", "A.html"]⟩, ⟨"", ["out", "b.html"]⟩,
        ⟨"", ["out", "a_1.html"]⟩], []) ∧
    outcome (publish deprecatedFirst ⟨valuelessClasses.doclets.reverse⟩ .root none plainTheme
        (Path.ofString "out")) =
      some ([⟨"", ["out", "index.html"]⟩, ⟨"", ["out", "a.html"]⟩, ⟨"", ["out", "b.html"]⟩,
        ⟨"", ["out", "A_1.html"]⟩], []) := by
  have hfields : OrderField.listOfString deprecatedFirst.effectiveSortFields =
      [⟨"deprecated", false⟩] := by decide
  -- Sorting leaves either order as it is.
  have hprepared : ∀ store ∈ [valuelessClasses, ⟨valuelessClasses.doclets.reverse⟩],
      prepareStore deprecatedFirst store = store.addListeners := by
    intro store hstore
    have hkept : (store.prune false).sort deprecatedFirst.effectiveSortFields = store := by
      rw [Store.sort, orderByText, hfields]
      rcases List.mem_pair.mp hstore with rfl | rfl <;> rfl
    exact congrArg Store.addListeners hkept
  refine ⟨rfl, valuelessClasses.doclets.reverse_perm.symm, ?_, ?_, ?_⟩
  · rw [hfields]
    decide
  · simp only [publish, start, hprepared _ List.mem_cons_self, writePages, writeTutorials,
      Registry.addTutorials, Tutorial.root]
    decide +kernel
  · simp only [publish, start, hprepared _ (List.mem_cons_of_mem _ List.mem_cons_self), writePages,
      writeTutorials, Registry.addTutorials, Tutorial.root]
    decide +kernel

end Site
end DocSite
