import DocSite.Proofs.Publish.Containers

/-! A run as a list of jobs. A job drafts a page for an address, and a draft leaves the files alone;
only then is the page written. The jobs of the listings are settled when the run starts to write,
all others when the listings are written, so a run is stopped by a job but never led astray. -/
namespace DocSite
open Registry (Hosted Sound Reaches Quiet)
set_option autoImplicit false

theorem Fault.bind_congr_ok {α β : Type} {first : Except Fault α} {f g : α → Except Fault β}
    (h : ∀ a, first = .ok a → f a = g a) : first >>= f = first >>= g := by
  cases first with
  | error e => rfl
  | ok a => exact h a rfl

/-- Tutorials in the order of their pages, each before those under it. -/
def Tutorial.inOrder : List Tutorial → List Tutorial
  | [] => []
  | ⟨name, title, content, format, children⟩ :: rest =>
    ⟨name, title, content, format, children⟩ :: (inOrder children ++ inOrder rest)

namespace Site

/-- What a run does for one page. -/
inductive Job where
  | listing (file : Source.File)
  | globals
  | home (readme : Option String)
  | container (page : ContainerPage)
  | tutorial (t : Tutorial)

/-- The page of a job with its address, where it comes to one. -/
abbrev Draft := Option (String × Html)

/-- A page of topics with its tags resolved. -/
def draftTopics (sidebar : Html) (s : Site) (pageType title : String) (topics : List Page.Topic)
    (url : String) : Except Fault (Draft × Site) := do
  let (page, s) ← s.topicPage sidebar pageType title topics
  let (page, s) ← s.resolveTags page
  return (some (url, page), s)

def draftListing (sidebar : Html) (s : Site) (file : Source.File) :
    Except Fault (Draft × Site) := do
  match ← s.readSource (Path.ofString file.path) with
  | .error reason =>
    return (none,
      s.note (.fail ("Error while generating source file " ++ file.path ++ ": " ++ reason)))
  | .ok code =>
    let (url, s) := s.addListing file.title
    let (page, s) ← s.listingPage sidebar file.title code
    return (some (url, page), s)

def draftTutorial (sidebar : Html) (s : Site) (t : Tutorial) : Except Fault (Draft × Site) := do
  let (page, s) ← s.tutorialPage sidebar t
  let (page, s) ← s.resolveTags page
  let (url, r) := s.registry.tutorialUrl t.name
  return (some (url, page), { s with registry := r })

/-- All of a job but the writing. -/
def Job.draft (sidebar : Html) (s : Site) : Job → Except Fault (Draft × Site)
  | .listing file => draftListing sidebar s file
  | .globals => draftTopics sidebar s "" "Global" [.globals] s.registry.globalUrl
  | .home readme =>
    draftTopics sidebar s "" "Home"
      ((s.store.ofKind "package").map .symbol ++ .readme readme s.settings.mainPageTitle ::
        (s.store.ofKind "file").map .symbol)
      s.registry.homeUrl
  | .container p => draftTopics sidebar s p.pageType p.title (p.docs.map .symbol) p.url
  | .tutorial t => draftTutorial sidebar s t

/-- Writes the page of a draft. -/
def writeDraft : Draft × Site → Except Fault Site
  | (none, s) => .ok s
  | (some (url, page), s) => s.writePage url page

def Job.run (sidebar : Html) (s : Site) (job : Job) : Except Fault Site :=
  job.draft sidebar s >>= writeDraft

/-- The listings of a run. -/
def listingJobs (settings : Settings) (sources : List Source.File) : List Job :=
  if settings.listSources then sources.map .listing else []

/-- The state in which the listings are written. -/
def announced (s : Site) (sources : List Source.File) : Site :=
  if s.settings.listSources then
    s.print ("Writing " ++ toString sources.length ++ " source listings...")
  else s

/-- The pages that follow the listings. -/
def pageJobs (readme : Option String) (ts : List Tutorial) (s : Site) : List Job :=
  (if s.store.globals.isEmpty then [] else [.globals]) ++ [.home readme] ++
    (containerPages s.registry s.store).map .container ++ (Tutorial.inOrder ts).map .tutorial

/-! ## A run is its jobs -/

section
variable {sidebar : Html} {s s' : Site}

theorem run_topics (pageType title : String) (topics : List Page.Topic) (url : String) :
    draftTopics sidebar s pageType title topics url >>= writeDraft =
      writeTopics sidebar s pageType title topics url := by
  unfold draftTopics writeTopics
  rw [bind_assoc]
  refine bind_congr fun (content, _) => ?_
  rw [bind_assoc]
  exact bind_congr fun (_, _) => pure_bind _ _

theorem run_listing (file : Source.File) :
    Job.run sidebar s (.listing file) = writeListing sidebar s file := by
  unfold Job.run Job.draft draftListing writeListing
  dsimp only
  rw [bind_assoc]
  refine bind_congr fun read => ?_
  cases read with
  | error reason => rfl
  | ok code =>
    dsimp only
    rw [bind_assoc]
    exact bind_congr fun (_, _) => pure_bind _ _

theorem run_tutorial (t : Tutorial) :
    Job.run sidebar s (.tutorial t) = writeTutorial sidebar s t := by
  unfold Job.run Job.draft draftTutorial writeTutorial
  dsimp only
  rw [bind_assoc]
  refine bind_congr fun (drawn, _) => ?_
  rw [bind_assoc]
  exact bind_congr fun (_, _) => pure_bind _ _

theorem writeListings_eq_jobs (sources : List Source.File) (s : Site) :
    writeListings sidebar sources s =
      (listingJobs s.settings sources).foldlM (Job.run sidebar) (s.announced sources) := by
  unfold writeListings listingJobs announced
  split
  · rw [List.foldlM_map]
    congr
    funext s file
    exact (run_listing file).symm
  · rfl

/-- A page of topics settles nothing about the pages that follow it. -/
theorem writeTopics_frame {pageType title : String} {topics : List Page.Topic} {url : String}
    (h : writeTopics sidebar s pageType title topics url = .ok s') :
    s'.store = s.store ∧ s'.registry.urls = s.registry.urls := by
  obtain ⟨_, _, _, _, _, hq₁, _, hq, hw⟩ := writeTopics_eq h
  obtain ⟨_, hstore, hregistry, _⟩ := writePage_frame hw
  have hquiet : Quiet s.registry _ := hq₁.trans hq
  exact ⟨hstore, (congrArg Registry.urls hregistry).trans hquiet.urls_eq⟩

theorem writeGlobals_eq_jobs (s : Site) :
    writeGlobals sidebar s =
      (if s.store.globals.isEmpty then [] else [Job.globals]).foldlM (Job.run sidebar) s := by
  unfold writeGlobals
  split
  · rfl
  · rw [List.foldlM_cons]
    exact (run_topics ..).symm.trans (bind_pure _).symm

theorem writeTutorials_eq_jobs : ∀ (ts : List Tutorial) (s : Site),
    writeTutorials sidebar s ts = ((Tutorial.inOrder ts).map Job.tutorial).foldlM (Job.run sidebar) s
  | [], s => by
    rw [writeTutorials, Tutorial.inOrder]
    rfl
  | ⟨name, title, content, format, children⟩ :: rest, s => by
    rw [writeTutorials, Tutorial.inOrder, List.map_cons, List.foldlM_cons, run_tutorial,
      List.map_append]
    refine bind_congr fun s => ?_
    rw [List.foldlM_append, writeTutorials_eq_jobs children s]
    exact bind_congr fun s => writeTutorials_eq_jobs rest s

/-- After the listings the pages are settled. -/
theorem writePages_eq_jobs (sources : List Source.File) (readme : Option String)
    (ts : List Tutorial) (s : Site) :
    writePages sidebar sources readme ts s =
      (listingJobs s.settings sources).foldlM (Job.run sidebar) (s.announced sources) >>=
        fun s => (pageJobs readme ts s).foldlM (Job.run sidebar) s := by
  unfold writePages
  rw [writeListings_eq_jobs]
  refine bind_congr fun s => ?_
  have hframe : ∀ {s₁ s₂ : Site}, writeGlobals sidebar s₁ = .ok s₂ →
      s₂.store = s₁.store ∧ s₂.registry.urls = s₁.registry.urls := by
    intro s₁ s₂ h
    unfold writeGlobals at h
    split at h
    · cases h
      exact ⟨rfl, rfl⟩
    · exact writeTopics_frame h
  rw [pageJobs, List.foldlM_append, List.foldlM_append, List.foldlM_append, bind_assoc, bind_assoc,
    ← writeGlobals_eq_jobs]
  refine Fault.bind_congr_ok fun s₁ h₁ => ?_
  have hhome : writeHome sidebar readme s₁ = [Job.home readme].foldlM (Job.run sidebar) s₁ := by
    rw [List.foldlM_cons]
    exact (run_topics ..).symm.trans (bind_pure _).symm
  rw [← hhome]
  refine Fault.bind_congr_ok fun s₂ h₂ => ?_
  obtain ⟨hstore₁, hurls₁⟩ := hframe h₁
  obtain ⟨hstore₂, hurls₂⟩ := writeTopics_frame h₂
  have hpages : containerPages s₂.registry s₂.store = containerPages s.registry s.store := by
    rw [containerPages, containerPages, hurls₂, hurls₁, hstore₂, hstore₁]
  rw [writeContainers_eq, hpages, List.foldlM_map]
  have hcontainer : writeContainerPage sidebar =
      fun s p => Job.run sidebar s (.container p) := by
    funext s p
    exact (run_topics ..).symm
  rw [← hcontainer]
  exact bind_congr fun s₃ => writeTutorials_eq_jobs ts s₃

/-- The state in which a run starts to write pages, with the sidebar of its pages. -/
def ready (settings : Settings) (store : Store) (tutorial : Tutorial) (files : FileTree)
    (out : Path) (around : Surroundings) : Except Fault (Html × Site) := do
  let s ← (opened settings store files out).prepare (sourcesOf settings store files out)
  let (sidebar, r) ← Sidebar.render s.store settings tutorial.children
    (s.registry.addTutorials tutorial.children)
  return (sidebar, { s with registry := r, around := around })

/-- What a run prints when all jobs are done. -/
def finished (s : Site) : Site :=
  s.print ("Generated " ++ toString s.written.length ++ " HTML pages into: " ++ s.root.display)

/-- The jobs of a run, one after another. -/
def runJobs (sidebar : Html) (sources : List Source.File) (readme : Option String)
    (ts : List Tutorial) (s : Site) : Except Fault Site := do
  let s ← (listingJobs s.settings sources).foldlM (Job.run sidebar) (s.announced sources)
  (pageJobs readme ts s).foldlM (Job.run sidebar) s

theorem publish_eq_jobs (settings : Settings) (store : Store) (tutorial : Tutorial)
    (readme : Option String) (files : FileTree) (out : Path) (around : Surroundings) :
    publish settings store tutorial readme files out around =
      ready settings store tutorial files out around >>= fun (sidebar, s) =>
        runJobs sidebar (sourcesOf settings store files out) readme tutorial.children s >>=
          fun s => pure s.finished := by
  unfold publish ready
  rw [bind_assoc]
  refine bind_congr fun prepared => ?_
  rw [bind_assoc]
  refine bind_congr fun (sidebar, r) => ?_
  rw [pure_bind]
  exact congrArg (· >>= _) (writePages_eq_jobs ..)

theorem publish_jobs_eq_ok_iff {settings : Settings} {store : Store} {tutorial : Tutorial}
    {readme : Option String} {files : FileTree} {out : Path} {around : Surroundings} :
    publish settings store tutorial readme files out around = .ok s ↔ ∃ sidebar start last,
      ready settings store tutorial files out around = .ok (sidebar, start) ∧
      runJobs sidebar (sourcesOf settings store files out) readme tutorial.children start =
        .ok last ∧ s = last.finished := by
  rw [publish_eq_jobs]
  constructor
  · intro h
    obtain ⟨found, hready, h⟩ := Fault.bind_eq_ok_iff.mp h
    obtain ⟨last, hlast, h⟩ := Fault.bind_eq_ok_iff.mp h
    exact ⟨found.1, found.2, last, hready, hlast, (Except.ok.inj h).symm⟩
  · rintro ⟨sidebar, start, last, hready, hlast, rfl⟩
    exact Fault.bind_eq_ok_iff.mpr ⟨(sidebar, start), hready,
      Fault.bind_eq_ok_iff.mpr ⟨last, hlast, rfl⟩⟩

theorem fresh_ready {settings : Settings} {store : Store} {tutorial : Tutorial} {files : FileTree}
    {out : Path} {around : Surroundings}
    (h : ready settings store tutorial files out around = .ok (sidebar, s)) :
    Fresh s ∧ s.settings = settings ∧ s.root = rootFor out (start settings store files out).store ∧
      s.around = around ∧ s.files.HasDirectories s.root := by
  unfold ready at h
  obtain ⟨prepared, hp, h⟩ := Fault.bind_eq_ok_iff.mp h
  obtain ⟨⟨sidebar, r⟩, hr, h⟩ := Fault.bind_eq_ok_iff.mp h
  cases h
  have hopened := fresh_opened settings store files out
  obtain ⟨hunwritten, hdirectories⟩ := unwritten_prepare hopened.sound hp
  obtain ⟨hsound, hwritten, hfailed, hmade⟩ :=
    (hopened.unwritten hunwritten).addTutorials tutorial.children
  exact ⟨⟨(Sidebar.quiet_render hr).weaken.sound hsound, hwritten, hfailed, hmade⟩,
    hunwritten.settings, hunwritten.root, rfl, hunwritten.root ▸ hdirectories⟩

/-! ## What a job changes -/

/-- From one state to the next the registry takes steps; what the pages are about and where they go
stays. -/
structure Onward (s s' : Site) : Prop where
  reached : Reaches Hosted s.registry s'.registry
  settings : s'.settings = s.settings
  store : s'.store = s.store
  root : s'.root = s.root
  around : s'.around = s.around

theorem Onward.refl (s : Site) : Onward s s := ⟨.refl, rfl, rfl, rfl, rfl⟩

theorem Onward.trans {s'' : Site} (h : Onward s s') (h' : Onward s' s'') : Onward s s'' :=
  ⟨h.reached.trans h'.reached, h'.settings.trans h.settings, h'.store.trans h.store,
    h'.root.trans h.root, h'.around.trans h.around⟩

/-- The address of a container's page is on a page that has a file. -/
def Job.Placed (r : Registry) : Job → Prop
  | .container p => Hosted r p.url
  | _ => True

theorem Job.Placed.mono {r r' : Registry} {job : Job} (h : job.Placed r)
    (hr : Reaches Hosted r r') : job.Placed r' := by
  cases job with
  | container p => exact Hosted.mono h hr
  | _ => trivial

/-- A draft changes the registry and the log, and its address is on a page that has a file. -/
structure Drafted (s : Site) (d : Draft) (s' : Site) : Prop where
  reached : Reaches Hosted s.registry s'.registry
  eq : ∃ log, s' = { s with registry := s'.registry, log := log }
  hosted : ∀ url page, d = some (url, page) → Hosted s'.registry url

theorem drafted_topics {pageType title : String} {topics : List Page.Topic} {url : String}
    {d : Draft} (hosted : Hosted s.registry url)
    (h : draftTopics sidebar s pageType title topics url = .ok (d, s')) : Drafted s d s' := by
  unfold draftTopics at h
  obtain ⟨⟨content, s₁⟩, hc, h⟩ := Fault.bind_eq_ok_iff.mp h
  obtain ⟨⟨page, s₂⟩, ht, h⟩ := Fault.bind_eq_ok_iff.mp h
  cases h
  obtain ⟨r₁, hq₁, rfl⟩ := topicPage_eq hc
  obtain ⟨r, hq, _, rfl⟩ := resolveTags_eq ht
  have hq : Quiet s.registry r := hq₁.trans hq
  refine ⟨hq.weaken, ⟨_, rfl⟩, fun url' page' hd => ?_⟩
  cases hd
  exact hosted.mono hq

theorem register_eq (s : Site) (longname url : String) : ∃ log,
    s.register longname url =
      { s with registry := (s.register longname url).registry, log := log } := by
  unfold register
  dsimp only
  split <;> exact ⟨_, rfl⟩

theorem addListing_eq (s : Site) (title : String) : ∃ log,
    (s.addListing title).2 =
      { s with registry := (s.addListing title).2.registry, log := log } :=
  register_eq
    { s with registry := (s.registry.allocate title ("<source>" ++ title)).2 } title _

theorem drafted_listing (hs : Sound s.registry) {file : Source.File} {d : Draft}
    (h : draftListing sidebar s file = .ok (d, s')) : Drafted s d s' := by
  unfold draftListing at h
  obtain ⟨read, _, h⟩ := Fault.bind_eq_ok_iff.mp h
  cases read with
  | error reason =>
    cases h
    exact ⟨.refl, ⟨_, rfl⟩, fun _ _ hd => (by cases hd)⟩
  | ok code =>
    obtain ⟨⟨page, s₁⟩, hp, h⟩ := Fault.bind_eq_ok_iff.mp h
    cases h
    have hadd : Emits sidebar Hosted s [] (s.addListing file.title).2 := emits_addListing s _
    obtain ⟨r, hq, rfl, _⟩ := drawn_listingPage (hadd.reaches.sound hs) hp
    obtain ⟨log, hframe⟩ := addListing_eq s file.title
    refine ⟨hadd.reaches.trans hq.weaken, ⟨log, by rw [hframe]⟩, fun url' page' hd => ?_⟩
    cases hd
    exact Registry.hosted_of_file (hq.files_mono (addListing_file s file.title))

theorem drafted_tutorial (hs : Sound s.registry) {t : Tutorial} {d : Draft}
    (h : draftTutorial sidebar s t = .ok (d, s')) : Drafted s d s' := by
  unfold draftTutorial at h
  obtain ⟨⟨draft, s₁⟩, h₁, h⟩ := Fault.bind_eq_ok_iff.mp h
  obtain ⟨⟨page, s₂⟩, h₂, h⟩ := Fault.bind_eq_ok_iff.mp h
  cases h
  obtain ⟨r₁, hq₁, rfl, _⟩ := drawn_tutorialPage hs h₁
  obtain ⟨r₂, hq₂, _, rfl⟩ := resolveTags_eq h₂
  have hq : Quiet s.registry r₂ := hq₁.trans hq₂
  have hurl : Quiet r₂ (r₂.tutorialUrl t.name).2 := Registry.reaches_tutorialUrl r₂ t.name
  refine ⟨hq.weaken.trans hurl.weaken, ⟨_, rfl⟩, fun url' page' hd => ?_⟩
  cases hd
  exact Registry.hosted_of_file (Registry.tutorialUrl_file (hq.weaken.sound hs) t.name)

theorem drafted (hs : Sound s.registry) {job : Job} (placed : job.Placed s.registry) {d : Draft}
    (h : job.draft sidebar s = .ok (d, s')) : Drafted s d s' := by
  cases job with
  | listing file => exact drafted_listing hs h
  | globals =>
    refine drafted_topics ⟨Registry.globalKey, _, hs.globals, ?_⟩ h
    rw [hs.globalUrl]
  | home readme =>
    refine drafted_topics ⟨Registry.homeKey, _, hs.home, ?_⟩ h
    rw [hs.homeUrl]
  | container p => exact drafted_topics placed h
  | tutorial t => exact drafted_tutorial hs h

theorem Drafted.onward {d : Draft} (h : Drafted s d s') : Onward s s' := by
  obtain ⟨log, he⟩ := h.eq
  exact ⟨h.reached, by rw [he], by rw [he], by rw [he], by rw [he]⟩

theorem onward_writeDraft {d : Draft} (h : writeDraft (d, s) = .ok s') : Onward s s' := by
  cases d with
  | none =>
    cases h
    exact .refl s
  | some p =>
    obtain ⟨url, page⟩ := p
    have hw : s.writePage url page = .ok s' := h
    rcases writePage_cases hw with ⟨files, _, rfl⟩ | rfl <;> exact ⟨.refl, rfl, rfl, rfl, rfl⟩

theorem Job.run_eq_ok {job : Job} (h : job.run sidebar s = .ok s') :
    ∃ d drawn, job.draft sidebar s = .ok (d, drawn) ∧ writeDraft (d, drawn) = .ok s' := by
  obtain ⟨⟨d, drawn⟩, hd, hw⟩ := Fault.bind_eq_ok_iff.mp h
  exact ⟨d, drawn, hd, hw⟩

theorem made_writeDraft {d : Draft} (h : writeDraft (d, s) = .ok s') :
    s'.made = s.made ++ d.toList := by
  cases d with
  | none =>
    cases h
    exact (List.append_nil _).symm
  | some p =>
    obtain ⟨url, page⟩ := p
    have hw : s.writePage url page = .ok s' := h
    exact (writePage_frame hw).2.2.2.2

theorem onward_run (hs : Sound s.registry) {job : Job} (placed : job.Placed s.registry)
    (h : job.run sidebar s = .ok s') : Onward s s' := by
  obtain ⟨d, drawn, hd, hw⟩ := Job.run_eq_ok h
  exact (drafted hs placed hd).onward.trans (onward_writeDraft hw)

theorem onward_jobs {jobs : List Job} (hs : Sound s.registry)
    (placed : ∀ job ∈ jobs, job.Placed s.registry)
    (h : jobs.foldlM (Job.run sidebar) s = .ok s') : Onward s s' := by
  induction jobs generalizing s with
  | nil =>
    cases h
    exact .refl _
  | cons job rest ih =>
    rw [List.foldlM_cons] at h
    obtain ⟨next, hn, h⟩ := Fault.bind_eq_ok_iff.mp h
    have hfirst := onward_run hs (placed job List.mem_cons_self) hn
    exact hfirst.trans (ih (hfirst.reached.sound hs)
      (fun j hj => (placed j (List.mem_cons_of_mem _ hj)).mono hfirst.reached) h)

theorem placed_listingJobs {r : Registry} {settings : Settings} {sources : List Source.File} :
    ∀ job ∈ listingJobs settings sources, job.Placed r := by
  intro job hj
  unfold listingJobs at hj
  split at hj
  · obtain ⟨file, _, rfl⟩ := List.mem_map.mp hj
    trivial
  · cases hj

theorem placed_pageJobs (hs : Sound s.registry) {readme : Option String} {ts : List Tutorial} :
    ∀ job ∈ pageJobs readme ts s, job.Placed s.registry := by
  intro job hj
  cases job with
  | container p =>
    have hp : p ∈ containerPages s.registry s.store := by
      simp only [pageJobs, List.mem_append, List.mem_map] at hj
      rcases hj with ((hj | hj) | ⟨q, hq, he⟩) | ⟨_, _, he⟩
      · split at hj <;> simp at hj
      · simp at hj
      · cases he
        exact hq
      · cases he
    exact hs.hosted p.longname p.url
      (Table.get?_eq_some_of_mem hs.urls_nodup (mem_containerPages.mp hp).1)
  | _ => trivial

theorem announced_frame (s : Site) (sources : List Source.File) :
    (s.announced sources).registry = s.registry ∧ Onward s (s.announced sources) := by
  unfold announced
  split <;> exact ⟨rfl, .refl, rfl, rfl, rfl, rfl⟩

end

/-! ## The states in between -/

/-- Once it is ready, a run comes to a job in the state that the jobs before it leave. -/
inductive ComesTo (sidebar : Html) (sources : List Source.File) (readme : Option String)
    (ts : List Tutorial) (start : Site) (job : Job) (t : Site) : Prop
  | listing {before after : List Job}
    (split : listingJobs start.settings sources = before ++ job :: after)
    (run : before.foldlM (Job.run sidebar) (start.announced sources) = .ok t)
  | page {before after : List Job} {listed : Site}
    (listings : writeListings sidebar sources start = .ok listed)
    (split : pageJobs readme ts listed = before ++ job :: after)
    (run : before.foldlM (Job.run sidebar) listed = .ok t)

section
variable {sidebar : Html} {sources : List Source.File} {readme : Option String}
  {ts : List Tutorial} {start t : Site}

theorem onward_split {jobs before after : List Job} {job : Job} (hs : Sound start.registry)
    (placed : ∀ job ∈ jobs, job.Placed start.registry) (split : jobs = before ++ job :: after)
    (run : before.foldlM (Job.run sidebar) start = .ok t) :
    Onward start t ∧ job.Placed t.registry := by
  subst split
  have hrun := onward_jobs hs (fun j hj => placed j (List.mem_append_left _ hj)) run
  exact ⟨hrun, (placed job (by simp)).mono hrun.reached⟩

theorem ComesTo.onward {job : Job} (h : ComesTo sidebar sources readme ts start job t)
    (hs : Sound start.registry) : Onward start t ∧ job.Placed t.registry := by
  obtain ⟨hregistry, hannounced⟩ := announced_frame start sources
  have hsa : Sound (start.announced sources).registry := hregistry ▸ hs
  cases h with
  | listing split run =>
    obtain ⟨honward, placed⟩ := onward_split hsa placed_listingJobs split run
    exact ⟨hannounced.trans honward, placed⟩
  | page listings split run =>
    rw [writeListings_eq_jobs] at listings
    have hlistings := hannounced.trans (onward_jobs hsa placed_listingJobs listings)
    have hsl := hlistings.reached.sound hs
    obtain ⟨honward, placed⟩ := onward_split hsl (placed_pageJobs hsl) split run
    exact ⟨hlistings.trans honward, placed⟩

end
end Site
end DocSite
