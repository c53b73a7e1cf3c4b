import DocSite.CommandLine.Run
import DocSite.Proofs.Publish.Reads

/-! Files that refuse a page. A run that cannot write some of its pages is compared with one that
can write them all: between two pages both are in one state but for the files, and these differ only
where a page was refused. As long as no such place is read again, the runs do the same. -/
namespace DocSite.Site
open Registry (Hosted Sound Reaches Quiet)
set_option autoImplicit false

/-! ## Records of pages -/

/-- The files of the pages that are written, in order. -/
def writtenAmong (refuses : Path → Bool) (root : Path) (made : List (String × Html)) :
    List Path :=
  (made.map fun m => root ++ Path.ofString (Address.page m.1)).filter fun p => !refuses p

/-- The addresses of the pages that are refused, in order. -/
def failedAmong (refuses : Path → Bool) (root : Path) (made : List (String × Html)) :
    List String :=
  (made.filter fun m => refuses (root ++ Path.ofString (Address.page m.1))).map Prod.fst

section
variable {refuses : Path → Bool} {root : Path} {made : List (String × Html)} {url : String}
  {page : Html}

theorem writtenAmong_concat : writtenAmong refuses root (made ++ [(url, page)]) =
    writtenAmong refuses root made ++
      if refuses (root ++ Path.ofString (Address.page url)) then []
      else [root ++ Path.ofString (Address.page url)] := by
  rw [writtenAmong, List.map_append, List.filter_append]
  congr 1
  cases h : refuses (root ++ Path.ofString (Address.page url)) <;> simp [h]

theorem failedAmong_concat : failedAmong refuses root (made ++ [(url, page)]) =
    failedAmong refuses root made ++
      if refuses (root ++ Path.ofString (Address.page url)) then [url] else [] := by
  rw [failedAmong, List.filter_append, List.map_append]
  congr 1
  cases h : refuses (root ++ Path.ofString (Address.page url)) <;> simp [h]

end

/-! ## Two runs side by side -/

/-- A state of a run that can write every page and the state of a run at the same point that is
refused some of them. -/
structure Twin (refuses : Path → Bool) (lost : Place → Prop) (s s' : Site) : Prop where
  eq : s' = s.beside s'.files s'.log s'.printed s'.written s'.failed refuses
  files : s.files.Alike lost s'.files
  rooted : s.files.HasDirectories s.root
  written : s'.written = writtenAmong refuses s.root s.made
  failed : s'.failed = failedAmong refuses s.root s.made

/-- A state on the way to another one: directories and pages that were made stay, and so does the
record of a page that could not be written. -/
structure Before (s S : Site) : Prop where
  keeps : s.files.Keeps S.files
  made : s.made ⊆ S.made
  root : S.root = s.root
  clean : S.failed = [] → s.failed = []

/-- The places whose pages are refused. -/
def Lost (S : Site) (refuses : Path → Bool) (place : Place) : Prop :=
  ∃ m ∈ S.made, refuses (S.target m.1) = true ∧ S.files.follow (S.target m.1) = .ok place

/-- No refused page is at the place that a path leads to. -/
def Clear (S : Site) (refuses : Path → Bool) (p : Path) : Prop :=
  ∀ place, S.files.follow p = .ok place → ¬ Lost S refuses place

section
variable {sidebar : Html} {s s' t S : Site} {refuses : Path → Bool} {lost : Place → Prop}
  {url : String} {page : Html}

theorem Before.refl (s : Site) : Before s s := ⟨.refl _, List.Subset.refl _, rfl, id⟩

theorem Before.trans (h : Before s t) (h' : Before t S) : Before s S :=
  ⟨h.keeps.trans h'.keeps, List.Subset.trans h.made h'.made, h'.root.trans h.root,
    fun hc => h.clean (h'.clean hc)⟩

theorem before_writePage (h : s.writePage url page = .ok t) : Before s t := by
  rcases writePage_cases h with ⟨files, hput, rfl⟩ | rfl
  · exact ⟨FileTree.keeps_put hput, List.subset_append_left _ _, rfl, id⟩
  · refine ⟨.refl _, List.subset_append_left _ _, rfl, fun hc => ?_⟩
    simp at hc

theorem Drafted.before {d : Draft} (h : Drafted s d t) : Before s t := by
  obtain ⟨log, he⟩ := h.eq
  rw [he]
  exact ⟨.refl _, List.Subset.refl _, rfl, id⟩

theorem before_run (hs : Sound s.registry) {job : Job} (placed : job.Placed s.registry)
    (h : job.run sidebar s = .ok t) : Before s t := by
  obtain ⟨d, drawn, hd, hw⟩ := Job.run_eq_ok h
  refine (drafted hs placed hd).before.trans ?_
  cases d with
  | none =>
    cases hw
    exact .refl _
  | some p =>
    obtain ⟨url, page⟩ := p
    have hw : drawn.writePage url page = .ok t := hw
    exact before_writePage hw

theorem before_jobs {jobs : List Job} (hs : Sound s.registry)
    (placed : ∀ job ∈ jobs, job.Placed s.registry)
    (h : jobs.foldlM (Job.run sidebar) s = .ok t) : Before s t := by
  induction jobs generalizing s with
  | nil =>
    cases h
    exact .refl _
  | cons job rest ih =>
    rw [List.foldlM_cons] at h
    obtain ⟨next, hn, h⟩ := Fault.bind_eq_ok_iff.mp h
    have hplaced := placed job List.mem_cons_self
    have hfirst := (onward_run hs hplaced hn).reached
    exact (before_run hs hplaced hn).trans (ih (hfirst.sound hs)
      (fun j hj => (placed j (List.mem_cons_of_mem _ hj)).mono hfirst) h)

/-- The directory of a page is the directory of all pages. -/
theorem parent_target (hname : IsFileName (Address.page url)) : (s.target url).parent = s.root := by
  rw [target, Path.append_ofString hname, Path.parent, List.dropLast_concat]

/-- A page that is written in one run is written in the other one too, or refused there. -/
theorem Twin.write (h : Twin refuses lost s s') (hname : IsFileName (Address.page url))
    (hw : s.writePage url page = .ok t) (hclean : t.failed = [])
    (hlost : refuses (s.target url) = true →
      ∀ place, s.files.follow (s.target url) = .ok place → lost place) :
    ∃ t', s'.writePage url page = .ok t' ∧ Twin refuses lost t t' := by
  rcases writePage_cases hw with ⟨files, hput, rfl⟩ | rfl
  · -- Both runs find the directory of the page, and no directory in the page's place.
    have hrooted : s.files.HasDirectories (s.target url).parent := parent_target hname ▸ h.rooted
    rw [FileTree.put_of_hasDirectories hrooted] at hput
    obtain ⟨place, hf, hd, rfl⟩ := FileTree.write_eq hput
    have hd' : s'.files.at? place ≠ some .directory := fun he =>
      hd ((h.files.directories place).mp he)
    have hput' : s'.files.put (s.target url) (Page.bytesOf page.markup) =
        .ok (s'.files.set place (.file (Page.bytesOf page.markup))) := by
      rw [FileTree.put_of_hasDirectories (hrooted.keeps h.files.keeps)]
      exact FileTree.write_of_follow (h.files.follow_iff.mpr hf) hd'
    have hroot : s'.root = s.root := by rw [h.eq]; rfl
    have hrefuses : s'.around.refuses = refuses := by rw [h.eq]; rfl
    have hrooted' := h.rooted.keeps (FileTree.keeps_set hd (.file (Page.bytesOf page.markup)))
    have hwritten := @writtenAmong_concat refuses s.root s.made url page
    have hfailed := @failedAmong_concat refuses s.root s.made url page
    rw [← target, ← h.written] at hwritten
    rw [← target, ← h.failed] at hfailed
    unfold writePage
    dsimp only
    rw [hroot, ← target, hput', hrefuses]
    dsimp only
    by_cases hr : refuses (s.target url) = true
    · rw [if_pos hr, List.append_nil] at hwritten
      rw [if_pos hr] at hfailed ⊢
      refine ⟨_, rfl, ?_, h.files.set_left (hlost hr place hf) hd _, hrooted', hwritten.symm,
        hfailed.symm⟩
      rw [h.eq]
      rfl
    · rw [if_neg hr, List.append_nil] at hfailed
      rw [if_neg hr] at hwritten ⊢
      refine ⟨_, rfl, ?_, h.files.set hd _, hrooted', hwritten.symm, hfailed.symm⟩
      rw [h.eq]
      rfl
  · simp at hclean

/-- Where a path of what a job reads is clear, both runs read the same there. -/
theorem Twin.reads (h : Twin refuses (Lost S refuses) s s') (later : Before s S) {paths : List Path}
    (clear : ∀ p ∈ paths, Clear S refuses p) :
    ∀ p ∈ paths, (s'.files.read p).toOption = (s.files.read p).toOption :=
  fun p hp => h.files.read fun place hf =>
    clear p hp place (FileTree.follow_of_directories later.keeps hf)

theorem Twin.draft (h : Twin refuses lost s s') (hs : Sound s.registry) {job : Job}
    (placed : job.Placed s.registry)
    (reads : ∀ p ∈ job.reads s.settings,
      (s'.files.read p).toOption = (s.files.read p).toOption) {d : Draft}
    (hd : job.draft sidebar s = .ok (d, t)) :
    ∃ t', job.draft sidebar s' = .ok (d, t') ∧ Twin refuses lost t t' := by
  have hbeside : ∃ log', job.draft sidebar
      (s.beside s'.files s'.log s'.printed s'.written s'.failed refuses) =
        .ok (d, t.beside s'.files log' s'.printed s'.written s'.failed refuses) :=
    draft_beside reads hd
  obtain ⟨log', hbeside⟩ := hbeside
  refine ⟨_, (congrArg (job.draft sidebar) h.eq).trans hbeside, ?_⟩
  obtain ⟨log, ht⟩ := (drafted hs placed hd).eq
  rw [ht]
  exact ⟨rfl, h.files, h.rooted, h.written, h.failed⟩

/-- The step lemma: one more job in both runs. -/
theorem Twin.run (h : Twin refuses (Lost S refuses) s s') (hs : Sound s.registry) {job : Job}
    (placed : job.Placed s.registry) (clear : ∀ p ∈ job.reads s.settings, Clear S refuses p)
    (hrun : job.run sidebar s = .ok t) (later : Before t S) (clean : S.failed = []) :
    ∃ t', job.run sidebar s' = .ok t' ∧ Twin refuses (Lost S refuses) t t' := by
  obtain ⟨d, drawn, hd, hw⟩ := Job.run_eq_ok hrun
  have hdrafted := drafted hs placed hd
  have hreads := h.reads ((before_run hs placed hrun).trans later) clear
  obtain ⟨drawn', hd', htwin⟩ := h.draft hs placed hreads hd
  cases d with
  | none =>
    cases hw
    exact ⟨drawn', Fault.bind_eq_ok_iff.mpr ⟨_, hd', rfl⟩, htwin⟩
  | some p =>
    obtain ⟨url, page⟩ := p
    have hw : drawn.writePage url page = .ok t := hw
    have hname := isFileName_page (hdrafted.reached.sound hs) (hdrafted.hosted url page rfl)
    have hfinal : Before drawn S := (before_writePage hw).trans later
    have hmade : (url, page) ∈ S.made := later.made (by rw [(writePage_frame hw).2.2.2.2]; simp)
    have htarget : S.target url = drawn.target url := by rw [target, target, hfinal.root]
    have hlost : refuses (drawn.target url) = true →
        ∀ place, drawn.files.follow (drawn.target url) = .ok place → Lost S refuses place := by
      intro hr place hf
      rw [← htarget] at hr hf
      exact ⟨(url, page), hmade, hr, FileTree.follow_of_directories hfinal.keeps hf⟩
    obtain ⟨t', hw', ht⟩ := htwin.write hname hw (later.clean clean) hlost
    exact ⟨t', Fault.bind_eq_ok_iff.mpr ⟨_, hd', hw'⟩, ht⟩

/-- The run lemma: a list of jobs in both runs. -/
theorem Twin.jobs {jobs : List Job} (h : Twin refuses (Lost S refuses) s s')
    (hs : Sound s.registry) (placed : ∀ job ∈ jobs, job.Placed s.registry)
    (clear : ∀ job ∈ jobs, ∀ p ∈ job.reads s.settings, Clear S refuses p)
    (hrun : jobs.foldlM (Job.run sidebar) s = .ok t) (later : Before t S) (clean : S.failed = []) :
    ∃ t', jobs.foldlM (Job.run sidebar) s' = .ok t' ∧ Twin refuses (Lost S refuses) t t' := by
  induction jobs generalizing s s' with
  | nil =>
    cases hrun
    exact ⟨s', rfl, h⟩
  | cons job rest ih =>
    rw [List.foldlM_cons] at hrun
    obtain ⟨next, hn, hrun⟩ := Fault.bind_eq_ok_iff.mp hrun
    obtain ⟨hplaced, hrest⟩ := List.forall_mem_cons.mp placed
    obtain ⟨hclear, hclears⟩ := List.forall_mem_cons.mp clear
    have hfirst := onward_run hs hplaced hn
    have hsound := hfirst.reached.sound hs
    have hrest' : ∀ j ∈ rest, j.Placed next.registry :=
      fun j hj => (hrest j hj).mono hfirst.reached
    have hlater := (before_jobs hsound hrest' hrun).trans later
    obtain ⟨next', hn', htwin⟩ := h.run hs hplaced hclear hn hlater clean
    obtain ⟨t', ht', htwin'⟩ := ih htwin hsound hrest' (hfirst.settings ▸ hclears) hrun
    exact ⟨t', by rw [List.foldlM_cons, hn']; exact ht', htwin'⟩

/-! ## Whole runs -/

/-- The files that the jobs of a run may read: templates, and the sources that are listed. -/
def readPaths (settings : Settings) (sources : List Source.File) : List Path :=
  Page.templatePaths settings ++
    if settings.listSources then sources.map fun file => Path.ofString file.path else []

theorem mem_readPaths_of_listing {settings : Settings} {sources : List Source.File} :
    ∀ job ∈ listingJobs settings sources, ∀ p ∈ job.reads settings,
      p ∈ readPaths settings sources := by
  intro job hj p hp
  unfold listingJobs at hj
  split at hj
  · rename_i hlist
    obtain ⟨file, hfile, rfl⟩ := List.mem_map.mp hj
    rw [readPaths, if_pos hlist, List.mem_append]
    rcases List.mem_cons.mp hp with rfl | hp
    · exact .inr (List.mem_map_of_mem hfile)
    · exact .inl hp
  · cases hj

theorem mem_readPaths_of_page {readme : Option String} {ts : List Tutorial} {settings : Settings}
    {sources : List Source.File} :
    ∀ job ∈ pageJobs readme ts s, ∀ p ∈ job.reads settings, p ∈ readPaths settings sources := by
  intro job hj p hp
  refine List.mem_append_left _ ?_
  cases job with
  | listing file =>
    simp only [pageJobs, List.mem_append, List.mem_map] at hj
    rcases hj with ((hj | hj) | ⟨_, _, he⟩) | ⟨_, _, he⟩
    · split at hj <;> simp at hj
    · simp at hj
    · cases he
    · cases he
  | _ => exact hp

theorem Twin.announced (h : Twin refuses lost s s') (sources : List Source.File) :
    Twin refuses lost (s.announced sources) (s'.announced sources) := by
  have hsettings : s'.settings = s.settings := by rw [h.eq]; rfl
  unfold Site.announced
  rw [hsettings]
  split
  · refine ⟨?_, h.files, h.rooted, h.written, h.failed⟩
    conv_lhs => rw [h.eq]
    rfl
  · exact h

theorem Twin.runJobs {readme : Option String} {ts : List Tutorial} {sources : List Source.File}
    (h : Twin refuses (Lost S refuses) s s') (hs : Sound s.registry)
    (clear : ∀ p ∈ readPaths s.settings sources, Clear S refuses p)
    (hrun : runJobs sidebar sources readme ts s = .ok S) (clean : S.failed = []) :
    ∃ S', Site.runJobs sidebar sources readme ts s' = .ok S' ∧ Twin refuses (Lost S refuses) S S' := by
  unfold Site.runJobs at hrun ⊢
  obtain ⟨listed, hl, hrun⟩ := Fault.bind_eq_ok_iff.mp hrun
  obtain ⟨hregistry, hannounced⟩ := announced_frame s sources
  have hsa : Sound (s.announced sources).registry := hregistry ▸ hs
  have honward := onward_jobs hsa placed_listingJobs hl
  have hsl := honward.reached.sound hsa
  have hlater := before_jobs hsl (placed_pageJobs hsl) hrun
  have hsettings : s'.settings = s.settings := by rw [h.eq]; rfl
  obtain ⟨listed', hl', htwin⟩ := (h.announced sources).jobs hsa placed_listingJobs
    (fun job hj p hp => clear p (mem_readPaths_of_listing job hj p (hannounced.settings ▸ hp)))
    hl hlater clean
  have hpages : pageJobs readme ts listed' = pageJobs readme ts listed := by
    rw [htwin.eq]
    rfl
  obtain ⟨S', hS, htwin'⟩ := htwin.jobs hsl (placed_pageJobs hsl)
    (fun job hj p hp => clear p (mem_readPaths_of_page job hj p
      ((hannounced.trans honward).settings ▸ hp))) hrun (.refl S) clean
  refine ⟨S', Fault.bind_eq_ok_iff.mpr ⟨listed', by rw [hsettings]; exact hl', ?_⟩, htwin'⟩
  rw [hpages]
  exact hS

end

section
variable {settings : Settings} {store : Store} {tutorial : Tutorial} {readme : Option String}
  {files : FileTree} {out : Path} {around : Surroundings} {s : Site}

theorem ready_around {sidebar : Html} {start : Site} {before : Surroundings}
    (h : ready settings store tutorial files out before = .ok (sidebar, start)) :
    ready settings store tutorial files out around =
      .ok (sidebar, { start with around := around }) := by
  unfold ready at h ⊢
  obtain ⟨prepared, hp, h⟩ := Fault.bind_eq_ok_iff.mp h
  obtain ⟨⟨sidebar, r⟩, hr, h⟩ := Fault.bind_eq_ok_iff.mp h
  cases h
  exact Fault.bind_eq_ok_iff.mpr ⟨prepared, hp, Fault.bind_eq_ok_iff.mpr ⟨_, hr, rfl⟩⟩

/-- A run that can write every page, and none of whose refused pages is at a place that the run
reads, does the same when these pages are refused, up to the records of what was written. -/
theorem publish_refusing
    (h : publish settings store tutorial readme files out around.accepting = .ok s)
    (clean : s.failed = [])
    (clear : ∀ p ∈ readPaths settings (sourcesOf settings store files out),
      Clear s around.refuses p) :
    ∃ s', publish settings store tutorial readme files out around = .ok s' ∧
      s'.made = s.made ∧ s'.written = writtenAmong around.refuses s.root s.made ∧
      s'.failed = failedAmong around.refuses s.root s.made := by
  obtain ⟨sidebar, start, last, hready, hlast, rfl⟩ := publish_jobs_eq_ok_iff.mp h
  obtain ⟨hfresh, hsettings, _, haround, hrooted⟩ := fresh_ready hready
  have hstart : Twin around.refuses (Lost last around.refuses) start
      { start with around := around } := by
    refine ⟨?_, .refl _ _, hrooted, ?_, ?_⟩
    · rw [beside, haround]
      rfl
    · rw [hfresh.made]
      exact hfresh.written
    · rw [hfresh.made]
      exact hfresh.failed
  have hclear : ∀ p ∈ readPaths start.settings (sourcesOf settings store files out),
      Clear last around.refuses p := by
    rw [hsettings]
    exact clear
  obtain ⟨last', hlast', htwin⟩ := hstart.runJobs hfresh.sound hclear hlast clean
  have hmade : last'.made = last.made := by
    rw [htwin.eq]
    rfl
  exact ⟨last'.finished, publish_jobs_eq_ok_iff.mpr ⟨sidebar, { start with around := around },
    last', ready_around hready, hlast', rfl⟩, hmade, htwin.written, htwin.failed⟩

theorem clear_of_not_samePlace {refuses : Path → Bool} {p : Path}
    (h : ∀ m ∈ s.made, refuses (s.target m.1) = true → s.isSamePlace p (s.target m.1) = false) :
    Clear s refuses p := by
  rintro place hp ⟨m, hm, hr, hf⟩
  have hne := h m hm hr
  simp only [isSamePlace, hp, hf, beq_self_eq_true] at hne
  cases hne

/-- Pages that are refused are isolated. A run that can write every page makes the same pages when
some files refuse theirs, as long as no such file is one that the run reads; the pages that are
refused are recorded as failed, all others as written, and the command ends with one or with zero
accordingly. -/
theorem publish_isolates_refused
    (h : publish settings store tutorial readme files out around.accepting = .ok s)
    (clean : s.failed = [])
    (apart : ∀ p ∈ readPaths settings (sourcesOf settings store files out), ∀ m ∈ s.made,
      around.refuses (s.target m.1) = true → s.isSamePlace p (s.target m.1) = false) :
    ∃ s', publish settings store tutorial readme files out around = .ok s' ∧
      s'.made = s.made ∧
      s'.written = (s.made.map fun m => s.target m.1).filter (fun p => !around.refuses p) ∧
      s'.failed = (s.made.filter fun m => around.refuses (s.target m.1)).map Prod.fst ∧
      ∀ (t : FileTree) (a : Arguments) (log : List LogRecord),
        (a.loadSettings t around.yaml).1 = .ok settings →
        a.publish t settings around = .ok (log, s') →
        ∃ o, a.run t around = .ok o ∧ o.exitCode = if s'.failed = [] then 0 else 1 := by
  obtain ⟨s', hrun, hmade, hwritten, hfailed⟩ := publish_refusing h clean
    fun p hp => clear_of_not_samePlace (apart p hp)
  refine ⟨s', hrun, hmade, hwritten, hfailed, fun t a log hload hpublish => ?_⟩
  refine ⟨.ofSite ((a.loadSettings t around.yaml).2 ++ log) s', ?_, ?_⟩
  · unfold Arguments.run
    dsimp only
    rw [hload]
    exact Fault.bind_eq_ok_iff.mpr ⟨(log, s'), hpublish, rfl⟩
  · rw [Outcome.ofSite]
    cases s'.failed <;> rfl

end

/-! ## A listing of a listing -/

/-- The second source is the file of the first one's listing. -/
def listedListing : Store :=
  ⟨[{ kind := "file", name := "a.txt", longname := some "p/a.txt",
      origin := some { fileName := "a.txt", directory := some "p" } },
    { position := 1, kind := "file", name := "b", longname := some "out/b",
      origin := some { fileName := "p_a.txt.html", directory := some "out" } }]⟩

def listedTheme : FileTree :=
  ⟨[(⟨false, ["t"]⟩, .directory), (⟨false, ["t", "container.html"]⟩, .file [120]),
    (⟨false, ["t", "source.html"]⟩, .file [120]), (⟨false, ["p"]⟩, .directory),
    (⟨false, ["p", "a.txt"]⟩, .file [120])]⟩

def listingSettings : Settings := { plainSettings with listSources := true }

/-- The run of the two sources. -/
def listedRun (refuses : Path → Bool) : Except Fault Site :=
  publish listingSettings listedListing .root none listedTheme (Path.ofString "out")
    { refuses := refuses }

/-- The file of the first listing, which is the second source. -/
def firstListing : Path := ⟨"", ["out", "p_a.txt.html"]⟩

def secondListing : Path := ⟨"", ["out", "out_p_a.txt.html.html"]⟩

/-- The pages that a run made, wrote and could not write. -/
def pagesOf (run : Except Fault Site) : Option (List String × List Path × List String) :=
  run.toOption.map fun s => (s.made.map Prod.fst, s.written, s.failed)

theorem eq_ok_of_pagesOf {run : Except Fault Site} {made : List String} {written : List Path}
    {failed : List String} (h : pagesOf run = some (made, written, failed)) :
    ∃ s, run = .ok s ∧ s.made.map Prod.fst = made ∧ s.written = written ∧ s.failed = failed := by
  cases run with
  | error e => cases h
  | ok s =>
    cases h
    exact ⟨s, rfl, rfl, rfl, rfl⟩

theorem pagesOf_listedRun : pagesOf (listedRun fun _ => false) =
    some (["p_a.txt.html", "out_p_a.txt.html.html", "index.html"],
      [firstListing, secondListing, ⟨"", ["out", "index.html"]⟩], []) := by
  simp only [listedRun, publish, writePages, writeTutorials, Registry.addTutorials, Tutorial.root]
  decide +kernel

/-- Nothing is read where the second listing is to be written. -/
theorem secondListing_isolated :
    ∃ s, listedRun (· == secondListing) = .ok s ∧
      s.written = [firstListing, ⟨"", ["out", "index.html"]⟩] ∧
      s.failed = ["out_p_a.txt.html.html"] := by
  have hapart : (listedRun fun _ => false).toOption.map (fun s =>
      (decide (∀ p ∈ readPaths listingSettings
          (sourcesOf listingSettings listedListing listedTheme (Path.ofString "out")),
        ∀ m ∈ s.made, (s.target m.1 == secondListing) = true →
          s.isSamePlace p (s.target m.1) = false), s.root)) = some (true, ⟨"", ["out"]⟩) := by
    simp only [listedRun, publish, writePages, writeTutorials, Registry.addTutorials, Tutorial.root]
    decide +kernel
  obtain ⟨s, hrun, hmade, hwritten, hfailed⟩ := eq_ok_of_pagesOf pagesOf_listedRun
  rw [hrun] at hapart
  obtain ⟨hapart, hroot⟩ := Prod.mk.inj (Option.some.inj hapart)
  obtain ⟨s', hrun', hmade', hwritten', hfailed', _⟩ :=
    @publish_isolates_refused listingSettings listedListing .root none listedTheme
      (Path.ofString "out") { refuses := (· == secondListing) } s hrun hfailed
      (of_decide_eq_true hapart)
  have hwrittenMap : (s.made.map fun m => s.target m.1) = (s.made.map Prod.fst).map s.target := by
    rw [List.map_map]
    rfl
  have hfailedMap : (s.made.filter fun m => s.target m.1 == secondListing).map Prod.fst =
      (s.made.map Prod.fst).filter fun url => s.target url == secondListing := by
    rw [List.filter_map]
    rfl
  rw [hwrittenMap, hmade] at hwritten'
  rw [hfailedMap, hmade] at hfailed'
  have htarget : s.target = fun url => ⟨"", ["out"]⟩ ++ Path.ofString (Address.page url) := by
    funext url
    rw [target, hroot]
  rw [htarget] at hwritten' hfailed'
  exact ⟨s', hrun', hwritten'.trans (by decide), hfailed'.trans (by decide)⟩

/-- Where the first listing is refused, the second one has no source to read. -/
theorem firstListing_not_isolated :
    ∃ s s', listedRun (fun _ => false) = .ok s ∧ s.failed = [] ∧
      listedRun (· == firstListing) = .ok s' ∧ s'.made ≠ s.made := by
  have hrefused : pagesOf (listedRun (· == firstListing)) =
      some (["p_a.txt.html", "index.html"], [⟨"", ["out", "index.html"]⟩], ["p_a.txt.html"]) := by
    simp only [listedRun, publish, writePages, writeTutorials, Registry.addTutorials, Tutorial.root]
    decide +kernel
  obtain ⟨s, hrun, hmade, _, hfailed⟩ := eq_ok_of_pagesOf pagesOf_listedRun
  obtain ⟨s', hrun', hmade', _⟩ := eq_ok_of_pagesOf hrefused
  refine ⟨s, s', hrun, hfailed, hrun', fun he => ?_⟩
  rw [he, hmade] at hmade'
  revert hmade'
  decide

end DocSite.Site
