import DocSite.Proofs.Publish.Schedule

/-! Where pages go. Whatever the names of doclets, tutorials and sources, a page is a file directly
in the directory of the pages: its name is one that the registry gave out. -/
namespace DocSite.Site
open Registry (Hosted Sound Reaches Quiet)
set_option autoImplicit false

/-- Once it is ready, a run comes to a job, whose page is then to be written in a state `s`. -/
def Attempts (sidebar : Html) (sources : List Source.File) (readme : Option String)
    (ts : List Tutorial) (start : Site) (s : Site) (url : String) (page : Html) : Prop :=
  ∃ job t, ComesTo sidebar sources readme ts start job t ∧
    job.draft sidebar t = .ok (some (url, page), s)

section
variable {sidebar : Html} {sources : List Source.File} {readme : Option String}
  {ts : List Tutorial} {start s t : Site} {url : String} {page : Html}

/-- A page is drafted in a sound state, under an address that has a file there. -/
theorem Attempts.hosted (h : Attempts sidebar sources readme ts start s url page)
    (hs : Sound start.registry) :
    Onward start s ∧ Sound s.registry ∧ Hosted s.registry url := by
  obtain ⟨job, t, hcomes, hd⟩ := h
  obtain ⟨honward, placed⟩ := hcomes.onward hs
  have hst := honward.reached.sound hs
  have hdraft := drafted hst placed hd
  exact ⟨honward.trans hdraft.onward, hdraft.reached.sound hst, hdraft.hosted url page rfl⟩

/-! ## Pages that were made -/

theorem mem_made_of_jobs {jobs : List Job} (hs : Sound start.registry)
    (placed : ∀ job ∈ jobs, job.Placed start.registry)
    (h : jobs.foldlM (Job.run sidebar) start = .ok s) {p : String × Html} (hp : p ∈ s.made) :
    p ∈ start.made ∨ ∃ before job after t drawn, jobs = before ++ job :: after ∧
      before.foldlM (Job.run sidebar) start = .ok t ∧ job.draft sidebar t = .ok (some p, drawn) := by
  induction jobs generalizing start with
  | nil =>
    cases h
    exact .inl hp
  | cons job rest ih =>
    rw [List.foldlM_cons] at h
    obtain ⟨next, hn, h⟩ := Fault.bind_eq_ok_iff.mp h
    have hplaced := placed job List.mem_cons_self
    have hfirst := onward_run hs hplaced hn
    have hrest : ∀ j ∈ rest, j.Placed next.registry := fun j hj =>
      (placed j (List.mem_cons_of_mem _ hj)).mono hfirst.reached
    rcases ih (hfirst.reached.sound hs) hrest h with hp | ⟨before, job', after, t, drawn, rfl, hrun,
      hdraft⟩
    · -- The page was there before or is the one of the first job.
      obtain ⟨d, drawn, hd, hw⟩ := Job.run_eq_ok hn
      obtain ⟨log, he⟩ := (drafted hs hplaced hd).eq
      have hmade : next.made = start.made ++ d.toList := by rw [made_writeDraft hw, he]
      rw [hmade] at hp
      rcases List.mem_append.mp hp with hp | hp
      · exact .inl hp
      · rw [Option.mem_toList] at hp
        exact .inr ⟨[], job, rest, start, drawn, rfl, rfl, by rw [hd, hp]⟩
    · refine .inr ⟨job :: before, job', after, t, drawn, rfl, ?_, hdraft⟩
      rw [List.foldlM_cons, hn]
      exact hrun

theorem attempts_of_made (hs : Sound start.registry) (hfresh : start.made = [])
    (h : runJobs sidebar sources readme ts start = .ok s) {p : String × Html} (hp : p ∈ s.made) :
    ∃ t, Attempts sidebar sources readme ts start t p.1 p.2 := by
  obtain ⟨listed, hl, h⟩ := Fault.bind_eq_ok_iff.mp h
  obtain ⟨hregistry, hannounced⟩ := announced_frame start sources
  have hsa : Sound (start.announced sources).registry := hregistry ▸ hs
  have hsl := (hannounced.trans (onward_jobs hsa placed_listingJobs hl)).reached.sound hs
  rcases mem_made_of_jobs hsl (placed_pageJobs hsl) h hp with hp | ⟨_, job, _, t, drawn, hj, hrun, hd⟩
  · rcases mem_made_of_jobs hsa placed_listingJobs hl hp with
      hp | ⟨_, job, _, t, drawn, hj, hrun, hd⟩
    · have hmade : (start.announced sources).made = start.made := by
        unfold announced
        split <;> rfl
      rw [hmade, hfresh] at hp
      cases hp
    · exact ⟨drawn, job, t, .listing hj hrun, hd⟩
  · exact ⟨drawn, job, t, .page ((writeListings_eq_jobs sources start).trans hl) hj hrun, hd⟩

end

/-! ## The whole run -/

section
variable {settings : Settings} {store : Store} {tutorial : Tutorial} {readme : Option String}
  {files : FileTree} {out : Path} {around : Surroundings}

/-- A run is its jobs, and every page that one of them is about to write, in a run that goes on or
in one that stops there, is for a file that the registry gave out, directly in the directory of the
pages. The pages of a finished run are among these. -/
theorem pages_below_root {sidebar : Html} {start : Site}
    (h : ready settings store tutorial files out around = .ok (sidebar, start)) :
    publish settings store tutorial readme files out around =
      (runJobs sidebar (sourcesOf settings store files out) readme tutorial.children start >>=
        fun s => pure s.finished) ∧
    (∀ s url page,
      Attempts sidebar (sourcesOf settings store files out) readme tutorial.children start s url
        page →
      (∃ key, s.registry.files.get? key = some (Address.page url)) ∧
      IsFileName (Address.page url) ∧ '\\' ∉ (Address.page url).toList ∧
      s.target url =
        ⟨(rootFor out (Site.start settings store files out).store).root,
          (rootFor out (Site.start settings store files out).store).parts ++
            [Address.page url]⟩) ∧
    ∀ s, runJobs sidebar (sourcesOf settings store files out) readme tutorial.children start =
        .ok s →
      ∀ p ∈ s.made, ∃ t, Attempts sidebar (sourcesOf settings store files out) readme
        tutorial.children start t p.1 p.2 := by
  obtain ⟨hfresh, _, hroot, _, _⟩ := fresh_ready h
  refine ⟨?_, fun s url page hattempt => ?_, fun s hrun p hp => ?_⟩
  · rw [publish_eq_jobs, h]
    rfl
  · obtain ⟨honward, hs, hosted⟩ := hattempt.hosted hfresh.sound
    have hname := isFileName_page hs hosted
    refine ⟨⟨_, hs.get?_page hosted⟩, hname, unreserved_page hs hosted '\\' (by decide), ?_⟩
    rw [target, Path.append_ofString hname, honward.root, hroot]
  · exact attempts_of_made hfresh.sound hfresh.made hrun hp

end

/-- A class that is named like a file outside. -/
def strayClass : Store :=
  ⟨[{ position := 0, kind := "class", name := "../../etc/passwd",
      longname := some "../../etc/passwd" }]⟩

theorem strayClass_below_root :
    ∃ sidebar start s page,
      ready plainSettings strayClass .root plainTheme (Path.ofString "out") {} =
        .ok (sidebar, start) ∧
      Attempts sidebar (sourcesOf plainSettings strayClass plainTheme (Path.ofString "out")) none
        Tutorial.root.children start s "._.._etc_passwd.html" page ∧
      s.target "._.._etc_passwd.html" = ⟨"", ["out", "._.._etc_passwd.html"]⟩ := by
  have hrun : (publish plainSettings strayClass .root none plainTheme (Path.ofString "out")).toOption.map
      (fun s => s.made.map Prod.fst) = some ["index.html", "._.._etc_passwd.html"] := by
    simp only [publish, writePages, writeTutorials, Registry.addTutorials, Tutorial.root]
    decide +kernel
  have hroot : rootFor (Path.ofString "out")
      (Site.start plainSettings strayClass plainTheme (Path.ofString "out")).store =
        ⟨"", ["out"]⟩ := by decide +kernel
  cases hready : ready plainSettings strayClass .root plainTheme (Path.ofString "out")
      {} with
  | error e =>
    rw [publish_eq_jobs, hready] at hrun
    cases hrun
  | ok found =>
    obtain ⟨sidebar, start⟩ := found
    obtain ⟨heq, hbelow, hmade⟩ := @pages_below_root plainSettings strayClass .root none plainTheme
      (Path.ofString "out") {} sidebar start hready
    rw [heq] at hrun
    cases hjobs : runJobs sidebar (sourcesOf plainSettings strayClass plainTheme
        (Path.ofString "out")) none Tutorial.root.children start with
    | error e =>
      rw [hjobs] at hrun
      cases hrun
    | ok s =>
      rw [hjobs] at hrun
      have hurls : s.made.map Prod.fst = ["index.html", "._.._etc_passwd.html"] :=
        Option.some.inj hrun
      have hmem : "._.._etc_passwd.html" ∈ s.made.map Prod.fst := by rw [hurls]; simp
      obtain ⟨⟨url, page⟩, hp, rfl⟩ := List.mem_map.mp hmem
      obtain ⟨t, hattempt⟩ := hmade s hjobs _ hp
      have htarget := (hbelow t _ page hattempt).2.2.2
      have hpage : Address.page "._.._etc_passwd.html" = "._.._etc_passwd.html" := by decide
      rw [hroot, hpage] at htarget
      exact ⟨sidebar, start, t, page, rfl, hattempt, htarget⟩

end DocSite.Site
