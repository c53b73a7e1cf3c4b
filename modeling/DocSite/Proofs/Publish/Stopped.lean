import DocSite.Proofs.Nav.Filter
import DocSite.Proofs.Publish.Faults

/-! What stops a run, and which settings can. Settings are checked when they are read, but neither
are the operators of the filter for details looked at then nor is the encoding of the sources looked
up. The filter stops a run just where a member that may be listed comes to an operator that does not
exist, the encoding just where the run comes to a source that it cannot give the text of. What else
may stop a run are paths, blank links and the files and layouts that the settings name. -/
namespace DocSite.Site
set_option autoImplicit false

section
variable {settings : Settings} {store : Store} {tutorial : Tutorial} {readme : Option String}
  {files : FileTree} {out : Path} {around : Surroundings} {e : Fault}

theorem runJobs_eq_error_iff {sidebar : Html} {sources : List Source.File} {ts : List Tutorial}
    {start : Site} :
    runJobs sidebar sources readme ts start = .error e ↔
      ∃ job t, ComesTo sidebar sources readme ts start job t ∧ job.run sidebar t = .error e := by
  rw [runJobs, Fault.bind_eq_error_iff]
  constructor
  · rintro (h | ⟨listed, hlistings, h⟩)
    · obtain ⟨before, job, after, t, hsplit, hbefore, hrun⟩ := Fault.foldlM_eq_error_iff.mp h
      exact ⟨job, t, .listing hsplit hbefore, hrun⟩
    · obtain ⟨before, job, after, t, hsplit, hbefore, hrun⟩ := Fault.foldlM_eq_error_iff.mp h
      exact ⟨job, t, .page ((writeListings_eq_jobs ..).trans hlistings) hsplit hbefore, hrun⟩
  · rintro ⟨job, t, hcomes, hrun⟩
    cases hcomes with
    | listing split run =>
      exact .inl (Fault.foldlM_eq_error_iff.mpr ⟨_, job, _, t, split, run, hrun⟩)
    | page listings split run =>
      exact .inr ⟨_, (writeListings_eq_jobs ..).symm.trans listings,
        Fault.foldlM_eq_error_iff.mpr ⟨_, job, _, t, split, run, hrun⟩⟩

/-- Jobs leave the settings of the run and its surroundings as they are. -/
theorem ComesTo.settings_of_ready {sidebar : Html} {start t : Site} {job : Job}
    (h : ComesTo sidebar (sourcesOf settings store files out) readme tutorial.children start job t)
    (hstart : ready settings store tutorial files out around = .ok (sidebar, start)) :
    t.settings = settings ∧ t.around = around := by
  obtain ⟨hfresh, hsettings, -, haround, -⟩ := fresh_ready hstart
  have honward := (h.onward hfresh.sound).1
  exact ⟨honward.settings.trans hsettings, honward.around.trans haround⟩

theorem ComesTo.listSources {sidebar : Html} {sources : List Source.File} {ts : List Tutorial}
    {start t : Site} {file : Source.File}
    (h : ComesTo sidebar sources readme ts start (.listing file) t) :
    start.settings.listSources = true := by
  cases h with
  | listing split run =>
    have hmem : Job.listing file ∈ listingJobs start.settings sources := by
      rw [split]
      exact List.mem_append_right _ List.mem_cons_self
    unfold listingJobs at hmem
    split at hmem
    · assumption
    · cases hmem
  | page listings split run =>
    rename_i before after listed
    have hmem : Job.listing file ∈ pageJobs readme ts listed := by
      rw [split]
      exact List.mem_append_right _ List.mem_cons_self
    simp [pageJobs] at hmem

/-- A run fails while it prepares the doclets, while it builds the sidebar, or at a job that it comes
to. -/
theorem publish_eq_error_iff :
    publish settings store tutorial readme files out around = .error e ↔
      (opened settings store files out).prepare (sourcesOf settings store files out) = .error e ∨
      (∃ prepared,
        (opened settings store files out).prepare (sourcesOf settings store files out) =
          .ok prepared ∧
        Sidebar.render prepared.store settings tutorial.children
          (prepared.registry.addTutorials tutorial.children) = .error e) ∨
      ∃ sidebar start job t,
        ready settings store tutorial files out around = .ok (sidebar, start) ∧
        ComesTo sidebar (sourcesOf settings store files out) readme tutorial.children start job t ∧
        job.run sidebar t = .error e := by
  have hready : ready settings store tutorial files out around = .error e ↔
      (opened settings store files out).prepare (sourcesOf settings store files out) = .error e ∨
      ∃ prepared,
        (opened settings store files out).prepare (sourcesOf settings store files out) =
          .ok prepared ∧
        Sidebar.render prepared.store settings tutorial.children
          (prepared.registry.addTutorials tutorial.children) = .error e := by
    rw [ready, Fault.bind_eq_error_iff]
    refine or_congr_right (exists_congr fun prepared => and_congr_right fun _ => ?_)
    rw [Fault.bind_eq_error_iff]
    refine or_iff_left ?_
    rintro ⟨_, -, h⟩
    cases h
  rw [publish_eq_jobs, Fault.bind_eq_error_iff, hready, or_assoc]
  refine or_congr_right (or_congr_right ?_)
  constructor
  · rintro ⟨⟨sidebar, start⟩, hstart, h⟩
    rcases Fault.bind_eq_error_iff.mp h with h | ⟨_, -, h⟩
    · obtain ⟨job, t, hcomes, hrun⟩ := runJobs_eq_error_iff.mp h
      exact ⟨sidebar, start, job, t, hstart, hcomes, hrun⟩
    · cases h
  · rintro ⟨sidebar, start, job, t, hstart, hcomes, hrun⟩
    exact ⟨(sidebar, start), hstart, Fault.bind_eq_error_iff.mpr
      (.inl (runJobs_eq_error_iff.mpr ⟨job, t, hcomes, hrun⟩))⟩

theorem render_error {s : Store} {tutorials : List Tutorial} {r : Registry}
    (h : Sidebar.render s settings tutorials r = .error e) : ∃ names, e = .unknownOperator names := by
  unfold Sidebar.render at h
  split at h
  · rename_i hbuild
    cases h
    exact (Sidebar.buildTrees_error hbuild).2
  · cases h

/-- The causes that stop a run: what may under the settings, the filter for details, or the encoding
at a source. -/
theorem publish_error (h : publish settings store tutorial readme files out around = .error e) :
    settings.MayStop e ∨
    (∃ prepared names,
      (opened settings store files out).prepare (sourcesOf settings store files out) =
        .ok prepared ∧
      Sidebar.render prepared.store settings tutorial.children
        (prepared.registry.addTutorials tutorial.children) = .error e ∧
      e = .unknownOperator names) ∨
    ∃ sidebar start file t,
      ready settings store tutorial files out around = .ok (sidebar, start) ∧
      ComesTo sidebar (sourcesOf settings store files out) readme tutorial.children start
        (.listing file) t ∧
      t.files.EncodingFails around.encodings settings.encoding (Path.ofString file.path) e := by
  rcases publish_eq_error_iff.mp h with h | ⟨prepared, hprepared, h⟩ |
    ⟨sidebar, start, job, t, hstart, hcomes, h⟩
  · exact .inl (prepare_error h)
  · obtain ⟨names, rfl⟩ := render_error h
    exact .inr (.inl ⟨prepared, names, hprepared, h, rfl⟩)
  · obtain ⟨hsettings, haround⟩ := hcomes.settings_of_ready hstart
    rcases Job.run_error h with hstops | ⟨file, rfl, hfails⟩
    · exact .inl (hsettings ▸ hstops)
    · rw [hsettings, haround] at hfails
      exact .inr (.inr ⟨sidebar, start, file, t, hstart, hcomes, hfails⟩)

/-- What settings that were read without a fault can still do to a run. The filter for details stops
it just where a section lists a symbol with a member that comes to an operator that does not exist,
whatever sections are shown. The encoding stops it just where the run comes to a source that it gives
no text of, which the default never does. Nothing else stops a run but paths, links without a target,
and what the files and the layout that the settings name come to. -/
theorem publish_stopped_by_settings_iff :
    ((∃ names, publish settings store tutorial readme files out around =
        .error (.unknownOperator names)) ↔
      ∃ prepared section_,
        (opened settings store files out).prepare (sourcesOf settings store files out) =
          .ok prepared ∧
        Sidebar.SectionFails prepared.store settings tutorial.children section_) ∧
    (∀ e, e.OfEncoding → (publish settings store tutorial readme files out around = .error e ↔
      ∃ sidebar start file t,
        ready settings store tutorial files out around = .ok (sidebar, start) ∧
        ComesTo sidebar (sourcesOf settings store files out) readme tutorial.children start
          (.listing file) t ∧
        t.files.EncodingFails around.encodings settings.encoding (Path.ofString file.path) e)) ∧
    ∀ e, publish settings store tutorial readme files out around = .error e →
      settings.MayStop e ∨ (∃ names, e = .unknownOperator names) ∨
        e.OfEncoding ∧ settings.listSources = true ∧
          (around.encodings.KnowUtf8 → settings.encoding ≠ "utf-8") := by
  refine ⟨?_, fun e he => ?_, fun e h => ?_⟩
  · constructor
    · rintro ⟨names, h⟩
      rcases publish_error h with h | ⟨prepared, _, hprepared, h, -⟩ | ⟨_, _, _, _, -, -, h⟩
      · cases h
      · obtain ⟨section_, hfails⟩ := Sidebar.render_fails_iff.mp ⟨_, h⟩
        exact ⟨prepared, section_, hprepared, hfails⟩
      · cases h
    · rintro ⟨prepared, section_, hprepared, hfails⟩
      obtain ⟨e, he⟩ := (Sidebar.render_fails_iff
        (r := prepared.registry.addTutorials tutorial.children)).mpr ⟨section_, hfails⟩
      obtain ⟨names, rfl⟩ := render_error he
      exact ⟨names, publish_eq_error_iff.mpr (.inr (.inl ⟨prepared, hprepared, he⟩))⟩
  · constructor
    · intro h
      rcases publish_error h with h | ⟨_, names, -, -, rfl⟩ | h
      · cases he <;> cases h
      · cases he
      · exact h
    · rintro ⟨sidebar, start, file, t, hstart, hcomes, hfails⟩
      obtain ⟨hsettings, haround⟩ := hcomes.settings_of_ready hstart
      refine publish_eq_error_iff.mpr (.inr (.inr ⟨sidebar, start, _, t, hstart, hcomes, ?_⟩))
      rw [← hsettings, ← haround] at hfails
      rw [run_listing, writeListing, readSource_of_fails hfails]
      rfl
  · rcases publish_error h with h | ⟨_, names, -, -, rfl⟩ |
      ⟨sidebar, start, file, t, hstart, hcomes, hfails⟩
    · exact .inl h
    · exact .inr (.inl ⟨names, rfl⟩)
    · refine .inr (.inr ⟨hfails.ofEncoding, ?_, hfails.ne_default⟩)
      rw [← (fresh_ready hstart).2.1]
      exact hcomes.listSources

end

/-- Settings with an operator and an encoding that do not exist. -/
def strangeFields : Settings.Fields :=
  [("navigation", .mapping [("details_order", .text "name"),
      ("details_filter", .mapping [("name", .mapping [("regex", .text "^a")])])]),
    ("sorting", .mapping [("enabled", .bool false)]),
    ("output", .mapping [("encoding", .text "no-such-encoding")])]

def strangeSettings : Settings :=
  { detailsFilter := some [("name", .mapping [("regex", .text "^a")])]
    detailsOrder := "name"
    sorts := false
    encoding := "no-such-encoding" }

/-- A class with a member. -/
def classWithMember : Store :=
  ⟨[{ kind := "class", name := "C", longname := some "C" },
    { position := 1, kind := "member", name := "m", longname := some "C.m", memberof := some "C",
      scope := some "static" }]⟩

/-- A function that was found in a file. -/
def functionInFile : Store :=
  ⟨[{ kind := "function", name := "f", longname := some "f", scope := some "global",
      origin := some { fileName := "a.txt", line := some 1 } }]⟩

def fileOfFunction : FileTree := ⟨[(⟨false, ["a.txt"]⟩, .file [120])]⟩

theorem member_reaches_operator :
    ∃ prepared section_,
      (opened strangeSettings classWithMember ⟨[]⟩ (Path.ofString "out")).prepare
        (sourcesOf strangeSettings classWithMember ⟨[]⟩ (Path.ofString "out")) = .ok prepared ∧
      Sidebar.SectionFails prepared.store strangeSettings [] section_ := by
  have hrun : ((opened strangeSettings classWithMember ⟨[]⟩ (Path.ofString "out")).prepare
      (sourcesOf strangeSettings classWithMember ⟨[]⟩ (Path.ofString "out"))).toOption.map
        (fun p => ((p.store.ofKind "class").any (·.longnameOrEmpty == "C"),
          (p.store.detailCandidates "C").isEmpty)) = some (true, false) := by
    decide +kernel
  cases hprepared : (opened strangeSettings classWithMember ⟨[]⟩ (Path.ofString "out")).prepare
      (sourcesOf strangeSettings classWithMember ⟨[]⟩ (Path.ofString "out")) with
  | error e =>
    rw [hprepared] at hrun
    cases hrun
  | ok prepared =>
    rw [hprepared] at hrun
    obtain ⟨hclass, hmember⟩ := Prod.mk.inj (Option.some.inj hrun)
    obtain ⟨d, hd, hlongname⟩ := List.any_eq_true.mp hclass
    have hlongname : d.longnameOrEmpty = "C" := beq_iff_eq.mp hlongname
    obtain ⟨m, hm⟩ := List.exists_mem_of_ne_nil (prepared.store.detailCandidates "C")
      (fun he => by rw [he] at hmember; cases hmember)
    have hquery : Query.ofFields [("name", .mapping [("regex", .text "^a")])] =
        [("name", .unknown ["regex"])] := by
      simp [Query.ofFields, Condition.ofValue, List.lookup_cons]
    refine ⟨prepared, .classes, rfl, d, List.mem_map_of_mem hd, ?_, rfl, _, rfl, m, ?_, ["regex"],
      [], "name", .unknown ["regex"], [], hquery, fun _ h => absurd h List.not_mem_nil, .unknown⟩
    · rw [hlongname]
      decide
    · rw [hlongname]
      exact hm

theorem listing_lacks_encoding :
    ∃ sidebar start file t,
      ready strangeSettings functionInFile .root fileOfFunction (Path.ofString "out")
        {} = .ok (sidebar, start) ∧
      ComesTo sidebar (sourcesOf strangeSettings functionInFile fileOfFunction (Path.ofString "out"))
        none Tutorial.root.children start (.listing file) t ∧
      t.files.EncodingFails Text.Encoding.all strangeSettings.encoding (Path.ofString file.path)
        .unknownEncoding := by
  have hrun : (ready strangeSettings functionInFile .root fileOfFunction (Path.ofString "out")
      {}).toOption.map (fun p => p.2.files.read (Path.ofString "a.txt")) =
        some (.ok [120]) := by
    simp only [ready, Registry.addTutorials, Tutorial.root]
    decide +kernel
  have hsources : sourcesOf strangeSettings functionInFile fileOfFunction (Path.ofString "out") =
      [⟨"a.txt", "a.txt"⟩] := by
    decide +kernel
  cases hready : ready strangeSettings functionInFile .root fileOfFunction (Path.ofString "out")
      {} with
  | error e =>
    rw [hready] at hrun
    cases hrun
  | ok found =>
    obtain ⟨sidebar, start⟩ := found
    rw [hready] at hrun
    have hread : start.files.read (Path.ofString "a.txt") = .ok [120] := Option.some.inj hrun
    have hsplit : listingJobs start.settings [⟨"a.txt", "a.txt"⟩] =
        [] ++ .listing ⟨"a.txt", "a.txt"⟩ :: [] := by
      rw [(fresh_ready hready).2.1]
      rfl
    refine ⟨sidebar, start, ⟨"a.txt", "a.txt"⟩, start.announced [⟨"a.txt", "a.txt"⟩], rfl, ?_, ?_⟩
    · rw [hsources]
      exact .listing hsplit rfl
    · have hfiles : (start.announced [⟨"a.txt", "a.txt"⟩]).files = start.files := by
        unfold announced
        split <;> rfl
      rw [hfiles]
      exact .unknown (by decide) hread (by decide +kernel)

/-- Settings that are read without a fault stop a run for one store with their filter, and for
another one with their encoding. With the encoding that is used when none is set, no encoding stops
a run. -/
theorem strangeSettings_stop :
    Settings.ofFields strangeFields = .ok strangeSettings ∧
    (∃ names, publish strangeSettings classWithMember .root none ⟨[]⟩ (Path.ofString "out") =
      .error (.unknownOperator names)) ∧
    publish strangeSettings functionInFile .root none fileOfFunction (Path.ofString "out") =
      .error .unknownEncoding ∧
    ∀ store files e, publish { strangeSettings with encoding := "utf-8" } store .root none files
      (Path.ofString "out") = .error e → ¬ e.OfEncoding := by
  refine ⟨rfl, ?_, ?_, ?_⟩
  · exact publish_stopped_by_settings_iff.1.mpr member_reaches_operator
  · exact (publish_stopped_by_settings_iff.2.1 _ .unknown).mpr listing_lacks_encoding
  · intro store files e h he
    rcases publish_stopped_by_settings_iff.2.2 e h with h | ⟨names, rfl⟩ | ⟨-, -, hother⟩
    · cases he <;> cases h
    · cases he
    · exact hother Text.Encoding.all_knowUtf8 rfl

end DocSite.Site
