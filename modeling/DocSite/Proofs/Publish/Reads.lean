import DocSite.Proofs.Publish.Schedule

/-! What the drafts of a run read. A job reads the templates, and for a listing its source file; with
other files that hold the same at these paths it drafts the same page, whatever else was written or
logged. -/
namespace DocSite
open Registry (Hosted Sound Reaches Quiet)
set_option autoImplicit false

namespace Fault

section
variable {ε α : Type} {first second : Except ε α}

theorem eq_ok_of_toOption (h : first.toOption = second.toOption) {a : α} (hs : second = .ok a) :
    first = .ok a := by
  cases first with
  | error e =>
    rw [hs] at h
    cases h
  | ok b =>
    rw [hs] at h
    exact congrArg _ (Option.some.inj h)

theorem eq_error_of_toOption (h : first.toOption = second.toOption) {e : ε}
    (hs : second = .error e) : ∃ e', first = .error e' := by
  cases first with
  | error e' => exact ⟨e', rfl⟩
  | ok b =>
    rw [hs] at h
    cases h

end

end Fault

namespace Page

/-! ## Templates -/

/-- The files that may be templates of the user. -/
def templatePaths (s : Settings) : List Path :=
  (templateDirectories s).flatMap fun directory =>
    (layoutName s :: bundledNames).map fun name => directory ++ Path.ofString name

section
variable {t t' : FileTree} {s : Settings}

theorem findTemplate_congr {name : String} {directories : List Path}
    (h : ∀ d ∈ directories, (t'.read (d ++ Path.ofString name)).toOption =
      (t.read (d ++ Path.ofString name)).toOption) :
    findTemplate t' name directories = findTemplate t name directories := by
  induction directories with
  | nil => rfl
  | cons d rest ih =>
    obtain ⟨hfirst, hrest⟩ := List.forall_mem_cons.mp h
    rw [findTemplate, findTemplate, hfirst, ih hrest]

/-- Templates are looked up by what is read at their paths. -/
theorem template_congr
    (h : ∀ p ∈ templatePaths s, (t'.read p).toOption = (t.read p).toOption) {name : String}
    (hn : name ∈ layoutName s :: bundledNames) : template t' s name = template t s name := by
  rw [template, template, findTemplate_congr fun d hd => h _ (List.mem_flatMap.mpr
    ⟨d, hd, List.mem_map_of_mem hn⟩)]

theorem design_congr (h : ∀ p ∈ templatePaths s, (t'.read p).toOption = (t.read p).toOption)
    (form : Form) : design t' s form = design t s form := by
  have hform : form.file ∈ layoutName s :: bundledNames := by
    cases form <;> simp [bundledNames]
  have hparts : partsFile ∈ layoutName s :: bundledNames := by simp [bundledNames]
  rw [design, design, template_congr h hform, template_congr h List.mem_cons_self,
    template_congr h hparts]

end

end Page

namespace Site

/-! ## What a job reads -/

/-- The files that a job may read. -/
def Job.reads (settings : Settings) : Job → List Path
  | .listing file => Path.ofString file.path :: Page.templatePaths settings
  | _ => Page.templatePaths settings

/-- A state with other files and other records of what was written. -/
def beside (s : Site) (files : FileTree) (log : List LogRecord) (printed : List String)
    (written : List Path) (failed : List String) (refuses : Path → Bool) : Site :=
  { s with
    files := files
    log := log
    printed := printed
    written := written
    failed := failed
    around := { s.around with refuses := refuses } }

section
variable {sidebar : Html} {s t : Site} {files : FileTree} {log : List LogRecord}
  {printed : List String} {written : List Path} {failed : List String} {refuses : Path → Bool}
  {d : Draft}

theorem draw_beside {design : Page.Design} {v : Page.Variables} {page : Html}
    (hp : s.draw design v = .ok (page, t)) :
    (s.beside files log printed written failed refuses).draw design v =
      .ok (page, t.beside files log printed written failed refuses) := by
  have haround : (s.beside files log printed written failed refuses).around.draw = s.around.draw :=
    rfl
  unfold draw at hp ⊢
  rw [haround]
  split at hp
  · cases hp
    rfl
  · cases hp

theorem pageOf_beside
    (h : ∀ p ∈ Page.templatePaths s.settings,
      (files.read p).toOption = (s.files.read p).toOption) {form : Page.Form}
    {v : Page.Variables} {page content : Html} {framed : Site}
    (hp : s.pageOf form v (content, framed) = .ok (page, t)) :
    (s.beside files log printed written failed refuses).pageOf form v
        (content, framed.beside files log printed written failed refuses) =
      .ok (page, t.beside files log printed written failed refuses) := by
  have hdesign : Page.design (s.beside files log printed written failed refuses).files
      (s.beside files log printed written failed refuses).settings form =
        Page.design s.files s.settings form := Page.design_congr h form
  unfold pageOf at hp ⊢
  obtain ⟨look, hl, hp⟩ := Fault.bind_eq_ok_iff.mp hp
  dsimp only
  rw [hdesign, hl]
  cases look with
  | drawn => exact draw_beside hp
  | fixed text =>
    cases hp
    rfl
  | framed =>
    cases hp
    rfl

theorem resolveTags_beside {page page' : Html} (h : s.resolveTags page = .ok (page', t)) :
    (s.beside files log printed written failed refuses).resolveTags page =
      .ok (page', t.beside files log printed written failed refuses) := by
  obtain ⟨r, -, hr, rfl⟩ := resolveTags_eq h
  have hregistry : (s.beside files log printed written failed refuses).registry = s.registry := rfl
  rw [resolveTags, hregistry, hr]
  rfl

theorem draftTopics_beside
    (h : ∀ p ∈ Page.templatePaths s.settings,
      (files.read p).toOption = (s.files.read p).toOption) {pageType title : String}
    {topics : List Page.Topic} {url : String}
    (hd : draftTopics sidebar s pageType title topics url = .ok (d, t)) :
    draftTopics sidebar (s.beside files log printed written failed refuses) pageType title topics
        url =
      .ok (d, t.beside files log printed written failed refuses) := by
  unfold draftTopics at hd ⊢
  obtain ⟨⟨content, t₁⟩, hc, hd⟩ := Fault.bind_eq_ok_iff.mp hd
  obtain ⟨⟨page, t₂⟩, ht, hd⟩ := Fault.bind_eq_ok_iff.mp hd
  cases hd
  exact Fault.bind_eq_ok_iff.mpr ⟨_, pageOf_beside h hc,
    Fault.bind_eq_ok_iff.mpr ⟨_, resolveTags_beside ht, rfl⟩⟩

theorem register_beside (s : Site) (files : FileTree) (log : List LogRecord)
    (printed : List String) (written : List Path) (failed : List String) (refuses : Path → Bool)
    (longname url : String) : ∃ log',
      (s.beside files log printed written failed refuses).register longname url =
        (s.register longname url).beside files log' printed written failed refuses := by
  have hregistry : (s.beside files log printed written failed refuses).registry = s.registry := rfl
  unfold register
  rw [hregistry]
  dsimp only
  split <;> exact ⟨_, rfl⟩

theorem readSource_of_error {path : Path} {e : PathError} (h : s.files.read path = .error e) :
    s.readSource path =
      if s.settings.encoding.toList.contains (Char.ofNat 0) then .error .nullInEncoding
      else if e = .nullByte then .error (.unusablePath .nullByte)
      else .ok (.error (e.message path)) := by
  unfold readSource FileTree.readTextNamed
  rw [h]
  by_cases hnull : s.settings.encoding.toList.contains (Char.ofNat 0) = true
  · rw [if_pos hnull, if_pos hnull]
  · rw [if_neg hnull, if_neg hnull]
    cases e <;> rfl

theorem readSource_of_read {path : Path} (h : files.read path = s.files.read path) :
    (s.beside files log printed written failed refuses).readSource path = s.readSource path := by
  have hbeside : (s.beside files log printed written failed refuses).readSource path =
    { s with files := files }.readSource path := rfl
  rw [hbeside]
  unfold readSource FileTree.readTextNamed
  dsimp only
  rw [h]

/-- A source that can be read gives the same text; the reasons why one cannot be read may be
different. -/
theorem readSource_beside {path : Path} {read : Except String String}
    (h : (files.read path).toOption = (s.files.read path).toOption)
    (hr : s.readSource path = .ok read) :
    ∃ read', (s.beside files log printed written failed refuses).readSource path = .ok read' ∧
      read'.toOption = read.toOption := by
  cases hread : s.files.read path with
  | ok bytes =>
    refine ⟨read, ?_, rfl⟩
    rw [readSource_of_read ((Fault.eq_ok_of_toOption h hread).trans hread.symm), hr]
  | error e =>
    obtain ⟨e', he'⟩ := Fault.eq_error_of_toOption h hread
    rw [readSource_of_error hread] at hr
    split at hr
    · cases hr
    · rename_i hnull
      split at hr
      · cases hr
      · rename_i he
        cases hr
        -- Only a null byte in the path ends the run, and then it does so in either tree.
        have hne : e' ≠ .nullByte := by
          rintro rfl
          have hpath := FileTree.read_eq_nullByte_iff.mp he'
          rw [FileTree.read_eq_nullByte_iff.mpr hpath] at hread
          cases hread
          exact he rfl
        refine ⟨.error (e'.message path), ?_, rfl⟩
        rw [readSource_of_error (s := s.beside files log printed written failed refuses) he']
        exact (if_neg hnull).trans (if_neg hne)

theorem addListing_beside (s : Site) (files : FileTree) (log : List LogRecord)
    (printed : List String) (written : List Path) (failed : List String) (refuses : Path → Bool)
    (title : String) : ∃ log',
      (s.beside files log printed written failed refuses).addListing title =
        ((s.addListing title).1,
          (s.addListing title).2.beside files log' printed written failed refuses) := by
  obtain ⟨log', h⟩ := register_beside
    { s with registry := (s.registry.allocate title ("<source>" ++ title)).2 } files log printed
    written failed refuses title (s.registry.allocate title ("<source>" ++ title)).1
  exact ⟨log', congrArg (Prod.mk _) h⟩

theorem draftListing_beside {file : Source.File}
    (h : ∀ p ∈ Job.reads s.settings (.listing file),
      (files.read p).toOption = (s.files.read p).toOption)
    (hd : draftListing sidebar s file = .ok (d, t)) : ∃ log',
      draftListing sidebar (s.beside files log printed written failed refuses) file =
        .ok (d, t.beside files log' printed written failed refuses) := by
  obtain ⟨hsource, htemplates⟩ := List.forall_mem_cons.mp h
  unfold draftListing at hd ⊢
  obtain ⟨read, hr, hd⟩ := Fault.bind_eq_ok_iff.mp hd
  have hbeside : ∃ read', (s.beside files log printed written failed refuses).readSource
      (Path.ofString file.path) = .ok read' ∧ read'.toOption = read.toOption :=
    readSource_beside hsource hr
  obtain ⟨read', hr', hsame⟩ := hbeside
  rw [hr']
  cases read with
  | error reason =>
    cases hd
    cases read' with
    | ok code => cases hsame
    | error reason' => exact ⟨_, rfl⟩
  | ok code =>
    cases read' with
    | error reason' => cases hsame
    | ok code' =>
      cases Option.some.inj hsame
      obtain ⟨⟨page, t₁⟩, hp, hd⟩ := Fault.bind_eq_ok_iff.mp hd
      cases hd
      obtain ⟨log', hadd⟩ := addListing_beside s files log printed written failed refuses file.title
      obtain ⟨_, hframe⟩ := addListing_eq s file.title
      refine ⟨log', Fault.bind_eq_ok_iff.mpr ⟨_, rfl, ?_⟩⟩
      dsimp only
      rw [hadd]
      refine Fault.bind_eq_ok_iff.mpr ⟨_, pageOf_beside ?_ hp, rfl⟩
      rw [hframe]
      exact htemplates

theorem draftTutorial_beside
    (h : ∀ p ∈ Page.templatePaths s.settings,
      (files.read p).toOption = (s.files.read p).toOption) {tutorial : Tutorial}
    (hd : draftTutorial sidebar s tutorial = .ok (d, t)) :
    draftTutorial sidebar (s.beside files log printed written failed refuses) tutorial =
      .ok (d, t.beside files log printed written failed refuses) := by
  unfold draftTutorial at hd ⊢
  obtain ⟨⟨content, t₁⟩, h₁, hd⟩ := Fault.bind_eq_ok_iff.mp hd
  obtain ⟨⟨page, t₂⟩, h₂, hd⟩ := Fault.bind_eq_ok_iff.mp hd
  cases hd
  exact Fault.bind_eq_ok_iff.mpr ⟨_, pageOf_beside h h₁,
    Fault.bind_eq_ok_iff.mpr ⟨_, resolveTags_beside h₂, rfl⟩⟩

/-- What a job drafts depends on what it reads alone. -/
theorem draft_beside {job : Job}
    (h : ∀ p ∈ job.reads s.settings, (files.read p).toOption = (s.files.read p).toOption)
    (hd : job.draft sidebar s = .ok (d, t)) : ∃ log',
      job.draft sidebar (s.beside files log printed written failed refuses) =
        .ok (d, t.beside files log' printed written failed refuses) := by
  cases job with
  | listing file => exact draftListing_beside h hd
  | globals => exact ⟨log, draftTopics_beside h hd⟩
  | home readme => exact ⟨log, draftTopics_beside h hd⟩
  | container p => exact ⟨log, draftTopics_beside h hd⟩
  | tutorial tutorial => exact ⟨log, draftTutorial_beside h hd⟩

end

end Site
end DocSite
