import DocSite.Proofs.Files.Alike
import DocSite.Proofs.Link.Sound
import DocSite.Proofs.Nav.Steps
import DocSite.Publish.Site

/-! The state in which a run starts to write pages. Preparing doclets, copying files, linking and
drawing the sidebar leave a sound registry and have written no page. -/
namespace DocSite
open Registry (Hosted Sound Reaches Quiet)
set_option autoImplicit false

/-! ## What computing addresses keeps -/

namespace Site

section
variable {I : Registry → Prop} {r : Registry} {s : Site}

/-- References ask for the address of their doclet alone. -/
theorem keeps_linkReferences {d : Doclet} (hI : ∀ r, I r → I (r.urlFor d).2) (h : I r)
    (refs : List Reference) : I (linkReferences r d refs).2 := by
  induction refs generalizing r with
  | nil => exact h
  | cons ref rest ih =>
    cases ref with
    | symbol see =>
      have hfirst : I (r.memberReference d see).2 := by
        unfold Registry.memberReference
        split
        · exact hI r h
        · exact h
      exact ih hfirst
    | link markup => exact ih h

theorem keeps_normalizeAll {ds : List Doclet} (hI : ∀ d ∈ ds, ∀ r, I r → I (r.urlFor d).2)
    (h : I r) : I (normalizeAll r ds).2 := by
  induction ds generalizing r with
  | nil => exact h
  | cons d rest ih =>
    have hfirst := keeps_linkReferences (hI d (List.mem_cons_self ..)) h d.see
    exact ih (fun x hx => hI x (List.mem_cons_of_mem _ hx)) hfirst

theorem register_registry (s : Site) (longname url : String) :
    (s.register longname url).registry = (s.registry.register longname url).1 := by
  unfold register
  dsimp only
  split <;> rfl

theorem keeps_registerAll (hI : ∀ d ∈ s.store.doclets, ∀ r, I r → I (r.link d).2.1)
    (h : I s.registry) (sources : List Source.File) : I (s.registerAll sources).registry := by
  have hfold : ∀ (ds : List Doclet) {s : Site}, (∀ d ∈ ds, ∀ r, I r → I (r.link d).2.1) →
      I s.registry → I (ds.foldl registerDoclet s).registry := by
    intro ds
    induction ds with
    | nil => exact fun _ h => h
    | cons d rest ih =>
      intro s hI h
      refine ih (fun x hx => hI x (List.mem_cons_of_mem _ hx)) ?_
      unfold registerDoclet
      split
      · exact h
      · dsimp only
        rw [register_registry]
        exact hI d (List.mem_cons_self ..) _ h
  exact hfold s.store.doclets hI h

end

theorem hosting_linkReferences (r : Registry) (d : Doclet) (refs : List Reference) :
    Reaches Hosted r (linkReferences r d refs).2 :=
  keeps_linkReferences (fun r' h => h.trans (Registry.hosting_urlFor r' d)) .refl refs

theorem hosting_normalizeAll (r : Registry) (ds : List Doclet) :
    Reaches Hosted r (normalizeAll r ds).2 :=
  keeps_normalizeAll (fun d _ r' h => h.trans (Registry.hosting_urlFor r' d)) .refl

/-! ## States that have written no page -/

/-- A sound registry, and no page so far. -/
structure Fresh (s : Site) : Prop where
  sound : Sound s.registry
  written : s.written = []
  failed : s.failed = []
  made : s.made = []

theorem fresh_start (settings : Settings) (store : Store) (files : FileTree) (out : Path) :
    Fresh (start settings store files out) :=
  ⟨(hosting_normalizeAll _ _).sound Registry.sound_initial, rfl, rfl, rfl⟩

/-- The state differs at most in the files and the log, and the directories are still there. -/
def OnlyFiles (s s' : Site) : Prop :=
  ∃ files log, s.files.Keeps files ∧ s' = { s with files := files, log := log }

section
variable {s s' s'' : Site}

theorem OnlyFiles.refl (s : Site) : OnlyFiles s s := ⟨s.files, s.log, .refl _, rfl⟩

theorem OnlyFiles.trans (h : OnlyFiles s s') (h' : OnlyFiles s' s'') : OnlyFiles s s'' := by
  obtain ⟨_, _, hk, rfl⟩ := h
  obtain ⟨files, log, hk', rfl⟩ := h'
  exact ⟨files, log, hk.trans hk', rfl⟩

theorem onlyFiles_withFiles {change : FileTree → Except PathError FileTree}
    (hk : ∀ files, change s.files = .ok files → s.files.Keeps files)
    (h : s.withFiles change = .ok s') : OnlyFiles s s' := by
  unfold withFiles at h
  split at h
  · rename_i files hf
    cases h
    exact ⟨_, _, hk files hf, rfl⟩
  · cases h

theorem onlyFiles_copyOnto {source : Option Path} {target : Path} {bytes : List UInt8}
    (h : s.copyOnto source target bytes = .ok s') : OnlyFiles s s' := by
  unfold copyOnto at h
  split at h
  · cases h
  · exact onlyFiles_withFiles (fun _ => FileTree.keeps_write) h

theorem onlyFiles_copyTo {source : Option Path} {file : Path} {bytes : List UInt8}
    (h : s.copyTo source file bytes = .ok s') : OnlyFiles s s' := by
  unfold copyTo at h
  obtain ⟨s₁, h₁, h⟩ := Fault.bind_eq_ok_iff.mp h
  refine (onlyFiles_withFiles (fun _ => FileTree.keeps_makeDirectories) h₁).trans ?_
  split at h
  · cases h
  · exact onlyFiles_copyOnto h

theorem onlyFiles_foldlM {α : Type} {f : Site → α → Except Fault Site} {xs : List α}
    (hf : ∀ x s s', f s x = .ok s' → OnlyFiles s s') (h : xs.foldlM f s = .ok s') :
    OnlyFiles s s' :=
  Fault.foldlM_preserves (fun x _ _ hs hx => hs.trans (hf x _ _ hx)) (OnlyFiles.refl s) h

theorem onlyFiles_copyUserFiles {directory : String} (h : s.copyUserFiles directory = .ok s') :
    OnlyFiles s s' := by
  unfold copyUserFiles at h
  dsimp only at h
  split at h
  · cases h
  · cases h
    exact ⟨_, _, .refl _, rfl⟩
  · refine onlyFiles_foldlM (fun file s₁ s₂ hf => ?_) h
    unfold copyUserFile at hf
    split at hf
    · cases hf
      exact .refl _
    · exact onlyFiles_copyTo hf

/-- Only files are copied, and the directory of the pages is there afterwards. -/
theorem onlyFiles_copyFiles (h : s.copyFiles = .ok s') :
    OnlyFiles s s' ∧ s'.files.HasDirectories s.root := by
  unfold copyFiles at h
  obtain ⟨s₁, h₁, h⟩ := Fault.bind_eq_ok_iff.mp h
  obtain ⟨s₂, h₂, h⟩ := Fault.bind_eq_ok_iff.mp h
  obtain ⟨s₃, h₃, h⟩ := Fault.bind_eq_ok_iff.mp h
  have hroot : s₁.files.HasDirectories s.root := by
    unfold withFiles at h₁
    split at h₁
    · rename_i files hf
      cases h₁
      exact FileTree.hasDirectories_of_makeDirectories hf
    · cases h₁
  have hmade := onlyFiles_withFiles (fun _ => FileTree.keeps_makeDirectories) h₁
  have hassets : OnlyFiles s₁ s₂ := onlyFiles_foldlM (fun _ _ _ hf => onlyFiles_copyTo hf) h₂
  have hstyle := onlyFiles_withFiles (fun _ => FileTree.keeps_put) h₃
  have huser : OnlyFiles s₃ s' := onlyFiles_foldlM (fun _ _ _ hf => onlyFiles_copyUserFiles hf) h
  have hlater := (hassets.trans hstyle).trans huser
  refine ⟨hmade.trans hlater, ?_⟩
  obtain ⟨files, log, hk, rfl⟩ := hlater
  exact hroot.keeps hk

/-! ## Links and signatures -/

/-- From one state to the next the registry takes steps and no page is made. -/
structure Unwritten (s s' : Site) : Prop where
  reached : Reaches Hosted s.registry s'.registry
  written : s'.written = s.written
  failed : s'.failed = s.failed
  made : s'.made = s.made
  settings : s'.settings = s.settings
  root : s'.root = s.root
  around : s'.around = s.around
  keeps : s.files.Keeps s'.files

theorem Unwritten.refl (s : Site) : Unwritten s s :=
  ⟨.refl, rfl, rfl, rfl, rfl, rfl, rfl, .refl _⟩

theorem Unwritten.trans (h : Unwritten s s') (h' : Unwritten s' s'') : Unwritten s s'' :=
  ⟨h.reached.trans h'.reached, h'.written.trans h.written, h'.failed.trans h.failed,
    h'.made.trans h.made, h'.settings.trans h.settings, h'.root.trans h.root,
    h'.around.trans h.around, h.keeps.trans h'.keeps⟩

theorem OnlyFiles.unwritten (h : OnlyFiles s s') : Unwritten s s' := by
  obtain ⟨_, _, hk, rfl⟩ := h
  exact ⟨.refl, rfl, rfl, rfl, rfl, rfl, rfl, hk⟩

theorem unwritten_registerDoclet (hs : Sound s.registry) (d : Doclet) :
    Unwritten s (s.registerDoclet d) := by
  have hreached := Registry.hosting_link hs d
  rw [Registry.link] at hreached
  unfold registerDoclet
  split
  · exact .refl s
  · unfold register
    dsimp only
    split
    · exact ⟨hreached, rfl, rfl, rfl, rfl, rfl, rfl, .refl _⟩
    · exact ⟨hreached, rfl, rfl, rfl, rfl, rfl, rfl, .refl _⟩

theorem unwritten_registerAll (hs : Sound s.registry) (sources : List Source.File) :
    Unwritten s (s.registerAll sources) := by
  have hfold : ∀ (ds : List Doclet) {s : Site}, Sound s.registry →
      Unwritten s (ds.foldl registerDoclet s) := by
    intro ds
    induction ds with
    | nil => exact fun {s} _ => .refl s
    | cons d rest ih =>
      intro s hs
      have hfirst := unwritten_registerDoclet hs d
      exact hfirst.trans (ih (hfirst.reached.sound hs))
  obtain ⟨hreached, hwritten, hfailed, hmade, hsettings, hroot, haround, hkeeps⟩ :=
    hfold s.store.doclets hs
  exact ⟨hreached, hwritten, hfailed, hmade, hsettings, hroot, haround, hkeeps⟩

theorem unwritten_prepare (hs : Sound s.registry) {sources : List Source.File}
    (hp : s.prepare sources = .ok s') :
    Unwritten s s' ∧ s'.files.HasDirectories s.root := by
  unfold prepare at hp
  obtain ⟨s₁, h₁, hp⟩ := Fault.bind_eq_ok_iff.mp hp
  cases hp
  obtain ⟨honly, hdirectories⟩ := onlyFiles_copyFiles h₁
  have hfiles := honly.unwritten
  have hregister := unwritten_registerAll (hfiles.reached.sound hs) sources
  obtain ⟨hreached, hwritten, hfailed, hmade, hsettings, hroot, haround, hkeeps⟩ :=
    hfiles.trans hregister
  exact ⟨⟨hreached, hwritten, hfailed, hmade, hsettings, hroot, haround, hkeeps⟩,
    hdirectories.keeps hregister.keeps⟩

theorem Fresh.unwritten (h : Fresh s) (hu : Unwritten s s') : Fresh s' :=
  ⟨hu.reached.sound h.sound, hu.written.trans h.written, hu.failed.trans h.failed,
    hu.made.trans h.made⟩

theorem Fresh.addTutorials (h : Fresh s) (ts : List Tutorial) :
    Fresh { s with registry := s.registry.addTutorials ts } :=
  ⟨h.sound.addTutorials ts, h.written, h.failed, h.made⟩

end

end Site

theorem Registry.hosting_memberReference (r : Registry) (d : Doclet) (see : String) :
    Reaches Hosted r (r.memberReference d see).2 := by
  unfold Registry.memberReference
  split
  · exact Registry.hosting_urlFor r d
  · exact .refl

/-! ## The sidebar -/

theorem Sidebar.quiet_linkOf (section_ : Section) (r : Registry) (longname label : String) :
    Quiet r (Sidebar.linkOf section_ r longname label).2 := by
  cases section_ <;> first
    | exact Relation.ReflTransGen.refl
    | exact Registry.reaches_tutorialLink r label none

theorem NavGroup.Added.quiet {store : Store} {settings : Settings} {link : LinkMaker}
    (hlink : ∀ r longname label, Quiet r (link r longname label).2) {g g' : NavGroup}
    {state state' : NavState} {entry : NavEntry}
    (h : NavGroup.Added store settings link g state entry g' state') :
    Quiet state.registry state'.registry := by
  cases h with
  | named _ _ => exact hlink ..
  | seen _ _ => exact .refl
  | listed _ _ _ => exact hlink ..

theorem NavGroup.quiet_addEntries {store : Store} {settings : Settings} {link : LinkMaker}
    (hlink : ∀ r longname label, Quiet r (link r longname label).2) {entries : List NavEntry}
    {g g' : NavGroup} {state state' : NavState}
    (h : NavGroup.addEntries store settings link g state entries = .ok (g', state')) :
    Quiet state.registry state'.registry := by
  induction entries generalizing g state with
  | nil =>
    cases h
    exact .refl
  | cons entry rest ih =>
    obtain ⟨g₁, state₁, hentry, hrest⟩ := NavGroup.addEntries_cons_ok h
    exact (hentry.quiet hlink).trans (ih hrest)

theorem Sidebar.quiet_buildTrees {store : Store} {settings : Settings} {ts : List Tutorial}
    {sections : List Section} {state state' : NavState} {trees : List (Section × NavGroup)}
    (h : Sidebar.buildTrees store settings ts state sections = .ok (trees, state')) :
    Quiet state.registry state'.registry := by
  induction sections generalizing state trees with
  | nil =>
    cases h
    exact .refl
  | cons section_ rest ih =>
    obtain ⟨tree, after, later, hbuild, hrest, -⟩ := Sidebar.buildTrees_cons_ok h
    have hlater := ih hrest
    exact (NavGroup.quiet_addEntries (Sidebar.quiet_linkOf section_) hbuild).trans hlater

theorem Sidebar.quiet_render {store : Store} {settings : Settings} {ts : List Tutorial}
    {r r' : Registry} {sidebar : Html}
    (h : Sidebar.render store settings ts r = .ok (sidebar, r')) : Quiet r r' := by
  obtain ⟨trees, state, hbuild, rfl, -⟩ := Sidebar.render_ok h
  exact Sidebar.quiet_buildTrees hbuild

end DocSite
