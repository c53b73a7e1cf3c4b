import DocSite.Proofs.Publish.Phases
import DocSite.Proofs.Publish.Setup

/-! A whole run. After it the keys of the pages that were made are known: those of the listings,
the reserved pages, the containers and the tutorials, in this order. -/
namespace DocSite.Site
open Registry (Hosted Sound Reaches Quiet)
set_option autoImplicit false

/-- The keys of the pages of a run, by the titles that are listed and the names of the tutorials. -/
def pageKeys (r : Registry) (store : Store) (listed names : List String) : List String :=
  listed.map ("<source>" ++ ·) ++ (if store.globals.isEmpty then [] else [Registry.globalKey]) ++
    [Registry.homeKey] ++ (containerUrls r store).map r.keyOf ++ names.map ("<tutorial>" ++ ·)

/-- The state in which doclets are prepared. -/
def opened (settings : Settings) (store : Store) (files : FileTree) (out : Path) : Site :=
  { start settings store files out with
    root := rootFor out (start settings store files out).store }

/-- The source files of a run. -/
def sourcesOf (settings : Settings) (store : Store) (files : FileTree) (out : Path) :
    List Source.File := (start settings store files out).store.sourceFiles

/-! ## Pages in order -/

theorem emits_writePages {s s' : Site} {sidebar : Html} {sources : List Source.File}
    {readme : Option String} {ts : List Tutorial} (hs : Sound s.registry)
    (h : writePages sidebar sources readme ts s = .ok s') :
    ∃ listed ps, Emits sidebar Hosted s ps s' ∧
      List.Sublist listed (sources.map Source.File.title) ∧
      keysOf s'.registry ps = pageKeys s'.registry s'.store listed (Tutorial.namesOf ts) ∧
      ∀ l u, s'.registry.url? l = some u → s.registry.url? l = some u ∨ ∃ p ∈ ps, p.1 = u := by
  unfold writePages at h
  obtain ⟨s₁, h₁, h⟩ := Fault.bind_eq_ok_iff.mp h
  obtain ⟨s₂, h₂, h⟩ := Fault.bind_eq_ok_iff.mp h
  obtain ⟨s₃, h₃, h⟩ := Fault.bind_eq_ok_iff.mp h
  obtain ⟨s₄, h₄, h₅⟩ := Fault.bind_eq_ok_iff.mp h
  obtain ⟨listed, ps₁, e₁, hsub, k₁, hlisted⟩ := emits_writeListings hs h₁
  have hs₁ := e₁.reaches.sound hs
  obtain ⟨ps₂, e₂, k₂⟩ := emits_writeGlobals hs₁ h₂
  have hs₂ := e₂.weaken.reaches.sound hs₁
  obtain ⟨ps₃, e₃, k₃⟩ := emits_writeHome hs₂ h₃
  have hs₃ := e₃.weaken.reaches.sound hs₂
  obtain ⟨ps₄, k₄, e₄⟩ := emits_writeContainers hs₃ h₄
  have hs₄ := e₄.weaken.reaches.sound hs₃
  obtain ⟨ps₅, e₅, k₅⟩ := emits_writeTutorials hs₄ h₅
  -- From each phase on its keys stay; the addresses stay from the listings on.
  have r₅ := e₅.weaken.reaches
  have r₄ := e₄.weaken.reaches.trans r₅
  have r₃ := e₃.weaken.reaches.trans r₄
  have r₂ := e₂.weaken.reaches.trans r₃
  have m₁ := e₁.keysOf_mono hs r₂
  have m₂ := e₂.weaken.keysOf_mono hs₁ r₃
  have m₃ := e₃.weaken.keysOf_mono hs₂ r₄
  have hquiet : Quiet s₃.registry s'.registry := e₄.reaches.trans e₅.reaches
  have hurls : s'.registry.urls = s₃.registry.urls := hquiet.urls_eq
  have hstore : s'.store = s₃.store := e₅.store_eq.trans e₄.store_eq
  have m₄ : keysOf s'.registry ps₄ =
      (containerUrls s'.registry s'.store).map s'.registry.keyOf := by
    rw [containerUrls, hurls, hstore, ← containerUrls, ← k₄, List.map_map]
    rfl
  have hglobals : s₁.store.globals = s'.store.globals := by
    rw [hstore, e₃.store_eq, e₂.store_eq]
  have hsame : s'.registry.urls = s₁.registry.urls := by
    rw [hurls, Registry.Quiet.urls_eq e₃.reaches, Registry.Quiet.urls_eq e₂.reaches]
  refine ⟨listed, ps₁ ++ ps₂ ++ ps₃ ++ ps₄ ++ ps₅, ?_, hsub, ?_, ?_⟩
  · exact (((e₁.trans e₂.weaken).trans e₃.weaken).trans e₄.weaken).trans e₅.weaken
  · rw [keysOf_append, keysOf_append, keysOf_append, keysOf_append, m₁, m₂, m₃, m₄, k₁, k₂, k₃, k₅,
      hglobals]
    rfl
  · intro l u hl
    rw [Registry.url?, hsame] at hl
    rcases hlisted l u hl with hold | ⟨p, hp, he⟩
    · exact .inl hold
    · exact .inr ⟨p, by simp [hp], he⟩

/-! ## Publishing -/

theorem fresh_opened (settings : Settings) (store : Store) (files : FileTree) (out : Path) :
    Fresh (opened settings store files out) := by
  obtain ⟨hsound, hwritten, hfailed, hmade⟩ := fresh_start settings store files out
  exact ⟨hsound, hwritten, hfailed, hmade⟩

/-- A run opens, prepares the doclets, draws the sidebar and writes the pages; what it is given from
outside shows in the last step alone. -/
theorem publish_eq_ok_iff {settings : Settings} {store : Store} {tutorial : Tutorial}
    {readme : Option String} {files : FileTree} {out : Path} {around : Surroundings} {s : Site} :
    publish settings store tutorial readme files out around = .ok s ↔
    ∃ prepared sidebar r last,
      (opened settings store files out).prepare (sourcesOf settings store files out) =
        .ok prepared ∧
      Sidebar.render prepared.store settings tutorial.children
        (prepared.registry.addTutorials tutorial.children) = .ok (sidebar, r) ∧
      writePages sidebar (sourcesOf settings store files out) readme tutorial.children
        { prepared with registry := r, around := around } = .ok last ∧
      s = last.print ("Generated " ++ toString last.written.length ++ " HTML pages into: " ++
        last.root.display) := by
  constructor
  · intro h
    unfold publish at h
    obtain ⟨prepared, hp, h⟩ := Fault.bind_eq_ok_iff.mp h
    obtain ⟨⟨sidebar, r⟩, hr, h⟩ := Fault.bind_eq_ok_iff.mp h
    obtain ⟨last, hl, h⟩ := Fault.bind_eq_ok_iff.mp h
    cases h
    exact ⟨prepared, sidebar, r, last, hp, hr, hl, rfl⟩
  · rintro ⟨prepared, sidebar, r, last, hp, hr, hl, rfl⟩
    exact Fault.bind_eq_ok_iff.mpr ⟨prepared, hp, Fault.bind_eq_ok_iff.mpr
      ⟨(sidebar, r), hr, Fault.bind_eq_ok_iff.mpr ⟨last, hl, rfl⟩⟩⟩

theorem Fresh.recorded {s : Site} (h : Fresh s) : Recorded s := by
  refine ⟨?_, ?_, ?_, ?_⟩
  · simp [h.made]
  · simp [h.made, h.written]
  · simp [h.made, h.written]
  · simp [h.made]

/-- The states that a run passes: the doclets prepared, the sidebar drawn, the pages written. -/
structure Stages (settings : Settings) (store : Store) (tutorial : Tutorial) (files : FileTree)
    (out : Path) (around : Surroundings) (s prepared : Site) (sidebar : Html) (r : Registry)
    (listed : List String) : Prop where
  prepare : (opened settings store files out).prepare (sourcesOf settings store files out) =
    .ok prepared
  unwritten : Unwritten (opened settings store files out) prepared
  fresh : Fresh prepared
  titled : Sound (prepared.registry.addTutorials tutorial.children)
  render : Sidebar.render prepared.store settings tutorial.children
    (prepared.registry.addTutorials tutorial.children) = .ok (sidebar, r)
  quiet : Quiet (prepared.registry.addTutorials tutorial.children) r
  emits : Emits sidebar Hosted { prepared with registry := r, around := around } s.made s
  sublist : List.Sublist listed ((sourcesOf settings store files out).map Source.File.title)
  keys : keysOf s.registry s.made =
    pageKeys s.registry s.store listed (Tutorial.namesOf tutorial.children)
  urls : ∀ l u, s.registry.url? l = some u → r.url? l = some u ∨ ∃ p ∈ s.made, p.1 = u

section
variable {settings : Settings} {store : Store} {tutorial : Tutorial} {readme : Option String}
  {files : FileTree} {out : Path} {around : Surroundings} {s : Site}

theorem publish_stages (h : publish settings store tutorial readme files out around = .ok s) :
    ∃ prepared sidebar r listed,
      Stages settings store tutorial files out around s prepared sidebar r listed := by
  obtain ⟨prepared, sidebar, r, last, hp, hr, hl, rfl⟩ := publish_eq_ok_iff.mp h
  have hopened := fresh_opened settings store files out
  have hunwritten := (unwritten_prepare hopened.sound hp).1
  have hfresh := hopened.unwritten hunwritten
  have htitled := hfresh.sound.addTutorials tutorial.children
  have hquiet := Sidebar.quiet_render hr
  obtain ⟨listed, ps, he, hsub, hkeys, hurls⟩ := emits_writePages (hquiet.weaken.sound htitled) hl
  have hmade : last.made = ps := by
    rw [he.made_eq]
    exact List.append_left_eq_self.mpr hfresh.made
  subst hmade
  exact ⟨prepared, sidebar, r, listed, hp, hunwritten, hfresh, htitled, hr, hquiet, he.print _,
    hsub, hkeys, hurls⟩

theorem Stages.sound {prepared : Site} {sidebar : Html} {r : Registry} {listed : List String}
    (h : Stages settings store tutorial files out around s prepared sidebar r listed) :
    Sound s.registry :=
  h.emits.reaches.sound (h.quiet.weaken.sound h.titled)

/-- After a run the registry is sound, what was written is known, and so are the keys of the pages
that were made. -/
theorem publish_pages (h : publish settings store tutorial readme files out around = .ok s) :
    Sound s.registry ∧ Recorded s ∧ (∀ p ∈ s.made, Hosted s.registry p.1) ∧
      ∃ listed, List.Sublist listed
          ((sourcesOf settings store files out).map Source.File.title) ∧
        keysOf s.registry s.made =
          pageKeys s.registry s.store listed (Tutorial.namesOf tutorial.children) := by
  obtain ⟨prepared, sidebar, r, listed, stages⟩ := publish_stages h
  have hsound : Sound r := stages.quiet.weaken.sound stages.titled
  have hstart : Recorded { prepared with registry := r, around := around } :=
    Fresh.recorded ⟨hsound, stages.fresh.written, stages.fresh.failed, stages.fresh.made⟩
  exact ⟨stages.sound, stages.emits.recorded hsound hstart, stages.emits.hosted, listed,
    stages.sublist, stages.keys⟩

end

end DocSite.Site
