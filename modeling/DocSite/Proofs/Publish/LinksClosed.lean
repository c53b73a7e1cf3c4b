import DocSite.Proofs.Publish.Hosts
import DocSite.Proofs.Publish.PagesApart

/-! When every link of a run leads to a page that the run made. Links to the home page and to
tutorials always do; a symbol is on a page that was made where its host is documented as a
container, or is none and there are globals. -/
namespace DocSite.Site
open Registry (Hosted Sound Leads)
set_option autoImplicit false

/-- Some page links an address on the page. -/
def Links (s : Site) (page : String) : Prop := ∃ p ∈ s.made, ∃ a ∈ p.2.links, Address.page a = page

/-- The page of globals and those of the hosts of doclets are made as far as they are linked. -/
structure HostsMade (s : Site) (hosts : List (Option String)) (keys : List String) : Prop where
  globals : s.Links s.registry.globalUrl → Registry.globalKey ∈ keys
  hosts : ∀ host url, some host ∈ hosts → s.registry.url? host = some url →
    s.Links (Address.page url) → s.registry.keyOf url ∈ keys

/-! ## The keys of linked pages -/

section
variable {r : Registry} {store : Store} {listed names : List String}

theorem homeKey_mem : Registry.homeKey ∈ pageKeys r store listed names := by
  simp [pageKeys]

theorem globalKey_mem (h : store.globals ≠ []) :
    Registry.globalKey ∈ pageKeys r store listed names := by
  simp [pageKeys, h]

theorem tutorialKey_mem {name : String} (h : name ∈ names) :
    "<tutorial>" ++ name ∈ pageKeys r store listed names := by
  have hm : "<tutorial>" ++ name ∈ names.map ("<tutorial>" ++ ·) := List.mem_map_of_mem h
  exact List.mem_append_right _ hm

theorem containerKey_mem (hs : Sound r) {l url : String} (hl : r.url? l = some url)
    (hk : kindsOf store l ≠ []) : r.keyOf url ∈ pageKeys r store listed names := by
  have hm : r.keyOf url ∈ (containerUrls r store).map r.keyOf :=
    (mem_containerKeys hs).mpr ⟨l, url, hl, hk, rfl⟩
  exact List.mem_append_left _ (List.mem_append_right _ hm)

theorem keyOf_of_page {key file a : String} (hs : Sound r) (hk : r.files.get? key = some file)
    (h : Address.page a = file) : r.keyOf a = key :=
  hs.keyOf_eq (h ▸ hk)

end

section
variable {settings : Settings} {store : Store} {tutorial : Tutorial} {readme : Option String}
  {files : FileTree} {out : Path} {around : Surroundings} {s : Site}

/-- The page of a link was made if it is that of no host, or that of a host which was made. -/
theorem keyOf_mem_of_leads (hs : Sound s.registry)
    (h : publish settings store tutorial readme files out around = .ok s) {keys : List String}
    (hkeys : keysOf s.registry s.made = keys) (hhome : Registry.homeKey ∈ keys)
    (htutorials : ∀ name ∈ Tutorial.namesOf tutorial.children, "<tutorial>" ++ name ∈ keys)
    {G : Prop} {a : String} (ha : Leads G s.registry a)
    (hglobals : G ∨ none ∈ hostsOf settings store files out →
      Address.page a = s.registry.globalUrl → Registry.globalKey ∈ keys)
    (hhosts : ∀ host url, some host ∈ hostsOf settings store files out →
      s.registry.url? host = some url → Address.page a = Address.page url →
      s.registry.keyOf url ∈ keys) :
    s.registry.keyOf a ∈ keys := by
  have hglobalFile : s.registry.files.get? Registry.globalKey = some s.registry.globalUrl := by
    rw [hs.globalUrl, hs.globals]
  cases ha with
  | home on =>
    have hfile : s.registry.files.get? Registry.homeKey = some s.registry.homeUrl := by
      rw [hs.homeUrl, hs.home]
    rw [keyOf_of_page hs hfile on]
    exact hhome
  | globals allowed on =>
    rw [keyOf_of_page hs hglobalFile on]
    exact hglobals (.inl allowed) on
  | tutorial known found on =>
    rw [keyOf_of_page hs found on]
    exact htutorials _ (publish_known h known)
  -- The address was given to a host, to a doclet on its page, or to a page that was made.
  | @symbol l url found on =>
    rcases publish_explained h l url found with ⟨host, hm, hon⟩ | ⟨p, hp, rfl⟩
    · cases host with
      | none =>
        have hpage : Address.page a = s.registry.globalUrl := by
          rw [on, hon, hs.page_file hglobalFile]
        rw [keyOf_of_page hs hglobalFile hpage]
        exact hglobals (.inr hm) hpage
      | some host =>
        obtain ⟨u, hu, hpage⟩ := hon
        rw [Registry.keyOf_congr (on.trans hpage)]
        exact hhosts host u hm hu (on.trans hpage)
    · rw [Registry.keyOf_congr on, ← hkeys]
      exact List.mem_map_of_mem hp

/-- An address is on a page that was written where its key is that of a page that was made. -/
theorem target_mem_written_iff (hs : Sound s.registry) (hr : Recorded s)
    (hosted : ∀ p ∈ s.made, Hosted s.registry p.1) (hf : s.failed = []) {a : String}
    (ha : Hosted s.registry a) :
    s.target a ∈ s.written ↔ s.registry.keyOf a ∈ keysOf s.registry s.made := by
  rw [hr.written_eq hf, keysOf, List.mem_map, List.mem_map]
  constructor
  · rintro ⟨p, hp, he⟩
    have hpage : Address.page p.1 = Address.page a :=
      Path.append_ofString_injective (hr.names p hp) (isFileName_page hs ha) he
    exact ⟨p, hp, (hs.keyOf_eq_iff (hosted p hp) ha).mpr hpage⟩
  · rintro ⟨p, hp, he⟩
    have hpage := (hs.keyOf_eq_iff (hosted p hp) ha).mp he
    exact ⟨p, hp, by rw [target, target, hpage]⟩

/-- Where no page failed, every link leads to a page that was written exactly if the pages of the
hosts that are linked were made. They all are if every host is documented as a container, and there
are globals as soon as some doclet has no host. -/
theorem publish_links_closed_iff (hstore : store.Within fun _ => False)
    (h : publish settings store tutorial readme files out around = .ok s) (hf : s.failed = []) :
    ∃ listed, List.Sublist listed
        ((sourcesOf settings store files out).map Source.File.title) ∧
      keysOf s.registry s.made =
        pageKeys s.registry s.store listed (Tutorial.namesOf tutorial.children) ∧
      ((∀ p ∈ s.made, ∀ a ∈ p.2.links, s.target a ∈ s.written) ↔
        s.HostsMade (hostsOf settings store files out)
          (pageKeys s.registry s.store listed (Tutorial.namesOf tutorial.children))) ∧
      ((∀ host, some host ∈ hostsOf settings store files out → kindsOf s.store host ≠ []) →
        (none ∈ hostsOf settings store files out → s.store.globals ≠ []) →
          ∀ p ∈ s.made, ∀ a ∈ p.2.links, s.target a ∈ s.written) := by
  obtain ⟨hs, hr, hosted, listed, hsub, hkeys⟩ := publish_pages h
  have hleads := publish_leads hstore h
  have hwritten : ∀ p ∈ s.made, ∀ a ∈ p.2.links, (s.target a ∈ s.written ↔ s.registry.keyOf a ∈
      pageKeys s.registry s.store listed (Tutorial.namesOf tutorial.children)) := by
    intro p hp a ha
    rw [← hkeys]
    exact target_mem_written_iff hs hr hosted hf ((hleads p hp a ha).hosted hs)
  -- Whatever the reason for the pages of the hosts, the other pages are made in any run.
  have hkey : ∀ p ∈ s.made, ∀ a ∈ p.2.links,
      (none ∈ hostsOf settings store files out ∨ s.store.globals ≠ [] →
        Address.page a = s.registry.globalUrl → Registry.globalKey ∈
          pageKeys s.registry s.store listed (Tutorial.namesOf tutorial.children)) →
      (∀ host url, some host ∈ hostsOf settings store files out →
        s.registry.url? host = some url → Address.page a = Address.page url →
        s.registry.keyOf url ∈
          pageKeys s.registry s.store listed (Tutorial.namesOf tutorial.children)) →
      s.target a ∈ s.written := by
    intro p hp a ha hglobals hhosts
    refine (hwritten p hp a ha).mpr (keyOf_mem_of_leads hs h hkeys homeKey_mem
      (fun _ => tutorialKey_mem) (hleads p hp a ha) (fun hor => hglobals ?_) hhosts)
    exact hor.elim id .inl
  refine ⟨listed, hsub, hkeys,
    ⟨fun hclosed => ⟨?_, ?_⟩, fun hmade => ?_⟩, fun hdocumented hglobals => ?_⟩
  · rintro ⟨p, hp, a, ha, hpage⟩
    have hfile : s.registry.files.get? Registry.globalKey = some s.registry.globalUrl := by
      rw [hs.globalUrl, hs.globals]
    rw [← keyOf_of_page hs hfile hpage]
    exact (hwritten p hp a ha).mp (hclosed p hp a ha)
  · rintro host url hm hu ⟨p, hp, a, ha, hpage⟩
    rw [← Registry.keyOf_congr hpage]
    exact (hwritten p hp a ha).mp (hclosed p hp a ha)
  · intro p hp a ha
    refine hkey p hp a ha (fun _ hpage => hmade.globals ⟨p, hp, a, ha, hpage⟩) ?_
    exact fun host url hm hu hpage => hmade.hosts host url hm hu ⟨p, hp, a, ha, hpage⟩
  · intro p hp a ha
    refine hkey p hp a ha (fun hor _ => globalKey_mem (hor.elim hglobals id)) ?_
    exact fun host url hm hu _ => containerKey_mem hs hu (hdocumented host hm)

/-! ## An event that is no container's -/

def lonelyEvent : Store := ⟨[{ kind := "event", name := "x", longname := some "event:x" }]⟩

/-- A theme whose pages link the event. -/
def linkingTheme : FileTree :=
  ⟨[(⟨false, ["t"]⟩, .directory),
    (⟨false, ["t", "container.html"]⟩, .file (Page.bytesOf "\x7b@link event:x\x7d"))]⟩

/-- Where a run wrote pages, what it wrote and what not, and the links on its pages. -/
def linkOutcome : Except Fault Site → Option (Path × List Path × List String × List (List String))
  | .ok s => some (s.root, s.written, s.failed, s.made.map fun p => p.2.links)
  | .error _ => none

/-- The event is linked on the page of globals, which is not made for it. -/
theorem lonelyEvent_not_closed :
    ∃ s, publish plainSettings lonelyEvent .root none linkingTheme (Path.ofString "out") = .ok s ∧
      s.written.map Path.parts = [["out", "index.html"]] ∧
      s.made.map (fun p => p.2.links) = [["global.html#event:x"]] ∧
      ∃ listed, ¬ s.HostsMade (hostsOf plainSettings lonelyEvent linkingTheme (Path.ofString "out"))
        (pageKeys s.registry s.store listed []) := by
  have hrun : linkOutcome
      (publish plainSettings lonelyEvent .root none linkingTheme (Path.ofString "out")) =
      some (⟨"", ["out"]⟩, [⟨"", ["out", "index.html"]⟩], [], [["global.html#event:x"]]) := by
    simp only [publish, writePages, writeTutorials, Registry.addTutorials, Tutorial.root]
    decide +kernel
  have hstore : lonelyEvent.Within fun _ => False := by
    refine List.forall_mem_singleton.mpr ⟨Html.within_empty, Html.within_empty, ?_, ?_⟩
    · exact fun _ hx => absurd hx List.not_mem_nil
    · exact fun _ hx => absurd hx List.not_mem_nil
  have hnames : Tutorial.namesOf Tutorial.root.children = [] := by
    rw [Tutorial.root, Tutorial.namesOf]
  cases h : publish plainSettings lonelyEvent .root none linkingTheme (Path.ofString "out") with
  | error e =>
    rw [h] at hrun
    cases hrun
  | ok s =>
    rw [h] at hrun
    obtain ⟨hroot, hrest⟩ := Prod.mk.inj (Option.some.inj hrun)
    obtain ⟨hwritten, hrest⟩ := Prod.mk.inj hrest
    obtain ⟨hfailed, hlinks⟩ := Prod.mk.inj hrest
    obtain ⟨listed, _, _, hiff, _⟩ := publish_links_closed_iff hstore h hfailed
    refine ⟨s, rfl, by rw [hwritten]; rfl, hlinks, listed, fun hm => ?_⟩
    have hpage : ["global.html#event:x"] ∈ s.made.map fun p => p.2.links := by
      rw [hlinks]
      exact List.mem_singleton.mpr rfl
    obtain ⟨p, hp, hlink⟩ := List.mem_map.mp hpage
    have ha : "global.html#event:x" ∈ p.2.links := by
      rw [hlink]
      exact List.mem_singleton.mpr rfl
    have htarget := hiff.mpr (hnames ▸ hm) p hp _ ha
    rw [target, hroot, hwritten] at htarget
    revert htarget
    decide

end

end DocSite.Site
