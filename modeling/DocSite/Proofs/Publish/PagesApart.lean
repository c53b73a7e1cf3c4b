import DocSite.Proofs.Publish.Run

/-! When the pages of a run are written to different files: no title is listed twice, no longname is
a container of two kinds, and the address of a container lies on no page of another one. -/
namespace DocSite.Site
open Registry (Hosted Sound)
set_option autoImplicit false

/-- The keys of the pages that are no container's. -/
def otherKeys (store : Store) (listed names : List String) : List String :=
  listed.map ("<source>" ++ ·) ++ (if store.globals.isEmpty then [] else [Registry.globalKey]) ++
    [Registry.homeKey] ++ names.map ("<tutorial>" ++ ·)

/-- No two pages of a run have one file. -/
structure PagesApart (r : Registry) (store : Store) (listed names : List String) : Prop where
  listings : listed.Nodup
  /-- No longname is documented as containers of two kinds. -/
  kinds : ∀ l url, r.url? l = some url → (kindsOf store l).length ≤ 1
  /-- No two containers lie on one page. -/
  hosts : ∀ l₁ l₂ url₁ url₂, r.url? l₁ = some url₁ → r.url? l₂ = some url₂ →
    kindsOf store l₁ ≠ [] → kindsOf store l₂ ≠ [] → r.keyOf url₁ = r.keyOf url₂ → l₁ = l₂
  /-- No container lies on a page that is no container's. -/
  reserved : ∀ l url, r.url? l = some url → kindsOf store l ≠ [] →
    r.keyOf url ∉ otherKeys store listed names

/-! ## Keys that never meet -/

theorem append_injective (mark : String) : Function.Injective (mark ++ ·) := by
  intro s t h
  have hl := congrArg String.toList h
  simp only [String.toList_append] at hl
  exact String.toList_injective (List.append_cancel_left hl)

/-- The first two characters of a key, which tell the sorts of pages apart. -/
def markOf (key : String) : List Char := key.toList.take 2

theorem markOf_append {mark : String} (h : 2 ≤ mark.toList.length) (s : String) :
    markOf (mark ++ s) = markOf mark := by
  rw [markOf, String.toList_append, List.take_append_of_le_length h, markOf]

theorem markOf_source (title : String) : markOf ("<source>" ++ title) = ['<', 's'] :=
  markOf_append (by decide) title

theorem markOf_tutorial (name : String) : markOf ("<tutorial>" ++ name) = ['<', 't'] :=
  markOf_append (by decide) name

theorem ne_of_markOf {k₁ k₂ : String} (h : markOf k₁ ≠ markOf k₂) : k₁ ≠ k₂ :=
  fun e => h (congrArg markOf e)

section
variable {r : Registry} {store : Store} {listed names : List String}

theorem nodup_otherKeys_iff (hn : names.Nodup) :
    (otherKeys store listed names).Nodup ↔ listed.Nodup := by
  have hglobal : (if store.globals.isEmpty then [] else [Registry.globalKey]).Nodup := by
    split <;> simp
  -- Marks tell the sorts of keys apart; keys of one sort differ by the names in them.
  have hmark : ∀ key ∈ (if store.globals.isEmpty then [] else [Registry.globalKey]),
      markOf key = ['<', 'g'] := by
    intro key hk
    split at hk
    · cases hk
    · rw [List.mem_singleton.mp hk]
      decide
  have hsource : ∀ key ∈ listed.map ("<source>" ++ ·), markOf key = ['<', 's'] := by
    intro key hk
    obtain ⟨title, _, rfl⟩ := List.mem_map.mp hk
    exact markOf_source title
  have htutorial : ∀ key ∈ names.map ("<tutorial>" ++ ·), markOf key = ['<', 't'] := by
    intro key hk
    obtain ⟨name, _, rfl⟩ := List.mem_map.mp hk
    exact markOf_tutorial name
  unfold otherKeys
  constructor
  · intro h
    rw [List.append_assoc, List.append_assoc, List.nodup_append] at h
    exact List.Nodup.of_map _ h.1
  · intro h
    rw [List.nodup_append, List.nodup_append, List.nodup_append]
    refine ⟨⟨⟨h.map (append_injective _), hglobal, ?_⟩, List.nodup_singleton _, ?_⟩,
      hn.map (append_injective _), ?_⟩
    · intro a ha b hb
      exact ne_of_markOf (by rw [hsource a ha, hmark b hb]; decide)
    · intro a ha b hb
      rw [List.mem_singleton.mp hb]
      rcases List.mem_append.mp ha with ha | ha
      · exact ne_of_markOf (by rw [hsource a ha]; decide)
      · exact ne_of_markOf (by rw [hmark a ha]; decide)
    · intro a ha b hb
      refine ne_of_markOf ?_
      rw [htutorial b hb]
      rcases List.mem_append.mp ha with ha | ha
      · rcases List.mem_append.mp ha with ha | ha
        · rw [hsource a ha]
          decide
        · rw [hmark a ha]
          decide
      · rw [List.mem_singleton.mp ha]
        decide

/-! ## The keys of containers -/

theorem map_keyOf_containerUrls (r : Registry) (store : Store) :
    (containerUrls r store).map r.keyOf =
      r.urls.entries.flatMap fun entry =>
        List.replicate (kindsOf store entry.1).length (r.keyOf entry.2) := by
  rw [containerUrls, List.map_flatMap]
  refine List.flatMap_congr fun entry _ => ?_
  rw [List.map_map, List.map_eq_replicate_iff]
  exact fun _ _ => rfl

theorem length_ne_zero_iff {l : String} : (kindsOf store l).length ≠ 0 ↔ kindsOf store l ≠ [] :=
  not_congr List.length_eq_zero_iff

theorem mem_containerKeys (hs : Sound r) {key : String} :
    key ∈ (containerUrls r store).map r.keyOf ↔
      ∃ l url, r.url? l = some url ∧ kindsOf store l ≠ [] ∧ r.keyOf url = key := by
  rw [map_keyOf_containerUrls, List.mem_flatMap]
  constructor
  · rintro ⟨entry, hm, hk⟩
    obtain ⟨hne, rfl⟩ := List.mem_replicate.mp hk
    exact ⟨entry.1, entry.2, Table.get?_eq_some_of_mem hs.urls_nodup hm,
      length_ne_zero_iff.mp hne, rfl⟩
  · rintro ⟨l, url, hu, hk, rfl⟩
    exact ⟨(l, url), Table.mem_of_get?_eq_some hu,
      List.mem_replicate.mpr ⟨length_ne_zero_iff.mpr hk, rfl⟩⟩

/-- The keys of containers differ where each longname is of one kind and has a page of its own. -/
theorem nodup_containerKeys_iff (hs : Sound r) :
    ((containerUrls r store).map r.keyOf).Nodup ↔
      (∀ l url, r.url? l = some url → (kindsOf store l).length ≤ 1) ∧
      ∀ l₁ l₂ url₁ url₂, r.url? l₁ = some url₁ → r.url? l₂ = some url₂ →
        kindsOf store l₁ ≠ [] → kindsOf store l₂ ≠ [] → r.keyOf url₁ = r.keyOf url₂ → l₁ = l₂ := by
  have hentries : r.urls.entries.Nodup := List.Nodup.of_map _ hs.urls_nodup
  rw [map_keyOf_containerUrls, List.nodup_flatMap]
  constructor
  · rintro ⟨hkinds, hapart⟩
    refine ⟨?_, ?_⟩
    · intro l url hu
      exact List.nodup_replicate.mp (hkinds _ (Table.mem_of_get?_eq_some hu))
    · intro l₁ l₂ url₁ url₂ hu₁ hu₂ hk₁ hk₂ he
      by_contra hne
      have : Std.Symm (Function.onFun List.Disjoint fun entry : String × String =>
          List.replicate (kindsOf store entry.1).length (r.keyOf entry.2)) :=
        ⟨fun _ _ hd => List.Disjoint.symm hd⟩
      have hp := hapart.forall (Table.mem_of_get?_eq_some hu₁) (Table.mem_of_get?_eq_some hu₂)
        fun e => hne (congrArg Prod.fst e)
      refine hp (List.mem_replicate.mpr ⟨length_ne_zero_iff.mpr hk₁, rfl⟩) ?_
      exact List.mem_replicate.mpr ⟨length_ne_zero_iff.mpr hk₂, he⟩
  · rintro ⟨hkinds, hhosts⟩
    have hget : ∀ entry ∈ r.urls.entries, r.url? entry.1 = some entry.2 :=
      fun entry hm => Table.get?_eq_some_of_mem hs.urls_nodup hm
    refine ⟨fun entry hm => List.nodup_replicate.mpr (hkinds _ _ (hget entry hm)), ?_⟩
    refine hentries.pairwise_of_forall_ne fun e₁ h₁ e₂ h₂ hne => ?_
    intro key hk₁ hk₂
    obtain ⟨hn₁, rfl⟩ := List.mem_replicate.mp hk₁
    obtain ⟨hn₂, he⟩ := List.mem_replicate.mp hk₂
    have hl := hhosts e₁.1 e₂.1 e₁.2 e₂.2 (hget e₁ h₁) (hget e₂ h₂) (length_ne_zero_iff.mp hn₁)
      (length_ne_zero_iff.mp hn₂) he
    have hu : some e₁.2 = some e₂.2 := by rw [← hget e₁ h₁, ← hget e₂ h₂, hl]
    exact hne (Prod.ext hl (Option.some.inj hu))

/-- The keys of all pages differ exactly where the pages are apart. -/
theorem nodup_pageKeys_iff (hs : Sound r) (hn : names.Nodup) :
    (pageKeys r store listed names).Nodup ↔ PagesApart r store listed names := by
  have hperm : (pageKeys r store listed names).Perm
      (otherKeys store listed names ++ (containerUrls r store).map r.keyOf) := by
    rw [pageKeys, otherKeys, List.append_assoc _ _ (List.map _ names),
      List.append_assoc _ (List.map _ names)]
    exact List.perm_append_comm.append_left _
  rw [hperm.nodup_iff, List.nodup_append, nodup_otherKeys_iff hn, nodup_containerKeys_iff hs]
  constructor
  · rintro ⟨hlisted, ⟨hkinds, hhosts⟩, hdisjoint⟩
    refine ⟨hlisted, hkinds, hhosts, fun l url hu hk hm => ?_⟩
    exact hdisjoint _ hm _ ((mem_containerKeys hs).mpr ⟨l, url, hu, hk, rfl⟩) rfl
  · rintro ⟨hlisted, hkinds, hhosts, hreserved⟩
    refine ⟨hlisted, ⟨hkinds, hhosts⟩, ?_⟩
    intro key hk key' hk' he
    obtain ⟨l, url, hu, hkind, rfl⟩ := (mem_containerKeys hs).mp hk'
    exact hreserved l url hu hkind (he ▸ hk)

end

/-! ## Pages that are kept -/

/-- Pages have different files where their keys differ. -/
theorem nodup_pages_iff {s : Site} (hs : Sound s.registry)
    (hosted : ∀ p ∈ s.made, Hosted s.registry p.1) :
    (s.made.map fun p => Address.page p.1).Nodup ↔ (keysOf s.registry s.made).Nodup := by
  rw [keysOf, List.nodup_iff_pairwise_ne, List.nodup_iff_pairwise_ne, List.pairwise_map,
    List.pairwise_map]
  exact List.Pairwise.iff_of_mem fun hp hq =>
    not_congr (hs.keyOf_eq_iff (hosted _ hp) (hosted _ hq)).symm

theorem nodup_targets_iff {s : Site} (hr : Recorded s) :
    (s.made.map fun p => s.target p.1).Nodup ↔ (s.made.map fun p => Address.page p.1).Nodup := by
  rw [List.nodup_iff_pairwise_ne, List.nodup_iff_pairwise_ne, List.pairwise_map, List.pairwise_map]
  refine List.Pairwise.iff_of_mem fun {p q} hp hq => not_congr ⟨fun he => ?_, fun he => ?_⟩
  · exact Path.append_ofString_injective (hr.names p hp) (hr.names q hq) he
  · rw [target, target, he]

/-- A run writes no file twice where its pages are apart, and then every page it wrote can be read
in the end. A run in which no page failed writes no file twice only then. -/
theorem publish_written_nodup_iff {settings : Settings} {store : Store} {readme : Option String}
    {files t : FileTree} {out : Path} {around : Surroundings} {directory : Option Path}
    {yaml : Yaml.Reader} {tutorial : Tutorial} {log : List LogRecord} {s : Site}
    (ht : Tutorial.load t directory yaml = .ok (tutorial, log))
    (h : publish settings store tutorial readme files out around = .ok s) :
    ∃ listed, List.Sublist listed
        ((sourcesOf settings store files out).map Source.File.title) ∧
      keysOf s.registry s.made =
        pageKeys s.registry s.store listed (Tutorial.namesOf tutorial.children) ∧
      (s.failed = [] → (s.written.Nodup ↔
        PagesApart s.registry s.store listed (Tutorial.namesOf tutorial.children))) ∧
      (PagesApart s.registry s.store listed (Tutorial.namesOf tutorial.children) →
        s.written.Nodup ∧ ∀ p ∈ s.made, s.target p.1 ∈ s.written →
          s.files.read (s.target p.1) = .ok (Page.bytesOf p.2.markup)) := by
  obtain ⟨hs, hr, hosted, listed, hsub, hkeys⟩ := publish_pages h
  have hapart : (s.made.map fun p => Address.page p.1).Nodup ↔
      PagesApart s.registry s.store listed (Tutorial.namesOf tutorial.children) := by
    rw [nodup_pages_iff hs hosted, hkeys, nodup_pageKeys_iff hs (Tutorial.nodup_load ht)]
  refine ⟨listed, hsub, hkeys, fun hf => ?_, fun ha => ?_⟩
  · rw [hr.written_eq hf, nodup_targets_iff hr, hapart]
  · have hd := hapart.mpr ha
    exact ⟨hr.written_sublist.nodup ((nodup_targets_iff hr).mpr hd), hr.kept hd⟩

/-! ## A module that is documented as a class -/

/-- A module and the class that it exports have one longname. -/
def exportedClass : Store :=
  ⟨[{ kind := "module", name := "m", longname := some "module:m" },
    { kind := "class", name := "module:m", longname := some "module:m" }]⟩

def plainTheme : FileTree :=
  ⟨[(⟨false, ["t"]⟩, .directory), (⟨false, ["t", "container.html"]⟩, .file [120])]⟩

def plainSettings : Settings :=
  { templatesDirectory := some "t", sorts := false, listSources := false }

/-- The pages that a run wrote and those that it could not write. -/
def outcome : Except Fault Site → Option (List Path × List String)
  | .ok s => some (s.written, s.failed)
  | .error _ => none

/-- The two pages of a longname that is of two kinds have one file. -/
theorem exportedClass_not_apart :
    ∃ s, publish plainSettings exportedClass .root none plainTheme (Path.ofString "out") = .ok s ∧
      s.written.map Path.parts =
        [["out", "index.html"], ["out", "module-m.html"], ["out", "module-m.html"]] ∧
      ∃ listed, ¬ PagesApart s.registry s.store listed [] := by
  have hrun : outcome
      (publish plainSettings exportedClass .root none plainTheme (Path.ofString "out")) =
      some ([⟨"", ["out", "index.html"]⟩, ⟨"", ["out", "module-m.html"]⟩,
        ⟨"", ["out", "module-m.html"]⟩], []) := by
    simp only [publish, writePages, writeTutorials, Registry.addTutorials, Tutorial.root]
    decide +kernel
  have hload : Tutorial.load plainTheme none = .ok (.root, []) := rfl
  cases h : publish plainSettings exportedClass .root none plainTheme (Path.ofString "out") with
  | error e =>
    rw [h] at hrun
    cases hrun
  | ok s =>
    rw [h] at hrun
    obtain ⟨hwritten, hfailed⟩ := Prod.mk.inj (Option.some.inj hrun)
    obtain ⟨listed, _, _, hiff, _⟩ := publish_written_nodup_iff hload h
    refine ⟨s, rfl, by rw [hwritten]; rfl, listed, fun ha => ?_⟩
    have hnames : Tutorial.namesOf Tutorial.root.children = [] := by
      rw [Tutorial.root, Tutorial.namesOf]
    have hd := (hiff hfailed).mpr (hnames ▸ ha)
    rw [hwritten] at hd
    revert hd
    decide

end DocSite.Site
