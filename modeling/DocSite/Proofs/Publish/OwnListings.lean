import DocSite.Proofs.Publish.Refused
import DocSite.Proofs.Publish.Signatures
import DocSite.Proofs.Source.Shortened
import DocSite.Proofs.Text.Lists

/-! Listings of source files. A listing is looked up by the title of its source, which is also the
name that leads to it. So each source has a listing of its own, and its short path leads there,
exactly where the short paths are different and none of them is empty or stands for something else
already. -/
namespace DocSite
open Registry (Hosted Sound Reaches Quiet)
set_option autoImplicit false

/-- A title has no address, or that of its listing. -/
def Registry.FreeForListing (r : Registry) (title : String) : Prop :=
  ∀ url, r.url? title = some url → r.files.get? ("<source>" ++ title) = some url

namespace Site

/-! ## Listings one after another -/

/-- Each source can be read when its turn comes. -/
def ReadsAll (sidebar : Html) (s : Site) (sources : List Source.File) : Prop :=
  ∀ before file after t, sources = before ++ file :: after →
    before.foldlM (writeListing sidebar) s = .ok t →
    ∃ code, t.readSource (Path.ofString file.path) = .ok (.ok code)

/-- Sources are read and their listings made one after another, with the pages that are made. -/
inductive Listed (sidebar : Html) :
    Site → List Source.File → List (String × Html) → Site → Prop where
  | done {s : Site} : Listed sidebar s [] [] s
  | next {s shown t s' : Site} {file : Source.File} {rest : List Source.File} {code : String}
      {page : Html} {pages : List (String × Html)}
      (read : s.readSource (Path.ofString file.path) = .ok (.ok code))
      (drawn : (s.addListing file.title).2.listingPage sidebar file.title code = .ok (page, shown))
      (write : shown.writePage (s.addListing file.title).1 page = .ok t)
      (later : Listed sidebar t rest pages s') :
      Listed sidebar s (file :: rest) (((s.addListing file.title).1, page) :: pages) s'

section
variable {sidebar : Html} {s s' : Site} {sources : List Source.File}
  {pages : List (String × Html)}

theorem listed_of_readsAll (hread : ReadsAll sidebar s sources)
    (h : sources.foldlM (writeListing sidebar) s = .ok s') :
    ∃ pages, Listed sidebar s sources pages s' := by
  induction sources generalizing s with
  | nil =>
    cases h
    exact ⟨[], .done⟩
  | cons file rest ih =>
    rw [List.foldlM_cons] at h
    obtain ⟨t, ht, h⟩ := Fault.bind_eq_ok_iff.mp h
    obtain ⟨code, hcode⟩ := hread [] file rest s rfl rfl
    have hrest : ReadsAll sidebar t rest := by
      intro before file' after u hsplit hrun
      refine hread (file :: before) file' after u (by rw [hsplit, List.cons_append]) ?_
      rw [List.foldlM_cons]
      exact Fault.bind_eq_ok_iff.mpr ⟨t, ht, hrun⟩
    obtain ⟨pages, hlisted⟩ := ih hrest h
    unfold writeListing at ht
    obtain ⟨read, hr, ht⟩ := Fault.bind_eq_ok_iff.mp ht
    rw [hcode] at hr
    cases hr
    obtain ⟨⟨page, shown⟩, hpage, hwrite⟩ := Fault.bind_eq_ok_iff.mp ht
    exact ⟨_, .next hcode hpage hwrite hlisted⟩

theorem addListing_made (s : Site) (title : String) : (s.addListing title).2.made = s.made := by
  obtain ⟨log, hlog⟩ := addListing_eq s title
  rw [hlog]

theorem addListing_url?_of_ne {title name : String} (h : name ≠ title) :
    (s.addListing title).2.registry.url? name = s.registry.url? name := by
  rw [addListing]
  dsimp only
  rw [register_registry, Registry.register_get?, if_neg h, Registry.url?, Registry.allocate_urls]
  rfl

/-- A title without an address gets that of its listing. -/
theorem addListing_url?_self {title : String} (h : s.registry.url? title = none) :
    (s.addListing title).2.registry.url? title = some (s.addListing title).1 := by
  have hnone : (s.registry.allocate title ("<source>" ++ title)).2.url? title = none := by
    rw [Registry.url?, Registry.allocate_urls]
    exact h
  rw [addListing]
  dsimp only
  rw [register_registry]
  exact (Registry.register_get?_self_iff _ _ _).mpr (.inl hnone)

theorem reaches_addListing (s : Site) (title : String) :
    Reaches Hosted s.registry (s.addListing title).2.registry := by
  have hadd : Emits .empty Hosted s [] (s.addListing title).2 := emits_addListing s title
  exact hadd.reaches

/-- Drawing and writing a listing leaves the addresses that were added for it. -/
theorem listing_frame {shown t : Site} {title code : String} {page : Html}
    (drawn : (s.addListing title).2.listingPage sidebar title code = .ok (page, shown))
    (write : shown.writePage (s.addListing title).1 page = .ok t) :
    Quiet (s.addListing title).2.registry t.registry ∧
      t.made = s.made ++ [((s.addListing title).1, page)] := by
  obtain ⟨r, hq, rfl⟩ := pageOf_eq .refl drawn
  obtain ⟨-, -, hregistry, -, hmade⟩ := writePage_frame write
  rw [hregistry, hmade, addListing_made]
  exact ⟨hq, rfl⟩

theorem Listed.reaches (h : Listed sidebar s sources pages s') :
    Reaches Hosted s.registry s'.registry := by
  induction h with
  | done => exact .refl
  | @next s _ _ _ file _ _ _ _ _ drawn write _ ih =>
    have hshown := (listing_frame drawn write).1.weaken
    exact ((reaches_addListing s file.title).trans hshown).trans ih

theorem Listed.made_eq (h : Listed sidebar s sources pages s') : s'.made = s.made ++ pages := by
  induction h with
  | done => exact (List.append_nil _).symm
  | next _ drawn write _ ih =>
    rw [ih, (listing_frame drawn write).2, List.append_assoc, List.singleton_append]

/-- Each page goes to the file that belongs to the title of its source. -/
theorem Listed.files (h : Listed sidebar s sources pages s') :
    List.Forall₂ (fun file made => s'.registry.files.get? ("<source>" ++ file.title) = some made.1)
      sources pages := by
  induction h with
  | done => exact .nil
  | @next s _ _ _ file _ _ _ _ _ drawn write later ih =>
    refine .cons (later.reaches.files_mono ?_) ih
    exact (listing_frame drawn write).1.files_mono (addListing_file s file.title)

/-- A title that has no address when the listings start leads to its listing in the end. -/
theorem Listed.url?_of_none (h : Listed sidebar s sources pages s') {title : String}
    (htitle : title ∈ sources.map Source.File.title) (hnone : s.registry.url? title = none) :
    s'.registry.url? title = s'.registry.files.get? ("<source>" ++ title) := by
  induction h with
  | done => cases htitle
  | @next s _ t _ file _ _ _ _ _ drawn write later ih =>
    have hshown := (listing_frame drawn write).1
    have hurls : ∀ l, t.registry.url? l = (s.addListing file.title).2.registry.url? l :=
      fun l => congrArg (·.get? l) hshown.urls_eq
    by_cases hself : title = file.title
    · subst hself
      have hurl : t.registry.url? file.title = some (s.addListing file.title).1 := by
        rw [hurls]
        exact addListing_url?_self hnone
      have hfile : t.registry.files.get? ("<source>" ++ file.title) =
          some (s.addListing file.title).1 :=
        hshown.files_mono (addListing_file s file.title)
      rw [later.reaches.urls_mono hurl, later.reaches.files_mono hfile]
    · rw [List.map_cons, List.mem_cons] at htitle
      refine ih (htitle.resolve_left hself) ?_
      rw [hurls, addListing_url?_of_ne hself]
      exact hnone

/-- The address that lies on the page of a file is known to a registry only with the file. -/
theorem files_of_hosted {r r' : Registry} (hs' : Sound r') (hs : Sound r)
    (hr : Reaches Hosted r r') {key url : String} (hosted : Hosted r url)
    (h : r'.files.get? key = some url) : r.files.get? key = some url := by
  obtain ⟨other, file, hfile, hpage⟩ := hosted
  have hurl : url = file := by
    rw [← hs'.page_file h, hpage, hs.page_file hfile]
  subst hurl
  rwa [hs'.key_eq h (hr.files_mono hfile)]

/-- In the end a title leads to its listing if and only if it did not lead anywhere else before. -/
theorem Listed.url?_iff (hs : Sound s.registry) (h : Listed sidebar s sources pages s')
    {title : String} (htitle : title ∈ sources.map Source.File.title) :
    s'.registry.url? title = s'.registry.files.get? ("<source>" ++ title) ↔
      s.registry.FreeForListing title := by
  cases hu : s.registry.url? title with
  | none =>
    refine iff_of_true (h.url?_of_none htitle hu) fun url hurl => ?_
    rw [hu] at hurl
    cases hurl
  | some url =>
    rw [h.reaches.urls_mono hu]
    constructor
    · intro hlisting other hother
      rw [hu] at hother
      cases hother
      exact files_of_hosted (h.reaches.sound hs) hs h.reaches (hs.hosted title url hu)
        hlisting.symm
    · exact fun hfree => (h.reaches.files_mono (hfree url hu)).symm

theorem Listed.exists_page (h : Listed sidebar s sources pages s') {file : Source.File}
    (hfile : file ∈ sources) : ∃ made, (file, made) ∈ sources.zip pages ∧
      s'.registry.files.get? ("<source>" ++ file.title) = some made.1 := by
  have hzip : file ∈ (sources.zip pages).map Prod.fst := by
    rwa [List.map_fst_zip h.files.length_eq.le]
  obtain ⟨⟨_, made⟩, hmade, rfl⟩ := List.mem_map.mp hzip
  exact ⟨made, hmade, List.forall₂_zip h.files hmade⟩

/-- The listings have different files if and only if their titles are different. -/
theorem Listed.nodup_iff (hs : Sound s.registry) (h : Listed sidebar s sources pages s') :
    (pages.map Prod.fst).Nodup ↔ (sources.map Source.File.title).Nodup := by
  have hs' := h.reaches.sound hs
  have hfiles : List.Forall₂ (· = ·)
      (sources.map fun file => s'.registry.files.get? ("<source>" ++ file.title))
      (pages.map fun made => some made.1) := by
    rw [List.forall₂_map_left_iff, List.forall₂_map_right_iff]
    exact h.files
  rw [List.forall₂_eq_eq_eq] at hfiles
  have hmap : (pages.map Prod.fst).map some = (sources.map Source.File.title).map
      fun title => s'.registry.files.get? ("<source>" ++ title) := by
    rw [List.map_map, List.map_map]
    exact hfiles.symm
  rw [← List.nodup_map_iff (Option.some_injective String), hmap]
  refine ⟨List.Nodup.of_map _, fun hd => hd.map_on fun x hx y hy he => ?_⟩
  obtain ⟨file, hfile, rfl⟩ := List.mem_map.mp hx
  obtain ⟨made, -, hmade⟩ := h.exists_page hfile
  exact append_injective "<source>" (hs'.key_eq hmade (he ▸ hmade))

end

end Site

/-! ## Doclets and their sources -/

/-- The short path of the file that a doclet was found in, once it is known. -/
def Doclet.shortPath? (d : Doclet) : Option String := d.origin.bind Origin.shortPath

section
variable {d e : Doclet} {path : String}

theorem Doclet.sourcePath?_congr (h : d.origin = e.origin) : d.sourcePath? = e.sourcePath? := by
  rw [sourcePath?, sourcePath?, h]

theorem Doclet.shortPath?_congr (h : d.origin = e.origin) : d.shortPath? = e.shortPath? := by
  rw [shortPath?, shortPath?, h]

theorem Doclet.ne_empty_of_sourcePath? (h : d.sourcePath? = some path) : path ≠ "" := by
  unfold sourcePath? at h
  split at h
  · cases h
  · rename_i o ho
    split at h
    · cases h
    · rename_i hname
      have hne : o.fileName ≠ "" := by simpa using hname
      split at h
      · cases h
        unfold Source.joinPath
        split
        · exact hne
        · split <;> simp [hne]
      · cases h
        exact hne

end

namespace Store
variable {s : Store}

theorem mem_sourcePaths {path : String} :
    path ∈ s.sourcePaths ↔ ∃ d ∈ s.doclets, d.sourcePath? = some path := by
  rw [sourcePaths, Text.mem_distinct, List.mem_filter, List.mem_filterMap]
  constructor
  · exact fun h => h.1
  · rintro ⟨d, hd, hpath⟩
    exact ⟨⟨d, hd, hpath⟩, by simpa using Doclet.ne_empty_of_sourcePath? hpath⟩

theorem map_path_sourceFiles (s : Store) : s.sourceFiles.map Source.File.path = s.sourcePaths := by
  rw [sourceFiles, Source.filesOf, List.map_map]
  exact List.map_id _

/-- Every path of a source is there once. -/
theorem nodup_sourceFiles (s : Store) : (s.sourceFiles.map Source.File.path).Nodup := by
  rw [map_path_sourceFiles]
  exact Text.nodup_distinct _

theorem find?_sourceFiles {file : Source.File} (h : file ∈ s.sourceFiles) :
    s.sourceFiles.find? (·.path == file.path) = some file := by
  cases hfind : s.sourceFiles.find? (·.path == file.path) with
  | none => simpa using List.find?_eq_none.mp hfind file h
  | some other =>
    have hpath : other.path = file.path := by simpa using List.find?_some hfind
    have hother := List.mem_of_find?_eq_some hfind
    rw [List.inj_on_of_nodup_map s.nodup_sourceFiles hother h hpath]

end Store

namespace Site

theorem sourcePath?_locate (sources : List Source.File) (d : Doclet) :
    (locate sources d).sourcePath? = d.sourcePath? := by
  unfold locate
  split
  · rename_i ho _
    split
    · rfl
    · rw [Doclet.sourcePath?, Doclet.sourcePath?, ho]
  · rfl

/-- A doclet gets the short path of its source, unless that is empty. -/
theorem shortPath?_locate {s : Store} {d : Doclet} {file : Source.File} (h : file ∈ s.sourceFiles)
    (hpath : d.sourcePath? = some file.path) :
    (locate s.sourceFiles d).shortPath? =
      if file.shortPath = "" then d.shortPath? else some file.shortPath := by
  obtain ⟨o, ho⟩ : ∃ o, d.origin = some o := by
    cases ho : d.origin with
    | none =>
      rw [Doclet.sourcePath?, ho] at hpath
      cases hpath
    | some o => exact ⟨o, rfl⟩
  have hfind : (d.sourcePath?.bind fun path => s.sourceFiles.find? (·.path == path)) =
      some file := by
    rw [hpath]
    exact Store.find?_sourceFiles h
  unfold locate
  rw [ho, hfind]
  dsimp only
  by_cases hshort : file.shortPath = ""
  · rw [if_pos (by simpa using hshort), if_pos hshort]
  · rw [if_neg (by simpa using hshort), if_neg hshort]
    rfl

section
variable {settings : Settings} {store : Store} {tutorial : Tutorial} {files : FileTree} {out : Path}
  {around : Surroundings} {sidebar : Html} {start : Site}

/-- The doclets with a source have its path and its short path, unless that is empty, and every
source is that of a doclet. -/
structure Located (sources : List Source.File) (ds : List Doclet) : Prop where
  found : ∀ d ∈ ds, ∀ path, d.sourcePath? = some path → ∃ file ∈ sources, file.path = path ∧
    d.shortPath? = if file.shortPath = "" then none else some file.shortPath
  used : ∀ file ∈ sources, ∃ d ∈ ds, d.sourcePath? = some file.path

theorem origin_signed (l : TypeLinker) (r : Registry) (table : Table Doclet) (d : Doclet) :
    (addTrail l r table (addCall l r d)).origin = d.origin := by
  obtain ⟨_, _, _, _, htrail⟩ := addTrail_frame l r table (addCall l r d)
  obtain ⟨_, _, hcall⟩ := addCall_frame l r d
  rw [htrail, hcall]

/-- A run starts to write pages with the doclets where they were found. -/
theorem map_origin_ready (h : ready settings store tutorial files out around =
      .ok (sidebar, start)) :
    start.store.doclets.map Doclet.origin =
      (opened settings store files out).store.doclets.map fun d =>
        (locate (sourcesOf settings store files out) d).origin := by
  obtain ⟨hstore, -, -⟩ := ready_addressed h
  have hunquoted : ∀ s : Store,
      s.unquoteExternals.doclets.map Doclet.origin = s.doclets.map Doclet.origin := by
    intro s
    rw [Store.unquoteExternals, Store.map, List.map_map]
    refine List.map_congr_left fun d _ => ?_
    rw [Function.comp_apply]
    split <;> rfl
  have hsigned : ∀ s : Site,
      s.addSignatures.store.doclets.map Doclet.origin = s.store.doclets.map Doclet.origin := by
    intro s
    unfold addSignatures
    dsimp only
    rw [Store.map, Store.map, List.map_map, List.map_map]
    exact List.map_congr_left fun d _ => origin_signed _ _ _ d
  rw [hstore, hunquoted, hsigned, addressed, registerAll_store, Store.map, List.map_map]
  rfl

theorem map_origin_normalizeAll (r : Registry) (ds : List Doclet) :
    (normalizeAll r ds).1.map Doclet.origin = ds.map Doclet.origin := by
  induction ds generalizing r with
  | nil => rfl
  | cons d rest ih =>
    rw [normalizeAll]
    dsimp only
    rw [List.map_cons, List.map_cons, ih]

/-- The doclets of a run are found where those of the dump are. -/
theorem exists_origin_opened {d : Doclet}
    (hd : d ∈ (opened settings store files out).store.doclets) :
    ∃ e ∈ store.doclets, d.origin = e.origin := by
  have hprepared : ∀ e ∈ (prepareStore settings store).doclets,
      ∃ e' ∈ store.doclets, e.origin = e'.origin := by
    have hlisteners : ∀ {s : Store}, (∀ e ∈ s.doclets, e ∈ store.doclets) →
        ∀ e ∈ s.addListeners.doclets, ∃ e' ∈ store.doclets, e.origin = e'.origin := by
      intro s hs e he
      obtain ⟨e', he', rfl⟩ := List.mem_map.mp he
      refine ⟨e', hs e' he', ?_⟩
      split <;> rfl
    unfold prepareStore
    dsimp only
    split
    · exact hlisteners fun e he => List.mem_of_mem_filter ((orderBy_perm _ _).mem_iff.mp he)
    · exact hlisteners fun e he => List.mem_of_mem_filter he
  have horigin : d.origin ∈ (prepareStore settings store).doclets.map Doclet.origin := by
    have hmem := List.mem_map_of_mem (f := Doclet.origin) hd
    rw [opened, start, normalize] at hmem
    dsimp only at hmem
    rw [map_origin_normalizeAll] at hmem
    split at hmem
    · rwa [Store.map, List.map_map] at hmem
    · exact hmem
  obtain ⟨e, he, heq⟩ := List.mem_map.mp horigin
  obtain ⟨e', he', horigin'⟩ := hprepared e he
  exact ⟨e', he', heq.symm.trans horigin'⟩

/-- A run starts to write pages with doclets that know where their sources are. -/
theorem located_ready (h : ready settings store tutorial files out around = .ok (sidebar, start))
    (hbare : ∀ d ∈ store.doclets, d.shortPath? = none) :
    Located (sourcesOf settings store files out) start.store.doclets := by
  have hmap := map_origin_ready h
  have hnone : ∀ e ∈ (opened settings store files out).store.doclets, e.shortPath? = none := by
    intro e he
    obtain ⟨e', he', horigin⟩ := exists_origin_opened he
    rw [Doclet.shortPath?_congr horigin]
    exact hbare e' he'
  constructor
  · intro d hd path hpath
    have horigin := List.mem_map_of_mem (f := Doclet.origin) hd
    rw [hmap] at horigin
    obtain ⟨e, he, horigin⟩ := List.mem_map.mp horigin
    have hsource : e.sourcePath? = some path := by
      rw [← sourcePath?_locate, Doclet.sourcePath?_congr horigin]
      exact hpath
    have hlisted : path ∈ (sourcesOf settings store files out).map Source.File.path := by
      rw [sourcesOf, Store.map_path_sourceFiles]
      exact Store.mem_sourcePaths.mpr ⟨e, he, hsource⟩
    obtain ⟨file, hfile, rfl⟩ := List.mem_map.mp hlisted
    refine ⟨file, hfile, rfl, ?_⟩
    rw [← Doclet.shortPath?_congr horigin, ← hnone e he]
    exact shortPath?_locate hfile hsource
  · intro file hfile
    have hpath : file.path ∈ (opened settings store files out).store.sourcePaths := by
      rw [← Store.map_path_sourceFiles]
      exact List.mem_map_of_mem hfile
    obtain ⟨e, he, hsource⟩ := Store.mem_sourcePaths.mp hpath
    have horigin : (locate (sourcesOf settings store files out) e).origin ∈
        start.store.doclets.map Doclet.origin := by
      rw [hmap]
      exact List.mem_map.mpr ⟨e, he, rfl⟩
    obtain ⟨d, hd, heq⟩ := List.mem_map.mp horigin
    refine ⟨d, hd, ?_⟩
    rw [Doclet.sourcePath?_congr heq, sourcePath?_locate]
    exact hsource

/-- A name that no doclet is linked by or stands in has no address when the listings start. -/
theorem url?_ready_of_free
    (h : ready settings store tutorial files out around = .ok (sidebar, start)) {name : String}
    (hfree : ∀ d ∈ (opened settings store files out).store.doclets,
      d.host? ≠ some name ∧ (d.kind ≠ "file" → d.linkName ≠ name)) :
    start.registry.url? name = none := by
  have hopened : (opened settings store files out).registry.url? name = none := by
    refine keeps_normalizeAll (I := fun r => r.url? name = none) (fun d hd r hr => ?_)
      (Registry.initial_url? name)
    have hhost : d.host? ∈ (opened settings store files out).store.doclets.map Doclet.host? := by
      rw [opened, Site.start, normalize]
      dsimp only
      rw [map_host?_normalizeAll]
      exact List.mem_map_of_mem hd
    obtain ⟨e, he, heq⟩ := List.mem_map.mp hhost
    rw [Registry.urlFor_url?_of_ne r d (heq ▸ (hfree e he).1)]
    exact hr
  rw [Registry.url?, (ready_addressed h).2.2, ← Registry.url?, addressed, registerAll_registry]
  refine Registry.linkAll_of_not_mem hopened ?_ ?_
  · rintro hmem
    obtain ⟨d, hd, hname⟩ := List.mem_map.mp hmem
    obtain ⟨hd, hkind⟩ := List.mem_filter.mp hd
    exact (hfree d hd).2 (by simpa using hkind) hname
  · intro hmem
    obtain ⟨d, hd, hhost⟩ := List.mem_filterMap.mp hmem
    exact (hfree d (List.mem_of_mem_filter hd)).1 hhost

end

/-! ## A listing of its own for every source -/

/-- Different sources have different short paths and listings with different addresses, and the
short path of each doclet with a source leads to the listing of the file it was found in. -/
structure ListsApart (sources : List Source.File) (ds : List Doclet) (listed : Site) : Prop where
  short : (sources.map Source.File.shortPath).Nodup
  addresses : (listed.made.map Prod.fst).Nodup
  leads : ∀ d ∈ ds, ∀ path, d.sourcePath? = some path →
    ∃ file made, (file, made) ∈ sources.zip listed.made ∧ file.path = path ∧
      ∃ short, d.shortPath? = some short ∧ listed.registry.url? short = some made.1

section
variable {settings : Settings} {store : Store} {tutorial : Tutorial} {files : FileTree} {out : Path}
  {around : Surroundings} {sidebar : Html} {start listed : Site}

/-- A run that lists its sources, all of which can be read, makes the listing of each. -/
theorem listed_writeListings
    (h : ready settings store tutorial files out around = .ok (sidebar, start))
    (hwanted : settings.listSources = true) {sources : List Source.File}
    (hread : ReadsAll sidebar (start.announced sources) sources)
    (hlisted : writeListings sidebar sources start = .ok listed) :
    Listed sidebar (start.announced sources) sources listed.made listed := by
  have hfresh := fresh_ready h
  have hannounced : start.announced sources =
      start.print ("Writing " ++ toString sources.length ++ " source listings...") := by
    rw [announced, hfresh.2.1, if_pos hwanted]
  have hrun : sources.foldlM (writeListing sidebar) (start.announced sources) = .ok listed := by
    rw [hannounced]
    rwa [writeListings, hfresh.2.1, if_pos hwanted] at hlisted
  obtain ⟨pages, hpages⟩ := listed_of_readsAll hread hrun
  have hmade : listed.made = pages := by
    rw [hpages.made_eq, hannounced]
    exact congrArg (· ++ pages) hfresh.1.made
  rwa [hmade]

theorem title_of_ne_empty {file : Source.File} (h : file.shortPath ≠ "") :
    file.title = file.shortPath :=
  if_neg (by simpa using h)

/-- Listings are apart exactly where the short paths are different and none of them is empty or
stands for something else. -/
theorem Listed.apart_iff {s : Site} {sources : List Source.File} {ds : List Doclet}
    (hpages : Listed sidebar s sources listed.made listed) (hs : Sound s.registry)
    (hpaths : (sources.map Source.File.path).Nodup) (hlocated : Located sources ds) :
    ListsApart sources ds listed ↔ (sources.map Source.File.shortPath).Nodup ∧
      ∀ file ∈ sources, file.shortPath ≠ "" ∧ s.registry.FreeForListing file.shortPath := by
  have hlists : ∀ {file made}, (file, made) ∈ sources.zip listed.made → file.shortPath ≠ "" →
      (listed.registry.url? file.shortPath = some made.1 ↔
        s.registry.FreeForListing file.shortPath) := by
    intro file made hzip hne
    have htitle := title_of_ne_empty hne
    have hmem := List.mem_map.mpr ⟨file, (List.of_mem_zip hzip).1, htitle⟩
    have hlisting := List.forall₂_zip hpages.files hzip
    rw [htitle] at hlisting
    rw [← hpages.url?_iff hs hmem, hlisting]
  constructor
  · rintro ⟨hshort, -, hleads⟩
    refine ⟨hshort, fun file hfile => ?_⟩
    -- A doclet of the source leads to its listing by the short path of the source alone.
    obtain ⟨d, hd, hsource⟩ := hlocated.used file hfile
    obtain ⟨found, hmem, hpath, hgiven⟩ := hlocated.found d hd file.path hsource
    obtain rfl := List.inj_on_of_nodup_map hpaths hmem hfile hpath
    obtain ⟨other, made, hzip, hpath, short, hd', hurl⟩ := hleads d hd found.path hsource
    obtain rfl := List.inj_on_of_nodup_map hpaths (List.of_mem_zip hzip).1 hfile hpath
    by_cases hne : other.shortPath = ""
    · rw [hgiven, if_pos hne] at hd'
      cases hd'
    · rw [hgiven, if_neg hne] at hd'
      cases hd'
      exact ⟨hne, (hlists hzip hne).mp hurl⟩
  · rintro ⟨hshort, hfree⟩
    have htitles : sources.map Source.File.title = sources.map Source.File.shortPath :=
      List.map_congr_left fun file hfile => title_of_ne_empty (hfree file hfile).1
    refine ⟨hshort, (hpages.nodup_iff hs).mpr (htitles ▸ hshort), fun d hd path hpath => ?_⟩
    obtain ⟨file, hfile, rfl, hgiven⟩ := hlocated.found d hd path hpath
    obtain ⟨hne, hfile'⟩ := hfree file hfile
    obtain ⟨made, hzip, -⟩ := hpages.exists_page hfile
    rw [if_neg hne] at hgiven
    exact ⟨file, made, hzip, rfl, file.shortPath, hgiven, (hlists hzip hne).mpr hfile'⟩

/-- In a run that lists its sources, all of which can be read, there is a listing for each. The
sources have short paths and listings of their own, to which the doclets lead, exactly where the
short paths are different and none of them is empty or stands for something else already. It is
enough that the paths are spelled plainly and that no doclet is named by a short path or stands in
something of that name. -/
theorem lists_apart_iff
    (h : ready settings store tutorial files out around = .ok (sidebar, start))
    (hbare : ∀ d ∈ store.doclets, d.shortPath? = none) (hwanted : settings.listSources = true)
    (hread : ReadsAll sidebar (start.announced (sourcesOf settings store files out))
      (sourcesOf settings store files out))
    (hlisted : writeListings sidebar (sourcesOf settings store files out) start = .ok listed) :
    let sources := sourcesOf settings store files out
    (sources.map Source.File.path).Nodup ∧
    Listed sidebar (start.announced sources) sources listed.made listed ∧
    (ListsApart sources start.store.doclets listed ↔
      (sources.map Source.File.shortPath).Nodup ∧
        ∀ file ∈ sources, file.shortPath ≠ "" ∧
          start.registry.FreeForListing file.shortPath) ∧
    ((∀ file ∈ sources, Source.IsPlain file.path) →
      (∀ d ∈ (opened settings store files out).store.doclets, ∀ file ∈ sources,
        d.host? ≠ some file.shortPath ∧ (d.kind ≠ "file" → d.linkName ≠ file.shortPath)) →
      ListsApart sources start.store.doclets listed) := by
  intro sources
  have hpages := listed_writeListings h hwanted hread hlisted
  have hregistry : (start.announced sources).registry = start.registry :=
    (announced_frame start sources).1
  have hs : Sound (start.announced sources).registry := hregistry ▸ (fresh_ready h).1.sound
  have hpaths : (sources.map Source.File.path).Nodup := Store.nodup_sourceFiles _
  have hiff : ListsApart sources start.store.doclets listed ↔
      (sources.map Source.File.shortPath).Nodup ∧
        ∀ file ∈ sources, file.shortPath ≠ "" ∧
          start.registry.FreeForListing file.shortPath := by
    rw [← hregistry]
    exact hpages.apart_iff hs hpaths (located_ready h hbare)
  refine ⟨hpaths, hpages, hiff, fun hplain hnames => hiff.mpr ?_⟩
  have hspelled : ∀ path ∈ (Site.start settings store files out).store.sourcePaths,
      Source.IsPlain path := by
    intro path hpath
    rw [← Store.map_path_sourceFiles] at hpath
    obtain ⟨file, hfile, rfl⟩ := List.mem_map.mp hpath
    exact hplain file hfile
  obtain ⟨hshort, hne⟩ := Source.shortPaths_of_plain hspelled (Text.nodup_distinct _)
  refine ⟨hshort, fun file hfile => ⟨hne file hfile, fun url hurl => ?_⟩⟩
  rw [url?_ready_of_free h fun d hd => hnames d hd file hfile] at hurl
  cases hurl

end

/-- A namespace in the file `a.txt` with a member whose longname is that of the file. -/
def dottedMember : Store :=
  ⟨[{ kind := "namespace", name := "a", longname := some "a",
      origin := some { fileName := "a.txt", directory := some "src" } },
    { position := 1, kind := "function", name := "txt", longname := some "a.txt",
      memberof := some "a", scope := some "static" }]⟩

def dottedTheme : FileTree :=
  ⟨[(⟨false, ["t"]⟩, .directory), (⟨false, ["t", "container.html"]⟩, .file [120]),
    (⟨false, ["t", "source.html"]⟩, .file [120]), (⟨false, ["src"]⟩, .directory),
    (⟨false, ["src", "a.txt"]⟩, .file [120])]⟩

theorem sourcesOf_dottedMember :
    sourcesOf listingSettings dottedMember dottedTheme (Path.ofString "out") =
      [⟨"src/a.txt", "a.txt"⟩] := by
  decide +kernel

/-- What leads to the source of the namespace leads to its member. -/
theorem dottedMember_not_apart :
    ∃ sidebar start listed,
      ready listingSettings dottedMember .root dottedTheme (Path.ofString "out") {} =
        .ok (sidebar, start) ∧
      writeListings sidebar (sourcesOf listingSettings dottedMember dottedTheme
        (Path.ofString "out")) start = .ok listed ∧
      ¬ ListsApart (sourcesOf listingSettings dottedMember dottedTheme (Path.ofString "out"))
        start.store.doclets listed := by
  have hrun : (ready listingSettings dottedMember .root dottedTheme (Path.ofString "out")
      {}).toOption.map (fun p => (p.2.registry.url? "a.txt",
        p.2.registry.files.get? "<source>a.txt",
        ((p.2.announced [⟨"src/a.txt", "a.txt"⟩]).readSource
          (Path.ofString "src/a.txt")).toOption.bind Except.toOption,
        (writeListings p.1 [⟨"src/a.txt", "a.txt"⟩] p.2).toOption.isSome)) =
      some (some "a.html#.txt", none, some "x", true) := by
    simp only [ready, Registry.addTutorials, Tutorial.root]
    decide +kernel
  cases hready : ready listingSettings dottedMember .root dottedTheme (Path.ofString "out")
      {} with
  | error e =>
    rw [hready] at hrun
    cases hrun
  | ok found =>
    obtain ⟨sidebar, start⟩ := found
    rw [hready] at hrun
    obtain ⟨hurl, hrun⟩ := Prod.mk.inj (Option.some.inj hrun)
    obtain ⟨hfile, hrun⟩ := Prod.mk.inj hrun
    obtain ⟨htext, hwritten⟩ := Prod.mk.inj hrun
    have hcode : (start.announced [⟨"src/a.txt", "a.txt"⟩]).readSource
        (Path.ofString "src/a.txt") = .ok (.ok "x") := by
      cases hread : (start.announced [⟨"src/a.txt", "a.txt"⟩]).readSource
          (Path.ofString "src/a.txt") with
      | error e =>
        rw [hread] at htext
        cases htext
      | ok read =>
        rw [hread] at htext
        cases read with
        | error reason => cases htext
        | ok code => rw [Option.some.inj htext]
    obtain ⟨listed, hlisted⟩ : ∃ listed,
        writeListings sidebar [⟨"src/a.txt", "a.txt"⟩] start = .ok listed := by
      cases hlisted : writeListings sidebar [⟨"src/a.txt", "a.txt"⟩] start with
      | error e =>
        rw [hlisted] at hwritten
        cases hwritten
      | ok listed => exact ⟨listed, rfl⟩
    have hread : ReadsAll sidebar (start.announced [⟨"src/a.txt", "a.txt"⟩])
        [⟨"src/a.txt", "a.txt"⟩] := by
      intro before file after t hsplit hbefore
      cases before with
      | nil =>
        obtain ⟨rfl, -⟩ := List.cons.inj hsplit
        cases hbefore
        exact ⟨"x", hcode⟩
      | cons first rest => simp at hsplit
    rw [← sourcesOf_dottedMember] at hlisted hread
    refine ⟨sidebar, start, listed, rfl, hlisted, fun hapart => ?_⟩
    obtain ⟨-, -, hiff, -⟩ := lists_apart_iff hready (by simp [dottedMember, Doclet.shortPath?])
      rfl hread hlisted
    obtain ⟨-, hfree⟩ := hiff.mp hapart
    rw [sourcesOf_dottedMember, List.forall_mem_singleton] at hfree
    have hlisting : start.registry.files.get? "<source>a.txt" = some "a.html#.txt" :=
      hfree.2 "a.html#.txt" hurl
    cases hlisting.symm.trans hfile

end Site
end DocSite
