import DocSite.Proofs.Files.Tree
import DocSite.Proofs.Link.Sound
import DocSite.Publish.Site

/-! What writing pages does to the state of a run. Between two states pages are drawn and written in
order and the registry takes steps; nothing else that pages depend on changes. As long as no two
pages have one file, every page that was written can still be read. -/
namespace DocSite.Site
open Registry (Hosted Sound Reaches Quiet)
set_option autoImplicit false

/-- The path of the page of an address. -/
def target (s : Site) (url : String) : Path := s.root ++ Path.ofString (Address.page url)

/-! ## Drawing and writing pages -/

/-- How the markup of a page comes about, and with which registry. The user's templates may draw
any markup. Topics are about doclets of the store. -/
inductive Drawn (sidebar : Html) (settings : Settings) (store : Store) : Registry → Html → Prop
  | own {r : Registry} (sound : Sound r) (markup : String) :
    Drawn sidebar settings store r (.raw markup)
  | fixed {r : Registry} (sound : Sound r) {design : Page.Design} {form : Page.Form} {text : Html}
    (look : design.look form = .ok (.fixed text)) : Drawn sidebar settings store r text
  | topics {s : Site} (sound : Sound s.registry) (hsettings : s.settings = settings)
    (hstore : s.store = store) {title : String} {topics : List Page.Topic}
    (about : ∀ d, .symbol d ∈ topics → d ∈ store.doclets) :
    Drawn sidebar settings store s.registry
      (Page.frame settings.siteTitle title sidebar (Page.topics s.context topics))
  | listing {r : Registry} (sound : Sound r) (title code : String) :
    Drawn sidebar settings store r
      (Page.frame settings.siteTitle title sidebar (listingContent (.raw code)))
  | tutorial {r : Registry} (sound : Sound r) (markdown : String → String) (t : Tutorial)
    (title : String) :
    Drawn sidebar settings store (tutorialContent markdown r t).2
      (Page.frame settings.siteTitle title sidebar (tutorialContent markdown r t).1)
  | resolved {r r' : Registry} {page page' : Html} (h : Drawn sidebar settings store r page)
    (hr : r.resolveTags page = (.ok page', r')) : Drawn sidebar settings store r' page'
  | later {r r' : Registry} {page : Html} (h : Drawn sidebar settings store r page)
    (hr : Quiet r r') : Drawn sidebar settings store r' page

/-- From one state to the next pages are written for addresses on pages that have a file. -/
inductive Emits (sidebar : Html) (ok : Registry → String → Prop) (s : Site) :
    List (String × Html) → Site → Prop
  | nil : Emits sidebar ok s [] s
  | link {ps : List (String × Html)} {s' : Site} {r : Registry} (h : Emits sidebar ok s ps s')
    (step : Registry.Step ok s'.registry r) : Emits sidebar ok s ps { s' with registry := r }
  | note {ps : List (String × Html)} {s' : Site} (h : Emits sidebar ok s ps s')
    (record : LogRecord) : Emits sidebar ok s ps (s'.note record)
  | print {ps : List (String × Html)} {s' : Site} (h : Emits sidebar ok s ps s') (row : String) :
    Emits sidebar ok s ps (s'.print row)
  | write {ps : List (String × Html)} {s' s'' : Site} {url : String} {page : Html}
    (h : Emits sidebar ok s ps s') (hosted : Hosted s'.registry url)
    (drawn : Drawn sidebar s'.settings s'.store s'.registry page)
    (hw : s'.writePage url page = .ok s'') : Emits sidebar ok s (ps ++ [(url, page)]) s''

section
variable {sidebar : Html} {ok : Registry → String → Prop} {s s' s'' : Site}
  {ps qs : List (String × Html)} {url : String} {page : Html}

/-- A page is written, or noted as failed. -/
theorem writePage_cases (h : s.writePage url page = .ok s') :
    (∃ files, s.files.put (s.target url) (Page.bytesOf page.markup) = .ok files ∧
      s' = { s with
        files := files
        written := s.written ++ [s.target url]
        made := s.made ++ [(url, page)] }) ∨
    s' = { s with
      log := s.log ++ [.fail ("Failed to write page " ++ url)]
      failed := s.failed ++ [url]
      made := s.made ++ [(url, page)] } := by
  unfold writePage at h
  dsimp only at h
  split at h
  · rename_i files hf
    split at h
    · cases h
      exact .inr rfl
    · cases h
      exact .inl ⟨files, hf, rfl⟩
  · cases h
  · cases h
    exact .inr rfl

theorem Emits.trans (h : Emits sidebar ok s ps s') (h' : Emits sidebar ok s' qs s'') :
    Emits sidebar ok s (ps ++ qs) s'' := by
  induction h' with
  | nil => rwa [List.append_nil]
  | link _ step ih => exact ih.link step
  | note _ record ih => exact ih.note record
  | print _ row ih => exact ih.print row
  | write _ hosted drawn hw ih =>
    rw [← List.append_assoc]
    exact ih.write hosted drawn hw

theorem Emits.links (h : Emits sidebar ok s ps s') {r : Registry}
    (hr : Reaches ok s'.registry r) : Emits sidebar ok s ps { s' with registry := r } := by
  induction hr with
  | refl => exact h
  | tail _ step ih => exact ih.link step

theorem Emits.weaken (h : Emits sidebar (fun _ _ => False) s ps s') :
    Emits sidebar Hosted s ps s' := by
  induction h with
  | nil => exact .nil
  | link _ step ih => exact ih.links (Registry.Quiet.weaken (.single step))
  | note _ record ih => exact ih.note record
  | print _ row ih => exact ih.print row
  | write _ hosted drawn hw ih => exact ih.write hosted drawn hw

/-! ## What stays, and what is added -/

theorem writePage_frame (h : s.writePage url page = .ok s') :
    s'.settings = s.settings ∧ s'.store = s.store ∧ s'.registry = s.registry ∧ s'.root = s.root ∧
      s'.made = s.made ++ [(url, page)] := by
  rcases writePage_cases h with ⟨files, _, rfl⟩ | rfl <;> exact ⟨rfl, rfl, rfl, rfl, rfl⟩

theorem Emits.frame (h : Emits sidebar ok s ps s') :
    s'.settings = s.settings ∧ s'.store = s.store ∧ s'.root = s.root := by
  induction h with
  | nil => exact ⟨rfl, rfl, rfl⟩
  | link _ _ ih => exact ih
  | note _ _ ih => exact ih
  | print _ _ ih => exact ih
  | write _ _ _ hw ih =>
    obtain ⟨hsettings, hstore, _, hroot, _⟩ := writePage_frame hw
    rw [hsettings, hstore, hroot]
    exact ih

theorem Emits.store_eq (h : Emits sidebar ok s ps s') : s'.store = s.store := h.frame.2.1

theorem Emits.made_eq (h : Emits sidebar ok s ps s') : s'.made = s.made ++ ps := by
  induction h with
  | nil => exact (List.append_nil _).symm
  | link _ _ ih => exact ih
  | note _ _ ih => exact ih
  | print _ _ ih => exact ih
  | write _ _ _ hw ih => rw [(writePage_frame hw).2.2.2.2, ih, List.append_assoc]

theorem Emits.reaches (h : Emits sidebar ok s ps s') : Reaches ok s.registry s'.registry := by
  induction h with
  | nil => exact .refl
  | link _ step ih => exact ih.tail step
  | note _ _ ih => exact ih
  | print _ _ ih => exact ih
  | write _ _ _ hw ih =>
    rw [(writePage_frame hw).2.2.1]
    exact ih

theorem Emits.hosted (h : Emits sidebar ok s ps s') : ∀ p ∈ ps, Hosted s'.registry p.1 := by
  induction h with
  | nil => exact fun _ hp => absurd hp List.not_mem_nil
  | link _ step ih => exact fun p hp => (ih p hp).mono (.single step)
  | note _ _ ih => exact ih
  | print _ _ ih => exact ih
  | write _ hosted _ hw ih =>
    intro p hp
    rw [(writePage_frame hw).2.2.1]
    rcases List.mem_append.mp hp with hp | hp
    · exact ih p hp
    · rw [List.mem_singleton.mp hp]
      exact hosted

end

/-! ## Pages that can still be read -/

/-- What was written are the files of the pages that were made, all of them if none failed; and
pages that have files of their own can still be read. -/
structure Recorded (s : Site) : Prop where
  names : ∀ p ∈ s.made, IsFileName (Address.page p.1)
  written_sublist : s.written.Sublist (s.made.map fun p => s.target p.1)
  written_eq : s.failed = [] → s.written = s.made.map fun p => s.target p.1
  kept : (s.made.map fun p => Address.page p.1).Nodup → ∀ p ∈ s.made, s.target p.1 ∈ s.written →
    s.files.read (s.target p.1) = .ok (Page.bytesOf p.2.markup)

/-- The file of a hosted address holds no character that could lead elsewhere. -/
theorem unreserved_page {r : Registry} (h : Sound r) {url : String} (hu : Hosted r url) :
    ∀ c ∈ PageName.reserved, c ∉ (Address.page url).toList := by
  intro c hreserved hc
  obtain ⟨stems, ha⟩ := h.assigned
  obtain ⟨stem, hm, he⟩ := ha.get?_iff.mp (h.get?_page hu)
  have hextension : (PageName.reserved.all fun c => !Registry.extension.toList.contains c) = true :=
    by decide
  rw [he, String.toList_append, List.mem_append] at hc
  rcases hc with hc | hc
  · exact (ha.isStem _ hm).unreserved c hc hreserved
  · have hfree := List.all_eq_true.mp hextension c hreserved
    simp [hc] at hfree

theorem isFileName_page {r : Registry} (h : Sound r) {url : String} (hu : Hosted r url) :
    IsFileName (Address.page url) := by
  obtain ⟨stems, ha⟩ := h.assigned
  obtain ⟨stem, hm, he⟩ := ha.get?_iff.mp (h.get?_page hu)
  have hlong : 6 ≤ (Address.page url).toList.length := by
    have hstem : 0 < stem.toList.length := List.length_pos_iff.mpr (ha.isStem _ hm).nonempty
    have hext : Registry.extension.toList.length = 5 := by decide
    rw [he, String.toList_append, List.length_append]
    omega
  refine ⟨unreserved_page h hu '/' (by decide), ?_, ?_, ?_⟩
  all_goals
    intro e
    rw [e] at hlong
    revert hlong
    decide

section
variable {sidebar : Html} {s s' : Site} {ps : List (String × Html)} {url : String} {page : Html}

/-- The step lemma: writing one more page. -/
theorem Recorded.write (h : Recorded s) (hn : IsFileName (Address.page url))
    (hw : s.writePage url page = .ok s') : Recorded s' := by
  have hpage : ∀ p ∈ s.made, s.target p.1 = s.target url → Address.page p.1 = Address.page url :=
    fun p hp he => Path.append_ofString_injective (h.names p hp) hn he
  have hnames : ∀ p ∈ s.made ++ [(url, page)], IsFileName (Address.page p.1) := by
    intro p hp
    rcases List.mem_append.mp hp with hp | hp
    · exact h.names p hp
    · rw [List.mem_singleton.mp hp]
      exact hn
  -- The page is new among those made.
  have hnew : ((s.made ++ [(url, page)]).map fun p => Address.page p.1).Nodup →
      (s.made.map fun p => Address.page p.1).Nodup ∧
        ∀ p ∈ s.made, Address.page p.1 ≠ Address.page url := by
    intro hd
    rw [List.map_append, List.nodup_append] at hd
    refine ⟨hd.1, fun p hp => ?_⟩
    exact hd.2.2 _ (List.mem_map_of_mem hp) _ (List.mem_singleton.mpr rfl)
  rcases writePage_cases hw with ⟨files, hput, rfl⟩ | rfl
  · refine ⟨hnames, ?_, ?_, ?_⟩
    · dsimp only
      rw [List.map_append]
      exact h.written_sublist.append (List.Sublist.refl _)
    · intro hf
      dsimp only at hf ⊢
      rw [List.map_append, h.written_eq hf]
      rfl
    · intro hd p hp hm
      obtain ⟨hold, hne⟩ := hnew hd
      rcases List.mem_append.mp hp with hp | hp
      · rcases List.mem_append.mp hm with hm | hm
        · exact FileTree.read_put_beside hn (h.names p hp) (hne p hp) hput (h.kept hold p hp hm)
        · exact absurd (hpage p hp (List.mem_singleton.mp hm)) (hne p hp)
      · rw [List.mem_singleton.mp hp]
        exact FileTree.read_put_self hput
  · refine ⟨hnames, ?_, ?_, ?_⟩
    · dsimp only
      rw [List.map_append]
      exact h.written_sublist.trans (List.sublist_append_left _ _)
    · intro hf
      simp at hf
    · intro hd p hp hm
      obtain ⟨hold, hne⟩ := hnew hd
      rcases List.mem_append.mp hp with hp | hp
      · exact h.kept hold p hp hm
      · rw [List.mem_singleton.mp hp] at hm
        obtain ⟨q, hq, he⟩ := List.mem_map.mp (h.written_sublist.subset hm)
        exact absurd (hpage q hq he) (hne q hq)

theorem Emits.recorded (h : Emits sidebar Hosted s ps s') (hs : Sound s.registry) (hr : Recorded s) :
    Recorded s' := by
  induction h with
  | nil => exact hr
  | link _ _ ih => exact ⟨ih.names, ih.written_sublist, ih.written_eq, ih.kept⟩
  | note _ _ ih => exact ⟨ih.names, ih.written_sublist, ih.written_eq, ih.kept⟩
  | print _ _ ih => exact ⟨ih.names, ih.written_sublist, ih.written_eq, ih.kept⟩
  | write h hosted _ hw ih => exact ih.write (isFileName_page (h.reaches.sound hs) hosted) hw

end

end DocSite.Site
