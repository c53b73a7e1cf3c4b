import DocSite.Proofs.Link.Leads
import DocSite.Proofs.Publish.Pages
import DocSite.Proofs.Publish.Setup
import DocSite.Proofs.Tutorial.Names

/-! Which pages each part of a run writes, by the keys that their files belong to: listings by the
titles of their sources, the reserved pages by their own keys, containers by the keys of the pages
that their addresses lie on, tutorials by their names. -/
namespace DocSite
open Registry (Hosted Sound Reaches Quiet)
set_option autoImplicit false

namespace Site

section
variable {ok : Registry → String → Prop} {s s' : Site} {sidebar : Html}

theorem resolveTags_eq {page page' : Html} (h : s.resolveTags page = .ok (page', s')) :
    ∃ r, Quiet s.registry r ∧ s.registry.resolveTags page = (.ok page', r) ∧
      s' = { s with registry := r } := by
  have hq := s.registry.quiet_resolveTags page
  unfold resolveTags at h
  split at h
  · rename_i heq
    rw [heq] at hq
    cases h
    exact ⟨_, hq, heq, rfl⟩
  · cases h

/-! ## Pages of the user's templates -/

theorem quiet_askTutorials (r : Registry) (names : List String) :
    Quiet r (askTutorials r names) := by
  induction names generalizing r with
  | nil => exact .refl
  | cons name rest ih => exact (Registry.reaches_tutorialLink r name none).trans (ih _)

theorem draw_eq {design : Page.Design} {v : Page.Variables} {page : Html}
    (h : s.draw design v = .ok (page, s')) :
    ∃ markup r, page = .raw markup ∧ Quiet s.registry r ∧ s' = { s with registry := r } := by
  unfold draw at h
  split at h
  · cases h
    exact ⟨_, _, rfl, quiet_askTutorials _ _, rfl⟩
  · cases h

/-- What a page of any look does to a run, from what its frame does. -/
theorem pageOf_eq {form : Page.Form} {v : Page.Variables} {page content : Html} {r : Registry}
    (hr : Quiet s.registry r)
    (h : s.pageOf form v (content, { s with registry := r }) = .ok (page, s')) :
    ∃ r', Quiet s.registry r' ∧ s' = { s with registry := r' } := by
  obtain ⟨look, -, h⟩ := Fault.bind_eq_ok_iff.mp h
  cases look with
  | drawn =>
    obtain ⟨_, r', -, hq, rfl⟩ := draw_eq h
    exact ⟨r', hq, rfl⟩
  | fixed text =>
    cases h
    exact ⟨_, .refl, rfl⟩
  | framed =>
    cases h
    exact ⟨r, hr, rfl⟩

theorem drawn_pageOf (hs : Sound s.registry) {form : Page.Form} {v : Page.Variables}
    {page content : Html} {r : Registry} (hr : Quiet s.registry r)
    (framed : Drawn sidebar s.settings s.store r content)
    (h : s.pageOf form v (content, { s with registry := r }) = .ok (page, s')) :
    ∃ r', Quiet s.registry r' ∧ s' = { s with registry := r' } ∧
      Drawn sidebar s.settings s.store r' page := by
  obtain ⟨look, hl, h⟩ := Fault.bind_eq_ok_iff.mp h
  cases look with
  | drawn =>
    obtain ⟨markup, r', rfl, hq, rfl⟩ := draw_eq h
    exact ⟨r', hq, rfl, .own (hq.weaken.sound hs) markup⟩
  | fixed text =>
    cases h
    exact ⟨_, .refl, rfl, .fixed hs hl⟩
  | framed =>
    cases h
    exact ⟨r, hr, rfl, framed⟩

/-! ## Pages of topics -/

theorem topicPage_eq {pageType title : String} {topics : List Page.Topic} {page : Html}
    (h : s.topicPage sidebar pageType title topics = .ok (page, s')) :
    ∃ r, Quiet s.registry r ∧ s' = { s with registry := r } :=
  pageOf_eq .refl h

theorem drawn_topicPage (hs : Sound s.registry) {pageType title : String}
    {topics : List Page.Topic} {page : Html}
    (about : ∀ d, .symbol d ∈ topics → d ∈ s.store.doclets)
    (h : s.topicPage sidebar pageType title topics = .ok (page, s')) :
    ∃ r, Quiet s.registry r ∧ s' = { s with registry := r } ∧
      Drawn sidebar s.settings s.store r page :=
  drawn_pageOf hs .refl (.topics hs rfl rfl about) h

theorem writeTopics_eq {pageType title : String} {topics : List Page.Topic} {url : String}
    (h : writeTopics sidebar s pageType title topics url = .ok s') :
    ∃ content page r₁ r, s.topicPage sidebar pageType title topics =
        .ok (content, { s with registry := r₁ }) ∧
      Quiet s.registry r₁ ∧ r₁.resolveTags content = (.ok page, r) ∧ Quiet r₁ r ∧
      { s with registry := r }.writePage url page = .ok s' := by
  unfold writeTopics at h
  obtain ⟨⟨content, s₁⟩, hc, h⟩ := Fault.bind_eq_ok_iff.mp h
  obtain ⟨⟨page, s₂⟩, ht, h⟩ := Fault.bind_eq_ok_iff.mp h
  obtain ⟨r₁, hq₁, rfl⟩ := topicPage_eq hc
  obtain ⟨r, hq, hr, rfl⟩ := resolveTags_eq ht
  exact ⟨content, page, r₁, r, hc, hq₁, hr, hq, h⟩

theorem emits_writeTopics (hs : Sound s.registry) {pageType title : String}
    {topics : List Page.Topic} (about : ∀ d, .symbol d ∈ topics → d ∈ s.store.doclets)
    {url : String} (hosted : Hosted s.registry url)
    (h : writeTopics sidebar s pageType title topics url = .ok s') :
    ∃ page, Emits sidebar (fun _ _ => False) s [(url, page)] s' := by
  obtain ⟨content, page, r₁, r, hc, -, hr, hq, hw⟩ := writeTopics_eq h
  obtain ⟨r₁', hq₁, he, drawn⟩ := drawn_topicPage hs about hc
  cases he
  have hquiet := hq₁.trans hq
  exact ⟨page, (Emits.nil.links hquiet).write (hosted.mono hquiet) (drawn.resolved hr) hw⟩

end

/-! ## The keys of pages -/

/-- The keys whose files pages are written to. -/
def keysOf (r : Registry) (ps : List (String × Html)) : List String := ps.map fun p => r.keyOf p.1

@[simp] theorem keysOf_append (r : Registry) (ps qs : List (String × Html)) :
    keysOf r (ps ++ qs) = keysOf r ps ++ keysOf r qs := List.map_append

section
variable {s s' : Site} {sidebar : Html} {ps : List (String × Html)}

theorem Emits.keysOf_mono (h : Emits sidebar Hosted s ps s') (hs : Sound s.registry) {r : Registry}
    (hr : Reaches Hosted s'.registry r) : keysOf r ps = keysOf s'.registry ps := by
  have hs' := h.reaches.sound hs
  exact List.map_congr_left fun p hp => hs'.keyOf_mono (hr.sound hs') hr (h.hosted p hp)

/-! ## Listings -/

theorem emits_register {longname url : String} (hosted : Hosted s.registry url) :
    Emits sidebar Hosted s [] (s.register longname url) := by
  have step := Registry.Step.register hosted longname
  unfold register
  dsimp only
  split
  · exact .link .nil step
  · exact .note (.link .nil step) _

theorem drawn_listingPage (hs : Sound s.registry) {title code : String} {page : Html}
    (h : s.listingPage sidebar title code = .ok (page, s')) :
    ∃ r, Quiet s.registry r ∧ s' = { s with registry := r } ∧
      Drawn sidebar s.settings s.store r page :=
  drawn_pageOf hs .refl (.listing hs title _) h

theorem addListing_url? (s : Site) (title : String) {l u : String}
    (h : (s.addListing title).2.registry.url? l = some u) :
    s.registry.url? l = some u ∨ u = (s.addListing title).1 := by
  rw [addListing] at h
  dsimp only at h
  rw [register_registry] at h
  rcases Registry.register_get?_cases h with hold | ⟨-, hnew⟩
  · rw [Registry.url?, Registry.allocate_urls] at hold
    exact .inl hold
  · exact .inr hnew

theorem addListing_file (s : Site) (title : String) :
    (s.addListing title).2.registry.files.get? ("<source>" ++ title) =
      some (s.addListing title).1 := by
  rw [addListing]
  dsimp only
  rw [register_registry, Registry.register_files]
  exact Registry.allocate_get?_self s.registry title ("<source>" ++ title)

theorem emits_addListing (s : Site) (title : String) :
    Emits sidebar Hosted s [] (s.addListing title).2 :=
  (Emits.nil.link (.allocate _ title ("<source>" ++ title))).trans
    (emits_register (Registry.hosted_of_file (Registry.allocate_get?_self ..)))

/-- A listing is written to the file of its title, unless the source cannot be read. No other
address is registered. -/
theorem emits_writeListing (hs : Sound s.registry) {file : Source.File}
    (h : writeListing sidebar s file = .ok s') :
    Emits sidebar Hosted s [] s' ∧ s'.registry = s.registry ∨
      ∃ url page, Emits sidebar Hosted s [(url, page)] s' ∧
        s'.registry.files.get? ("<source>" ++ file.title) = some url ∧
        ∀ l u, s'.registry.url? l = some u → s.registry.url? l = some u ∨ u = url := by
  unfold writeListing at h
  obtain ⟨read, hread, h⟩ := Fault.bind_eq_ok_iff.mp h
  cases read with
  | error reason =>
    cases h
    exact .inl ⟨.note .nil _, rfl⟩
  | ok code =>
    obtain ⟨⟨page, s₁⟩, hp, hw⟩ := Fault.bind_eq_ok_iff.mp h
    have hadd : Emits sidebar Hosted s [] (s.addListing file.title).2 := emits_addListing s _
    obtain ⟨r, hq, rfl, drawn⟩ := drawn_listingPage (hadd.reaches.sound hs) hp
    have hkeep := hq.files_mono (addListing_file s file.title)
    have hregistry := (writePage_frame hw).2.2.1
    refine .inr ⟨_, page, (hadd.links hq.weaken).write (Registry.hosted_of_file hkeep) drawn hw, ?_,
      ?_⟩
    · rw [hregistry]
      exact hkeep
    · intro l u hl
      rw [hregistry, Registry.url?, hq.urls_eq] at hl
      exact addListing_url? s file.title hl

theorem emits_listings (hs : Sound s.registry) {files : List Source.File}
    (h : files.foldlM (writeListing sidebar) s = .ok s') :
    ∃ listed ps, Emits sidebar Hosted s ps s' ∧ List.Sublist listed (files.map Source.File.title) ∧
      keysOf s'.registry ps = listed.map ("<source>" ++ ·) ∧
      ∀ l u, s'.registry.url? l = some u → s.registry.url? l = some u ∨ ∃ p ∈ ps, p.1 = u := by
  induction files generalizing s with
  | nil =>
    cases h
    exact ⟨[], [], .nil, .slnil, rfl, fun _ _ => .inl⟩
  | cons file rest ih =>
    rw [List.foldlM_cons] at h
    obtain ⟨s₁, h₁, h⟩ := Fault.bind_eq_ok_iff.mp h
    rcases emits_writeListing hs h₁ with ⟨he, hsame⟩ | ⟨url, page, he, hkey, hurls⟩
    · obtain ⟨listed, ps, hps, hsub, hkeys, hurls⟩ := ih (he.reaches.sound hs) h
      rw [hsame] at hurls
      exact ⟨listed, ps, he.trans hps, hsub.cons _, hkeys, hurls⟩
    · have hs₁ := he.reaches.sound hs
      obtain ⟨listed, ps, hps, hsub, hkeys, hlater⟩ := ih hs₁ h
      refine ⟨file.title :: listed, (url, page) :: ps, he.trans hps, hsub.cons_cons _, ?_, ?_⟩
      · have hurl : Address.page url = url := hs₁.page_file hkey
        have hfirst : s'.registry.keyOf url = "<source>" ++ file.title := by
          refine (hps.reaches.sound hs₁).keyOf_eq ?_
          rw [hurl]
          exact hps.reaches.files_mono hkey
        rw [keysOf, List.map_cons, List.map_cons]
        exact congrArg₂ List.cons hfirst hkeys
      · intro l u hl
        rcases hlater l u hl with hl | ⟨p, hp, he⟩
        · rcases hurls l u hl with hl | rfl
          · exact .inl hl
          · exact .inr ⟨_, List.mem_cons_self .., rfl⟩
        · exact .inr ⟨p, List.mem_cons_of_mem _ hp, he⟩

theorem emits_writeListings (hs : Sound s.registry) {sources : List Source.File}
    (h : writeListings sidebar sources s = .ok s') :
    ∃ listed ps, Emits sidebar Hosted s ps s' ∧
      List.Sublist listed (sources.map Source.File.title) ∧
      keysOf s'.registry ps = listed.map ("<source>" ++ ·) ∧
      ∀ l u, s'.registry.url? l = some u → s.registry.url? l = some u ∨ ∃ p ∈ ps, p.1 = u := by
  unfold writeListings at h
  split at h
  · have hprint : Sound (s.print ("Writing " ++ toString sources.length ++
        " source listings...")).registry := hs
    obtain ⟨listed, ps, he, hsub, hkeys, hurls⟩ := emits_listings hprint h
    exact ⟨listed, ps, (Emits.nil.print _).trans he, hsub, hkeys, hurls⟩
  · cases h
    exact ⟨[], [], .nil, List.nil_sublist _, rfl, fun _ _ => .inl⟩

/-! ## Reserved pages -/

theorem emits_writeGlobals (hs : Sound s.registry) (h : writeGlobals sidebar s = .ok s') :
    ∃ ps, Emits sidebar (fun _ _ => False) s ps s' ∧
      keysOf s'.registry ps = if s.store.globals.isEmpty then [] else [Registry.globalKey] := by
  unfold writeGlobals at h
  split at h
  · rename_i hempty
    cases h
    exact ⟨[], .nil, by rw [if_pos hempty]; rfl⟩
  · rename_i hempty
    have hglobal : s.registry.files.get? Registry.globalKey = some s.registry.globalUrl := by
      rw [hs.globalUrl, hs.globals]
    have about : ∀ d, .symbol d ∈ [Page.Topic.globals] → d ∈ s.store.doclets := by simp
    obtain ⟨page, he⟩ := emits_writeTopics hs about (Registry.hosted_of_file hglobal) h
    refine ⟨_, he, ?_⟩
    have hs' := he.weaken.reaches.sound hs
    have hkey := he.reaches.files_mono hglobal
    rw [if_neg hempty, keysOf, List.map_singleton, hs'.keyOf_eq (by rwa [hs'.page_file hkey])]

theorem emits_writeHome (hs : Sound s.registry) {readme : Option String}
    (h : writeHome sidebar readme s = .ok s') :
    ∃ ps, Emits sidebar (fun _ _ => False) s ps s' ∧ keysOf s'.registry ps = [Registry.homeKey] := by
  unfold writeHome at h
  have hhome : s.registry.files.get? Registry.homeKey = some s.registry.homeUrl := by
    rw [hs.homeUrl, hs.home]
  have about : ∀ d, .symbol d ∈ (s.store.ofKind "package").map Page.Topic.symbol ++
      .readme readme s.settings.mainPageTitle :: (s.store.ofKind "file").map .symbol →
      d ∈ s.store.doclets := by
    intro d hd
    have hkind : d ∈ s.store.ofKind "package" ∨ d ∈ s.store.ofKind "file" := by simpa using hd
    rcases hkind with hd | hd <;> exact List.mem_of_mem_filter hd
  obtain ⟨page, he⟩ := emits_writeTopics hs about (Registry.hosted_of_file hhome) h
  refine ⟨_, he, ?_⟩
  have hs' := he.weaken.reaches.sound hs
  have hkey := he.reaches.files_mono hhome
  rw [keysOf, List.map_singleton, hs'.keyOf_eq (by rwa [hs'.page_file hkey])]

/-! ## Containers -/

/-- Steps that each write pages for their own addresses write them one after another. -/
theorem emits_foldlM {α : Type} (store : Store) {f : Site → α → Except Fault Site}
    {urlsOf : α → List String} {xs : List α}
    (hf : ∀ x ∈ xs, ∀ s s' : Site, Sound s.registry → s.store = store →
      (∀ u ∈ urlsOf x, Hosted s.registry u) →
      f s x = .ok s' → ∃ ps, ps.map Prod.fst = urlsOf x ∧ Emits sidebar (fun _ _ => False) s ps s')
    (hs : Sound s.registry) (hstore : s.store = store)
    (hosted : ∀ x ∈ xs, ∀ u ∈ urlsOf x, Hosted s.registry u)
    (h : xs.foldlM f s = .ok s') :
    ∃ ps, ps.map Prod.fst = xs.flatMap urlsOf ∧ Emits sidebar (fun _ _ => False) s ps s' := by
  induction xs generalizing s with
  | nil =>
    cases h
    exact ⟨[], rfl, .nil⟩
  | cons x rest ih =>
    rw [List.foldlM_cons] at h
    obtain ⟨s₁, h₁, h⟩ := Fault.bind_eq_ok_iff.mp h
    obtain ⟨ps, hps, he⟩ :=
      hf x (List.mem_cons_self ..) s s₁ hs hstore (hosted x (List.mem_cons_self ..)) h₁
    have hrest : ∀ y ∈ rest, ∀ u ∈ urlsOf y, Hosted s₁.registry u := fun y hy u hu =>
      (hosted y (List.mem_cons_of_mem _ hy) u hu).mono he.reaches
    obtain ⟨qs, hqs, he'⟩ := ih (fun y hy => hf y (List.mem_cons_of_mem _ hy))
      (he.weaken.reaches.sound hs) (he.store_eq.trans hstore) hrest h
    exact ⟨ps ++ qs, by rw [List.map_append, hps, hqs, List.flatMap_cons], he.trans he'⟩

/-- Whether a store has doclets of a kind with a longname. -/
def documents (store : Store) (longname kind : String) : Bool :=
  store.doclets.any fun d => d.kind == kind && d.longname == some longname

/-- The kinds of pages that a longname gets. -/
def kindsOf (store : Store) (longname : String) : List String :=
  (pageTypes.map Prod.snd).filter (documents store longname)

theorem emits_writeContainer (hs : Sound s.registry) {longname url : String}
    {type : String × String}
    (hosted : documents s.store longname type.2 = true → Hosted s.registry url)
    (h : writeContainer sidebar longname url s type = .ok s') :
    ∃ ps, ps.map Prod.fst = (if documents s.store longname type.2 then [url] else []) ∧
      Emits sidebar (fun _ _ => False) s ps s' := by
  unfold writeContainer Store.find at h
  have hany : documents s.store longname type.2 = true ↔
      s.store.doclets.filter (fun d => d.kind == type.2 && d.longname == some longname) ≠ [] := by
    rw [documents, List.any_eq_true, Ne, List.filter_eq_nil_iff]
    simp
  split at h
  · rename_i hnil
    cases h
    rw [if_neg (by rw [hany]; exact fun hne => hne hnil)]
    exact ⟨[], rfl, .nil⟩
  · rename_i hcons
    have hdoc : documents s.store longname type.2 = true := by
      rw [hany, hcons]
      exact List.cons_ne_nil _ _
    rename_i d rest
    have about : ∀ e, .symbol e ∈ (d :: rest).map Page.Topic.symbol → e ∈ s.store.doclets := by
      intro e he
      have hm : e ∈ d :: rest := by simpa using he
      rw [← hcons] at hm
      exact List.mem_of_mem_filter hm
    obtain ⟨page, he⟩ := emits_writeTopics hs about (hosted hdoc) h
    rw [if_pos hdoc]
    exact ⟨_, rfl, he⟩

/-- The addresses that the pages of containers are written for. -/
def containerUrls (r : Registry) (store : Store) : List String :=
  r.urls.entries.flatMap fun entry => (kindsOf store entry.1).map fun _ => entry.2

theorem map_kindsOf (store : Store) (longname url : String) :
    (kindsOf store longname).map (fun _ => url) =
      pageTypes.flatMap fun type => if documents store longname type.2 then [url] else [] := by
  unfold kindsOf
  induction pageTypes with
  | nil => rfl
  | cons type rest ih =>
    rw [List.flatMap_cons, ← ih, List.map_cons, List.filter_cons]
    split <;> rfl

theorem emits_writeContainers (hs : Sound s.registry) (h : writeContainers sidebar s = .ok s') :
    ∃ ps, ps.map Prod.fst = containerUrls s.registry s.store ∧
      Emits sidebar (fun _ _ => False) s ps s' := by
  have hurls : ∀ entry ∈ s.registry.urls.entries, Hosted s.registry entry.2 := fun entry hm =>
    hs.hosted entry.1 entry.2 (Table.get?_eq_some_of_mem hs.urls_nodup hm)
  unfold writeContainers at h
  refine emits_foldlM s.store ?_ hs rfl ?_ h
  · intro entry _ s₁ s₂ hs₁ hstore hosted h₁
    rw [map_kindsOf] at hosted ⊢
    refine emits_foldlM s.store ?_ hs₁ hstore ?_ h₁
    · intro type _ s₃ s₄ hs₃ hstore₃ hosted₃ h₃
      rw [← hstore₃] at hosted₃ ⊢
      refine emits_writeContainer hs₃ (fun hdoc => hosted₃ entry.2 ?_) h₃
      rw [if_pos hdoc]
      exact List.mem_singleton.mpr rfl
    · intro type htype u hu
      exact hosted u (List.mem_flatMap.mpr ⟨type, htype, hu⟩)
  · intro entry hm u hu
    obtain ⟨_, _, rfl⟩ := List.mem_map.mp hu
    exact hurls entry hm

/-! ## Tutorials -/

theorem quiet_tutorialLinks (r : Registry) (ts : List Tutorial) :
    Quiet r (tutorialLinks r ts).2 := by
  induction ts generalizing r with
  | nil => exact .refl
  | cons t rest ih => exact (Registry.reaches_tutorialLink r t.name none).trans (ih _)

theorem drawn_tutorialPage (hs : Sound s.registry) {t : Tutorial} {page : Html}
    (h : s.tutorialPage sidebar t = .ok (page, s')) :
    ∃ r, Quiet s.registry r ∧ s' = { s with registry := r } ∧
      Drawn sidebar s.settings s.store r page :=
  drawn_pageOf hs (quiet_tutorialLinks s.registry t.children) (.tutorial hs _ t _) h

theorem emits_writeTutorial (hs : Sound s.registry) {t : Tutorial}
    (h : writeTutorial sidebar s t = .ok s') :
    ∃ url page, Emits sidebar (fun _ _ => False) s [(url, page)] s' ∧
      s'.registry.files.get? ("<tutorial>" ++ t.name) = some url := by
  unfold writeTutorial at h
  obtain ⟨⟨draft, s₁⟩, h₁, h⟩ := Fault.bind_eq_ok_iff.mp h
  obtain ⟨⟨page, s₂⟩, h₂, h⟩ := Fault.bind_eq_ok_iff.mp h
  obtain ⟨r₁, hq₁, rfl, drawn⟩ := drawn_tutorialPage hs h₁
  obtain ⟨r₂, hq₂, hr₂, rfl⟩ := resolveTags_eq h₂
  have hq₃ : Quiet r₂ (r₂.tutorialUrl t.name).2 := Registry.reaches_tutorialUrl r₂ t.name
  have hs₂ : Sound r₂ := (Quiet.weaken (hq₁.trans hq₂)).sound hs
  have hkey := Registry.tutorialUrl_file hs₂ t.name
  refine ⟨_, page, (Emits.nil.links ((hq₁.trans hq₂).trans hq₃)).write
    (Registry.hosted_of_file hkey) ((drawn.resolved hr₂).later hq₃) h, ?_⟩
  rw [(writePage_frame h).2.2.1]
  exact hkey

end

theorem emits_writeTutorials {sidebar : Html} :
    ∀ {ts : List Tutorial} {s s' : Site}, Sound s.registry → writeTutorials sidebar s ts = .ok s' →
      ∃ ps, Emits sidebar (fun _ _ => False) s ps s' ∧
        keysOf s'.registry ps = (Tutorial.namesOf ts).map ("<tutorial>" ++ ·)
  | [], _, _, _, h => by
    rw [writeTutorials] at h
    cases h
    exact ⟨[], .nil, by rw [Tutorial.namesOf]; rfl⟩
  | ⟨name, title, content, format, children⟩ :: rest, _, s', hs, h => by
    rw [writeTutorials] at h
    obtain ⟨s₁, h₁, h⟩ := Fault.bind_eq_ok_iff.mp h
    obtain ⟨s₂, h₂, h₃⟩ := Fault.bind_eq_ok_iff.mp h
    obtain ⟨url, page, he₁, hkey⟩ := emits_writeTutorial hs h₁
    have hs₁ := he₁.weaken.reaches.sound hs
    obtain ⟨ps, he₂, hps⟩ := emits_writeTutorials hs₁ h₂
    have hs₂ := he₂.weaken.reaches.sound hs₁
    obtain ⟨qs, he₃, hqs⟩ := emits_writeTutorials hs₂ h₃
    have hs₃ := he₃.weaken.reaches.sound hs₂
    refine ⟨[(url, page)] ++ ps ++ qs, (he₁.trans he₂).trans he₃, ?_⟩
    have hfirst : s'.registry.keyOf url = "<tutorial>" ++ name := by
      refine hs₃.keyOf_eq ?_
      rw [hs₁.page_file hkey]
      exact he₃.reaches.files_mono (he₂.reaches.files_mono hkey)
    have hmiddle := he₂.weaken.keysOf_mono hs₁ he₃.weaken.reaches
    have hone : keysOf s'.registry [(url, page)] = ["<tutorial>" ++ name] :=
      congrArg (fun key => [key]) hfirst
    rw [keysOf_append, keysOf_append, hone, hmiddle, hps, hqs, Tutorial.namesOf, List.map_cons,
      List.map_append]
    rfl

end Site
end DocSite
