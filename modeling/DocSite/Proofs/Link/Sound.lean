import DocSite.Proofs.Link.Hosting

/-! Registries in which every address lies on a page that has a file, as all those of a run are. In
them each address belongs to one key, and different keys have different pages. -/
namespace DocSite.Registry
set_option autoImplicit false

/-! ## Sound registries -/

/-- The address lies on the page of some key. -/
def Hosted (r : Registry) (url : String) : Prop :=
  ∃ key file, r.files.get? key = some file ∧ Address.page url = Address.page file

structure Sound (r : Registry) : Prop where
  assigned : ∃ stems, Assigned r stems
  home : r.files.get? homeKey = some "index.html"
  globals : r.files.get? globalKey = some "global.html"
  hosted : ∀ l url, r.url? l = some url → Hosted r url
  tutorials : ∀ name file, r.tutorialFiles.get? name = some file →
    r.files.get? ("<tutorial>" ++ name) = some file
  urls_nodup : r.urls.keys.Nodup

theorem hosted_of_file {r : Registry} {key file : String} (h : r.files.get? key = some file) :
    Hosted r file := ⟨key, file, h, rfl⟩

theorem sound_initial : Sound initial where
  assigned := ⟨_, assigned_initial⟩
  home := initial_home
  globals := initial_global
  hosted l url h := by
    rw [url?, initial_urls, Table.get?_empty] at h
    cases h
  tutorials name file h := by
    rw [initial_tutorialFiles, Table.get?_empty] at h
    cases h
  urls_nodup := by
    rw [initial_urls]
    exact List.nodup_nil

section
variable {ok : Registry → String → Prop} {r r' : Registry}

theorem Hosted.mono {url : String} (h : Hosted r url) (hr : Reaches ok r r') : Hosted r' url := by
  obtain ⟨key, file, hk, hp⟩ := h
  exact ⟨key, file, hr.files_mono hk, hp⟩

theorem Sound.homeUrl (h : Sound r) : r.homeUrl = "index.html" := by
  rw [Registry.homeUrl, h.home]
  rfl

theorem Sound.globalUrl (h : Sound r) : r.globalUrl = "global.html" := by
  rw [Registry.globalUrl, h.globals]
  rfl

theorem Sound.page_file (h : Sound r) {key file : String} (hk : r.files.get? key = some file) :
    Address.page file = file := by
  obtain ⟨stems, ha⟩ := h.assigned
  exact ha.page_file hk

theorem Sound.key_eq (h : Sound r) {k₁ k₂ file : String} (h₁ : r.files.get? k₁ = some file)
    (h₂ : r.files.get? k₂ = some file) : k₁ = k₂ := by
  obtain ⟨stems, ha⟩ := h.assigned
  exact ha.files_injective h₁ h₂

theorem register_urls_nodup (h : r.urls.keys.Nodup) (longname url : String) :
    (r.register longname url).1.urls.keys.Nodup := by
  cases hl : r.urls.get? longname with
  | some kept => rwa [register_of_some hl]
  | none =>
    rw [register_of_none hl]
    exact Table.nodup_keys_insert h longname url

/-- The step lemma: a change that registers only addresses on pages with a file keeps a registry
sound. -/
theorem Step.sound (h : Step Hosted r r') (hs : Sound r) : Sound r' := by
  have hassigned : ∃ stems, Assigned r' stems := by
    obtain ⟨stems, ha⟩ := hs.assigned
    obtain ⟨more, hm⟩ := h.assigned ha
    exact ⟨_, hm⟩
  have hfiles : ∀ {k file}, r.files.get? k = some file → r'.files.get? k = some file := h.files_mono
  have hhosted : ∀ {url}, Hosted r url → Hosted r' url := fun hu => hu.mono (.single h)
  -- Addresses change when one is registered, tutorials when one is noted.
  refine ⟨hassigned, hfiles hs.home, hfiles hs.globals, ?_, ?_, ?_⟩
  · intro l url hl
    cases h with
    | allocate candidate key => exact hhosted (hs.hosted l url (by simpa [url?] using hl))
    | register allowed longname =>
      rcases register_get?_cases hl with hold | ⟨-, rfl⟩
      · exact hhosted (hs.hosted l url hold)
      · exact hhosted allowed
    | fragment => exact hhosted (hs.hosted l url (by simpa [url?] using hl))
    | noteTutorial => exact hhosted (hs.hosted l url hl)
  · intro name file hn
    cases h with
    | allocate candidate key => exact hfiles (hs.tutorials name file (by simpa using hn))
    | register allowed longname => exact hfiles (hs.tutorials name file (by simpa using hn))
    | fragment => exact hfiles (hs.tutorials name file (by simpa using hn))
    | noteTutorial named =>
      rw [Table.get?_insert] at hn
      split at hn
      · rename_i he
        rw [beq_iff_eq.mp he, ← Option.some.inj hn]
        exact named
      · exact hs.tutorials name file hn
  · cases h with
    | allocate => simpa using hs.urls_nodup
    | register allowed longname => exact register_urls_nodup hs.urls_nodup longname _
    | fragment => simpa using hs.urls_nodup
    | noteTutorial => exact hs.urls_nodup

theorem Reaches.sound (h : Reaches Hosted r r') (hs : Sound r) : Sound r' := by
  induction h with
  | refl => exact hs
  | tail _ step ih => exact step.sound ih

/-- Changes that register no address at all. -/
abbrev Quiet : Registry → Registry → Prop := Reaches fun _ _ => False

theorem Quiet.weaken (h : Quiet r r') : Reaches Hosted r r' := by
  refine Relation.ReflTransGen.mono (fun a b step => ?_) r r' h
  cases step with
  | allocate candidate key => exact .allocate a candidate key
  | register allowed => exact allowed.elim
  | fragment file longname candidate => exact .fragment a file longname candidate
  | noteTutorial named => exact .noteTutorial named

theorem Quiet.urls_eq (h : Quiet r r') : r'.urls = r.urls := by
  induction h with
  | refl => rfl
  | tail _ step ih =>
    rw [← ih]
    cases step with
    | allocate => exact allocate_urls ..
    | register allowed => exact allowed.elim
    | fragment => exact fragmentOf_urls ..
    | noteTutorial => rfl

end

/-! ## The operations of a run -/

section
variable {r : Registry}

theorem hosted_hostPage (h : Sound r) (host : Option String) :
    Hosted (r.hostPage host).2 (r.hostPage host).1 := by
  cases host with
  | none =>
    refine ⟨globalKey, _, ?_, rfl⟩
    rw [hostPage, h.globalUrl]
    exact h.globals
  | some host =>
    cases hu : r.url? host with
    | some url =>
      rw [hostPage, pageOf_of_some hu]
      exact h.hosted host url hu
    | none => exact hosted_of_file (pageOf_file hu)

theorem hosted_urlFor (h : Sound r) (d : Doclet) : Hosted (r.urlFor d).2 (r.urlFor d).1 := by
  obtain ⟨key, file, hk, hp⟩ := hosted_hostPage h d.host?
  refine ⟨key, file, ?_, ?_⟩
  · rwa [urlFor_files]
  · rwa [page_urlFor]

theorem hosting_urlFor (r : Registry) (d : Doclet) : Reaches Hosted r (r.urlFor d).2 :=
  reaches_urlFor (fun _ _ _ => hosted_of_file) r d

theorem hosting_link (h : Sound r) (d : Doclet) : Reaches Hosted r (r.link d).2.1 :=
  (hosting_urlFor r d).tail (.register (hosted_urlFor h d) d.linkName)

theorem Sound.addTutorials (h : Sound r) (ts : List Tutorial) : Sound (r.addTutorials ts) := by
  obtain ⟨titles, ht⟩ := addTutorials_frame r ts
  rw [ht]
  obtain ⟨stems, ha⟩ := h.assigned
  exact ⟨⟨stems, ha.congr rfl rfl⟩, h.home, h.globals, h.hosted, h.tutorials, h.urls_nodup⟩

/-- The file of a tutorial is that of its key. -/
theorem tutorialUrl_file (h : Sound r) (name : String) :
    (r.tutorialUrl name).2.files.get? ("<tutorial>" ++ name) = some (r.tutorialUrl name).1 := by
  unfold tutorialUrl
  split
  · rename_i file hf
    exact h.tutorials name file hf
  · exact allocate_get?_self r _ _

end

/-! ## The keys of pages -/

/-- The key whose page an address lies on. -/
def keyOf (r : Registry) (url : String) : String :=
  ((r.files.entries.find? fun p => p.2 == Address.page url).map fun p => p.1).getD ""

section
variable {ok : Registry → String → Prop} {r r' : Registry}

theorem keyOf_congr {u v : String} (h : Address.page u = Address.page v) :
    r.keyOf u = r.keyOf v := by
  rw [keyOf, keyOf, h]

theorem Sound.keyOf_eq (h : Sound r) {key url : String}
    (hk : r.files.get? key = some (Address.page url)) : r.keyOf url = key := by
  have hmem := Table.mem_of_get?_eq_some hk
  cases hf : r.files.entries.find? fun p => p.2 == Address.page url with
  | none =>
    have hne := List.find?_eq_none.mp hf _ hmem
    simp at hne
  | some p =>
    have hp : p.2 = Address.page url := by simpa using List.find?_some hf
    have hkeys : r.files.keys.Nodup := by
      obtain ⟨stems, ha⟩ := h.assigned
      rw [ha.keys_files]
      exact ha.keys_nodup
    have hfile : r.files.get? p.1 = some (Address.page url) :=
      hp ▸ Table.get?_eq_some_of_mem hkeys (List.mem_of_find?_eq_some hf)
    rw [keyOf, hf]
    exact h.key_eq hfile hk

theorem Sound.get?_page (h : Sound r) {url : String} (hu : Hosted r url) :
    r.files.get? (r.keyOf url) = some (Address.page url) := by
  obtain ⟨key, file, hk, hp⟩ := hu
  rw [h.page_file hk] at hp
  rw [← hp] at hk
  rw [h.keyOf_eq hk]
  exact hk

/-- The key of an address stays. -/
theorem Sound.keyOf_mono (h : Sound r) (h' : Sound r') (hr : Reaches ok r r') {url : String}
    (hu : Hosted r url) : r'.keyOf url = r.keyOf url :=
  h'.keyOf_eq (hr.files_mono (h.get?_page hu))

/-- Addresses lie on one page exactly where they belong to one key. -/
theorem Sound.keyOf_eq_iff (h : Sound r) {u v : String} (hu : Hosted r u) (hv : Hosted r v) :
    r.keyOf u = r.keyOf v ↔ Address.page u = Address.page v := by
  constructor
  · intro he
    have hk := h.get?_page hu
    rw [he, h.get?_page hv] at hk
    exact (Option.some.inj hk).symm
  · exact keyOf_congr

end

end DocSite.Registry
