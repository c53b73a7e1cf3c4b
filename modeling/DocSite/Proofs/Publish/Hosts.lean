import DocSite.Proofs.Publish.Linked

/-! Where symbols lie. While doclets are prepared every address that is registered lies on the page
of a host of some doclet, or on the page of globals; only listings are registered later. -/
namespace DocSite
open Registry (Hosted Sound Reaches Quiet Later)
set_option autoImplicit false

namespace Registry

/-- The address lies on the page of a host, which is that of globals where there is none. -/
def LiesOn (r : Registry) (url : String) : Option String → Prop
  | none => Address.page url = Address.page r.globalUrl
  | some host => ∃ u, r.url? host = some u ∧ Address.page url = Address.page u

/-- Every address lies on the page of one of the hosts. -/
def Explained (hosts : List (Option String)) (r : Registry) : Prop :=
  ∀ l url, r.url? l = some url → ∃ host ∈ hosts, r.LiesOn url host

section
variable {hosts : List (Option String)} {r r' : Registry}

theorem LiesOn.later {url : String} {host : Option String} (h : r.LiesOn url host) (hs : Sound r)
    (hs' : Sound r') (hr : Later r r') : r'.LiesOn url host := by
  cases host with
  | none =>
    rw [LiesOn, hs.globalUrl] at h
    rwa [LiesOn, hs'.globalUrl]
  | some host =>
    obtain ⟨u, hu, hp⟩ := h
    exact ⟨u, hr.urls host u hu, hp⟩

/-- An address that is computed lies on the page of its host. -/
theorem liesOn_urlFor (hs : Sound r) (d : Doclet) :
    (r.urlFor d).2.LiesOn (r.urlFor d).1 d.host? := by
  have hs' := (hosting_urlFor r d).sound hs
  cases hhost : d.host? with
  | none => rw [LiesOn, page_urlFor, hhost, hostPage, hs.globalUrl, hs'.globalUrl]
  | some host =>
    refine ⟨(r.pageOf host).1, ?_, ?_⟩
    · rw [url?, urlFor_urls, hhost]
      exact pageOf_self r host
    · rw [page_urlFor, hhost, hostPage]

theorem Explained.urlFor (h : Explained hosts r) (hs : Sound r) {d : Doclet}
    (hd : d.host? ∈ hosts) : Explained hosts (r.urlFor d).2 := by
  have hs' := (hosting_urlFor r d).sound hs
  intro l url hl
  by_cases hhost : d.host? = some l
  · exact ⟨d.host?, hd, hhost ▸ ⟨url, hl, rfl⟩⟩
  · rw [urlFor_url?_of_ne r d hhost] at hl
    obtain ⟨host, hm, hon⟩ := h l url hl
    exact ⟨host, hm, hon.later hs hs' (hosting_urlFor r d).later⟩

theorem Explained.link (h : Explained hosts r) (hs : Sound r) {d : Doclet}
    (hd : d.host? ∈ hosts) : Explained hosts (r.link d).2.1 := by
  have hs₁ := (hosting_urlFor r d).sound hs
  have hs₂ := (hosting_link hs d).sound hs
  have hstep : Later (r.urlFor d).2 (r.link d).2.1 :=
    Reaches.later (.single (.register (hosted_urlFor hs d) d.linkName))
  have hurl := liesOn_urlFor hs d
  intro l url hl
  rcases register_get?_cases hl with hold | ⟨-, rfl⟩
  · obtain ⟨host, hm, hon⟩ := h.urlFor hs hd l url hold
    exact ⟨host, hm, hon.later hs₁ hs₂ hstep⟩
  · exact ⟨d.host?, hd, hurl.later hs₁ hs₂ hstep⟩

theorem explained_initial : Explained hosts initial := by
  intro l url hl
  rw [url?, initial_urls, Table.get?_empty] at hl
  cases hl

end

end Registry

namespace Site
open Registry (Explained)

section
variable {hosts : List (Option String)} {r : Registry} {s s' : Site}

/-! ## Preparing doclets -/

theorem explained_start (settings : Settings) (store : Store) (files : FileTree) (out : Path) :
    Explained (hostsOf settings store files out) (start settings store files out).registry := by
  have hkeeps : ∀ d : Doclet, d.host? ∈ hostsOf settings store files out →
      ∀ r, Explained (hostsOf settings store files out) r ∧ Sound r →
        Explained (hostsOf settings store files out) (r.urlFor d).2 ∧ Sound (r.urlFor d).2 :=
    fun d hd r h => ⟨h.1.urlFor h.2 hd, (Registry.hosting_urlFor r d).sound h.2⟩
  refine (keeps_normalizeAll (fun d hd => hkeeps d ?_)
    ⟨Registry.explained_initial, Registry.sound_initial⟩).1
  rw [hostsOf, start, normalize]
  dsimp only
  rw [map_host?_normalizeAll]
  exact List.mem_map_of_mem hd

theorem explained_prepare (h : Explained hosts s.registry) (hs : Sound s.registry)
    (hd : ∀ d ∈ s.store.doclets, d.host? ∈ hosts) {sources : List Source.File}
    (hp : s.prepare sources = .ok s') : Explained hosts s'.registry := by
  have hkeeps : ∀ d ∈ s.store.doclets, ∀ r, Explained hosts r ∧ Sound r →
      Explained hosts (r.link d).2.1 ∧ Sound (r.link d).2.1 := fun d hm r hr =>
    ⟨hr.1.link hr.2 (hd d hm), (Registry.hosting_link hr.2 d).sound hr.2⟩
  unfold Site.prepare at hp
  obtain ⟨s₁, h₁, hp⟩ := Fault.bind_eq_ok_iff.mp hp
  cases hp
  obtain ⟨⟨files, log, _, rfl⟩, _⟩ := onlyFiles_copyFiles h₁
  exact (keeps_registerAll (s := { s with files := files, log := log }) hkeeps ⟨h, hs⟩ sources).1

end

/-! ## The whole run -/

/-- Every symbol lies on the page of a host, on the page of globals or on a page that was made. -/
theorem publish_explained {settings : Settings} {store : Store} {tutorial : Tutorial}
    {readme : Option String} {files : FileTree} {out : Path} {around : Surroundings} {s : Site}
    (h : publish settings store tutorial readme files out around = .ok s) :
    ∀ l url, s.registry.url? l = some url →
      (∃ host ∈ hostsOf settings store files out, s.registry.LiesOn url host) ∨
        ∃ p ∈ s.made, p.1 = url := by
  obtain ⟨prepared, sidebar, r, listed, stages⟩ := publish_stages h
  have hopened := fresh_opened settings store files out
  have hstart : Explained (hostsOf settings store files out)
      (opened settings store files out).registry := explained_start settings store files out
  have hprepared : Explained (hostsOf settings store files out) prepared.registry :=
    explained_prepare hstart hopened.sound (fun d hd => List.mem_map_of_mem hd) stages.prepare
  intro l url hurl
  rcases stages.urls l url hurl with hold | hlisted
  · left
    obtain ⟨titles, ht⟩ := Registry.addTutorials_frame prepared.registry tutorial.children
    rw [Registry.url?, stages.quiet.urls_eq, ht] at hold
    obtain ⟨host, hm, hon⟩ := hprepared l url hold
    exact ⟨host, hm, hon.later stages.fresh.sound stages.sound stages.later⟩
  · exact .inr hlisted

end Site

end DocSite
