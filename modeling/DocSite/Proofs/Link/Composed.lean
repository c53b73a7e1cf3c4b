import DocSite.Proofs.Link.Sound
import DocSite.Proofs.Link.Stable

/-! Where the number signs of addresses come from. An address with one was put together for some
doclet, from the address of its host and its own fragment, and either part may hold further signs:
the host may itself stand within a page, and names may hold signs of their own. -/
namespace DocSite.Registry
set_option autoImplicit false

/-- The address was put together for a doclet that stands within the page of its host. -/
structure Composed (r : Registry) (d : Doclet) (host fragment url : String) : Prop where
  within : d.standsWithin = true
  known : Knows r d host fragment
  nonempty : fragment ≠ ""
  joined : url = host ++ "#" ++ fragment

/-- The address of the longname was put together for one of the doclets: one of that longname, or
one on whose page some doclet stands. -/
def Origin (ds : List Doclet) (r : Registry) (l url : String) : Prop :=
  ∃ e ∈ ds, (e.linkName = l ∨ ∃ o ∈ ds, o.host? = some e.linkName) ∧
    ∃ host fragment, Composed r e host fragment url

/-- Every number sign in an address or a fragment comes from the doclets. -/
structure Traced (ds : List Doclet) (r : Registry) : Prop where
  sound : Sound r
  urls : ∀ l url, r.url? l = some url → '#' ∈ url.toList → Origin ds r l url
  fragments : ∀ l fragment, r.fragments.get? l = some fragment → '#' ∈ fragment.toList →
    ∃ e ∈ ds, e.standsWithin = true ∧ '#' ∈ e.fragmentName.toList

section
variable {r r' : Registry} {d : Doclet} {ds : List Doclet}

/-! ## Files and fragments -/

theorem Sound.mark_not_mem_file (h : Sound r) {key file : String}
    (hk : r.files.get? key = some file) : '#' ∉ file.toList := by
  rw [← h.page_file hk]
  exact Address.mark_not_mem_page file

theorem fragmentOf_get?_cases {page longname candidate l fragment : String}
    (h : (r.fragmentOf page longname candidate).2.fragments.get? l = some fragment) :
    r.fragments.get? l = some fragment ∨
      ∃ n, fragment = PageName.numbered (fragmentStem candidate) n := by
  cases hl : r.fragments.get? longname with
  | some other =>
    rw [fragmentOf_of_some hl] at h
    exact .inl h
  | none =>
    by_cases hc : candidate = ""
    · rw [hc, fragmentOf_of_empty hl] at h
      exact .inl h
    · rw [fragmentOf_of_none hl hc, Table.get?_insert] at h
      split at h
      · exact .inr ⟨_, (Option.some.inj h).symm⟩
      · exact .inl h

/-- A fragment that is not empty is remembered. -/
theorem fragmentOf_get?_of_ne_empty {page longname candidate : String}
    (h : (r.fragmentOf page longname candidate).1 ≠ "") :
    (r.fragmentOf page longname candidate).2.fragments.get? longname =
      some (r.fragmentOf page longname candidate).1 := by
  cases hl : r.fragments.get? longname with
  | some other => rw [fragmentOf_of_some hl, hl]
  | none =>
    refine fragmentOf_get?_self r page longname fun hc => h ?_
    rw [hc, fragmentOf_of_empty hl]

/-- Numbering puts no sign into a name. -/
theorem mark_mem_of_numbered {candidate : String} {n : ℕ}
    (h : '#' ∈ (PageName.numbered (fragmentStem candidate) n).toList) : '#' ∈ candidate.toList := by
  rcases PageName.mem_numbered h with h | h | h
  · rw [fragmentStem, String.toList_ofList] at h
    exact List.mem_of_mem_filter h
  · exact absurd h (by decide)
  · exact absurd h (by decide)

/-! ## Computing addresses -/

theorem Composed.mono {host fragment url : String} (h : Composed r d host fragment url)
    (hg : Grows r r') : Composed r' d host fragment url :=
  ⟨h.within, h.known.mono hg, h.nonempty, h.joined⟩

theorem Origin.mono {l url : String} (h : Origin ds r l url) (hg : Grows r r') :
    Origin ds r' l url := by
  obtain ⟨e, he, hname, host, fragment, hc⟩ := h
  exact ⟨e, he, hname, host, fragment, hc.mono hg⟩

/-- The address of a host that some doclet takes over has the origin it has for the host. -/
theorem Origin.inherited {host url : String} (h : Origin ds r host url) (hd : d ∈ ds)
    (hhost : d.host? = some host) (l : String) : Origin ds r l url := by
  obtain ⟨e, he, hname, hc⟩ := h
  refine ⟨e, he, .inr ?_, hc⟩
  rcases hname with rfl | hname
  · exact ⟨d, hd, hhost⟩
  · exact hname

/-- An address with a number sign was put together for the doclet, or is that of its host. -/
theorem composed_urlFor (hs : Sound r) (hm : '#' ∈ (r.urlFor d).1.toList) :
    (∃ host fragment, Composed (r.urlFor d).2 d host fragment (r.urlFor d).1) ∨
      ∃ host, d.host? = some host ∧ (r.urlFor d).2.url? host = some (r.urlFor d).1 := by
  have hhost : (r.urlFor d).2.hostUrl? d.host? = some (r.hostPage d.host?).1 :=
    hostUrl?_urlFor hs.globals d
  have hinherited : (r.urlFor d).1 = (r.hostPage d.host?).1 →
      ∃ host, d.host? = some host ∧ (r.urlFor d).2.url? host = some (r.urlFor d).1 := by
    intro he
    rw [← he] at hhost
    cases hd : d.host? with
    | some host =>
      rw [hd] at hhost
      exact ⟨host, rfl, hhost⟩
    | none =>
      -- The page of globals has no number sign.
      rw [hd] at hhost
      exact absurd hm (((hosting_urlFor r d).sound hs).mark_not_mem_file hhost)
  cases hw : d.standsWithin with
  | false =>
    rw [urlFor_alone hw] at hinherited ⊢
    exact .inr (hinherited rfl)
  | true =>
    have hurl := urlFor_within hw r
    by_cases hf : ((r.hostPage d.host?).2.fragmentOf (r.hostPage d.host?).1 d.linkName
        d.fragmentName).1 = ""
    · refine .inr (hinherited ?_)
      rw [hurl, hf]
      rfl
    · refine .inl ⟨(r.hostPage d.host?).1, _, hw, ⟨hhost, fun _ => ?_⟩, hf, ?_⟩
      · rw [hurl]
        exact fragmentOf_get?_of_ne_empty hf
      · rw [hurl, Address.withFragment, if_neg (by simpa using hf)]

theorem traced_initial : Traced ds initial where
  sound := sound_initial
  urls l url h := by
    rw [url?, initial_urls, Table.get?_empty] at h
    cases h
  fragments l fragment h := by
    rw [initial_fragments, Table.get?_empty] at h
    cases h

theorem Traced.urlFor (h : Traced ds r) (hd : d ∈ ds) : Traced ds (r.urlFor d).2 where
  sound := (hosting_urlFor r d).sound h.sound
  urls := by
    intro l url hl hm
    have hreached := hosting_urlFor r d
    cases hu : r.url? l with
    | some old =>
      rw [hreached.urls_mono hu] at hl
      cases hl
      exact (h.urls l url hu hm).mono hreached.grows
    | none =>
      -- Only the host gets an address, which is a file.
      have hhost : d.host? = some l := by
        by_contra hne
        rw [urlFor_url?_of_ne r d hne, hu] at hl
        cases hl
      obtain ⟨file, hfile, hurl⟩ := urlFor_host_of_none r d hhost hu
      rw [hurl] at hl
      cases hl
      exact absurd hm ((hreached.sound h.sound).mark_not_mem_file hfile)
  fragments := by
    intro l fragment hl hm
    have hids := (hostPage_ids r d.host?).1
    cases hw : d.standsWithin with
    | false =>
      rw [urlFor_alone hw, hids] at hl
      exact h.fragments l fragment hl hm
    | true =>
      rw [urlFor_within hw] at hl
      rcases fragmentOf_get?_cases hl with hold | ⟨n, rfl⟩
      · rw [hids] at hold
        exact h.fragments l fragment hold hm
      · exact ⟨d, hd, hw, mark_mem_of_numbered hm⟩

/-- The step lemma: linking a doclet traces its address to the doclet or to its host. -/
theorem Traced.link (h : Traced ds r) (hd : d ∈ ds) : Traced ds (r.link d).2.1 := by
  have hcomputed := h.urlFor hd
  have hgrows : Grows (r.urlFor d).2 (r.link d).2.1 :=
    (reaches_register _ d.linkName _).grows
  refine ⟨(hosting_link h.sound d).sound h.sound, ?_, ?_⟩
  · intro l url hl hm
    rcases register_get?_cases hl with hold | ⟨rfl, rfl⟩
    · exact (hcomputed.urls l url hold hm).mono hgrows
    · rcases composed_urlFor h.sound hm with ⟨host, fragment, hc⟩ | ⟨host, hhost, hurl⟩
      · exact ⟨d, hd, .inl rfl, host, fragment, hc.mono hgrows⟩
      · exact ((hcomputed.urls host _ hurl hm).inherited hd hhost _).mono hgrows
  · intro l fragment hl hm
    refine hcomputed.fragments l fragment ?_ hm
    rwa [Registry.link, register_fragments] at hl

end

end DocSite.Registry
