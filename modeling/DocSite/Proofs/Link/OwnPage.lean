import DocSite.Proofs.Link.Conflict

/-! Pages of containers. A container is published at the address of its longname, whoever gave it
that address. So it has a page of its own unless another doclet of the longname was linked first,
one that stands elsewhere, while the longname hosted nobody yet; then the container stands where
that doclet stands. -/
namespace DocSite.Registry
set_option autoImplicit false

/-- Some doclet of the longname is linked while the longname hosts nobody, not even this doclet. -/
def Bypassed (ds : List Doclet) (l : String) : Prop :=
  ∃ before e after, ds = before ++ e :: after ∧ e.linkName = l ∧ l ∉ hostsOf (before ++ [e])

/-- The address is the file of the longname, without a fragment and none of the reserved pages. -/
structure IsOwnPage (r : Registry) (l url : String) : Prop where
  file : r.files.get? l = some url
  plain : '#' ∉ url.toList
  notHome : url ≠ "index.html"
  notGlobals : url ≠ "global.html"

/-! ## One more doclet -/

section
variable {ds : List Doclet} {d : Doclet} {l : String}

theorem bypassed_concat : Bypassed (ds ++ [d]) l ↔
    Bypassed ds l ∨ d.linkName = l ∧ l ∉ hostsOf (ds ++ [d]) := by
  constructor
  · rintro ⟨before, e, after, hsplit, he, hl⟩
    rcases List.eq_nil_or_concat after with rfl | ⟨after, x, rfl⟩
    · obtain ⟨rfl, hed⟩ := List.append_inj' hsplit rfl
      obtain rfl : d = e := by simpa using hed
      exact .inr ⟨he, hl⟩
    · have hsplit : ds ++ [d] = (before ++ e :: after) ++ [x] := by simpa using hsplit
      obtain ⟨rfl, -⟩ := List.append_inj' hsplit rfl
      exact .inl ⟨before, e, after, rfl, he, hl⟩
  · rintro (⟨before, e, after, rfl, he, hl⟩ | ⟨he, hl⟩)
    · exact ⟨before, e, after ++ [d], by simp, he, hl⟩
    · exact ⟨ds, d, [], rfl, he, hl⟩

theorem linkAll_concat (r : Registry) (ds : List Doclet) (d : Doclet) :
    r.linkAll (ds ++ [d]) = ((r.linkAll ds).link d).2.1 := linkAll_append r ds [] d

theorem link_self (r : Registry) (d : Doclet) :
    (r.link d).2.1.url? d.linkName =
      some (((r.urlFor d).2.url? d.linkName).getD (r.urlFor d).1) := by
  rw [link]
  dsimp only
  rw [register_get?, if_pos rfl]

theorem pageOf_files_other {r : Registry} {host : String} (h : l ≠ host) :
    (r.pageOf host).2.files.get? l = r.files.get? l := by
  cases hu : r.url? host with
  | some url => rw [pageOf_of_some hu]
  | none =>
    rw [pageOf_of_none hu, register_files]
    cases hf : r.files.get? host with
    | some file => rw [allocate_of_some hf]
    | none => rw [allocate_of_none hf, Table.get?_insert, if_neg (by simpa using h)]

theorem link_files_other {r : Registry} (h : d.host? ≠ some l) :
    (r.link d).2.1.files.get? l = r.files.get? l := by
  rw [link_files, urlFor_files]
  cases hd : d.host? with
  | none => rfl
  | some host => exact pageOf_files_other fun e => h (e ▸ hd)

/-! ## The first to claim a longname -/

/-- A longname that hosts somebody has an address. -/
theorem url?_of_mem_hostsOf (h : l ∈ hostsOf ds) : ∃ url, (initial.linkAll ds).url? l = some url := by
  induction ds using List.reverseRecOn with
  | nil => cases h
  | append_singleton ds d ih =>
    rw [linkAll_concat]
    rcases mem_hostsOf_concat.mp h with h | h
    · obtain ⟨url, hu⟩ := ih h
      exact ⟨url, (reaches_link _ d).urls_mono hu⟩
    · have hhost : ((initial.linkAll ds).urlFor d).2.url? l =
          some ((initial.linkAll ds).hostPage (some l)).1 := by
        rw [url?, urlFor_urls, h]
        exact pageOf_self _ l
      exact ⟨_, (reaches_register _ d.linkName _).urls_mono hhost⟩

/-- Where nobody claims the longname from elsewhere, it has no address or that of its own file. -/
theorem hasOwnFile_of_not_bypassed (h : ¬ Bypassed ds l) :
    (initial.linkAll ds).url? l = none ∨ HasOwnFile (initial.linkAll ds) l := by
  induction ds using List.reverseRecOn with
  | nil => exact .inl (initial_url? l)
  | append_singleton ds d ih =>
    rw [bypassed_concat, not_or, not_and, not_not] at h
    rw [linkAll_concat]
    rcases ih h.1 with hnone | hown
    · by_cases hhost : d.host? = some l
      · -- The doclet makes the longname a host, which allocates its file.
        obtain ⟨file, hf, hu⟩ := urlFor_host_of_none _ d hhost hnone
        have hown : HasOwnFile ((initial.linkAll ds).urlFor d).2 l := ⟨file, hf, hu⟩
        exact .inr (hown.mono (reaches_register _ d.linkName _))
      · have hname : l ≠ d.linkName := by
          intro he
          rcases mem_hostsOf_concat.mp (h.2 he.symm) with hm | hm
          · obtain ⟨url, hu⟩ := url?_of_mem_hostsOf hm
            rw [hnone] at hu
            cases hu
          · exact hhost hm
        rw [link_url?_of_ne _ d hname, urlFor_url?_of_ne _ d hhost]
        exact .inl hnone
    · exact .inr (hown.mono (reaches_link _ d))

theorem bypassed_of_mem (hm : l ∈ ds.map Doclet.linkName) (hl : l ∉ hostsOf ds) :
    Bypassed ds l := by
  obtain ⟨e, he, rfl⟩ := List.mem_map.mp hm
  obtain ⟨before, after, rfl⟩ := List.append_of_mem he
  refine ⟨before, e, after, rfl, rfl, fun hb => hl ?_⟩
  rw [mem_hostsOf_concat] at hb
  simp only [hostsOf, List.filterMap_append, List.mem_append] at hb ⊢
  rcases hb with hb | hb
  · exact .inl hb
  · exact .inr (List.mem_filterMap.mpr ⟨e, List.mem_cons_self .., hb⟩)

/-- A longname that is claimed from elsewhere has the address of the doclet that came first. -/
theorem url?_of_bypassed (h : Bypassed ds l) :
    ∃ before e after, ds = before ++ e :: after ∧ e.linkName = l ∧ e.ownsPage = false ∧
      (initial.linkAll ds).url? l = some ((initial.linkAll before).link e).1 := by
  induction ds using List.reverseRecOn with
  | nil =>
    obtain ⟨before, e, after, hnil, -⟩ := h
    simp at hnil
  | append_singleton ds d ih =>
    by_cases hb : Bypassed ds l
    · obtain ⟨before, e, after, rfl, he, hown, hu⟩ := ih hb
      refine ⟨before, e, after ++ [d], by simp, he, hown, ?_⟩
      rw [linkAll_concat]
      exact (reaches_link _ d).urls_mono hu
    · obtain ⟨he, hl⟩ := (bypassed_concat.mp h).resolve_left hb
      have hhost : d.host? ≠ some l := fun hh => hl (mem_hostsOf_concat.mpr (.inr hh))
      have hhosts : l ∉ hostsOf ds := fun hm => hl (mem_hostsOf_concat.mpr (.inl hm))
      have hnone : (initial.linkAll ds).url? l = none :=
        linkAll_of_not_mem (initial_url? l) (fun hm => hb (bypassed_of_mem hm hhosts)) hhosts
      have hown : d.ownsPage = false := by
        by_contra ho
        exact hhost (he ▸ Doclet.host?_of_ownsPage (Bool.not_eq_false _ ▸ ho))
      refine ⟨ds, d, [], rfl, he, hown, ?_⟩
      have hself := link_self (initial.linkAll ds) d
      rw [he, urlFor_url?_of_ne _ d hhost, hnone] at hself
      rw [linkAll_concat, hself]
      rfl

/-- Only hosts and the reserved keys have files. -/
theorem files_of_not_mem_hostsOf (h : l ∉ hostsOf ds) :
    (initial.linkAll ds).files.get? l = initial.files.get? l := by
  induction ds using List.reverseRecOn with
  | nil => rfl
  | append_singleton ds d ih =>
    rw [mem_hostsOf_concat, not_or] at h
    rw [linkAll_concat, link_files_other h.2, ih h.1]

/-- A longname that is claimed from elsewhere never gets a file. -/
theorem files_of_bypassed (h : Bypassed ds l) :
    (initial.linkAll ds).files.get? l = initial.files.get? l := by
  induction ds using List.reverseRecOn with
  | nil =>
    obtain ⟨before, e, after, hnil, -⟩ := h
    simp at hnil
  | append_singleton ds d ih =>
    by_cases hb : Bypassed ds l
    · rw [linkAll_concat]
      by_cases hhost : d.host? = some l
      · -- The page asked for is the address that the longname has by now.
        obtain ⟨before, e, after, -, -, -, hu⟩ := url?_of_bypassed hb
        rw [link_files, urlFor_files, hhost, hostPage, pageOf_of_some hu]
        exact ih hb
      · rw [link_files_other hhost]
        exact ih hb
    · exact files_of_not_mem_hostsOf ((bypassed_concat.mp h).resolve_left hb).2

end

theorem initial_files_none {l : String} (hhome : l ≠ homeKey) (hglobal : l ≠ globalKey) :
    initial.files.get? l = none := by
  refine Table.get?_eq_none_iff.mpr ?_
  rw [assigned_initial.keys_files]
  simp [hhome, hglobal]

/-! ## Containers -/

section
variable (before after : List Doclet) (d : Doclet)

theorem assigned_linkAll (ds : List Doclet) : ∃ stems, Assigned (initial.linkAll ds) stems := by
  obtain ⟨more, h⟩ := (reaches_linkAll initial ds).assigned assigned_initial
  exact ⟨_, h⟩

/-- The file of a longname that is not reserved is a page of its own. -/
theorem isOwnPage_of_file {ds : List Doclet} {l url : String}
    (h : (initial.linkAll ds).files.get? l = some url) (hhome : l ≠ homeKey)
    (hglobal : l ≠ globalKey) : IsOwnPage (initial.linkAll ds) l url := by
  obtain ⟨stems, ha⟩ := assigned_linkAll ds
  have hreached := reaches_linkAll initial ds
  obtain ⟨stem, hm, rfl⟩ := ha.get?_iff.mp h
  refine ⟨h, mark_not_mem_file (ha.isStem _ hm), ?_, ?_⟩
  · intro he
    exact hhome (ha.files_injective (he ▸ h) (hreached.files_mono initial_home))
  · intro he
    exact hglobal (ha.files_injective (he ▸ h) (hreached.files_mono initial_global))

/-- A page of its own belongs to a longname that is not reserved and that nobody claims from
elsewhere. -/
theorem IsOwnPage.not_bypassed {ds : List Doclet} {l url : String}
    (h : IsOwnPage (initial.linkAll ds) l url) :
    ¬ Bypassed ds l ∧ l ≠ homeKey ∧ l ≠ globalKey := by
  have hreached := reaches_linkAll initial ds
  have hhome : l ≠ homeKey := by
    intro he
    have hfile := h.file
    rw [he, hreached.files_mono initial_home] at hfile
    exact h.notHome (Option.some.inj hfile).symm
  have hglobal : l ≠ globalKey := by
    intro he
    have hfile := h.file
    rw [he, hreached.files_mono initial_global] at hfile
    exact h.notGlobals (Option.some.inj hfile).symm
  refine ⟨fun hb => ?_, hhome, hglobal⟩
  have hfile := h.file
  rw [files_of_bypassed hb, initial_files_none hhome hglobal] at hfile
  cases hfile

/-- A container keeps the address that is computed for it. The address is a page of its own exactly
if no other doclet of the longname was linked before the longname hosted anybody, and the longname
is not the key of a reserved page. Otherwise the container stands where the first such doclet
stands, which has no page of its own. -/
theorem container_owns_page_iff (hd : d.isContainer = true) :
    ((initial.linkAll (before ++ d :: after)).urlFor d).1 = ((initial.linkAll before).link d).1 ∧
    (IsOwnPage (initial.linkAll (before ++ d :: after)) d.linkName
        ((initial.linkAll before).link d).1 ↔
      ¬ Bypassed before d.linkName ∧ d.linkName ≠ homeKey ∧ d.linkName ≠ globalKey) ∧
    (Bypassed before d.linkName →
      ∃ first e rest, before = first ++ e :: rest ∧ e.linkName = d.linkName ∧
        e.ownsPage = false ∧
        ((initial.linkAll before).link d).1 = ((initial.linkAll first).link e).1) := by
  have hown : d.ownsPage = true := by rw [Doclet.ownsPage, hd, Bool.true_or]
  have hurl : ((initial.linkAll before).link d).1 =
      ((initial.linkAll before).pageOf d.linkName).1 := by
    rw [link, urlFor_of_ownsPage _ hown]
  have hreach : Reaches (fun _ _ => True) ((initial.linkAll before).urlFor d).2
      (initial.linkAll (before ++ d :: after)) := by
    rw [linkAll_append]
    exact .head (.register trivial d.linkName) (reaches_linkAll _ after)
  have hkept : (initial.linkAll (before ++ d :: after)).url? d.linkName =
      some ((initial.linkAll before).link d).1 := by
    rw [hurl]
    refine hreach.urls_mono ?_
    rw [urlFor_of_ownsPage _ hown]
    exact pageOf_self _ _
  refine ⟨?_, ⟨?_, ?_⟩, ?_⟩
  · rw [urlFor_of_ownsPage _ hown, pageOf_of_some hkept]
  · intro hpage
    obtain ⟨hnot, hreserved⟩ := hpage.not_bypassed
    refine ⟨fun hb => hnot ?_, hreserved⟩
    obtain ⟨first, e, rest, rfl, he, hl⟩ := hb
    exact ⟨first, e, rest ++ d :: after, by simp, he, hl⟩
  · rintro ⟨hb, hhome, hglobal⟩
    refine isOwnPage_of_file (hreach.files_mono ?_) hhome hglobal
    rw [hurl, urlFor_of_ownsPage _ hown]
    rcases hasOwnFile_of_not_bypassed hb with hnone | ⟨file, hf, hu⟩
    · exact pageOf_file hnone
    · rw [pageOf_of_some hu]
      exact hf
  · intro hb
    obtain ⟨first, e, rest, hsplit, he, hno, hu⟩ := url?_of_bypassed hb
    refine ⟨first, e, rest, hsplit, he, hno, ?_⟩
    rw [hurl, pageOf_of_some hu]

end

def constructorFunction : Doclet :=
  { kind := "function", name := "Foo", longname := some "Foo", scope := some "global" }

def constructedClass : Doclet :=
  { kind := "class", name := "Foo", longname := some "Foo", scope := some "global" }

/-- Linked after its constructor, a class stands among the globals. -/
theorem class_linked_after_constructor :
    constructedClass.isContainer = true ∧
    ((initial.linkAll [constructorFunction]).link constructedClass).1 = "global.html#Foo" ∧
    ¬ IsOwnPage (initial.linkAll [constructorFunction, constructedClass]) "Foo"
      "global.html#Foo" := by
  have hd : constructedClass.isContainer = true := by decide
  have hurl : ((initial.linkAll [constructorFunction]).link constructedClass).1 =
      "global.html#Foo" := by decide +kernel
  have hb : Bypassed [constructorFunction] "Foo" := ⟨[], constructorFunction, [], rfl, by decide,
    by decide⟩
  obtain ⟨-, hiff, -⟩ := container_owns_page_iff [constructorFunction] [] constructedClass hd
  rw [hurl] at hiff
  exact ⟨hd, hurl, fun hpage => (hiff.mp hpage).1 hb⟩

end DocSite.Registry
