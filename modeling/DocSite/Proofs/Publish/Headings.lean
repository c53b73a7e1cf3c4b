import DocSite.Proofs.Link.Composed
import DocSite.Proofs.Publish.Linked

/-! Which headings the addresses of symbols lead to. A browser looks for the id after the first
number sign of an address, while the id of a heading is read off after the last one. The two agree
where the address has one sign, so for every symbol that stands on the page of a host with a page of
its own and whose name has no sign in it. -/
namespace DocSite
open Registry (Composed Knows Sound Traced)
set_option autoImplicit false

namespace Site

/-- The state in which every doclet has its address and its id. -/
def headed (settings : Settings) (store : Store) (files : FileTree) (out : Path)
    (sources : List Source.File) : Site :=
  ((start settings store files out).registerAll sources).addSignatures

/-- No fragment is made of a name with a number sign, and no doclet that stands within a page gives
its name to the page of another one. -/
structure PlainPlaces (ds : List Doclet) : Prop where
  unmarked : ∀ e ∈ ds, e.standsWithin = true → '#' ∉ e.fragmentName.toList
  unnested : ∀ e ∈ ds, e.standsWithin = true → ∀ o ∈ ds, o.host? ≠ some e.linkName

/-! ## Ids -/

section
variable {r : Registry} {d : Doclet} {url : String}

theorem anchorOf_of_some {fragment : String} (hu : r.url? d.linkName = some url)
    (hf : Address.fragment? url = some fragment) (hne : fragment ≠ "") :
    anchorOf r d = fragment := by
  rw [anchorOf, hu, Option.getD_some, hf, Option.filter_some, if_pos (by simpa using hne)]

/-- Where nothing follows the last number sign, the name is the id. -/
theorem anchorOf_of_empty (hu : r.url? d.linkName = some url)
    (hf : Address.fragment? url = some "") : anchorOf r d = d.name := by
  rw [anchorOf, hu, Option.getD_some, hf]
  rfl

/-- An address that was put together from two parts leads to the id of the doclet where neither of
them has a number sign; else only where the address ends in a sign and the name is what follows the
page. -/
theorem leads_to_anchor_iff {host fragment : String} (hu : r.url? d.linkName = some url)
    (hjoined : url = host ++ "#" ++ fragment) (hne : fragment ≠ "") :
    url = Address.page url ++ "#" ++ anchorOf r d ↔
      ('#' ∉ host.toList ∧ '#' ∉ fragment.toList) ∨
        (Address.fragment? url = some "" ∧ url = Address.page url ++ "#" ++ d.name) := by
  constructor
  · intro hleads
    cases hf : Address.fragment? url with
    | none =>
      rw [Address.fragment?_eq_none, hjoined] at hf
      simp at hf
    | some last =>
      by_cases hlast : last = ""
      · rw [hlast] at hf
        rw [anchorOf_of_empty hu hf] at hleads
        exact .inr ⟨by rw [hlast], hleads⟩
      · obtain ⟨-, -, hmark⟩ := Address.fragment?_eq_some hf
        rw [anchorOf_of_some hu hf hlast] at hleads
        exact .inl (Address.unmarked_of_append_eq (hleads.symm.trans hjoined)
          (Address.mark_not_mem_page url) hmark)
  · rintro (⟨hhost, hfragment⟩ | ⟨hf, hleads⟩)
    · have hf : Address.fragment? url = some fragment := by
        rw [hjoined]
        exact Address.fragment?_append hfragment host
      have hpage : Address.page url = host := by
        rw [hjoined, Address.page_append_mark, Address.page_of_not_mem hhost]
      rw [anchorOf_of_some hu hf hne, hpage, hjoined]
    · rw [anchorOf_of_empty hu hf]
      exact hleads

end

/-! ## Preparing doclets -/

section
variable {settings : Settings} {store : Store} {files : FileTree} {out : Path}
  {sources : List Source.File}

/-- A normalized doclet is the doclet with other examples and references. -/
theorem mem_normalizeAll {ds : List Doclet} {d : Doclet} (hd : d ∈ ds) (r : Registry) :
    ∃ examples see, { d with examples := examples, see := see } ∈ (normalizeAll r ds).1 := by
  induction ds generalizing r with
  | nil => cases hd
  | cons e rest ih =>
    rcases List.mem_cons.mp hd with rfl | hd
    · exact ⟨_, _, List.mem_cons_self ..⟩
    · obtain ⟨examples, see, hm⟩ := ih hd (linkReferences r e e.see).2
      exact ⟨examples, see, List.mem_cons_of_mem _ hm⟩

theorem traced_start (settings : Settings) (store : Store) (files : FileTree) (out : Path) :
    Traced (start settings store files out).store.doclets
      (start settings store files out).registry := by
  refine keeps_normalizeAll (fun d hd r hr => ?_) Registry.traced_initial
  obtain ⟨examples, see, hm⟩ := mem_normalizeAll hd Registry.initial
  exact hr.urlFor (d := { d with examples := examples, see := see }) hm

theorem traced_headed : Traced (start settings store files out).store.doclets
    (headed settings store files out sources).registry :=
  keeps_registerAll (fun _ hd _ hr => hr.link hd) (traced_start settings store files out) sources

theorem addCall_frame (l : TypeLinker) (r : Registry) (d : Doclet) : ∃ signature attributes,
    addCall l r d =
      { d with anchor := anchorOf r d, signature := signature, attributes := attributes } := by
  unfold addCall
  dsimp only
  split
  · exact ⟨_, _, rfl⟩
  · exact ⟨_, _, rfl⟩

theorem addTrail_frame (l : TypeLinker) (r : Registry) (table : Table Doclet) (d : Doclet) :
    ∃ ancestors signature attributes kind,
      addTrail l r table d =
        { d with
          ancestors := ancestors
          signature := signature
          attributes := attributes
          kind := kind } := by
  unfold addTrail
  dsimp only
  split
  · split
    · exact ⟨_, _, _, _, rfl⟩
    · exact ⟨_, _, _, _, rfl⟩
  · split
    · exact ⟨_, _, _, _, rfl⟩
    · exact ⟨_, _, _, _, rfl⟩

/-- The doclets of the state have the ids that the registry gives them. -/
theorem anchor_of_mem_headed {d : Doclet}
    (hd : d ∈ (headed settings store files out sources).store.doclets) :
    d.anchor = anchorOf (headed settings store files out sources).registry d := by
  obtain ⟨called, hcalled, rfl⟩ := List.mem_map.mp hd
  obtain ⟨bare, -, rfl⟩ := List.mem_map.mp hcalled
  obtain ⟨ancestors, signature, attributes, kind, htrail⟩ := addTrail_frame _ _ _ _
  rw [htrail]
  obtain ⟨signature, attributes, hcall⟩ := addCall_frame _ _ bare
  rw [hcall]
  rfl

/-- Every address with a number sign names an allocated page and was put together for some doclet.
It leads to the heading of a doclet that it is the address of just where the host and the fragment
it was put together from have no sign; only an address that ends in a sign can lead to the heading
by the name of the doclet. Where places are plain, every such address leads to its heading. -/
theorem leads_to_heading_iff {d : Doclet}
    (hd : d ∈ (headed settings store files out sources).store.doclets) {url : String}
    (hu : (headed settings store files out sources).registry.url? d.linkName = some url)
    (hm : '#' ∈ url.toList) :
    ((∃ key, (headed settings store files out sources).registry.files.get? key =
        some (Address.page url)) ∧ '#' ∉ (Address.page url).toList) ∧
    (∃ e ∈ (start settings store files out).store.doclets,
      (e.linkName = d.linkName ∨
        ∃ o ∈ (start settings store files out).store.doclets, o.host? = some e.linkName) ∧
      ∃ host fragment,
      Composed (headed settings store files out sources).registry e host fragment url ∧
      (url = Address.page url ++ "#" ++ d.anchor ↔
        ('#' ∉ host.toList ∧ '#' ∉ fragment.toList) ∨
          (Address.fragment? url = some "" ∧ url = Address.page url ++ "#" ++ d.name))) ∧
    (PlainPlaces (start settings store files out).store.doclets →
      url = Address.page url ++ "#" ++ d.anchor) := by
  have htraced : Traced (start settings store files out).store.doclets
      (headed settings store files out sources).registry := traced_headed
  obtain ⟨e, he, hname, host, fragment, hc⟩ := htraced.urls d.linkName url hu hm
  have hiff := leads_to_anchor_iff hu hc.joined hc.nonempty
  rw [← anchor_of_mem_headed hd] at hiff
  refine ⟨⟨?_, Address.mark_not_mem_page url⟩, ⟨e, he, hname, host, fragment, hc, hiff⟩, ?_⟩
  · exact ⟨_, htraced.sound.get?_page (htraced.sound.hosted _ url hu)⟩
  · intro hplain
    refine hiff.mpr (.inl ⟨fun hmark => ?_, fun hmark => ?_⟩)
    · -- A host with a sign in its address was linked within a page itself.
      have hhost := hc.known.host
      cases hh : e.host? with
      | none =>
        rw [hh] at hhost
        exact htraced.sound.mark_not_mem_file hhost hmark
      | some l =>
        rw [hh] at hhost
        obtain ⟨e', he', hname', _, _, hc'⟩ := htraced.urls l host hhost hmark
        rcases hname' with rfl | ⟨o, ho, hoe⟩
        · exact hplain.unnested e' he' hc'.within e he hh
        · exact hplain.unnested e' he' hc'.within o ho hoe
    · obtain ⟨e', he', hw, hname'⟩ := htraced.fragments _ fragment (hc.known.named hc.within) hmark
      exact hplain.unmarked e' he' hw hname'

end

/-! ## A function within a function -/

def nestedFunctions : Store :=
  ⟨[{ kind := "function", name := "f", longname := some "f", scope := some "global" },
    { kind := "function", name := "g", longname := some "f~g", memberof := some "f",
      scope := some "inner" }]⟩

def nestedSite : Site := headed { sorts := false } nestedFunctions ⟨[]⟩ (Path.ofString "out") []

/-- The address of the inner function goes on from that of the outer one, past the id of its own
heading. -/
theorem innerFunction_misses_heading :
    ∃ d ∈ nestedSite.store.doclets,
      nestedSite.registry.url? d.linkName = some "global.html#f#~g" ∧
      '#' ∈ "global.html#f#~g".toList ∧ d.anchor = "~g" ∧
      "global.html#f#~g" ≠ Address.page "global.html#f#~g" ++ "#" ++ d.anchor := by
  have hall : nestedSite.store.doclets.map
      (fun d => (nestedSite.registry.url? d.linkName, d.anchor)) =
      [(some "global.html#f", "f"), (some "global.html#f#~g", "~g")] := by decide +kernel
  have hinner : (some "global.html#f#~g", "~g") ∈ nestedSite.store.doclets.map
      (fun d => (nestedSite.registry.url? d.linkName, d.anchor)) := by
    rw [hall]
    exact List.mem_cons_of_mem _ (List.mem_cons_self ..)
  obtain ⟨d, hd, heq⟩ := List.mem_map.mp hinner
  obtain ⟨hu, hanchor⟩ := Prod.mk.inj heq
  have hm : '#' ∈ "global.html#f#~g".toList := by decide
  obtain ⟨-, ⟨e, -, -, host, fragment, hc, hiff⟩, -⟩ := leads_to_heading_iff hd hu hm
  refine ⟨d, hd, hu, hm, hanchor, fun hleads => ?_⟩
  rcases hiff.mp hleads with ⟨hhost, hfragment⟩ | ⟨hempty, -⟩
  · have hsplit : host ++ "#" ++ fragment = "global.html#f" ++ "#" ++ "~g" := hc.joined.symm
    exact (Address.unmarked_of_append_eq hsplit hhost hfragment).1 (by decide)
  · revert hempty
    decide

end Site
end DocSite
