import DocSite.Proofs.Link.Hosting

/-! Linking doclets one after another. A doclet that hosts others gives them the page of its own
longname, linked or not. So a doclet gets the address that was computed for it unless it is hosted
elsewhere and its longname hosts a doclet up to itself; then the page of its own longname stays. -/
namespace DocSite.Registry
set_option autoImplicit false

/-- The registry after doclets are linked in order. -/
def linkAll (r : Registry) (ds : List Doclet) : Registry := ds.foldl (fun r d => (r.link d).2.1) r

/-- The longnames on whose pages doclets stand. -/
def hostsOf (ds : List Doclet) : List String := ds.filterMap Doclet.host?

/-- The address of a longname is its own file. -/
def HasOwnFile (r : Registry) (l : String) : Prop :=
  ∃ file, r.files.get? l = some file ∧ r.url? l = some file

theorem mem_hostsOf_concat {ds : List Doclet} {d : Doclet} {l : String} :
    l ∈ hostsOf (ds ++ [d]) ↔ l ∈ hostsOf ds ∨ d.host? = some l := by
  simp [hostsOf, eq_comm]

/-! ## One doclet -/

section
variable (r : Registry) (d : Doclet)

theorem reaches_link : Reaches (fun _ _ => True) r (r.link d).2.1 :=
  (reaches_urlFor (fun _ _ _ _ => trivial) r d).tail (.register trivial d.linkName)

theorem link_files : (r.link d).2.1.files = (r.urlFor d).2.files := register_files ..

theorem link_url?_of_ne {l : String} (h : l ≠ d.linkName) :
    (r.link d).2.1.url? l = (r.urlFor d).2.url? l := by
  rw [link]
  dsimp only
  rw [register_get?, if_neg h]

end

/-- Registering meets no conflict, and what it was given stands, where there was no other address. -/
theorem register_none_iff (r : Registry) (l url : String) :
    (r.register l url).2 = none ↔ r.url? l = none ∨ r.url? l = some url := by
  cases h : r.url? l with
  | none => simp [register_of_none h]
  | some kept =>
    have h : r.urls.get? l = some kept := h
    simp [register, h]

theorem register_get?_self_iff (r : Registry) (l url : String) :
    (r.register l url).1.url? l = some url ↔ r.url? l = none ∨ r.url? l = some url := by
  rw [register_get?, if_pos rfl]
  cases h : r.url? l <;> simp

/-! ## Doclets in order -/

section
variable {r : Registry} {ds : List Doclet} {l : String}

theorem linkAll_append (r : Registry) (before after : List Doclet) (d : Doclet) :
    r.linkAll (before ++ d :: after) = ((r.linkAll before).link d).2.1.linkAll after := by
  rw [linkAll, List.foldl_append, List.foldl_cons]
  rfl

theorem reaches_linkAll (r : Registry) (ds : List Doclet) :
    Reaches (fun _ _ => True) r (r.linkAll ds) := by
  induction ds generalizing r with
  | nil => exact .refl
  | cons d ds ih => exact (reaches_link r d).trans (ih _)

theorem HasOwnFile.mono {ok : Registry → String → Prop} {r' : Registry} (h : HasOwnFile r l)
    (hr : Reaches ok r r') : HasOwnFile r' l := by
  obtain ⟨file, hf, hu⟩ := h
  exact ⟨file, hr.files_mono hf, hr.urls_mono hu⟩

/-- A longname that is not linked and hosts nobody has no address. -/
theorem linkAll_of_not_mem (hu : r.url? l = none) (hl : l ∉ ds.map Doclet.linkName)
    (hh : l ∉ hostsOf ds) : (r.linkAll ds).url? l = none := by
  induction ds generalizing r with
  | nil => exact hu
  | cons d ds ih =>
    rw [List.map_cons, List.mem_cons, not_or] at hl
    have hne : d.host? ≠ some l := fun e =>
      hh (List.mem_filterMap.mpr ⟨d, List.mem_cons_self .., e⟩)
    refine ih ?_ hl.2 ?_
    · rw [link_url?_of_ne r d hl.1, urlFor_url?_of_ne r d hne, hu]
    · intro hm
      obtain ⟨d', hd', he⟩ := List.mem_filterMap.mp hm
      exact hh (List.mem_filterMap.mpr ⟨d', List.mem_cons_of_mem _ hd', he⟩)

/-- A longname that is not linked and hosts a doclet has the address of its own file. -/
theorem linkAll_of_mem (hu : r.url? l = none) (hl : l ∉ ds.map Doclet.linkName)
    (hh : l ∈ hostsOf ds) : HasOwnFile (r.linkAll ds) l := by
  induction ds generalizing r with
  | nil => cases hh
  | cons d ds ih =>
    rw [List.map_cons, List.mem_cons, not_or] at hl
    by_cases hd : d.host? = some l
    · -- The first doclet that the longname hosts settles its address.
      obtain ⟨file, hf, hurl⟩ := urlFor_host_of_none r d hd hu
      have hown : HasOwnFile (r.link d).2.1 l := by
        refine ⟨file, ?_, ?_⟩
        · rw [link_files, hf]
        · rw [link_url?_of_ne r d hl.1, hurl]
      exact hown.mono (reaches_linkAll _ ds)
    · refine ih ?_ hl.2 ?_
      · rw [link_url?_of_ne r d hl.1, urlFor_url?_of_ne r d hd, hu]
      · obtain ⟨d', hd', he⟩ := List.mem_filterMap.mp hh
        rcases List.mem_cons.mp hd' with rfl | hd'
        · exact absurd he hd
        · exact List.mem_filterMap.mpr ⟨d', hd', he⟩

end

theorem initial_url? (l : String) : initial.url? l = none := by
  rw [url?, initial_urls, Table.get?_empty]

/-! ## Which address stands -/

/-- A doclet gets the address that was computed for it: it owns its page, or its longname hosts
nobody so far, or its address is the file of its longname. -/
def KeepsAddress (before : List Doclet) (d : Doclet) : Prop :=
  d.ownsPage = true ∨ d.linkName ∉ hostsOf (before ++ [d]) ∨
    ((initial.linkAll before).urlFor d).2.files.get? d.linkName =
      some ((initial.linkAll before).urlFor d).1

section
variable {before after : List Doclet} {d : Doclet}

/-- Before a doclet is linked, its longname has the address of its own file if it hosts a doclet so
far, this one included, and none if it hosts nobody. -/
theorem urlFor_linkAll (hl : d.linkName ∉ before.map Doclet.linkName) :
    (d.linkName ∈ hostsOf (before ++ [d]) →
      HasOwnFile ((initial.linkAll before).urlFor d).2 d.linkName) ∧
    (d.linkName ∉ hostsOf (before ++ [d]) →
      ((initial.linkAll before).urlFor d).2.url? d.linkName = none) := by
  -- The name was not linked before, so only hosting can have given it an address.
  have hnone := linkAll_of_not_mem (initial_url? d.linkName) hl
  have hreach : Reaches (fun _ _ => True) (initial.linkAll before)
      ((initial.linkAll before).urlFor d).2 := reaches_urlFor (fun _ _ _ _ => trivial) _ d
  rw [mem_hostsOf_concat]
  by_cases hb : d.linkName ∈ hostsOf before
  · refine ⟨fun _ => ?_, fun h => absurd (.inl hb) h⟩
    exact (linkAll_of_mem (initial_url? _) hl hb).mono hreach
  · constructor
    · rintro (h | h)
      · exact absurd h hb
      · obtain ⟨file, hf, hu⟩ := urlFor_host_of_none _ d h (hnone hb)
        exact ⟨file, hf, hu⟩
    · intro h
      rw [urlFor_url?_of_ne _ d fun e => h (.inr e)]
      exact hnone hb

/-- The address computed for a doclet meets no other one exactly where it is kept. -/
theorem urlFor_agrees_iff (hl : d.linkName ∉ before.map Doclet.linkName) :
    (((initial.linkAll before).urlFor d).2.url? d.linkName = none ∨
      ((initial.linkAll before).urlFor d).2.url? d.linkName =
        some ((initial.linkAll before).urlFor d).1) ↔ KeepsAddress before d := by
  obtain ⟨hhost, hnone⟩ := urlFor_linkAll hl
  by_cases ho : d.ownsPage = true
  · refine iff_of_true (.inr ?_) (.inl ho)
    rw [urlFor_of_ownsPage _ ho]
    exact pageOf_self _ _
  · by_cases hh : d.linkName ∈ hostsOf (before ++ [d])
    · obtain ⟨file, hf, hu⟩ := hhost hh
      simp [KeepsAddress, ho, hh, hf, hu]
    · exact iff_of_true (.inl (hnone hh)) (.inr (.inl hh))

/-- Later doclets change no address that stands. -/
theorem linkAll_append_url? (before after : List Doclet) (d : Doclet) :
    (initial.linkAll (before ++ d :: after)).url? d.linkName =
      ((initial.linkAll before).link d).2.1.url? d.linkName := by
  have hstep : ∃ u, ((initial.linkAll before).link d).2.1.url? d.linkName = some u := by
    rw [link]
    dsimp only
    rw [register_get?, if_pos rfl]
    exact ⟨_, rfl⟩
  obtain ⟨u, hu⟩ := hstep
  rw [linkAll_append, hu]
  exact (reaches_linkAll _ after).urls_mono hu

/-- Of doclets with different names for links, linked in any order, exactly those that keep their
address meet no conflict, and exactly those lead to the address that was computed for them. The
longname of any other leads to its own file, which it got as a host. -/
theorem link_keeps_address_iff (before after : List Doclet) (d : Doclet)
    (hd : ((before ++ d :: after).map Doclet.linkName).Nodup) :
    (((initial.linkAll before).link d).2.2 = none ↔ KeepsAddress before d) ∧
    ((initial.linkAll (before ++ d :: after)).url? d.linkName =
      some ((initial.linkAll before).link d).1 ↔ KeepsAddress before d) ∧
    (¬ KeepsAddress before d →
      ∃ file, (initial.linkAll (before ++ d :: after)).files.get? d.linkName = some file ∧
        (initial.linkAll (before ++ d :: after)).url? d.linkName = some file ∧
        ((initial.linkAll before).link d).2.2 =
          some ⟨d.linkName, file, ((initial.linkAll before).link d).1⟩) := by
  have hl : d.linkName ∉ before.map Doclet.linkName := by
    rw [List.map_append, List.nodup_append] at hd
    exact fun hm => hd.2.2 _ hm _ (List.mem_cons_self ..) rfl
  have hagree := urlFor_agrees_iff hl
  refine ⟨?_, ?_, ?_⟩
  · rw [link]
    exact (register_none_iff _ _ _).trans hagree
  · rw [linkAll_append_url?, link]
    exact (register_get?_self_iff _ _ _).trans hagree
  -- Its longname is a host, so the address of the file came first, and it stays.
  · intro hk
    have hh : d.linkName ∈ hostsOf (before ++ [d]) := by
      by_contra hh
      exact hk (.inr (.inl hh))
    obtain ⟨file, hf, hu⟩ := (urlFor_linkAll hl).1 hh
    have hreach : Reaches (fun _ _ => True) ((initial.linkAll before).urlFor d).2
        (initial.linkAll (before ++ d :: after)) := by
      rw [linkAll_append]
      exact .head (.register trivial d.linkName) (reaches_linkAll _ after)
    refine ⟨file, hreach.files_mono hf, hreach.urls_mono hu, ?_⟩
    have hne : file ≠ ((initial.linkAll before).urlFor d).1 := fun e => hk (.inr (.inr (e ▸ hf)))
    have hu : ((initial.linkAll before).urlFor d).2.urls.get? d.linkName = some file := hu
    simp [link, register, hu, hne]

end

def innerFunction : Doclet :=
  { kind := "function", name := "a", longname := some "P~a", memberof := some "P",
    scope := some "inner" }

def outerFunction : Doclet :=
  { kind := "function", name := "P", longname := some "P", scope := some "global" }

/-- Linked after the function inside it, a function leads to a page of its own that no doclet of
the two has. -/
theorem outer_linked_after_inner :
    ([innerFunction, outerFunction].map Doclet.linkName).Nodup ∧
    ((initial.linkAll [innerFunction]).link outerFunction).2.2 =
      some ⟨"P", "P.html", "global.html#P"⟩ ∧
    (initial.linkAll [innerFunction, outerFunction]).url? "P" ≠
      some ((initial.linkAll [innerFunction]).link outerFunction).1 := by
  have hd : ([innerFunction, outerFunction].map Doclet.linkName).Nodup := by decide
  have hc : ((initial.linkAll [innerFunction]).link outerFunction).2.2 =
      some ⟨"P", "P.html", "global.html#P"⟩ := by decide +kernel
  obtain ⟨hconflict, hkept, -⟩ := link_keeps_address_iff [innerFunction] [] outerFunction hd
  refine ⟨hd, hc, fun hu => ?_⟩
  rw [hconflict.mpr (hkept.mp hu)] at hc
  cases hc

end DocSite.Registry
