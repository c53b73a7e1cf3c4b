import DocSite.Proofs.Link.Hosting

/-! Links that stay. Entries of a registry are only added, and the address of a doclet is made of
two of them, that of its host and that of its own fragment. The first computation leaves both
behind, so every later one gives the same address and changes nothing. -/
namespace DocSite
set_option autoImplicit false

theorem Doclet.fragmentName_ne_empty {d : Doclet} (h : d.name ≠ "") : d.fragmentName ≠ "" := by
  intro he
  have hl := congrArg String.toList he
  simp only [Doclet.fragmentName, String.toList_append] at hl
  simp [h] at hl

namespace Registry

/-! ## Growth -/

/-- Every file, address and fragment of the first registry is one of the second. -/
structure Grows (r r' : Registry) : Prop where
  files : ∀ key file, r.files.get? key = some file → r'.files.get? key = some file
  urls : ∀ l url, r.url? l = some url → r'.url? l = some url
  fragments : ∀ l fragment, r.fragments.get? l = some fragment →
    r'.fragments.get? l = some fragment

section
variable {r r' r'' : Registry}

theorem Grows.refl (r : Registry) : Grows r r :=
  ⟨fun _ _ h => h, fun _ _ h => h, fun _ _ h => h⟩

theorem Grows.trans (h : Grows r r') (h' : Grows r' r'') : Grows r r'' := by
  refine ⟨?_, ?_, ?_⟩
  · intro key file hk
    exact h'.files key file (h.files key file hk)
  · intro l url hl
    exact h'.urls l url (h.urls l url hl)
  · intro l fragment hl
    exact h'.fragments l fragment (h.fragments l fragment hl)

theorem Reaches.grows {ok : Registry → String → Prop} (h : Reaches ok r r') : Grows r r' :=
  ⟨fun _ _ hk => h.files_mono hk, fun _ _ hl => h.urls_mono hl, fun _ _ hl => h.fragments_mono hl⟩

theorem grows_after (r : Registry) (c : Call) : Grows r (r.after c) := by
  rcases after_cases r c with hc | ⟨titles, hc⟩
  · exact hc.grows
  · rw [hc]
    exact ⟨fun _ _ h => h, fun _ _ h => h, fun _ _ h => h⟩

theorem grows_run (r : Registry) (calls : List Call) : Grows r (r.run calls) := by
  induction calls generalizing r with
  | nil => exact .refl r
  | cons c calls ih => exact (grows_after r c).trans (ih (r.after c))

end

/-! ## What an address is made of -/

/-- The address of the page of a host; without a host, that of the page of globals. -/
def hostUrl? (r : Registry) : Option String → Option String
  | some host => r.url? host
  | none => r.files.get? globalKey

/-- Everything that the address of a doclet is made of is in the registry. -/
structure Knows (r : Registry) (d : Doclet) (page fragment : String) : Prop where
  host : r.hostUrl? d.host? = some page
  named : d.standsWithin = true → r.fragments.get? d.linkName = some fragment

/-- The address on a page, with the fragment if the doclet stands within it. -/
def addressOn (d : Doclet) (page fragment : String) : String :=
  if d.standsWithin then Address.withFragment page fragment else page

section
variable {r r' : Registry} {d : Doclet} {page fragment : String} {host : Option String}

theorem hostPage_of_some (h : r.hostUrl? host = some page) : r.hostPage host = (page, r) := by
  cases host with
  | some host => exact pageOf_of_some h
  | none =>
    have hfile : r.files.get? globalKey = some page := h
    rw [hostPage, globalUrl, hfile]
    rfl

theorem hostUrl?_hostPage {file : String} (hg : r.files.get? globalKey = some file)
    (host : Option String) : (r.hostPage host).2.hostUrl? host = some (r.hostPage host).1 := by
  cases host with
  | some host => exact pageOf_self r host
  | none =>
    rw [hostPage, hostUrl?, globalUrl, hg]
    rfl

theorem Grows.hostUrl? (hg : Grows r r') (h : r.hostUrl? host = some page) :
    r'.hostUrl? host = some page := by
  cases host with
  | some host => exact hg.urls host page h
  | none => exact hg.files globalKey page h

theorem Knows.mono (h : Knows r d page fragment) (hg : Grows r r') : Knows r' d page fragment :=
  ⟨hg.hostUrl? h.host, fun hn => hg.fragments _ _ (h.named hn)⟩

/-- Where everything is known, the address is computed without a change. -/
theorem Knows.urlFor (h : Knows r d page fragment) :
    r.urlFor d = (addressOn d page fragment, r) := by
  rw [urlFor_eq, hostPage_of_some h.host]
  unfold within addressOn
  split
  · rename_i hn
    rw [fragmentOf_of_some (h.named hn)]
  · rfl

theorem hostUrl?_urlFor {file : String} (hg : r.files.get? globalKey = some file) (d : Doclet) :
    (r.urlFor d).2.hostUrl? d.host? = some (r.hostPage d.host?).1 := by
  have hwithin : Reaches (fun _ _ => True) (r.hostPage d.host?).2 (r.urlFor d).2 := by
    rw [urlFor_eq]
    exact reaches_within _ _ d _
  exact hwithin.grows.hostUrl? (hostUrl?_hostPage hg d.host?)

/-- The first computation leaves everything behind that the next one needs. -/
theorem knows_urlFor {file : String} (hg : r.files.get? globalKey = some file)
    (hd : d.name ≠ "") : ∃ page fragment, Knows (r.urlFor d).2 d page fragment ∧
      (r.urlFor d).1 = addressOn d page fragment := by
  have hhost := hostUrl?_urlFor hg d
  cases hn : d.standsWithin with
  | false =>
    have hnamed : d.standsWithin = true → (r.urlFor d).2.fragments.get? d.linkName = some "" := by
      simp [hn]
    refine ⟨_, "", ⟨hhost, hnamed⟩, ?_⟩
    rw [urlFor_alone hn, addressOn, hn]
    rfl
  | true =>
    -- The name is not empty, so a fragment is found or allocated.
    have hself := fragmentOf_get?_self (r.hostPage d.host?).2 (r.hostPage d.host?).1 d.linkName
      (Doclet.fragmentName_ne_empty hd)
    have hurl := urlFor_within hn r
    rw [hurl] at hhost ⊢
    refine ⟨_, _, ⟨hhost, fun _ => hself⟩, ?_⟩
    rw [addressOn, if_pos hn]

/-- The page of an address stays, even where the fragment may not. -/
theorem page_urlFor_grows {file : String} (hg : r.files.get? globalKey = some file)
    (h : Grows (r.urlFor d).2 r') :
    Address.page (r'.urlFor d).1 = Address.page (r.urlFor d).1 := by
  rw [page_urlFor, page_urlFor, hostPage_of_some (h.hostUrl? (hostUrl?_urlFor hg d))]

end

/-! ## Runs -/

section
variable (calls later : List Call) (d : Doclet)

/-- The address that is computed once for a doclet with a name is computed again after any calls,
and nothing changes then. A longname without an address takes the one that it is registered with,
which stays from then on, and another one is refused without a change. So a reference to a member
leads to the page that the address has whenever it is computed later. -/
theorem address_stays (hd : d.name ≠ "") :
    (((initial.run calls).urlFor d).2.run later).urlFor d =
      (((initial.run calls).urlFor d).1, ((initial.run calls).urlFor d).2.run later) ∧
    (∀ l url, (initial.run calls).url? l = some url →
      ((initial.run calls).run later).url? l = some url ∧
      ∀ other, ((initial.run calls).run later).register l other =
        ((initial.run calls).run later,
          if url = other then none else some ⟨l, url, other⟩)) ∧
    (∀ l url, (initial.run calls).url? l = none →
      ((initial.run calls).register l url).2 = none ∧
      (((initial.run calls).register l url).1.run later).url? l = some url) ∧
    ∀ (e : Doclet) (see : String), ((initial.run calls).memberReference e see).1 =
      if see.startsWith "#" && 2 ≤ see.length then
        .link (.link (Address.page
          ((((initial.run calls).memberReference e see).2.run later).urlFor e).1 ++ see) (.text see))
      else .symbol see := by
  have hg : (initial.run calls).files.get? globalKey = some "global.html" :=
    run_files_mono initial_global calls
  refine ⟨?_, ?_, ?_, ?_⟩
  · obtain ⟨page, fragment, hknows, hurl⟩ := knows_urlFor hg hd
    rw [hurl]
    exact (hknows.mono (grows_run _ later)).urlFor
  · intro l url hl
    have hlater := (grows_run _ later).urls l url hl
    refine ⟨hlater, fun other => ?_⟩
    have hget : ((initial.run calls).run later).urls.get? l = some url := hlater
    rw [register, hget]
    simp
  · intro l url hl
    have hfirst : ((initial.run calls).register l url).1.url? l = some url := by
      rw [register_get?, if_pos rfl, hl]
      rfl
    exact ⟨congrArg Prod.snd (register_of_none hl url), (grows_run _ later).urls l url hfirst⟩
  · intro e see
    unfold memberReference
    split
    · dsimp only
      rw [page_urlFor_grows hg (grows_run _ later)]
    · rfl

end

def lowerMember : Doclet :=
  { kind := "member", name := "bar", longname := some "Foo#bar", memberof := some "Foo",
    scope := some "instance" }

def upperMember : Doclet :=
  { kind := "member", name := "Bar", longname := some "Foo#Bar", memberof := some "Foo",
    scope := some "instance" }

/-- A numbered fragment stays, whoever asks for the same page or name in between. -/
theorem upperMember_stays :
    upperMember.name ≠ "" ∧
    ((((initial.run [.urlFor lowerMember]).urlFor upperMember).2.run
      [.register "Foo#Bar" "Bar.html", .urlFor lowerMember, .pageOf "Foo#Bar"]).urlFor
        upperMember).1 = "Foo.html#Bar_1" := by
  have hname : upperMember.name ≠ "" := by decide
  refine ⟨hname, ?_⟩
  rw [(address_stays [.urlFor lowerMember]
    [.register "Foo#Bar" "Bar.html", .urlFor lowerMember, .pageOf "Foo#Bar"] upperMember hname).1]
  decide +kernel

end Registry
end DocSite
