import DocSite.Link.InlineTag
import DocSite.Proofs.Link.Sound
import DocSite.Proofs.Link.Within

/-! Where the links of a run lead, in terms of the registry that the run ends with: to the home
page, to the page of globals, to a tutorial that is known, or to where some symbol is registered.
What an earlier registry linked, the last one still explains, as entries stay. -/
namespace DocSite
set_option autoImplicit false

namespace Registry

/-- An address lies on the home page, on the page of globals, on that of a known tutorial or on
that of a registered symbol. The page of globals counts where `G` holds. -/
inductive Leads (G : Prop) (r : Registry) (a : String) : Prop
  | home (on : Address.page a = r.homeUrl)
  | globals (allowed : G) (on : Address.page a = r.globalUrl)
  | tutorial {name file : String} (known : (r.tutorials.get? name).isSome)
    (found : r.files.get? ("<tutorial>" ++ name) = some file) (on : Address.page a = file)
  | symbol {l url : String} (found : r.url? l = some url) (on : Address.page a = Address.page url)

/-- A registry with at least the files, addresses and tutorials of another one. -/
structure Later (r r' : Registry) : Prop where
  files : ∀ key file, r.files.get? key = some file → r'.files.get? key = some file
  urls : ∀ l url, r.url? l = some url → r'.url? l = some url
  tutorials : ∀ name, (r.tutorials.get? name).isSome → (r'.tutorials.get? name).isSome

section
variable {G : Prop} {ok : Registry → String → Prop} {r r' r'' : Registry}

theorem Later.refl (r : Registry) : Later r r :=
  ⟨fun _ _ h => h, fun _ _ h => h, fun _ h => h⟩

theorem Later.trans (h : Later r r') (h' : Later r' r'') : Later r r'' :=
  ⟨fun key file hk => h'.files key file (h.files key file hk),
    fun l url hl => h'.urls l url (h.urls l url hl),
    fun name hn => h'.tutorials name (h.tutorials name hn)⟩

theorem Reaches.later (h : Reaches ok r r') : Later r r' :=
  ⟨fun _ _ hk => h.files_mono hk, fun _ _ hl => h.urls_mono hl, fun name hn => by
    rwa [h.tutorials_eq]⟩

theorem later_addTutorial (r : Registry) (name title : String) :
    Later r (r.addTutorial name title) := by
  refine ⟨fun _ _ hk => hk, fun _ _ hl => hl, fun other hn => ?_⟩
  rw [addTutorial, Table.get?_insert]
  split
  · rfl
  · exact hn

theorem later_addTutorials : ∀ (r : Registry) (ts : List Tutorial), Later r (r.addTutorials ts)
  | r, [] => by
    rw [addTutorials]
    exact .refl r
  | r, ⟨name, title, _, _, children⟩ :: rest => by
    rw [addTutorials]
    have hrest := later_addTutorials r rest
    have hchildren := later_addTutorials ((r.addTutorials rest).addTutorial name title) children
    exact (hrest.trans (later_addTutorial _ name title)).trans hchildren

/-- What a registry links, a later one explains. -/
theorem Later.linksWithin (h : Later r r') : r.LinksWithin (Leads G r') :=
  fun l url _ hl ha => .symbol (h.urls l url hl) ha

theorem Leads.hosted {a : String} (h : Leads G r a) (hs : Sound r) : Hosted r a := by
  cases h with
  | home on =>
    refine ⟨homeKey, r.homeUrl, ?_, ?_⟩
    · rw [hs.homeUrl, hs.home]
    · rw [on, hs.homeUrl, hs.page_file hs.home]
  | globals _ on =>
    refine ⟨globalKey, r.globalUrl, ?_, ?_⟩
    · rw [hs.globalUrl, hs.globals]
    · rw [on, hs.globalUrl, hs.page_file hs.globals]
  | tutorial _ found on => exact ⟨_, _, found, on.trans (hs.page_file found).symm⟩
  | symbol found on =>
    obtain ⟨key, file, hk, hp⟩ := hs.hosted _ _ found
    exact ⟨key, file, hk, on.trans hp⟩

/-! ## Tutorials and members -/

theorem within_tutorialLink (hs : Sound r) {name : String} {label : Option String} {R : Registry}
    (h : Later (r.tutorialLink name label).2 R) :
    (r.tutorialLink name label).1.Within (Leads G R) := by
  have hfile := tutorialUrl_file hs name
  have hquiet : Quiet r (r.tutorialUrl name).2 := reaches_tutorialUrl r name
  have htitles : (r.tutorialUrl name).2.tutorials = r.tutorials := hquiet.tutorials_eq
  have hsound : Sound (r.tutorialUrl name).2 := hquiet.weaken.sound hs
  unfold tutorialLink at h ⊢
  split
  · simp
  · rename_i title htitle
    rw [htitle] at h
    dsimp only at h ⊢
    have hknown : (R.tutorials.get? name).isSome := by
      refine h.tutorials name ?_
      rw [htitles, htitle]
      rfl
    refine Html.within_link.mpr ⟨?_, Html.within_text _⟩
    exact .tutorial hknown (h.files _ _ hfile) (hsound.page_file hfile)

theorem within_memberReference (hs : Sound r) {d : Doclet} {see : String} {R : Registry}
    (hR : Sound R) (hG : d.host? = none → G) (h : Later (r.memberReference d see).2 R) :
    (r.memberReference d see).1.Within (Leads G R) := by
  unfold memberReference at h ⊢
  split
  · rename_i hsee
    rw [if_pos hsee] at h
    dsimp only at h ⊢
    have hmark : see.startsWith "#" = true := (Bool.and_eq_true_iff.mp hsee).1
    have hpage : Address.page (Address.page (r.urlFor d).1 ++ see) =
        Address.page (r.hostPage d.host?).1 := by
      rw [Address.page_page_append hmark, page_urlFor]
    refine Html.within_link.mpr ⟨?_, Html.within_text _⟩
    cases hhost : d.host? with
    | none =>
      refine .globals (hG hhost) ?_
      rw [hpage, hhost, hostPage, hs.globalUrl, hR.globalUrl]
      exact hs.page_file hs.globals
    | some host =>
      refine .symbol (h.urls host (r.hostPage d.host?).1 ?_) hpage
      rw [url?, urlFor_urls, hhost]
      exact pageOf_self r host
  · trivial

end

end Registry

/-! ## Inline tags -/

theorem InlineTag.quiet_resolve (r : Registry) (t : InlineTag) :
    Registry.Quiet r (InlineTag.resolve r t).2 := by
  unfold InlineTag.resolve
  split
  · exact Registry.reaches_tutorialLink r _ _
  · split <;> exact .refl

theorem InlineTag.quiet_resolvePieces (r : Registry) (ps : List InlineTag.Piece) :
    Registry.Quiet r (InlineTag.resolvePieces r ps).2 := by
  induction ps generalizing r with
  | nil => exact .refl
  | cons p rest ih =>
    cases p with
    | literal c => exact ih r
    | tag t =>
      have ht := InlineTag.quiet_resolve r t
      rw [InlineTag.resolvePieces]
      split
      · rename_i heq
        rw [heq] at ht
        exact ht
      · rename_i heq
        rw [heq] at ht
        exact ht.trans (ih _)

theorem Registry.quiet_resolveTags (r : Registry) (page : Html) :
    Registry.Quiet r (r.resolveTags page).2 :=
  InlineTag.quiet_resolvePieces r _

section
variable {r r' : Registry} {ps : List InlineTag.Piece} {out : List Char × List String}

theorem InlineTag.resolvePieces_literal_ok {c : Char}
    (h : resolvePieces r (.literal c :: ps) = (.ok out, r')) :
    ∃ rest, resolvePieces r ps = (.ok rest, r') ∧ out = (c :: rest.1, rest.2) := by
  rw [resolvePieces] at h
  obtain ⟨htail, rfl⟩ := Prod.mk.inj h
  cases hrest : resolvePieces r ps with
  | mk tail r₁ =>
    rw [hrest] at htail
    cases tail with
    | error e => cases htail
    | ok tail =>
      cases htail
      exact ⟨tail, rfl, rfl⟩

theorem InlineTag.resolvePieces_tag_ok {t : InlineTag}
    (h : resolvePieces r (.tag t :: ps) = (.ok out, r')) :
    ∃ link r₁ rest, resolve r t = (.ok link, r₁) ∧ resolvePieces r₁ ps = (.ok rest, r') ∧
      out = (link.markup.toList ++ rest.1, link.links ++ rest.2) := by
  rw [resolvePieces] at h
  cases hone : resolve r t with
  | mk first r₁ =>
    rw [hone] at h
    cases first with
    | error e => cases h
    | ok link =>
      obtain ⟨htail, rfl⟩ := Prod.mk.inj h
      cases hrest : resolvePieces r₁ ps with
      | mk tail r₂ =>
        rw [hrest] at htail
        cases tail with
        | error e => cases htail
        | ok tail =>
          cases htail
          exact ⟨link, r₁, tail, rfl, hrest, rfl⟩

end

section
variable {G : Prop} {r r' R : Registry}

theorem InlineTag.within_resolve (hs : Registry.Sound r) {t : InlineTag} {link : Html}
    (h : InlineTag.resolve r t = (.ok link, r')) (hR : Registry.Later r' R) :
    link.Within (Registry.Leads G R) := by
  unfold InlineTag.resolve at h
  split at h
  · obtain ⟨hlink, rfl⟩ := Prod.mk.inj h
    rw [← Except.ok.inj hlink]
    exact Registry.within_tutorialLink hs hR
  · split at h
    · cases h
    · obtain ⟨hlink, rfl⟩ := Prod.mk.inj h
      rw [← Except.ok.inj hlink]
      exact Registry.within_linkTo hR.linksWithin (by simp) _

theorem InlineTag.leads_resolvePieces (hs : Registry.Sound r) {ps : List InlineTag.Piece}
    {cs : List Char} {links : List String} (h : InlineTag.resolvePieces r ps = (.ok (cs, links), r'))
    (hR : Registry.Later r' R) : ∀ a ∈ links, Registry.Leads G R a := by
  induction ps generalizing r r' cs links with
  | nil =>
    cases h
    exact fun _ ha => absurd ha List.not_mem_nil
  | cons p rest ih =>
    cases p with
    | literal c =>
      obtain ⟨tail, hrest, he⟩ := InlineTag.resolvePieces_literal_ok h
      cases he
      exact ih hs hrest hR
    | tag t =>
      obtain ⟨link, r₁, tail, hone, hrest, he⟩ := InlineTag.resolvePieces_tag_ok h
      cases he
      -- What the first tag links is explained after it, hence also after the rest.
      have hstep : Registry.Quiet r r₁ := by
        have hq := InlineTag.quiet_resolve r t
        rwa [hone] at hq
      have hlater : Registry.Quiet r₁ r' := by
        have hq := InlineTag.quiet_resolvePieces r₁ rest
        rwa [hrest] at hq
      refine List.forall_mem_append.mpr ⟨?_, ?_⟩
      · exact InlineTag.within_resolve hs hone (hlater.later.trans hR)
      · exact ih (hstep.weaken.sound hs) hrest hR

theorem Registry.within_resolveTags (hs : Registry.Sound r) {page page' : Html}
    (h : r.resolveTags page = (.ok page', r')) (hR : Registry.Later r' R)
    (hpage : page.Within (Registry.Leads G R)) : page'.Within (Registry.Leads G R) := by
  unfold Registry.resolveTags at h
  obtain ⟨hresult, rfl⟩ := Prod.mk.inj h
  cases hpieces : InlineTag.resolvePieces r (InlineTag.pieces page.markup.toList) with
  | mk result r₁ =>
    rw [hpieces] at hresult hR
    cases result with
    | error e => cases hresult
    | ok result =>
      cases hresult
      have hlinks : ∀ a ∈ result.2, Registry.Leads G R a :=
        InlineTag.leads_resolvePieces hs hpieces hR
      exact List.forall_mem_append.mpr ⟨hpage, hlinks⟩

end

end DocSite
