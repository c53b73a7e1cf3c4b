import DocSite.Proofs.Link.Anchor
import DocSite.Proofs.Link.InPlace
import DocSite.Proofs.Link.Leads

/-! Captions of inline tags. Page text is markup already, so a link takes the caption over as it
stands. A tutorial escapes it a second time, which shows wherever it has a mark to escape. -/
namespace DocSite
set_option autoImplicit false

/-! ## Texts without marks to escape -/

def Html.escapedMarks : List Char := ['&', '<', '>', '"', '\'']

theorem Html.escapeChar_of_not_mem {c : Char} (h : c ∉ escapedMarks) : escapeChar c = [c] := by
  unfold escapeChar
  split
  case h_6 => rfl
  all_goals exact absurd (by decide) h

theorem Html.escapeChar_of_mem {c : Char} (h : c ∈ escapedMarks) : 2 ≤ (escapeChar c).length := by
  simp only [escapedMarks, List.mem_cons, List.not_mem_nil, or_false] at h
  rcases h with rfl | rfl | rfl | rfl | rfl <;> decide

theorem Html.escape_eq_self_iff (cs : List Char) :
    escape cs = cs ↔ ∀ c ∈ cs, c ∉ escapedMarks := by
  induction cs with
  | nil => simp [escape]
  | cons c rest ih =>
    rw [escape_cons, List.forall_mem_cons]
    by_cases hc : c ∈ escapedMarks
    · have hlength := escapeChar_of_mem hc
      have hrest := length_le_escape rest
      refine iff_of_false (fun he => ?_) fun h => h.1 hc
      have he := congrArg List.length he
      rw [List.length_append, List.length_cons] at he
      omega
    · rw [escapeChar_of_not_mem hc, List.singleton_append, List.cons.injEq, ih]
      simp [hc]

/-! ## Resolving up to a tag and from there on -/

namespace InlineTag

section
variable {r r' : Registry} {t : InlineTag} {ps qs : List Piece} {out : List Char × List String}

/-- The pieces in front are resolved first, the others as the registry stands then. -/
theorem resolvePieces_append_ok (h : resolvePieces r (ps ++ qs) = (.ok out, r')) :
    ∃ front r₁ back, resolvePieces r ps = (.ok front, r₁) ∧ resolvePieces r₁ qs = (.ok back, r') ∧
      out = (front.1 ++ back.1, front.2 ++ back.2) := by
  induction ps generalizing r out with
  | nil => exact ⟨([], []), r, out, rfl, h, rfl⟩
  | cons p ps ih =>
    cases p with
    | literal c =>
      obtain ⟨rest, hrest, rfl⟩ := resolvePieces_literal_ok h
      obtain ⟨front, r₁, back, hfront, hback, rfl⟩ := ih hrest
      refine ⟨(c :: front.1, front.2), r₁, back, ?_, hback, rfl⟩
      rw [resolvePieces, hfront]
      rfl
    | tag t =>
      obtain ⟨link, r₂, rest, hlink, hrest, rfl⟩ := resolvePieces_tag_ok h
      obtain ⟨front, r₁, back, hfront, hback, rfl⟩ := ih hrest
      refine ⟨(link.markup.toList ++ front.1, link.links ++ front.2), r₁, back, ?_, hback, ?_⟩
      · rw [resolvePieces, hlink]
        dsimp only
        rw [hfront]
        rfl
      · simp only [List.append_assoc]

/-- Where a tag stands on a page: what is in front of it is resolved first, then the tag becomes its
link, then comes what follows. -/
structure Place (r r' : Registry) (page out : Html) (t : InlineTag) where
  before : List Char
  source : List Char
  after : List Char
  front : Html
  link : Html
  back : Html
  start : Registry
  stop : Registry
  cut : page.markup.toList = before ++ source ++ after
  written : t.Written source
  front_eq : r.resolveTags (.raw (String.ofList before)) = (.ok front, start)
  link_eq : resolve start t = (.ok link, stop)
  back_eq : stop.resolveTags (.raw (String.ofList after)) = (.ok back, r')
  joined : out.markup = front.markup ++ link.markup ++ back.markup

theorem resolveTags_raw {text : List Char} (h : resolvePieces r (pieces text) = (.ok out, r')) :
    r.resolveTags (.raw (String.ofList text)) = (.ok ⟨String.ofList out.1, out.2⟩, r') := by
  rw [Registry.resolveTags, Html.raw, String.toList_ofList, h]
  rfl

theorem exists_place {page resolved : Html} (h : r.resolveTags page = (.ok resolved, r'))
    (ht : .tag t ∈ pieces page.markup.toList) : Nonempty (Place r r' page resolved t) := by
  obtain ⟨before, source, after, hcut, hwritten, hpieces⟩ := mem_pieces ht
  rw [Registry.resolveTags, hpieces] at h
  obtain ⟨hresult, rfl⟩ := Prod.mk.inj h
  cases hall : resolvePieces r (pieces before ++ .tag t :: pieces after) with
  | mk result r₃ =>
    rw [hall] at hresult
    cases result with
    | error e => cases hresult
    | ok all =>
      cases hresult
      obtain ⟨front, r₁, rest, hfront, hrest, rfl⟩ := resolvePieces_append_ok hall
      obtain ⟨link, r₂, back, hlink, hback, rfl⟩ := resolvePieces_tag_ok hrest
      refine ⟨⟨before, source, after, _, link, _, r₁, r₂, hcut, hwritten, resolveTags_raw hfront,
        hlink, resolveTags_raw hback, ?_⟩⟩
      simp only [String.ofList_append, String.ofList_toList, String.append_assoc]

end

end InlineTag

/-! ## Captions in links -/

/-- A caption as it stands in the link of a tag whose text is markup already. -/
def TagKind.dressed (kind : TagKind) (caption : List Char) : String :=
  if kind = .code then "<code>" ++ String.ofList caption ++ "</code>" else String.ofList caption

/-- A caption as the link of a tag shows it. -/
def TagKind.shows (kind : TagKind) (caption : List Char) : String :=
  if kind = .tutorial then String.ofList (Html.escape caption) else kind.dressed caption

theorem TagKind.shows_eq_dressed_iff (kind : TagKind) (caption : List Char) :
    kind.shows caption = kind.dressed caption ↔
      (kind = .tutorial → ∀ c ∈ caption, c ∉ Html.escapedMarks) := by
  unfold shows
  by_cases hk : kind = .tutorial
  · subst hk
    rw [if_pos rfl, ← Html.escape_eq_self_iff]
    simp [dressed, String.ofList_inj]
  · simp [hk]

/-- The markup that a link of a kind goes around. -/
def TagKind.around (kind : TagKind) (text : List Char) : Html :=
  if kind == .code then .element "code" [] (.raw (String.ofList text))
  else .raw (String.ofList text)

theorem TagKind.markup_around (kind : TagKind) (text : List Char) :
    (kind.around text).markup = kind.dressed text := by
  have hopen : "<code>" = "<" ++ "code" ++ ">" := rfl
  have hclose : "</code>" = "</" ++ "code" ++ ">" := rfl
  unfold around dressed
  rw [hopen, hclose]
  cases kind <;>
    simp only [Html.element, Html.each, Html.concat, Html.raw, Html.empty, Html.markup_append,
      List.map_nil, String.append_empty, String.append_assoc, beq_self_eq_true, if_true] <;>
    rfl

theorem TagKind.isEmpty_around (kind : TagKind) {text : List Char} (h : text ≠ []) :
    (kind.around text).isEmpty = false := by
  rw [Html.isEmpty, markup_around]
  cases kind <;> simp [dressed, h]

theorem Registry.markup_tutorialLink {r : Registry} {name title : String}
    (h : r.tutorials.get? name = some title) (label : Option String) :
    (r.tutorialLink name label).1.markup = anchorText (r.tutorialUrl name).1 ""
      (Html.text ((label.filter (· != "")).getD title)).markup := by
  unfold tutorialLink
  rw [h]
  exact Html.markup_link _ _

namespace InlineTag

/-- The registry knows where a tag leads. -/
inductive Known (r : Registry) (t : InlineTag) : Prop where
  | tutorial (kind : t.kind = .tutorial)
      (title : (r.tutorials.get? (String.ofList (Text.trim t.content))).isSome)
  | link (kind : t.kind ≠ .tutorial) (name label : List Char)
      (split : splitContent t.content = .ok (name, label))
      (address : r.HasAddress (String.ofList name))

section
variable {r r' : Registry} {t : InlineTag} {caption : List Char}

theorem Known.of_quiet (h : t.Known r) (hq : Registry.Quiet r r') : t.Known r' := by
  have hurls := hq.urls_eq
  have htutorials := hq.tutorials_eq
  cases h with
  | tutorial kind title => exact .tutorial kind (htutorials ▸ title)
  | link kind name label split address =>
    apply Known.link kind name label split
    unfold Registry.HasAddress Registry.url? at address ⊢
    rwa [hurls]

theorem resolve_tutorial (hk : t.kind = .tutorial) :
    resolve r t = (.ok (r.tutorialLink (String.ofList (Text.trim t.content))
      (t.caption.map String.ofList)).1, (r.tutorialLink (String.ofList (Text.trim t.content))
        (t.caption.map String.ofList)).2) := by
  unfold resolve
  rw [hk]

theorem resolve_link {name label : List Char} (hk : t.kind ≠ .tutorial)
    (hsplit : splitContent t.content = .ok (name, label)) :
    resolve r t = (.ok (r.linkTo (some (String.ofList name))
      (t.kind.around (firstOf t.caption label name))), r) := by
  unfold resolve
  cases hkind : t.kind with
  | tutorial => exact absurd hkind hk
  | link | code | plain =>
    dsimp only
    rw [hsplit]
    rfl

theorem resolve_known (hknown : t.Known r) (hcaption : t.caption = some caption)
    (hne : caption ≠ []) : ∃ link r' address, resolve r t = (.ok link, r') ∧
      link.markup = anchorText address "" (t.kind.shows caption) := by
  cases hknown with
  | tutorial hk title =>
    obtain ⟨title, htitle⟩ := Option.isSome_iff_exists.mp title
    refine ⟨_, _, (r.tutorialUrl (String.ofList (Text.trim t.content))).1, resolve_tutorial hk, ?_⟩
    have hlabel : ((some caption).map String.ofList).filter (· != "") =
        some (String.ofList caption) := by
      simp [hne]
    rw [Registry.markup_tutorialLink htitle, hcaption, hlabel, TagKind.shows, if_pos hk, Html.text]
    simp only [Option.getD_some, String.toList_ofList]
  | link hk name label split address =>
    have hfirst : firstOf t.caption label name = caption := by
      simp [firstOf, hcaption, hne]
    obtain ⟨address, he⟩ := Registry.linkTo_of_hasAddress address (t.kind.isEmpty_around hne)
    refine ⟨_, r, address, resolve_link hk split, ?_⟩
    rw [hfirst, he, TagKind.shows, if_neg hk, TagKind.markup_around]

end

end InlineTag

/-- A tag that leads somewhere becomes a link around its caption, alone and on every page that can
be resolved. The caption is the one on the page, but for the captions of tutorials that have a mark
to escape. -/
theorem Registry.captions_kept_iff {r : Registry} {t : InlineTag} {caption : List Char}
    (hcaption : t.caption = some caption) (hknown : t.Known r) :
    (∀ source, t.Written source →
      ∃ out, (r.resolveTags (.raw (String.ofList source))).1 = .ok out) ∧
    ∀ page out r', r.resolveTags page = (.ok out, r') →
      .tag t ∈ InlineTag.pieces page.markup.toList →
        ∃ (place : InlineTag.Place r r' page out t) (address : String),
          place.link.markup = anchorText address "" (t.kind.shows caption) ∧
          (place.link.markup = anchorText address "" (t.kind.dressed caption) ↔
            (t.kind = .tutorial → ∀ c ∈ caption, c ∉ Html.escapedMarks)) := by
  refine ⟨fun source hwritten => ?_, fun page out r' h ht => ?_⟩
  · obtain ⟨link, r', _, hlink, _⟩ :=
      InlineTag.resolve_known hknown hcaption (hwritten.caption caption hcaption).1
    have hread : InlineTag.read? source = some (t, []) :=
      InlineTag.read?_eq_some_iff.mpr ⟨source, hwritten, (List.append_nil source).symm⟩
    refine ⟨⟨String.ofList (link.markup.toList ++ []), link.links ++ []⟩, ?_⟩
    rw [resolveTags, Html.raw, String.toList_ofList, InlineTag.pieces_of_read? hread,
      InlineTag.resolvePieces, hlink]
    rfl
  · obtain ⟨place⟩ := InlineTag.exists_place h ht
    have hq : Quiet r place.start := by
      have hfront := quiet_resolveTags r (.raw (String.ofList place.before))
      rwa [place.front_eq] at hfront
    obtain ⟨link, _, address, hlink, hmarkup⟩ := InlineTag.resolve_known (hknown.of_quiet hq)
      hcaption (place.written.caption caption hcaption).1
    have hsame : place.link = link := by
      have he := congrArg Prod.fst (place.link_eq.symm.trans hlink)
      exact Except.ok.inj he
    refine ⟨place, address, hsame ▸ hmarkup, ?_⟩
    rw [hsame, hmarkup, anchorText_inj, t.kind.shows_eq_dressed_iff]

/-- A caption of a tutorial that is escaped on the page is escaped once more in the link. -/
theorem Registry.tutorialCaption_escaped_twice :
    ((initial.addTutorial "t" "T").resolveTags (.raw "[a &amp; b]{@tutorial t}")).1.toOption.map
        Html.markup = some "<a href=\"tutorial-t.html\">a &amp;amp; b</a>" ∧
      ∀ out r', (initial.addTutorial "t" "T").resolveTags (.raw "[a &amp; b]{@tutorial t}") =
          (.ok out, r') →
        ∃ (place : InlineTag.Place (initial.addTutorial "t" "T") r'
            (.raw "[a &amp; b]{@tutorial t}") out ⟨some "a &amp; b".toList, .tutorial, "t".toList⟩) (address : String),
          place.link.markup ≠ anchorText address "" "a &amp; b" := by
  refine ⟨by decide +kernel, fun out r' hout => ?_⟩
  have hkept := captions_kept_iff (r := initial.addTutorial "t" "T")
    (t := ⟨some "a &amp; b".toList, .tutorial, "t".toList⟩) rfl (.tutorial rfl (by decide +kernel))
  obtain ⟨place, address, -, hiff⟩ := hkept.2 _ out r' hout (by decide +kernel)
  refine ⟨place, address, fun h => ?_⟩
  exact hiff.mp h rfl '&' (by decide) (by decide)

end DocSite
