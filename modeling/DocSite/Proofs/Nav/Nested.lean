import DocSite.Proofs.Doclet.Sorted
import DocSite.Proofs.Link.Nested
import DocSite.Proofs.Nav.Parts
import DocSite.Proofs.Publish.Setup

/-! The sidebar is properly nested, whatever the doclets, the tutorials and the menu are called.
Its tags are fixed, and each text and each attribute in it is written out or is one whole field of
what it lists, escaped. -/
namespace DocSite
set_option autoImplicit false

/-! ## The markup of trees -/

/-- The vocabulary has the tags of trees and the blanks between them. -/
structure Vocabulary.HasMenu (V : Vocabulary) : Prop where
  heading : "h3" ∈ V.tags
  list : "ul" ∈ V.tags
  entry : "li" ∈ V.tags
  blank : ∀ t : String, (∀ c ∈ t.toList, c = ' ' ∨ c = '\n') → V.allowsText t

/-- The vocabulary has what a group is headed by. -/
def Vocabulary.AllowsGroup (V : Vocabulary) (title : String) (css : Option String) : Prop :=
  V.allowsText title ∧ ∀ c, css = some c → V.allowsAttribute "class" c

/-- The vocabulary has the data attributes of a doclet. -/
structure Vocabulary.AllowsData (V : Vocabulary) (d : Doclet) : Prop where
  kind : V.allowsAttribute "data-kind" d.kind
  access : ∀ access, d.access = some access → V.allowsAttribute "data-access" access
  async : V.allowsAttribute "data-async" "true"

/-- What is shown of an item is in the vocabulary. -/
def Vocabulary.AllowsItem (V : Vocabulary) (link : Html) (doclet : Option Doclet) : Prop :=
  link.Nested V ∧ ∀ d, doclet = some d → V.AllowsData d

/-- All that a tree shows is in the vocabulary. -/
abbrev Vocabulary.AllowsTree (V : Vocabulary) (g : NavGroup) : Prop :=
  g.Each V.AllowsGroup V.AllowsItem

abbrev Vocabulary.AllowsDetails (V : Vocabulary) (details : List NavGroup) : Prop :=
  NavGroup.EachDetail V.AllowsGroup V.AllowsItem details

namespace Menu

section
variable {V : Vocabulary}

theorem isPlain_of_blank {t : String} (h : ∀ c ∈ t.toList, c = ' ' ∨ c = '\n') :
    Html.isPlain t = true := by
  refine Html.isPlain_iff.mpr fun c hc => ?_
  rcases h c hc with rfl | rfl <;> rfl

theorem nested_blank (hV : V.HasMenu) {t : String} (h : ∀ c ∈ t.toList, c = ' ' ∨ c = '\n') :
    (Html.raw t).Nested V :=
  Html.nested_raw (isPlain_of_blank h) (hV.blank t h)

theorem nested_indent (hV : V.HasMenu) (level : Int) : (indent level).Nested V := by
  refine nested_blank hV fun c hc => ?_
  rw [String.toList_ofList, List.mem_replicate] at hc
  exact .inl hc.2

theorem nested_newline (hV : V.HasMenu) : (Html.raw "\n").Nested V :=
  nested_blank hV fun _ hc => .inr (List.mem_singleton.mp hc)

theorem nested_line (hV : V.HasMenu) {h : Html} (hn : h.Nested V) (level : Int) :
    (line level h).Nested V :=
  ((nested_indent hV level).append hn).append (nested_newline hV)

/-- A tag that is opened on one line and closed on another one. -/
theorem nested_lines (hV : V.HasMenu) {opening body closing attributes : Html} {tag : String}
    (htag : tag ∈ V.tags) (hattributes : attributes.IsAttributes V)
    (ho : opening.markup = "<" ++ tag ++ attributes.markup ++ ">") (hbody : body.Nested V)
    (hc : closing.markup = Html.closeTag tag) (level : Int) :
    (line level opening ++ body ++ line level closing).Nested V := by
  -- The end of the first line and the indentation of the last one stand inside the tag.
  have hinner : (Html.raw "\n" ++ body ++ indent level).Nested V :=
    ((nested_newline hV).append hbody).append (nested_indent hV level)
  have htagged : (opening ++ (Html.raw "\n" ++ body ++ indent level) ++ closing).Nested V :=
    Html.nested_between htag hattributes ho hinner hc
  have h := ((nested_indent hV level).append htagged).append (nested_newline hV)
  simpa only [line, Html.append_assoc] using h

theorem isAttributes_dataAttribute {name value : String}
    (hname : Html.isPlain ("data-" ++ name) = true)
    (h : value ≠ "" → V.allowsAttribute ("data-" ++ name) value) :
    (dataAttribute name value).IsAttributes V := by
  unfold dataAttribute
  split
  · exact Html.isAttributes_empty
  · rename_i hvalue
    exact Html.isAttributes_attr hname (h fun e => hvalue (by rw [e]; rfl))

theorem isAttributes_dataAttributes {d : Doclet} (hd : V.AllowsData d) :
    (dataAttributes d).IsAttributes V := by
  have hkind : (dataAttribute "kind" d.kind).IsAttributes V :=
    isAttributes_dataAttribute (by decide) fun _ => hd.kind
  have haccess : (dataAttribute "access" (d.access.getD "")).IsAttributes V := by
    refine isAttributes_dataAttribute (by decide) fun hne => ?_
    cases ha : d.access with
    | none =>
      rw [ha] at hne
      exact absurd rfl hne
    | some access => exact hd.access access ha
  have hasync : (dataAttribute "async" (if d.isAsync then "true" else "")).IsAttributes V := by
    refine isAttributes_dataAttribute (by decide) fun hne => ?_
    cases hc : d.isAsync with
    | true => exact hd.async
    | false =>
      rw [hc] at hne
      exact absurd rfl hne
  exact (hkind.append haccess).append hasync

theorem nested_heading (hV : V.HasMenu) {title : String} (htitle : V.allowsText title)
    (level : Int) : (heading level title).Nested V := by
  have htag : (if level == 0 then "h3" else "li") ∈ V.tags := by
    split
    · exact hV.heading
    · exact hV.entry
  unfold heading
  split
  · exact Html.nested_empty
  · refine nested_lines hV htag Html.isAttributes_empty ?_
      (nested_line hV (Html.nested_text htitle) (level + 1)) rfl level
    simp only [Html.markup_append, Html.raw, Html.empty, String.append_empty]

theorem nested_frame (hV : V.HasMenu) {title : String} {css : Option String}
    (hgroup : V.AllowsGroup title css) {body : Html} (hbody : body.Nested V) (level : Int)
    (skipEmpty hasItems : Bool) : (frame level skipEmpty title css hasItems body).Nested V := by
  have hlist : ∀ mark : Html, mark.IsAttributes V →
      (heading level title ++ line level (.raw "<ul" ++ mark ++ .raw ">") ++ body ++
        line level (.raw "</ul>")).Nested V := by
    intro mark hmark
    have hbox : (line level (.raw "<ul" ++ mark ++ .raw ">") ++ body ++
        line level (.raw "</ul>")).Nested V :=
      nested_lines hV hV.list hmark rfl hbody rfl level
    have h := (nested_heading hV hgroup.1 level).append hbox
    simpa only [Html.append_assoc] using h
  unfold frame
  split
  · exact Html.nested_empty
  · split
    · exact hbody
    · dsimp only
      split
      · rename_i c hc
        obtain ⟨hcss, -⟩ := Option.filter_eq_some_iff.mp hc
        exact hlist _ (Html.isAttributes_attr (by decide) (hgroup.2 c hcss))
      · exact hlist _ Html.isAttributes_empty

mutual

theorem nested_render (hV : V.HasMenu) (skipEmpty : Bool) (level : Int) :
    ∀ {g : NavGroup}, g.Each V.AllowsGroup V.AllowsItem → (render skipEmpty level g).Nested V
  | ⟨title, children, items, css⟩, h => by
    rw [NavGroup.Each] at h
    have hbody := (nested_renderItems hV skipEmpty level h.2.2).append
      (nested_renderChildren hV skipEmpty (level + 1) h.2.1)
    rw [render]
    exact nested_frame hV h.1 hbody level skipEmpty _

theorem nested_renderChildren (hV : V.HasMenu) (skipEmpty : Bool) (level : Int) :
    ∀ {children : List (String × NavGroup)},
      NavGroup.EachChild V.AllowsGroup V.AllowsItem children →
        (renderChildren skipEmpty level children).Nested V
  | [], _ => by
    rw [renderChildren]
    exact Html.nested_empty
  | (_, g) :: rest, h => by
    rw [NavGroup.EachChild] at h
    rw [renderChildren]
    exact (nested_render hV skipEmpty level h.1).append
      (nested_renderChildren hV skipEmpty level h.2)

theorem nested_renderItems (hV : V.HasMenu) (skipEmpty : Bool) (level : Int) :
    ∀ {items : List NavItem}, NavGroup.EachItem V.AllowsGroup V.AllowsItem items →
      (renderItems skipEmpty level items).Nested V
  | [], _ => by
    rw [renderItems]
    exact Html.nested_empty
  | ⟨link, doclet, details⟩ :: rest, h => by
    rw [NavGroup.EachItem] at h
    have hdata : ((doclet.map dataAttributes).getD .empty).IsAttributes V := by
      cases hd : doclet with
      | none => exact Html.isAttributes_empty
      | some d => exact isAttributes_dataAttributes (h.1.2 d hd)
    have hbody := (nested_line hV h.1.1 (level + 2)).append
      (nested_renderDetails hV skipEmpty (level + 2) h.2.1)
    have hitem : (line (level + 1) (.raw "<li" ++ (doclet.map dataAttributes).getD .empty ++
        .raw ">") ++ (line (level + 2) link ++ renderDetails skipEmpty (level + 2) details) ++
        line (level + 1) (.raw "</li>")).Nested V :=
      nested_lines hV hV.entry hdata rfl hbody rfl (level + 1)
    have hall := hitem.append (nested_renderItems hV skipEmpty level h.2.2)
    rw [renderItems]
    simpa only [Html.append_assoc] using hall

theorem nested_renderDetails (hV : V.HasMenu) (skipEmpty : Bool) (level : Int) :
    ∀ {details : List NavGroup}, NavGroup.EachDetail V.AllowsGroup V.AllowsItem details →
      (renderDetails skipEmpty level details).Nested V
  | [], _ => by
    rw [renderDetails]
    exact Html.nested_empty
  | g :: rest, h => by
    rw [NavGroup.EachDetail] at h
    rw [renderDetails]
    exact (nested_render hV skipEmpty level h.1).append
      (nested_renderDetails hV skipEmpty level h.2)

end

end

end Menu

/-! ## What the sidebar shows -/

/-- The texts that the sidebar shows of a doclet. -/
def Doclet.navTexts (settings : Settings) (d : Doclet) : List String :=
  [d.name, unquoted d.name, d.navLabel settings, unquoted (d.navLabel settings),
    d.longnameOrEmpty, Registry.withoutBrackets d.longnameOrEmpty]

/-- The headings of the groups that a doclet is listed under. -/
def Doclet.navHeadings (settings : Settings) (d : Doclet) : List String :=
  NavGroup.slugsFrom "" (splitPath (displayName settings.listByLongname d)).1

theorem Doclet.mem_navHeadings_of_navPath {settings : Settings} {d : Doclet} {title : String}
    (h : title ∈ NavGroup.slugsFrom "" (d.navPath settings)) : title ∈ d.navHeadings settings := by
  unfold navPath at h
  split at h
  · exact h
  · cases h

namespace Sidebar

/-- The texts of a sidebar before they are escaped. -/
inductive Shown (s : Store) (settings : Settings) (tutorials : List Tutorial) (r : Registry) :
    String → Prop where
  | blank {t : String} : (∀ c ∈ t.toList, c = ' ' ∨ c = '\n') → Shown s settings tutorials r t
  | word {t : String} : t ∈ ["Home", "Global", "Tutorial: "] → Shown s settings tutorials r t
  | title (section_ : Section) : Shown s settings tutorials r section_.title
  | menu {m : String × List (String × String)} : m ∈ settings.menu →
      Shown s settings tutorials r m.1
  | doclet {d : Doclet} {t : String} : d ∈ s.doclets → t ∈ d.navTexts settings →
      Shown s settings tutorials r t
  | heading {d : Doclet} {t : String} : d ∈ s.doclets → t ∈ d.navHeadings settings →
      Shown s settings tutorials r t
  | tutorial {t : Tutorial} : t ∈ tutorials → Shown s settings tutorials r t.name
  | tutorialTitle {name title : String} : r.tutorials.get? name = some title →
      Shown s settings tutorials r title

/-- The attributes in a sidebar before they are escaped. -/
inductive Marked (s : Store) (settings : Settings) : String → String → Prop where
  | address (address : String) : Marked s settings "href" address
  | style {css : String} : css ∈ ["members", "methods", "disabled"] → Marked s settings "class" css
  | kind {d : Doclet} : d ∈ s.doclets → Marked s settings "data-kind" d.kind
  | access {d : Doclet} {access : String} : d ∈ s.doclets → d.access = some access →
      Marked s settings "data-access" access
  | async : Marked s settings "data-async" "true"
  | menu {m : String × List (String × String)} {a : String × String} : m ∈ settings.menu →
      a ∈ m.2 → Marked s settings a.1 a.2

/-- The vocabulary of a sidebar. -/
def vocabulary (s : Store) (settings : Settings) (tutorials : List Tutorial) (r : Registry) :
    Vocabulary :=
  ⟨["h2", "h3", "ul", "li", "a", "em"], Shown s settings tutorials r, Marked s settings⟩

section
variable {s : Store} {settings : Settings} {tutorials : List Tutorial} {R : Registry}

theorem vocabulary_hasLinks : (vocabulary s settings tutorials R).HasLinks :=
  ⟨by simp [vocabulary], Marked.address⟩

theorem vocabulary_hasMenu : (vocabulary s settings tutorials R).HasMenu :=
  ⟨by simp [vocabulary], by simp [vocabulary], by simp [vocabulary], fun _ => Shown.blank⟩

theorem allowsData_of_mem {d : Doclet} (hd : d ∈ s.doclets) :
    (vocabulary s settings tutorials R).AllowsData d :=
  ⟨.kind hd, fun _ => .access hd, .async⟩

theorem shown_empty : Shown s settings tutorials R "" :=
  .blank (fun _ hc => absurd hc List.not_mem_nil)

theorem nested_linkTo {d : Doclet} (hd : d ∈ s.doclets) (r : Registry) {name : Option String}
    (hname : name.getD "" = "" ∨ name.getD "" = d.longnameOrEmpty) {label : String}
    (hlabel : label ∈ d.navTexts settings) :
    (r.linkTo name (.text label)).Nested (vocabulary s settings tutorials R) := by
  have hshown : ∀ {t}, t ∈ d.navTexts settings →
      (vocabulary s settings tutorials R).allowsText t := fun ht => Shown.doclet hd ht
  have hnothing : (vocabulary s settings tutorials R).allowsText "" := shown_empty
  refine Registry.nested_linkTo vocabulary_hasLinks r (Html.nested_text (hshown hlabel)) ?_ ?_
  · rcases hname with he | he
    · rwa [he]
    · rw [he]
      exact hshown (by simp [Doclet.navTexts])
  · rcases hname with he | he
    · rw [he]
      exact hnothing
    · rw [he]
      exact hshown (by simp [Doclet.navTexts])

/-! ## Building trees -/

/-- How an entry may be linked: under a longname with the label, or without one under its name. -/
def linkings (settings : Settings) : NavEntry → List (String × String)
  | .symbol d => [("", d.name), (d.longnameOrEmpty, d.navLabel settings)]
  | .page name => [("", name)]

theorem nested_linkOf {section_ : Section} {entry : NavEntry}
    (hentry : entry ∈ entriesOf s tutorials section_) (r : Registry) (longname label : String)
    (hr : r.tutorials = R.tutorials)
    (hlinking : (longname, label) ∈ linkings settings entry) :
    (linkOf section_ r longname label).1.Nested (vocabulary s settings tutorials R) := by
  have hsymbol : ∀ kind, entry ∈ (s.ofKind kind).map NavEntry.symbol →
      (LinkMaker.symbol r longname label).1.Nested (vocabulary s settings tutorials R) ∧
      (LinkMaker.symbol r longname (unquoted label)).1.Nested
        (vocabulary s settings tutorials R) := by
    intro kind hmem
    obtain ⟨d, hd, rfl⟩ := List.mem_map.mp hmem
    have hd : d ∈ s.doclets := List.mem_of_mem_filter hd
    have hlinking : (longname = "" ∧ label = d.name) ∨
        (longname = d.longnameOrEmpty ∧ label = d.navLabel settings) := by
      simpa [linkings] using hlinking
    have hname : (some longname).getD "" = "" ∨ (some longname).getD "" = d.longnameOrEmpty :=
      hlinking.imp And.left And.left
    have hlabels : label ∈ d.navTexts settings ∧ unquoted label ∈ d.navTexts settings := by
      rcases hlinking with ⟨-, rfl⟩ | ⟨-, rfl⟩ <;> simp [Doclet.navTexts]
    simp only [LinkMaker.symbol]
    exact ⟨nested_linkTo hd r hname hlabels.1, nested_linkTo hd r hname hlabels.2⟩
  cases section_ with
  | tutorials =>
    obtain ⟨t, ht, rfl⟩ := List.mem_map.mp hentry
    have hlabel : label = t.name := by
      have hlinking : longname = "" ∧ label = t.name := by simpa [linkings] using hlinking
      exact hlinking.2
    rw [hlabel]
    change (r.tutorialLink t.name none).1.Nested (vocabulary s settings tutorials R)
    refine Registry.nested_tutorialLink vocabulary_hasLinks (by simp [vocabulary])
      (Marked.style (by decide)) (Shown.word (by decide)) (Shown.tutorial ht) fun title htitle => ?_
    rw [hr] at htitle
    exact Shown.tutorialTitle htitle
  | externals => exact (hsymbol _ hentry).2
  | _ => exact (hsymbol _ hentry).1

end

end Sidebar

/-! ## The members of a symbol -/

section
variable {s : Store} {settings : Settings} {tutorials : List Tutorial} {R : Registry}

theorem Query.mem_of_select {q : Query} {ds found : List Doclet} (h : q.select ds = .ok found)
    {d : Doclet} (hd : d ∈ found) : d ∈ ds := by
  induction ds generalizing found with
  | nil =>
    cases h
    cases hd
  | cons first rest ih =>
    rw [select] at h
    split at h
    · cases h
    · split at h
      · cases h
      · rename_i keep _ later hlater
        cases h
        split at hd
        · rcases List.mem_cons.mp hd with rfl | hd
          · exact List.mem_cons_self
          · exact List.mem_cons_of_mem _ (ih hlater hd)
        · exact List.mem_cons_of_mem _ (ih hlater hd)

theorem Query.mem_of_selectOf {q : Option Query} {ds found : List Doclet}
    (h : Query.selectOf q ds = .ok found) {d : Doclet} (hd : d ∈ found) : d ∈ ds := by
  cases q with
  | none =>
    cases h
    exact hd
  | some q => exact mem_of_select h hd

namespace NavGroup

theorem each_detailsOfKind {r : Registry} {members : List Doclet}
    (hmembers : ∀ d ∈ members, d ∈ s.doclets) (kind : String) {css : String}
    (hcss : css ∈ ["members", "methods", "disabled"]) :
    (Sidebar.vocabulary s settings tutorials R).AllowsDetails
      (detailsOfKind r members kind css) := by
  unfold detailsOfKind
  split
  · trivial
  · rw [Vocabulary.AllowsDetails, EachDetail, Each]
    refine ⟨⟨⟨Sidebar.shown_empty, fun c hc => ?_⟩, trivial, eachItem_map fun d hd => ?_⟩, trivial⟩
    · rw [← Option.some.inj hc]
      exact Sidebar.Marked.style hcss
    · have hd : d ∈ s.doclets := hmembers d (List.mem_of_mem_filter hd)
      refine ⟨Sidebar.nested_linkTo hd r (.inr rfl) (by simp [Doclet.navTexts]), fun e he => ?_⟩
      rw [← Option.some.inj he]
      exact Sidebar.allowsData_of_mem hd

theorem each_detailsOf {r : Registry} {longname : String} {details : List NavGroup}
    (h : detailsOf s settings r longname = .ok details) :
    (Sidebar.vocabulary s settings tutorials R).AllowsDetails details := by
  unfold detailsOf at h
  dsimp only at h
  split at h
  · cases h
  · rename_i chosen hchosen
    cases h
    have hmembers : ∀ d ∈ orderByText settings.detailsOrder chosen, d ∈ s.doclets := by
      intro d hd
      have hd : d ∈ chosen := (orderBy_perm _ _).mem_iff.mp hd
      exact List.mem_of_mem_filter (Query.mem_of_selectOf hchosen hd)
    exact eachDetail_append (each_detailsOfKind hmembers "member" (by decide))
      (each_detailsOfKind hmembers "function" (by decide))

theorem each_shownDetails {r : Registry} {longname : String} {details : List NavGroup}
    (h : shownDetails s settings r longname = .ok details) :
    (Sidebar.vocabulary s settings tutorials R).AllowsDetails details := by
  unfold shownDetails at h
  split at h
  · exact each_detailsOf h
  · cases h
    trivial

variable {link : LinkMaker}

/-- The step lemma: the link of the entry is properly nested, the groups on its path are headed by
prefixes of its name, and the lists under it are those of doclets. -/
theorem Added.each {entry : NavEntry}
    (hlink : ∀ r longname label, r.tutorials = R.tutorials →
      (longname, label) ∈ Sidebar.linkings settings entry →
        (link r longname label).1.Nested (Sidebar.vocabulary s settings tutorials R))
    (hentry : ∀ d, entry = .symbol d → d ∈ s.doclets) {g g' : NavGroup} {state state' : NavState}
    (hr : state.registry.tutorials = R.tutorials)
    (hg : (Sidebar.vocabulary s settings tutorials R).AllowsTree g)
    (h : Added s settings link g state entry g' state') :
    (Sidebar.vocabulary s settings tutorials R).AllowsTree g' := by
  cases h with
  | named _ _ =>
    have hlinking : ("", entry.name) ∈ Sidebar.linkings settings entry := by
      cases entry <;> simp [Sidebar.linkings, NavEntry.name]
    exact hg.insertFrom ⟨⟨hlink _ _ _ hr hlinking, fun _ he => by cases he⟩, trivial, trivial⟩
      fun _ ht => absurd ht List.not_mem_nil
  | seen _ _ => exact hg
  | listed hne hseen hdetails =>
    rename_i d _
    have hd := hentry d rfl
    have hlinking : (d.longnameOrEmpty, d.navLabel settings) ∈
        Sidebar.linkings settings (.symbol d) := by simp [Sidebar.linkings]
    refine hg.insertFrom ⟨⟨hlink _ _ _ hr hlinking, fun e he => ?_⟩, each_shownDetails hdetails, trivial⟩
      fun title ht => ?_
    · rw [← Option.some.inj he]
      exact Sidebar.allowsData_of_mem hd
    · exact ⟨Sidebar.Shown.heading hd (Doclet.mem_navHeadings_of_navPath ht), fun _ hc => by cases hc⟩

theorem each_addEntries {entries : List NavEntry}
    (hlink : ∀ entry ∈ entries, ∀ r longname label,
      r.tutorials = R.tutorials → (longname, label) ∈ Sidebar.linkings settings entry →
        (link r longname label).1.Nested (Sidebar.vocabulary s settings tutorials R))
    (hquiet : ∀ r longname label, Registry.Quiet r (link r longname label).2)
    (hentries : ∀ d, .symbol d ∈ entries → d ∈ s.doclets) {g g' : NavGroup}
    {state state' : NavState} (h : addEntries s settings link g state entries = .ok (g', state'))
    (hr : state.registry.tutorials = R.tutorials)
    (hg : (Sidebar.vocabulary s settings tutorials R).AllowsTree g) :
    (Sidebar.vocabulary s settings tutorials R).AllowsTree g' := by
  induction entries generalizing g state with
  | nil =>
    cases h
    exact hg
  | cons entry rest ih =>
    obtain ⟨g₁, state₁, hentry, hrest⟩ := addEntries_cons_ok h
    have hr₁ : state₁.registry.tutorials = R.tutorials := by
      rw [(hentry.quiet hquiet).tutorials_eq, hr]
    have hd : ∀ d, entry = .symbol d → d ∈ s.doclets :=
      fun d he => hentries d (he ▸ List.mem_cons_self)
    have hg₁ := hentry.each (hlink entry List.mem_cons_self) hd hr hg
    exact ih (fun e he => hlink e (List.mem_cons_of_mem _ he))
      (fun d hd => hentries d (List.mem_cons_of_mem _ hd)) hrest hr₁ hg₁

end NavGroup

namespace Sidebar

theorem mem_of_symbol_mem_entriesOf {section_ : Section} {d : Doclet}
    (h : NavEntry.symbol d ∈ entriesOf s tutorials section_) : d ∈ s.doclets := by
  have hsymbol : ∀ kind, NavEntry.symbol d ∈ (s.ofKind kind).map NavEntry.symbol →
      d ∈ s.doclets := by
    intro kind hmem
    obtain ⟨e, he, heq⟩ := List.mem_map.mp hmem
    cases heq
    exact List.mem_of_mem_filter he
  cases section_ with
  | tutorials =>
    obtain ⟨t, -, ht⟩ := List.mem_map.mp h
    cases ht
  | _ => exact hsymbol _ h

theorem each_buildTrees {sections : List Section} {state state' : NavState}
    {trees : List (Section × NavGroup)}
    (h : buildTrees s settings tutorials state sections = .ok (trees, state'))
    (hr : state.registry.tutorials = R.tutorials) :
    ∀ p ∈ trees, (vocabulary s settings tutorials R).AllowsTree p.2 := by
  induction sections generalizing state trees with
  | nil =>
    cases h
    exact fun _ hp => absurd hp List.not_mem_nil
  | cons section_ rest ih =>
    obtain ⟨tree, after, later, hbuild, hrest, rfl⟩ := buildTrees_cons_ok h
    have hempty : (vocabulary s settings tutorials R).AllowsTree { heading := section_.title } :=
      ⟨⟨Shown.title section_, fun _ hc => by cases hc⟩, trivial, trivial⟩
    have htree := NavGroup.each_addEntries (fun _ => nested_linkOf)
      (quiet_linkOf section_) (fun _ hd => mem_of_symbol_mem_entriesOf hd) hbuild hr hempty
    have hafter : after.registry.tutorials = R.tutorials := by
      rw [(NavGroup.quiet_addEntries (quiet_linkOf section_) hbuild).tutorials_eq]
      exact hr
    exact List.forall_mem_cons.mpr ⟨htree, ih hrest hafter⟩

/-! ## The sidebar -/

theorem linkedGlobals_subset {listTypedefs : Bool} {seen : List String} {ds : List Doclet}
    {d : Doclet} (h : d ∈ linkedGlobals listTypedefs seen ds) : d ∈ ds := by
  induction ds generalizing seen with
  | nil => cases h
  | cons first rest ih =>
    rw [linkedGlobals] at h
    dsimp only at h
    split at h
    · exact List.mem_cons_of_mem _ (ih h)
    · split at h
      · rcases List.mem_cons.mp h with rfl | h
        · exact List.mem_cons_self
        · exact List.mem_cons_of_mem _ (ih h)
      · exact List.mem_cons_of_mem _ (ih h)

theorem nested_tag {tag : String} (htag : tag ∈ ["h2", "h3", "ul", "li", "a", "em"]) {body : Html}
    (hbody : body.Nested (vocabulary s settings tutorials R)) :
    (Html.element tag [] body).Nested (vocabulary s settings tutorials R) :=
  Html.nested_element htag Html.isAttributes_empty hbody

theorem nested_word {t : String} (ht : t ∈ ["Home", "Global", "Tutorial: "]) :
    (Html.raw t).Nested (vocabulary s settings tutorials R) := by
  have hplain : ∀ t ∈ ["Home", "Global", "Tutorial: "], Html.isPlain t = true := by decide
  exact Html.nested_raw (hplain t ht) (Shown.word ht)

theorem nested_globalsPart (r : Registry) (seen : List String) :
    (globalsPart r settings seen s.globals).Nested (vocabulary s settings tutorials R) := by
  unfold globalsPart
  split
  · exact Html.nested_empty
  · split
    · exact nested_tag (by decide)
        (Registry.nested_link vocabulary_hasLinks r.globalUrl (nested_word (by decide)))
    · refine (nested_tag (by decide) (nested_word (by decide))).append
        (nested_tag (by decide) (Html.nested_each fun d hd => nested_tag (by decide) ?_))
      have hd : d ∈ s.doclets := List.mem_of_mem_filter (linkedGlobals_subset hd)
      exact nested_linkTo hd r (.inr rfl) (by simp [Doclet.navTexts])

/-- A link of the menu has a blank after each attribute, so one blank is left before the
bracket. -/
theorem menuAttributes_append (attributes : List (String × String)) (rest : String) :
    " " ++ ((Html.each attributes fun a =>
      .text a.1 ++ .raw "=\"" ++ .text a.2 ++ .raw "\" ").markup ++ rest) =
        Html.attributesText attributes ++ (" " ++ rest) := by
  induction attributes with
  | nil =>
    rw [Html.each, List.map_nil, Html.concat, Html.attributesText, Html.empty, String.empty_append,
      String.empty_append]
  | cons a later ih =>
    have hquote : (Html.raw "\" ").markup = "\"" ++ " " := rfl
    rw [Html.each] at ih ⊢
    rw [List.map_cons, Html.concat, Html.attributesText]
    simp only [Html.markup_append, hquote, String.append_assoc, ih]
    rfl

theorem nested_menuLink {m : String × List (String × String)} (hm : m ∈ settings.menu) :
    (menuLink m.1 m.2).Nested (vocabulary s settings tutorials R) := by
  have hlabel : (Html.text m.1).Nested (vocabulary s settings tutorials R) :=
    Html.nested_text (Shown.menu hm)
  have hlinks : (vocabulary s settings tutorials R).HasLinks := vocabulary_hasLinks
  have h := Html.NestedText.element true hlinks.tag (fun a ha => Marked.menu hm ha) hlabel .empty
  have hopen : (Html.raw "<a ").markup = "<" ++ ("a" ++ " ") := rfl
  have hend : (Html.raw ">").markup = ">" := rfl
  have hclose : (Html.raw "</a>").markup = "</" ++ ("a" ++ ">") := rfl
  refine nested_tag (by decide) ?_
  simpa only [Html.Nested, Html.markup_append, hopen, hend, hclose, Html.openTag, Html.closeTag,
    String.append_assoc, String.append_empty, menuAttributes_append, if_true] using h

/-! ## Faults -/

end Sidebar

mutual

/-- A condition fails only on an operator that does not exist. -/
theorem Condition.holds_error {f : Field} {e : Fault} :
    ∀ {c : Condition}, c.holds f = .error e → ∃ names, e = .unknownOperator names
  | .startsWith head, h => by
    unfold holds at h
    split at h <;> cases h
  | .isMissing expected, h => by
    unfold holds at h
    cases h
  | .unknown names, h => by
    rw [holds] at h
    cases h
    exact ⟨names, rfl⟩
  | .anyOf options, h => by
    rw [holds] at h
    exact holdsAny_error h
  | .equals v, h => by
    rw [holds] at h
    cases h

theorem Condition.holdsAny_error {f : Field} {e : Fault} :
    ∀ {cs : List Condition}, holdsAny f cs = .error e → ∃ names, e = .unknownOperator names
  | [], h => by
    rw [holdsAny] at h
    cases h
  | c :: rest, h => by
    rw [holdsAny] at h
    split at h
    · rename_i hc
      cases h
      exact holds_error hc
    · cases h
    · exact holdsAny_error h

end

theorem Query.accepts_error {q : Query} {d : Doclet} {e : Fault} (h : q.accepts d = .error e) :
    ∃ names, e = .unknownOperator names := by
  induction q with
  | nil => cases h
  | cons p rest ih =>
    rw [accepts] at h
    split at h
    · rename_i hp
      cases h
      exact Condition.holds_error hp
    · cases h
    · exact ih h

theorem Query.selectOf_error {q : Option Query} {ds : List Doclet} {e : Fault}
    (h : selectOf q ds = .error e) : ∃ names, e = .unknownOperator names := by
  cases q with
  | none => cases h
  | some q =>
    rw [selectOf] at h
    induction ds with
    | nil => cases h
    | cons d rest ih =>
      rw [select] at h
      split at h
      · rename_i hd
        cases h
        exact accepts_error hd
      · split at h
        · rename_i hrest
          cases h
          exact ih hrest
        · cases h

namespace NavGroup

/-- Building a tree fails only where details are shown. -/
theorem addEntry_error {link : LinkMaker} {g : NavGroup} {state : NavState} {entry : NavEntry}
    {e : Fault} (h : addEntry s settings link g state entry = .error e) :
    settings.showDetails = true ∧ ∃ names, e = .unknownOperator names := by
  unfold addEntry at h
  split at h
  · cases h
  · dsimp only at h
    split at h
    · cases h
    · split at h
      · cases h
      · split at h
        · rename_i hdetails
          cases h
          split at hdetails
          · rename_i hshow
            refine ⟨hshow, ?_⟩
            unfold detailsOf at hdetails
            dsimp only at hdetails
            split at hdetails
            · rename_i hselect
              cases hdetails
              exact Query.selectOf_error hselect
            · cases hdetails
          · cases hdetails
        · cases h

theorem addEntries_error {link : LinkMaker} {g : NavGroup} {state : NavState}
    {entries : List NavEntry} {e : Fault}
    (h : addEntries s settings link g state entries = .error e) :
    settings.showDetails = true ∧ ∃ names, e = .unknownOperator names := by
  induction entries generalizing g state with
  | nil => cases h
  | cons entry rest ih =>
    rw [addEntries] at h
    split at h
    · rename_i hentry
      cases h
      exact addEntry_error hentry
    · exact ih h

end NavGroup

namespace Sidebar

theorem buildTrees_error {state : NavState} {sections : List Section} {e : Fault}
    (h : buildTrees s settings tutorials state sections = .error e) :
    settings.showDetails = true ∧ ∃ names, e = .unknownOperator names := by
  induction sections generalizing state with
  | nil => cases h
  | cons section_ rest ih =>
    rw [buildTrees] at h
    dsimp only at h
    split at h
    · rename_i hbuild
      cases h
      exact NavGroup.addEntries_error hbuild
    · split at h
      · rename_i hrest
        cases h
        exact ih hrest
      · cases h

/-- Whatever the doclets, the tutorials, the menu and the settings, the sidebar is properly nested
markup of its tags, and all else in it is escaped. There is no sidebar only where details are
shown and the filter for them uses an operator that does not exist. -/
theorem render_nested (s : Store) (settings : Settings) (tutorials : List Tutorial)
    (r : Registry) :
    (∀ html r', render s settings tutorials r = .ok (html, r') →
      html.Nested (vocabulary s settings tutorials r)) ∧
    ∀ e, render s settings tutorials r = .error e →
      settings.showDetails = true ∧ ∃ names, e = .unknownOperator names := by
  refine ⟨fun html r' h => ?_, fun e h => ?_⟩
  · obtain ⟨trees, state, hbuild, rfl, rfl⟩ := render_ok h
    have htrees := each_buildTrees (R := r) hbuild rfl
    have hhome : (Html.element "h2" [] (.link r.homeUrl (.raw "Home"))).Nested
        (vocabulary s settings tutorials r) :=
      nested_tag (by decide)
        (Registry.nested_link vocabulary_hasLinks r.homeUrl (nested_word (by decide)))
    have hmenu : (Html.each settings.menu fun m => menuLink m.1 m.2).Nested
        (vocabulary s settings tutorials r) :=
      Html.nested_each fun m hm => nested_menuLink hm
    have hsection : ∀ section_, (sectionPart settings trees section_).Nested
        (vocabulary s settings tutorials r) :=
      sectionPart_of_trees Html.nested_empty fun p hp =>
        Menu.nested_render vocabulary_hasMenu settings.skipEmptyGroups 0 (htrees p hp)
    have hsections : (Html.each settings.sectionOrder (sectionPart settings trees)).Nested
        (vocabulary s settings tutorials r) :=
      Html.nested_each fun section_ _ => hsection section_
    exact ((hhome.append hmenu).append hsections).append
      (nested_globalsPart state.registry state.seen)
  · unfold render at h
    split at h
    · rename_i hbuild
      cases h
      exact buildTrees_error hbuild
    · cases h

/-- A class whose name closes an attribute and a tag. -/
def hostileName : Store :=
  ⟨[{ kind := "class\"><b>", name := "f", longname := some "f" },
    { kind := "class", name := "\"><b>", longname := some "\"><b>", access := some "\">" }]⟩

/-- A menu whose label is a tag and whose attribute ends early. -/
def hostileMenu : Settings := { menu := [("</a><b>", [("on\"x", "\"><b>")])] }

theorem hostileName_nested :
    ∃ html r', render hostileName hostileMenu [] {} = .ok (html, r') ∧
      html.Nested (vocabulary hostileName hostileMenu [] {}) := by
  have hruns : (render hostileName hostileMenu [] {}).toOption.isSome = true := by decide +kernel
  cases h : render hostileName hostileMenu [] {} with
  | error e =>
    rw [h] at hruns
    cases hruns
  | ok p => exact ⟨p.1, p.2, rfl, (render_nested hostileName hostileMenu [] {}).1 p.1 p.2 h⟩

end Sidebar

end

end DocSite
