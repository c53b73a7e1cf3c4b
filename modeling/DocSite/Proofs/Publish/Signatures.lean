import DocSite.Proofs.Publish.Headings
import DocSite.Proofs.Publish.Schedule
import DocSite.Proofs.Type.Alike

/-! Types in signatures and on pages. A signature is written before the externals lose the quotes
of their names, a page afterwards, each with the types of its time. The two agree on a type unless
short names are expanded and a name in the type is that of an external without its quotes. -/
namespace DocSite
open Registry (Hosted Sound Reaches Quiet)
set_option autoImplicit false

/-- The types in the signature of a doclet are those that a linker writes. -/
structure Doclet.SignedBy (l : TypeLinker) (r : Registry) (d : Doclet) : Prop where
  call : d.needsSignature = true → ∃ base, d.signature =
    Signature.withReturns l r (Signature.withParams base d.params) d.returns
  type : d.kind = "member" → ∃ base, d.signature = Signature.withTypes l r base d.types

/-- The fields that signatures and types are made of stay when a doclet is signed, but constants
become members. -/
structure Doclet.KeptFrom (signed d : Doclet) : Prop where
  params : signed.params = d.params
  returns : signed.returns = d.returns
  types : signed.types = d.types
  hides : signed.hidesConstructor = d.hidesConstructor
  name : signed.name = d.name
  longname : signed.longname = d.longname
  kind : signed.kind = if d.kind = "constant" then "member" else d.kind

namespace Site

/-- The state in which signatures are written: every doclet has its address. -/
def addressed (settings : Settings) (store : Store) (files : FileTree) (out : Path) : Site :=
  (opened settings store files out).registerAll (sourcesOf settings store files out)

/-- The linker that a state has once the externals have lost their quotes. -/
def unquotedLinker (s : Site) : TypeLinker :=
  { s with store := s.store.unquoteExternals }.linker

/-! ## Signatures -/

section
variable {s : Site} {l : TypeLinker} {r : Registry} {table : Table Doclet} {d : Doclet}

theorem addCall_signature :
    (addCall l r d).signature =
      if d.needsSignature then
        Signature.withReturns l r (Signature.withParams d.signature d.params) d.returns
      else d.signature := by
  have hneeds : ∀ anchor, { d with anchor := anchor }.needsSignature = d.needsSignature :=
    fun _ => rfl
  unfold addCall
  dsimp only
  rw [hneeds]
  split <;> rfl

theorem addTrail_signature :
    (addTrail l r table d).signature =
      if d.kind = "member" ∨ d.kind = "constant" then Signature.withTypes l r d.signature d.types
      else d.signature := by
  unfold addTrail
  by_cases hread : d.kind = "member" ∨ d.kind = "constant"
  · have hcond : (d.kind == "member" || d.kind == "constant") = true := by simpa using hread
    rw [if_pos hread]
    dsimp only
    rw [if_pos hcond]
    split <;> rfl
  · have hcond : ¬(d.kind == "member" || d.kind == "constant") = true := by simpa using hread
    rw [if_neg hread]
    dsimp only
    rw [if_neg hcond]
    split <;> rfl

theorem keptFrom_signed (l : TypeLinker) (r : Registry) (table : Table Doclet) (d : Doclet) :
    (addTrail l r table (addCall l r d)).KeptFrom d := by
  have hkind := addTrail_kind l r table (addCall l r d)
  obtain ⟨_, _, _, _, htrail⟩ := addTrail_frame l r table (addCall l r d)
  obtain ⟨_, _, hcall⟩ := addCall_frame l r d
  rw [htrail] at hkind ⊢
  rw [hcall] at hkind ⊢
  exact ⟨rfl, rfl, rfl, rfl, rfl, rfl, hkind⟩

theorem signedBy_signed : (addTrail l r table (addCall l r d)).SignedBy l r := by
  have kept := keptFrom_signed l r table d
  have hcall : (addCall l r d).kind = d.kind ∧ (addCall l r d).types = d.types := by
    obtain ⟨_, _, hcall⟩ := addCall_frame l r d
    rw [hcall]
    exact ⟨rfl, rfl⟩
  constructor
  · -- What is called is no member, so its trail leaves the signature.
    intro hneeds
    rw [Doclet.needsSignature, kept.kind, kept.types, kept.hides] at hneeds
    have hother : ¬(d.kind = "member" ∨ d.kind = "constant") := by
      rintro (hk | hk) <;> simp [hk] at hneeds
    have hconstant : d.kind ≠ "constant" := fun hk => hother (.inr hk)
    rw [if_neg hconstant] at hneeds
    refine ⟨d.signature, ?_⟩
    rw [addTrail_signature, hcall.1, if_neg hother, addCall_signature, kept.params, kept.returns]
    exact if_pos hneeds
  · intro hmember
    have hread : d.kind = "member" ∨ d.kind = "constant" := by
      rw [kept.kind] at hmember
      split at hmember
      · rename_i hk
        exact .inr hk
      · exact .inl hmember
    have hneeds : ¬ d.needsSignature = true := by
      rcases hread with hk | hk <;> simp [Doclet.needsSignature, hk]
    refine ⟨d.signature, ?_⟩
    rw [addTrail_signature, hcall.1, if_pos hread, addCall_signature, if_neg hneeds, hcall.2,
      kept.types]

/-- Losing the quotes of its name leaves the signature of a doclet. -/
theorem signedBy_unquoted (h : d.SignedBy l r) :
    (if d.kind == "external" then { d with name := unquoted d.name } else d).SignedBy l r := by
  split
  · exact ⟨h.call, h.type⟩
  · exact h

end

/-! ## The types of the pages -/

section
variable {settings : Settings} {store : Store} {tutorial : Tutorial} {readme : Option String}
  {files : FileTree} {out : Path} {prepared : Site}

theorem addSignatures_store_congr {s s' : Site} (hsettings : s'.settings = s.settings)
    (hstore : s'.store = s.store) (hregistry : s'.registry = s.registry) :
    s'.addSignatures.store = s.addSignatures.store := by
  unfold addSignatures linker
  rw [hsettings, hstore, hregistry]

/-- Preparing signs the doclets of the addressed state and takes the quotes off externals. -/
theorem prepare_addressed
    (h : (opened settings store files out).prepare (sourcesOf settings store files out) =
      .ok prepared) :
    prepared.registry = (addressed settings store files out).registry ∧
      prepared.store = (addressed settings store files out).addSignatures.store.unquoteExternals ∧
      (addressed settings store files out).settings = settings := by
  have hsound := (fresh_opened settings store files out).sound
  unfold prepare at h
  obtain ⟨copied, h₁, h⟩ := Fault.bind_eq_ok_iff.mp h
  cases h
  have honly := (onlyFiles_copyFiles h₁).1
  have hframe : copied.store = (opened settings store files out).store ∧
      copied.registry = (opened settings store files out).registry := by
    obtain ⟨_, _, _, he⟩ := honly
    rw [he]
    exact ⟨rfl, rfl⟩
  have hsettings : (addressed settings store files out).settings = settings :=
    (unwritten_registerAll hsound _).settings
  have hcopied : (copied.registerAll (sourcesOf settings store files out)).settings = settings :=
    (honly.unwritten.trans (unwritten_registerAll (hframe.2 ▸ hsound) _)).settings
  have hregistry : (copied.registerAll (sourcesOf settings store files out)).registry =
      (addressed settings store files out).registry := by
    rw [addressed, registerAll_registry, registerAll_registry, hframe.1, hframe.2]
  have hstore : (copied.registerAll (sourcesOf settings store files out)).store =
      (addressed settings store files out).store := by
    rw [addressed, registerAll_store, registerAll_store, hframe.1]
  refine ⟨hregistry, ?_, hsettings⟩
  exact congrArg Store.unquoteExternals
    (addSignatures_store_congr (hcopied.trans hsettings.symm) hstore hregistry)

/-- Signing leaves the types of a store, so on a page they are those of the addressed state. -/
theorem ofStore_addSignatures (s : Site) :
    TypeIndex.ofStore s.addSignatures.store.unquoteExternals =
      TypeIndex.ofStore s.store.unquoteExternals := by
  have hmap : s.addSignatures.store = s.store.map
      (addTrail s.linker s.registry (byLongname (s.store.map (addCall s.linker s.registry)).doclets) ∘
        addCall s.linker s.registry) := congrArg Store.mk (List.map_map ..)
  generalize byLongname (s.store.map (addCall s.linker s.registry)).doclets = table at hmap
  rw [hmap]
  refine TypeIndex.ofStore_unquoteExternals_map (fun d _ => ?_) (fun d _ => ?_)
  · rw [Function.comp_apply, (keptFrom_signed s.linker s.registry table d).kind]
    split
    · rename_i hk
      rw [hk]
      decide
    · exact ⟨rfl, rfl⟩
  · have kept := keptFrom_signed s.linker s.registry table d
    exact ⟨kept.name, kept.longname⟩

theorem signedBy_addSignatures {s : Site} {d : Doclet}
    (hd : d ∈ s.addSignatures.store.unquoteExternals.doclets) :
    d.SignedBy s.linker s.registry := by
  obtain ⟨signed, hsigned, rfl⟩ := List.mem_map.mp hd
  obtain ⟨called, hcalled, rfl⟩ := List.mem_map.mp hsigned
  obtain ⟨bare, -, rfl⟩ := List.mem_map.mp hcalled
  exact signedBy_unquoted signedBy_signed

theorem locate_frame (sources : List Source.File) (d : Doclet) :
    (locate sources d).kind = d.kind ∧ (locate sources d).longname = d.longname := by
  unfold locate
  split
  · split <;> exact ⟨rfl, rfl⟩
  · exact ⟨rfl, rfl⟩

/-- Every type that a signature links has an address by then. -/
theorem known_addressed (settings : Settings) (store : Store) (files : FileTree) (out : Path) :
    (addressed settings store files out).linker.Known
      (addressed settings store files out).registry := by
  intro longname hunique
  obtain ⟨hne, d, hd, hkind, hlongname⟩ := TypeIndex.exists_of_isUnique hunique
  rw [addressed, registerAll_store] at hd
  obtain ⟨e, he, rfl⟩ := List.mem_map.mp hd
  obtain ⟨hlocated, hlong⟩ := locate_frame (sourcesOf settings store files out) e
  rw [hlocated] at hkind
  rw [hlong] at hlongname
  have hfile : e.kind ≠ "file" := by
    intro hk
    rw [hk] at hkind
    revert hkind
    decide
  have hname : e.linkName = longname := by
    rw [Doclet.linkName, hlongname]
    simp [hne]
  obtain ⟨url, hu⟩ := url?_registerAll he hfile (sourcesOf settings store files out)
  rw [hname] at hu
  have hsound := (fresh_opened settings store files out).sound
  have hreached := (unwritten_registerAll hsound (sourcesOf settings store files out)).reached
  have hpage := isFileName_page (hreached.sound hsound)
    ((hreached.sound hsound).hosted longname url hu)
  refine ⟨url, hu, fun hempty => hpage.ne_empty ?_⟩
  rw [hempty]
  decide

theorem known_unquoted {s : Site} {r : Registry} (h : s.linker.Known r) :
    s.unquotedLinker.Known r := by
  intro longname hunique
  refine h longname ?_
  rw [← hunique]
  exact congrFun (TypeIndex.isUnique_unquoteExternals s.store).symm longname

/-- No name in a type is one that an external bears in quotes alone. -/
def NoneQuoted (s : Site) (text : String) : Prop :=
  ∀ t ∈ TypeToken.list text.toList, t.isName = true → ∀ d ∈ s.store.doclets, d.kind = "external" →
    unquoted d.name = String.ofList t.text → d.name = String.ofList t.text

theorem linkedAlike_of_noneQuoted {s : Site} {r : Registry} {text : String}
    (h : s.settings.expandShortTypes = true → s.NoneQuoted text) :
    ∀ t ∈ TypeToken.list text.toList, t.isName = true →
      TypeLinker.LinkedAlike r s.linker s.unquotedLinker (String.ofList t.text) := by
  intro t ht hn
  refine TypeLinker.linkedAlike_of_meant (TypeIndex.isUnique_unquoteExternals s.store) rfl ?_
  have hexpand : s.unquotedLinker.expand = s.linker.expand := rfl
  unfold TypeLinker.meant
  rw [hexpand]
  split
  · rename_i he
    exact TypeIndex.longnameFor_unquoteExternals (TypeToken.unquoted_text ht hn) (h he t ht hn)
  · rfl

/-- A run starts to write pages with the signed doclets and the addresses of the addressed
state. -/
theorem ready_addressed {sidebar : Html} {start : Site} {around : Surroundings}
    (h : ready settings store tutorial files out around = .ok (sidebar, start)) :
    start.store = (addressed settings store files out).addSignatures.store.unquoteExternals ∧
      start.settings = (addressed settings store files out).settings ∧
      start.registry.urls = (addressed settings store files out).registry.urls := by
  have hsettings := (fresh_ready h).2.1
  unfold ready at h
  obtain ⟨prepared, hp, h⟩ := Fault.bind_eq_ok_iff.mp h
  obtain ⟨⟨sidebar, r⟩, hr, h⟩ := Fault.bind_eq_ok_iff.mp h
  cases h
  obtain ⟨hregistry, hstore, haddressed⟩ := prepare_addressed hp
  refine ⟨hstore, hsettings.trans haddressed.symm, ?_⟩
  have hurls := (Sidebar.quiet_render hr).urls_eq
  obtain ⟨titles, htitles⟩ := Registry.addTutorials_frame prepared.registry tutorial.children
  rw [htitles] at hurls
  rw [← hregistry]
  exact hurls

/-- On every page types are linked as the addressed state links them without the quotes. -/
theorem expression_on_page {sidebar : Html} {start t : Site} {around : Surroundings}
    (h : ready settings store tutorial files out around = .ok (sidebar, start))
    (ht : Onward start t) (text : String) :
    t.context.linker.expression t.context.registry text =
      (addressed settings store files out).unquotedLinker.expression
        (addressed settings store files out).registry text := by
  obtain ⟨hstore, hsettings, hurls⟩ := ready_addressed h
  have hlinker : t.context.linker = (addressed settings store files out).unquotedLinker := by
    have hindex : TypeIndex.ofStore t.store =
        TypeIndex.ofStore (addressed settings store files out).store.unquoteExternals := by
      rw [ht.store, hstore, ofStore_addSignatures]
    rw [unquotedLinker, context, linker, linker, hindex, ht.settings, hsettings]
  rw [hlinker]
  refine TypeLinker.expression_congr (fun longname hunique => ?_) text
  obtain ⟨url, hu, -⟩ := known_unquoted (known_addressed settings store files out) longname hunique
  have hstart : start.registry.url? longname = some url := by rw [Registry.url?, hurls]; exact hu
  exact (ht.reached.urls_mono hstart).trans hu.symm

/-- A signature has the types that the addressed state links. On any page of the run a type has the
same markup exactly where each of its names is linked alike with and without the quotes of
externals. This holds unless short names are expanded and an external bears one of them in quotes
alone. -/
theorem signatures_link_like_pages_iff {sidebar : Html} {start : Site} {around : Surroundings}
    (h : ready settings store tutorial files out around = .ok (sidebar, start)) :
    let signed := addressed settings store files out
    (∀ d ∈ start.store.doclets, d.SignedBy signed.linker signed.registry) ∧
    ∀ job t, ComesTo sidebar (sourcesOf settings store files out) readme tutorial.children start
        job t →
      t.store = start.store ∧ ∀ text,
        ((signed.linker.expression signed.registry text).markup =
            (t.context.linker.expression t.context.registry text).markup ↔
          ∀ token ∈ TypeToken.list text.toList, token.isName = true →
            TypeLinker.LinkedAlike signed.registry signed.linker signed.unquotedLinker
              (String.ofList token.text)) ∧
        ((settings.expandShortTypes = true → signed.NoneQuoted text) →
          (signed.linker.expression signed.registry text).markup =
            (t.context.linker.expression t.context.registry text).markup) := by
  intro signed
  obtain ⟨hstore, hsettings, -⟩ := ready_addressed h
  have hfresh := fresh_ready h
  have hknown : signed.linker.Known signed.registry := known_addressed settings store files out
  refine ⟨fun d hd => signedBy_addSignatures (hstore ▸ hd), fun job t hcomes => ?_⟩
  have honward := (hcomes.onward hfresh.1.sound).1
  refine ⟨honward.store, fun text => ?_⟩
  have hiff : (signed.linker.expression signed.registry text).markup =
      (t.context.linker.expression t.context.registry text).markup ↔
        ∀ token ∈ TypeToken.list text.toList, token.isName = true →
          TypeLinker.LinkedAlike signed.registry signed.linker signed.unquotedLinker
            (String.ofList token.text) := by
    rw [expression_on_page h honward text]
    exact TypeLinker.expression_markup_eq_iff hknown (known_unquoted hknown) text
  have hexpand : signed.settings.expandShortTypes = settings.expandShortTypes :=
    congrArg Settings.expandShortTypes (hsettings.symm.trans hfresh.2.1)
  exact ⟨hiff, fun hnone => hiff.mpr (linkedAlike_of_noneQuoted (hexpand ▸ hnone))⟩

end

/-- A function returns an external whose name is in quotes. -/
def quotedExternal : Store :=
  ⟨[{ kind := "external", name := "\"Foo\"", longname := some "external:\"Foo\"" },
    { position := 1, kind := "function", name := "f", longname := some "f", scope := some "global",
      returns := [{ types := some ["Foo"] }] }]⟩

def expandingSettings : Settings := { plainSettings with expandShortTypes := true }

/-- The signature of the function names the external, the page of globals links it. -/
theorem quotedExternal_linked_on_page :
    ∃ sidebar start,
      ready expandingSettings quotedExternal .root plainTheme (Path.ofString "out")
        {} = .ok (sidebar, start) ∧
      ComesTo sidebar (sourcesOf expandingSettings quotedExternal plainTheme (Path.ofString "out"))
        none Tutorial.root.children start .globals start ∧
      ((addressed expandingSettings quotedExternal plainTheme (Path.ofString "out")).linker.expression
        (addressed expandingSettings quotedExternal plainTheme (Path.ofString "out")).registry
        "Foo").markup = "Foo" ∧
      (start.context.linker.expression start.context.registry "Foo").markup ≠ "Foo" := by
  have hsigned : ((addressed expandingSettings quotedExternal plainTheme
      (Path.ofString "out")).linker.expression (addressed expandingSettings quotedExternal plainTheme
        (Path.ofString "out")).registry "Foo").markup = "Foo" := by
    decide +kernel
  have hglobals : (ready expandingSettings quotedExternal .root plainTheme (Path.ofString "out")
      {}).toOption.map (fun p => p.2.store.globals.isEmpty) = some false := by
    simp only [ready, Registry.addTutorials, Tutorial.root]
    decide +kernel
  have hdiffer : (addressed expandingSettings quotedExternal plainTheme
      (Path.ofString "out")).linker.links "Foo" ≠ (addressed expandingSettings quotedExternal
        plainTheme (Path.ofString "out")).unquotedLinker.links "Foo" := by
    decide +kernel
  have htoken : ⟨"Foo".toList, true⟩ ∈ TypeToken.list "Foo".toList := by decide +kernel
  cases hready : ready expandingSettings quotedExternal .root plainTheme (Path.ofString "out")
      {} with
  | error e =>
    rw [hready] at hglobals
    cases hglobals
  | ok found =>
    obtain ⟨sidebar, start⟩ := found
    rw [hready] at hglobals
    have hglobals : start.store.globals.isEmpty = false := Option.some.inj hglobals
    have hlistings : writeListings sidebar (sourcesOf expandingSettings quotedExternal plainTheme
        (Path.ofString "out")) start = .ok start := by
      rw [writeListings, (fresh_ready hready).2.1]
      rfl
    have hsplit : ∃ after, pageJobs none Tutorial.root.children start = [] ++ .globals :: after := by
      rw [pageJobs, hglobals]
      exact ⟨_, rfl⟩
    obtain ⟨after, hsplit⟩ := hsplit
    have hcomes : ComesTo sidebar (sourcesOf expandingSettings quotedExternal plainTheme
        (Path.ofString "out")) none Tutorial.root.children start .globals start :=
      .page hlistings hsplit rfl
    obtain ⟨_, hpages⟩ := signatures_link_like_pages_iff hready
    obtain ⟨_, htext⟩ := hpages .globals start hcomes
    refine ⟨sidebar, start, rfl, hcomes, hsigned, fun hpage => ?_⟩
    exact hdiffer ((htext "Foo").1.mp (hsigned.trans hpage.symm) _ htoken rfl).1

end Site
end DocSite
