import DocSite.Proofs.Value.Alike
import DocSite.Settings.Layers
import DocSite.Page.Assets

/-! Layers of settings compose. What each file holds is merged onto the defaults in order, so two
files in a row may be one; of the layers that hold something at a path the last one decides, and
the directories of static files come to one list of all, in order of first appearance. -/
namespace DocSite.Settings
open Value (mapping mergeFields Alike Replaces checkAlike)
set_option autoImplicit false

/-! ## One file -/

/-- The layer that a file holds. -/
def layerOf (t : FileTree) (yaml : Yaml.Reader) (file : String) : Except Fault Fields :=
  (readLayer t file yaml).map (·.1)

section
variable {t t' : FileTree} {yaml : Yaml.Reader}

theorem layerOfValue_wellKeyed {file : Path} {v : Value} {fields : Fields} (hv : v.WellKeyed)
    (h : layerOfValue file v = .ok fields) : (mapping fields).WellKeyed := by
  unfold layerOfValue at h
  split at h
  · cases h
    exact .empty
  · split at h <;> cases h
    exact hv

theorem readYaml_wellKeyed (hyaml : yaml.Keyed) {p : Path} {v : Value}
    (h : t.readYaml p yaml = .ok v) : v.WellKeyed := by
  unfold FileTree.readYaml at h
  obtain ⟨s, -, h⟩ := Fault.bind_eq_ok_iff.mp h
  cases hread : yaml s with
  | ok w =>
    rw [hread] at h
    cases h
    exact hyaml s v hread
  | error e =>
    rw [hread] at h
    cases e <;> cases h

theorem layerOf_wellKeyed (hyaml : yaml.Keyed) {file : String} {fields : Fields}
    (h : layerOf t yaml file = .ok fields) : (mapping fields).WellKeyed := by
  obtain ⟨⟨update, notes⟩, hread, rfl⟩ := exists_of_map_eq_ok h
  unfold readLayer at hread
  split at hread
  · cases hread
    exact .empty
  · obtain ⟨leads, -, hread⟩ := Fault.bind_eq_ok_iff.mp hread
    split at hread
    · cases hread
      exact .empty
    · obtain ⟨v, hv, hread⟩ := Fault.bind_eq_ok_iff.mp hread
      split at hread
      · rename_i fields hfields
        cases hread
        exact layerOfValue_wellKeyed (readYaml_wellKeyed hyaml hv) hfields
      · cases hread

theorem defaults_wellKeyed : (mapping defaults).WellKeyed := by
  have hempty : ∀ p ∈ ([] : Fields), p.2.WellKeyed := List.forall_mem_nil _
  have htitles : ∀ v ∈ Section.all.map fun s => Value.text s.title, v.WellKeyed := by
    intro v hv
    obtain ⟨s, -, rfl⟩ := List.mem_map.mp hv
    exact .text _
  refine .mapping (by decide) ?_
  simp only [defaults, List.forall_mem_cons]
  refine ⟨.mapping (by decide) ?_, .mapping (by decide) ?_, .mapping (by decide) ?_,
    .mapping (by decide) ?_, .mapping (by decide) ?_, .mapping (by decide) ?_, hempty⟩ <;>
    simp only [List.forall_mem_cons]
  · exact ⟨.bool _, .bool _, .null, .text _, .list htitles, .bool _, .bool _, .bool _, .empty,
      hempty⟩
  · exact ⟨.bool _, .null, hempty⟩
  · exact ⟨.bool _, .bool _, hempty⟩
  · exact ⟨.null, .bool _, hempty⟩
  · exact ⟨.bool _, .text _, .list (List.forall_mem_nil _), .text _, .text _, .null, hempty⟩
  · exact ⟨.null, .null, hempty⟩

/-! ## All files -/

theorem layOver_cons (t : FileTree) (yaml : Yaml.Reader) (fields : Fields) (file : String)
    (rest : List String) :
    (layOver t yaml fields (file :: rest)).1 =
      layerOf t yaml file >>= fun update =>
        (layOver t yaml (mergeFields fields update) rest).1 := by
  rw [layOver, layerOf]
  cases readLayer t file yaml <;> rfl

theorem layOver_append (t : FileTree) (yaml : Yaml.Reader) (fields : Fields)
    (files more : List String) :
    (layOver t yaml fields (files ++ more)).1 =
      (layOver t yaml fields files).1 >>= fun merged => (layOver t yaml merged more).1 := by
  induction files generalizing fields with
  | nil => rfl
  | cons file files ih =>
    rw [List.cons_append, layOver_cons, layOver_cons]
    cases layerOf t yaml file with
    | error e => rfl
    | ok update => exact ih _

theorem layOver_congr {files : List String}
    (h : ∀ file ∈ files, layerOf t' yaml file = layerOf t yaml file) (fields : Fields) :
    (layOver t' yaml fields files).1 = (layOver t yaml fields files).1 := by
  induction files generalizing fields with
  | nil => rfl
  | cons file files ih =>
    rw [List.forall_mem_cons] at h
    rw [layOver_cons, layOver_cons, h.1]
    exact bind_congr fun update => ih h.2 _

theorem layOver_wellKeyed (hyaml : yaml.Keyed) {fields merged : Fields} {files : List String}
    (hfields : (mapping fields).WellKeyed) (h : (layOver t yaml fields files).1 = .ok merged) :
    (mapping merged).WellKeyed := by
  induction files generalizing fields with
  | nil =>
    cases h
    exact hfields
  | cons file files ih =>
    rw [layOver_cons] at h
    obtain ⟨update, hupdate, h⟩ := Fault.bind_eq_ok_iff.mp h
    exact ih (Value.wellKeyed_mergeFields hfields (layerOf_wellKeyed hyaml hupdate)) h

theorem layOver_eq_foldl {files : List String} {layers : List Fields}
    (h : files.mapM (layerOf t yaml) = .ok layers) (fields : Fields) :
    (layOver t yaml fields files).1 = .ok (layers.foldl mergeFields fields) := by
  induction files generalizing fields layers with
  | nil =>
    cases h
    rfl
  | cons file files ih =>
    rw [List.mapM_cons] at h
    obtain ⟨update, hupdate, h⟩ := Fault.bind_eq_ok_iff.mp h
    obtain ⟨rest, hrest, h⟩ := Fault.bind_eq_ok_iff.mp h
    cases h
    rw [layOver_cons, hupdate]
    exact ih hrest _

theorem mem_layers {files : List String} {layers : List Fields}
    (h : files.mapM (layerOf t yaml) = .ok layers) :
    ∀ layer ∈ layers, ∃ file ∈ files, layerOf t yaml file = .ok layer := by
  induction files generalizing layers with
  | nil =>
    cases h
    exact List.forall_mem_nil _
  | cons file files ih =>
    rw [List.mapM_cons] at h
    obtain ⟨update, hupdate, h⟩ := Fault.bind_eq_ok_iff.mp h
    obtain ⟨rest, hrest, h⟩ := Fault.bind_eq_ok_iff.mp h
    cases h
    refine List.forall_mem_cons.mpr ⟨⟨file, List.mem_cons_self, hupdate⟩, fun layer hlayer => ?_⟩
    obtain ⟨other, hother, hl⟩ := ih hrest layer hlayer
    exact ⟨other, List.mem_cons_of_mem _ hother, hl⟩

/-- Two files in a row may be one file that holds what they come to, if they are alike. -/
theorem load_merged (hyaml : yaml.Keyed) {before after : List String} {f g h : String}
    {b c : Fields} (hf : layerOf t yaml f = .ok b) (hg : layerOf t yaml g = .ok c)
    (hh : layerOf t' yaml h = .ok (mergeFields b c))
    (hrest : ∀ file ∈ before ++ after, layerOf t' yaml file = layerOf t yaml file)
    (halike : Alike b c) :
    (load t' (before ++ h :: after) yaml).1 = (load t (before ++ f :: g :: after) yaml).1 := by
  rw [List.forall_mem_append] at hrest
  rw [load, load, layOver_append, layOver_append, layOver_congr hrest.1]
  cases hbefore : (layOver t yaml defaults before).1 with
  | error e => rfl
  | ok merged =>
    have hmerged := layOver_wellKeyed hyaml defaults_wellKeyed hbefore
    have hassoc := Value.mergeFields_assoc hmerged (layerOf_wellKeyed hyaml hf)
      (layerOf_wellKeyed hyaml hg) halike
    have hone : (layOver t' yaml merged (h :: after)).1 =
        (layOver t yaml merged (f :: g :: after)).1 := by
      rw [layOver_cons, layOver_cons, hh, hf]
      dsimp only [bind, Except.bind]
      rw [layOver_cons, hg, layOver_congr hrest.2, ← hassoc]
      rfl
    exact hone

end

/-! ## What holds in the end -/

/-- Of the layers that hold something at the end of a path, the last one holds this. -/
def HeldLast (layers : List Fields) (path : List String) (v : Value) : Prop :=
  ∃ before layer after, layers = before ++ layer :: after ∧ (mapping layer).at? path = some v ∧
    ∀ later ∈ after, (mapping later).at? path = none

/-- The directories of static files that a layer names. -/
def staticFilesOf (layer : Fields) : List Value :=
  Value.itemsOf ((mapping layer).at? ["output", "static_files"])

variable {layers : List Fields}

theorem at?_of_heldLast (hlayers : ∀ layer ∈ layers, (mapping layer).WellKeyed)
    (h : (defaults :: layers).Pairwise Alike) {path : List String} {key : String} {v : Value}
    (hheld : HeldLast (defaults :: layers) (path ++ [key]) v) (hv : Replaces key v) :
    (mapping (layers.foldl mergeFields defaults)).at? (path ++ [key]) = some v := by
  obtain ⟨before, layer, after, hsplit, hat, hafter⟩ := hheld
  have hlater : ∀ o ∈ after.map fun l => (mapping l).at? (path ++ [key]), o = none := by
    intro o ho
    obtain ⟨l, hl, rfl⟩ := List.mem_map.mp ho
    exact hafter l hl
  -- The defaults are laid over nothing, so they count as the first layer.
  have hchain := Value.at?_foldl_mergeFields hlayers h path key
  rw [← Value.laidOver_none key ((mapping defaults).at? _), ← List.foldl_cons] at hchain
  have hmap : (mapping defaults).at? (path ++ [key]) ::
      layers.map (fun l => (mapping l).at? (path ++ [key])) =
      (before ++ layer :: after).map fun l => (mapping l).at? (path ++ [key]) := by
    rw [← hsplit]
    rfl
  rw [hchain, hmap, List.map_append, List.map_cons, List.foldl_append, List.foldl_cons, hat,
    Value.foldl_laidOver_of_none hlater, Value.laidOver, hv.mergeValue]

theorem at?_staticFiles (hlayers : ∀ layer ∈ layers, (mapping layer).WellKeyed)
    (h : (defaults :: layers).Pairwise Alike) :
    (mapping (layers.foldl mergeFields defaults)).at? ["output", "static_files"] =
      some (.list ((layers.flatMap staticFilesOf).eraseDupsBy Value.same)) := by
  have hdefault : (mapping defaults).at? ["output", "static_files"] = some (.list []) := by rfl
  have hlists : ∀ o ∈ layers.map fun l => (mapping l).at? ["output", "static_files"],
      ∀ v, o = some v → v.isList = true := by
    intro o ho v hv
    obtain ⟨l, hl, rfl⟩ := List.mem_map.mp ho
    have halike := (List.pairwise_cons.mp h).1 l hl
    exact ((halike ["output"] "static_files" _ v hdefault hv).2 (by decide)).symm
  rw [← List.singleton_append, Value.at?_foldl_mergeFields hlayers h, List.singleton_append,
    hdefault, Value.foldl_laidOver_lists (by decide) hlists, List.flatMap_map, Value.extend_nil]
  rfl

/-- Layers of settings compose. An empty layer, or one laid over itself, or laid over what it was
laid over already, changes nothing, and of three layers the last two may be merged first if they
are alike. So two files in a row may be one that holds what they come to. With files that are
alike to one another and to the defaults, the last one to hold something at a path decides unless
a list accumulates there, and the directories of static files are those of all layers, each where
it first appears. All that counts of the notation of files is that mappings hold every key once. -/
theorem layers_compose :
    (∀ a b c : Fields, (mapping a).WellKeyed → (mapping b).WellKeyed → (mapping c).WellKeyed →
      mergeFields a [] = a ∧ mergeFields [] b = b ∧ mergeFields a a = a ∧
      mergeFields (mergeFields a b) b = mergeFields a b ∧
      (Alike b c → mergeFields (mergeFields a b) c = mergeFields a (mergeFields b c))) ∧
    (∀ yaml : Yaml.Reader, yaml.Keyed → ∀ (t t' : FileTree) (before after : List String)
        (f g h : String) (b c : Fields),
      layerOf t yaml f = .ok b → layerOf t yaml g = .ok c →
      layerOf t' yaml h = .ok (mergeFields b c) →
      (∀ file ∈ before ++ after, layerOf t' yaml file = layerOf t yaml file) → Alike b c →
      (load t' (before ++ h :: after) yaml).1 = (load t (before ++ f :: g :: after) yaml).1) ∧
    ∀ yaml : Yaml.Reader, yaml.Keyed → ∀ (t : FileTree) (files : List String)
        (layers : List Fields),
      files.mapM (layerOf t yaml) = .ok layers → (defaults :: layers).Pairwise Alike →
      ∃ merged, (load t files yaml).1 = .ok merged ∧
        (∀ path key v, HeldLast (defaults :: layers) (path ++ [key]) v → Replaces key v →
          (mapping merged).at? (path ++ [key]) = some v) ∧
        (mapping merged).at? ["output", "static_files"] =
          some (.list ((layers.flatMap staticFilesOf).eraseDupsBy Value.same)) := by
  refine ⟨fun a b c ha hb hc => ⟨?_, ?_, ?_, ?_, ?_⟩, ?_, ?_⟩
  · rw [mergeFields]
  · exact Value.mergeFields_nil_left hb.nodup
  · exact Value.mergeFields_self ha
  · exact Value.mergeFields_again ha hb
  · exact Value.mergeFields_assoc ha hb hc
  · exact fun yaml hyaml t t' before after f g h b c => load_merged hyaml
  · intro yaml hyaml t files layers hlayers halike
    have hkeyed : ∀ layer ∈ layers, (mapping layer).WellKeyed := by
      intro layer hlayer
      obtain ⟨file, -, hfile⟩ := mem_layers hlayers layer hlayer
      exact layerOf_wellKeyed hyaml hfile
    exact ⟨_, layOver_eq_foldl hlayers defaults,
      fun path key v hheld hv => at?_of_heldLast hkeyed halike hheld hv,
      at?_staticFiles hkeyed halike⟩

/-- Settings of a library and of one of its users. -/
def layered : FileTree :=
  ⟨[(⟨false, ["base.yml"]⟩, .file (Page.bytesOf
      "\x7b\"output\":\x7b\"site_title\":\"Base\",\"static_files\":[\"shared\"]\x7d\x7d")),
    (⟨false, ["local.yml"]⟩, .file (Page.bytesOf
      ("\x7b\"output\":\x7b\"static_files\":[\"extra\",\"shared\"]," ++
        "\"site_title\":\"Local\"\x7d\x7d")))]⟩

theorem asText?_eq_some {v : Value} {s : String} (h : asText? v = some s) : v = .text s := by
  cases v with
  | text s' =>
    cases h
    rfl
  | _ => cases h

/-- The user's title holds, the library's directories come first, and a file that is read twice
in a row might as well be read once. -/
theorem layered_compose :
    ∃ b c merged, layerOf layered Yaml.readFlow "base.yml" = .ok b ∧
      layerOf layered Yaml.readFlow "local.yml" = .ok c ∧
      mergeFields (mergeFields defaults b) c = mergeFields defaults (mergeFields b c) ∧
      (load layered ["base.yml", "local.yml"]).1 = .ok merged ∧
      (load layered ["base.yml", "base.yml", "local.yml"]).1 = .ok merged ∧
      (mapping merged).at? ["output", "site_title"] = some (.text "Local") ∧
      (staticFilesOf merged).mapM asText? = some ["shared", "extra"] := by
  have hread : ((layerOf layered Yaml.readFlow "base.yml").toOption.bind fun b =>
      (layerOf layered Yaml.readFlow "local.yml").toOption.map fun c =>
        (checkAlike b b && checkAlike b c && checkAlike defaults b && checkAlike defaults c,
          ((mapping c).at? ["output", "site_title"]).bind asText?,
          (([b, c].flatMap staticFilesOf).eraseDupsBy Value.same).mapM asText?)) =
      some (true, some "Local", some ["shared", "extra"]) := by decide +kernel
  cases hb : layerOf layered Yaml.readFlow "base.yml" with
  | error e =>
    rw [hb] at hread
    cases hread
  | ok b =>
    cases hc : layerOf layered Yaml.readFlow "local.yml" with
    | error e =>
      rw [hb, hc] at hread
      cases hread
    | ok c =>
      rw [hb, hc] at hread
      simp only [Except.toOption, Option.bind_some, Option.map_some, Option.some.injEq,
        Prod.mk.injEq, Bool.and_eq_true] at hread
      obtain ⟨⟨⟨⟨hbb, hbc⟩, hdb⟩, hdc⟩, htitle, hstatic⟩ := hread
      have hkb := layerOf_wellKeyed Yaml.keyed_readFlow hb
      have hkc := layerOf_wellKeyed Yaml.keyed_readFlow hc
      obtain ⟨title, htitle, ht⟩ := Option.bind_eq_some_iff.mp htitle
      rw [asText?_eq_some ht] at htitle
      have alike {a d : Fields} (ha : (mapping a).WellKeyed) (h : checkAlike a d = true) :
          Alike a d := Value.alike_of_check ha h
      obtain ⟨hlaws, hone, hall⟩ := layers_compose
      have hlayers : ["base.yml", "local.yml"].mapM (layerOf layered Yaml.readFlow) =
          .ok [b, c] := by
        rw [List.mapM_cons, hb, List.mapM_cons, hc]
        rfl
      have hpairwise : (defaults :: [b, c]).Pairwise Alike := by
        simp only [List.pairwise_cons, List.forall_mem_cons]
        exact ⟨⟨alike defaults_wellKeyed hdb, alike defaults_wellKeyed hdc,
          List.forall_mem_nil _⟩, ⟨alike hkb hbc, List.forall_mem_nil _⟩,
          List.forall_mem_nil _, .nil⟩
      obtain ⟨merged, hmerged, hlast, hfiles⟩ :=
        hall _ Yaml.keyed_readFlow layered _ _ hlayers hpairwise
      obtain ⟨-, -, hself, -, hassoc⟩ := hlaws b b c hkb hkb hkc
      have htwice := hone _ Yaml.keyed_readFlow layered layered [] ["local.yml"] "base.yml"
        "base.yml" "base.yml" b b hb hb (hself.symm ▸ hb) (fun _ _ => rfl) (alike hkb hbb)
      refine ⟨b, c, merged, rfl, rfl, (hlaws defaults b c defaults_wellKeyed hkb hkc).2.2.2.2
        (alike hkb hbc), hmerged, htwice.symm.trans hmerged, ?_, ?_⟩
      · exact hlast ["output"] "site_title" _ ⟨[defaults, b], c, [], rfl, htitle,
          List.forall_mem_nil _⟩ ⟨rfl, fun _ => rfl⟩
      · rw [staticFilesOf, hfiles]
        exact hstatic

end DocSite.Settings
