import DocSite.Proofs.Tutorial.Listed
import DocSite.Proofs.Value.Keyed
import Mathlib.Order.WellFoundedSet

/-! Which tutorials are in the tree of a directory. A tutorial leaves the top as soon as another one
lists it, whether or not that one is reached itself. What is at or below a circle of tutorials that
list each other is lost in this way, and nothing else is. -/
namespace DocSite
set_option autoImplicit false

namespace Shelf
open Relation

/-! ## From the top down -/

section
variable {s : Shelf}

theorem Descent.mem_iff {names met : List String} (h : s.Descent names met) (x : String) :
    x ∈ met ↔ ∃ y ∈ names, ReflTransGen s.IsUnder y x := by
  induction h with
  | done => simp
  | @visit name rest below beside _ _ down on =>
    have hhead : ReflTransGen s.IsUnder name x ↔
        x = name ∨ ∃ y ∈ s.childrenOf name, ReflTransGen s.IsUnder y x := by
      rw [ReflTransGen.cases_head_iff, eq_comm]
      simp only [isUnder_iff]
    rw [List.mem_cons, List.mem_append, down, on, List.exists_mem_cons_iff, hhead, or_assoc]

/-- The tree holds what is at or below a tutorial that is under no other one. -/
theorem mem_tree_iff (h : s.WellNested) (hc : s.Closed) (x : String) :
    x ∈ Tutorial.namesOf s.tree.children ↔ ∃ y ∈ s.top, ReflTransGen s.IsUnder y x := by
  have hdescent := descent_of_shows (shows_tree h hc)
  rw [map_name_tree] at hdescent
  exact hdescent.mem_iff x

/-! ## From a tutorial up -/

/-- Whoever a tutorial of a circle is under is in that circle, as it is under no other one. -/
theorem WellNested.isBelow_parent (h : s.WellNested) {parent child : String}
    (hunder : s.IsUnder parent child) (hcircle : s.IsBelow child child) :
    s.IsBelow parent parent := by
  obtain ⟨last, hdown, hlast⟩ := TransGen.tail'_iff.mp hcircle
  obtain rfl := h.parent_eq parent last child hunder hlast
  exact TransGen.head' hunder hdown

/-- The top is above no circle. -/
theorem WellNested.not_isBelow_of_top (h : s.WellNested) {y x : String} (hy : y ∈ s.top)
    (hyx : ReflTransGen s.IsUnder y x) : ¬ s.IsBelow x x := by
  induction hyx with
  | refl =>
    intro hcircle
    obtain ⟨last, -, hlast⟩ := TransGen.tail'_iff.mp hcircle
    exact h.not_isUnder_of_mem_top hy last hlast
  | tail _ hunder ih => exact fun hcircle => ih (h.isBelow_parent hunder hcircle)

/-- Two that a tutorial is below are above one another. -/
theorem WellNested.above_total (h : s.WellNested) {y z x : String}
    (hy : ReflTransGen s.IsUnder y x) (hz : ReflTransGen s.IsUnder z x) :
    ReflTransGen s.IsUnder y z ∨ ReflTransGen s.IsUnder z y := by
  have hunique : Relator.RightUnique (Function.swap s.IsUnder) :=
    fun child p q hp hq => h.parent_eq p q child hp hq
  have htotal := ReflTransGen.total_of_right_unique hunique (reflTransGen_swap.mpr hy)
    (reflTransGen_swap.mpr hz)
  exact htotal.symm.imp reflTransGen_swap.mp reflTransGen_swap.mp

theorem IsUnder.mem_keys {parent child : String} (h : s.IsUnder parent child) :
    parent ∈ s.entries.keys := by
  obtain ⟨e, he, -⟩ := h
  rw [← has_iff_mem_keys, Table.has, he]
  rfl

/-- One tutorial is above another on the way up from a third. -/
def IsOverOn (s : Shelf) (x upper lower : String) : Prop :=
  s.IsBelow upper lower ∧ ReflTransGen s.IsUnder lower x

/-- Where no circle is at or above a tutorial the way up from it ends at the top, as the shelf is
finite. -/
theorem exists_top_of_no_circle (hnested : ∀ child ∈ s.nested, ∃ parent, s.IsUnder parent child)
    {x : String} (hx : x ∈ s.entries.keys)
    (hfree : ∀ z, ReflTransGen s.IsUnder z x → ¬ s.IsBelow z z) :
    ∃ y ∈ s.top, ReflTransGen s.IsUnder y x := by
  have hstrict : IsStrictOrder String (s.IsOverOn x) :=
    { irrefl := fun z hz => hfree z hz.2 hz.1
      trans := fun _ _ _ hab hbc => ⟨hab.1.trans hbc.1, hbc.2⟩ }
  have hwf : {z | z ∈ s.entries.keys}.WellFoundedOn (s.IsOverOn x) :=
    s.entries.keys.finite_toSet.wellFoundedOn
  refine hwf.induction hx
    (P := fun z => ReflTransGen s.IsUnder z x → ∃ y ∈ s.top, ReflTransGen s.IsUnder y x) ?_ .refl
  intro z hz ih hzx
  by_cases hchild : z ∈ s.nested
  · obtain ⟨parent, hunder⟩ := hnested z hchild
    exact ih parent hunder.mem_keys ⟨.single hunder, hzx⟩ (.head hunder hzx)
  · exact ⟨z, List.mem_filter.mpr ⟨hz, by simpa using hchild⟩, hzx⟩

/-- A tutorial of the shelf is in the tree if and only if no circle is at or above it. -/
theorem mem_tree_iff_no_circle (h : s.WellNested) (hc : s.Closed)
    (hnested : ∀ child ∈ s.nested, ∃ parent, s.IsUnder parent child) (x : String) :
    x ∈ Tutorial.namesOf s.tree.children ↔ x ∈ s.entries.keys ∧
      ∀ z, ReflTransGen s.IsUnder z x → ¬ s.IsBelow z z := by
  rw [mem_tree_iff h hc]
  constructor
  · rintro ⟨y, hy, hyx⟩
    constructor
    · rcases ReflTransGen.cases_tail hyx with rfl | ⟨p, -, hunder⟩
      · exact (List.mem_filter.mp hy).1
      · exact has_iff_mem_keys.mp (hc p x hunder)
    · intro z hzx
      rcases h.above_total hyx hzx with hyz | hzy
      · exact h.not_isBelow_of_top hy hyz
      · -- Nothing is above the top but itself.
        rcases ReflTransGen.cases_tail hzy with rfl | ⟨p, -, hunder⟩
        · exact h.not_isBelow_of_top hy .refl
        · exact absurd hunder (h.not_isUnder_of_mem_top hy p)
  · rintro ⟨hx, hfree⟩
    exact exists_top_of_no_circle hnested hx hfree

end

end Shelf

/-! ## What becomes known -/

theorem Registry.addTutorials_known_iff (r : Registry) (ts : List Tutorial) (name : String) :
    ((r.addTutorials ts).tutorials.get? name).isSome = true ↔
      name ∈ Tutorial.namesOf ts ∨ (r.tutorials.get? name).isSome = true := by
  rw [addTutorials_eq_foldl, ← (Tutorial.lastFirst_perm ts).mem_iff]
  induction Tutorial.lastFirst ts generalizing r with
  | nil => simp
  | cons t rest ih =>
    rw [List.foldl_cons, ih, addTutorial, Table.get?_insert, List.map_cons, List.mem_cons]
    by_cases hname : name = t.name <;> simp [hname]

namespace Tutorial
open Relation

/-- The tree that is loaded holds the tutorials of the directory but for those at or below a circle
of tutorials that go under each other, so it holds all of them if and only if there is no circle.
Those that it holds become known to links, and their pages are written. -/
theorem reached_iff_no_circle {t : FileTree} {directory : Option Path} {yaml : Yaml.Reader}
    {root : Tutorial} {log : List LogRecord} (h : load t directory yaml = .ok (root, log)) :
    (∀ name, name ∈ namesOf root.children ↔ name ∈ found t directory ∧
      ∀ above, ReflTransGen (GoesUnder t directory yaml) above name →
        ¬ TransGen (GoesUnder t directory yaml) above above) ∧
    ((∀ name ∈ found t directory, name ∈ namesOf root.children) ↔
      ∀ name, ¬ TransGen (GoesUnder t directory yaml) name name) ∧
    (∀ (r : Registry) (name : String),
      ((r.addTutorials root.children).tutorials.get? name).isSome = true ↔
        name ∈ namesOf root.children ∨ (r.tutorials.get? name).isSome = true) ∧
    (inOrder root.children).map name = namesOf root.children ∧
    ∀ (sidebar : Html) (site : Site), site.writeTutorials sidebar root.children =
      (inOrder root.children).foldlM (Site.writeTutorial sidebar) site := by
  rw [load_eq] at h
  obtain ⟨⟨s, notes⟩, hs, hroot⟩ := exists_of_map_eq_ok h
  cases hroot
  obtain ⟨hnested, hclosed⟩ := shelf_sound hs
  have hfollows := follows_shelf hs
  have hunder : s.IsUnder = GoesUnder t directory yaml := by
    funext parent child
    rw [hfollows.isUnder_iff, List.contains_iff_mem]
    rfl
  have hkeys : ∀ name, name ∈ s.entries.keys ↔ name ∈ found t directory := by
    intro name
    rw [← Shelf.has_iff_mem_keys, hfollows.has_eq, List.contains_iff_mem]
  have hparent : ∀ child ∈ s.nested, ∃ parent, s.IsUnder parent child := by
    intro child hchild
    obtain ⟨hknown, hfirst⟩ := (hfollows.nested_iff child).mp hchild
    obtain ⟨parent, hfirst⟩ := Option.isSome_iff_exists.mp hfirst
    exact ⟨parent, (hfollows.isUnder_iff parent child).mpr ⟨hknown, hfirst⟩⟩
  have hmem : ∀ name, name ∈ namesOf s.tree.children ↔ name ∈ found t directory ∧
      ∀ above, ReflTransGen (GoesUnder t directory yaml) above name →
        ¬ TransGen (GoesUnder t directory yaml) above above := by
    intro name
    rw [Shelf.mem_tree_iff_no_circle hnested hclosed hparent, hkeys, hunder, Shelf.IsBelow, hunder]
  refine ⟨hmem, ⟨fun hall name hcircle => ?_, fun hfree name hname => ?_⟩,
    fun r name => Registry.addTutorials_known_iff r _ name, map_name_inOrder _,
    fun sidebar => Site.writeTutorials_eq_foldlM sidebar _⟩
  · obtain ⟨last, -, hlast⟩ := TransGen.tail'_iff.mp hcircle
    exact ((hmem name).mp (hall name hlast.1)).2 name .refl hcircle
  · exact (hmem name).mpr ⟨hname, fun above _ => hfree above⟩

/-- Two tutorials that list each other, and one beside them. -/
def ringed : FileTree :=
  ⟨[(⟨false, ["t"]⟩, .directory), (⟨false, ["t", "a.md"]⟩, .file []),
    (⟨false, ["t", "b.md"]⟩, .file []), (⟨false, ["t", "c.md"]⟩, .file []),
    (⟨false, ["t", "tutorials.json"]⟩, .file (Page.bytesOf
      "\x7b\"a\":\x7b\"children\":[\"b\"]\x7d,\"b\":\x7b\"children\":[\"a\"]\x7d\x7d"))]⟩

theorem ringed_loses_two :
    ∃ root, load ringed (some (Path.ofString "t")) = .ok (root, []) ∧
      found ringed (some (Path.ofString "t")) = ["a", "b", "c"] ∧
      ∀ name, name ∈ namesOf root.children ↔ name = "c" := by
  have hchildren : ringed.children (Path.ofString "t") =
      ringed.nodes.tail.map fun p => (p.1.parts.getLast!, p.2) := by
    have hsorted : ringed.descendants (Path.ofString "t") =
        ringed.nodes.tail.map fun p => (⟨"", [p.1.parts.getLast!]⟩, p.2) := by
      unfold FileTree.descendants
      exact List.mergeSort_of_pairwise (by decide)
    rw [FileTree.children, hsorted]
    rfl
  have hdirectory : ringed.isDirectory (Path.ofString "t") = .ok true := by rfl
  have hfound : found ringed (some (Path.ofString "t")) = ["a", "b", "c"] := by
    rw [found, hdirectory]
    dsimp only
    rw [hchildren]
    decide +kernel
  have hlisted : listed ringed (some (Path.ofString "t")) = [("a", "b"), ("b", "a")] := by
    rw [listed, hfound]
    decide +kernel
  have hlog : ((shelf ringed (some (Path.ofString "t"))).map Prod.snd).toOption = some [] := by
    rw [shelf, hdirectory]
    dsimp only
    rw [Shelf.ofDirectory, hchildren]
    decide +kernel
  obtain ⟨s, hs⟩ : ∃ s, shelf ringed (some (Path.ofString "t")) = .ok (s, []) := by
    cases hs : shelf ringed (some (Path.ofString "t")) with
    | error e =>
      rw [hs] at hlog
      cases hlog
    | ok loaded =>
      rw [hs] at hlog
      exact ⟨loaded.1, congrArg Except.ok (Prod.ext rfl (Option.some.inj hlog))⟩
  have hload : load ringed (some (Path.ofString "t")) = .ok (s.tree, []) := by
    rw [load_eq, hs]
    rfl
  have hab : GoesUnder ringed (some (Path.ofString "t")) Yaml.readFlow "a" "b" := by
    rw [GoesUnder, hfound, hlisted]
    decide
  have hba : GoesUnder ringed (some (Path.ofString "t")) Yaml.readFlow "b" "a" := by
    rw [GoesUnder, hfound, hlisted]
    decide
  have hc : ∀ parent, ¬ GoesUnder ringed (some (Path.ofString "t")) Yaml.readFlow parent "c" := by
    rintro parent ⟨-, hfirst⟩
    rw [hlisted] at hfirst
    cases hfirst
  refine ⟨s.tree, hload, hfound, fun name => ?_⟩
  rw [(reached_iff_no_circle hload).1, hfound]
  constructor
  · rintro ⟨hname, hfree⟩
    simp only [List.mem_cons, List.not_mem_nil, or_false] at hname
    rcases hname with rfl | rfl | rfl
    · exact absurd (TransGen.head hab (.single hba)) (hfree "a" .refl)
    · exact absurd (TransGen.head hba (.single hab)) (hfree "b" .refl)
    · rfl
  · rintro rfl
    refine ⟨by simp, fun above habove hcircle => ?_⟩
    rcases ReflTransGen.cases_tail habove with rfl | ⟨p, -, hp⟩
    · obtain ⟨p, -, hp⟩ := TransGen.tail'_iff.mp hcircle
      exact hc p hp
    · exact hc p hp

end Tutorial
end DocSite
