import DocSite.Proofs.Publish.Schedule
import DocSite.Proofs.Tutorial.Names

/-! Walks over the tutorials of a shelf. A structure may put tutorials under one another in circles,
but a tutorial goes under one other at most, so no circle hangs below a tutorial that is under no
other one. From these the way to a tutorial is determined and passes no tutorial twice: the tree is
nowhere cut off, and a walk from the top comes to an end with every tutorial met once at most. -/
namespace DocSite
set_option autoImplicit false

/-! ## The shelf that is loaded -/

namespace Shelf

/-- Those under a tutorial are on the shelf themselves. -/
def Closed (s : Shelf) : Prop := ∀ parent child, s.IsUnder parent child → s.entries.has child = true

theorem has_insert {s : Shelf} {name other : String} {e : ShelfEntry} :
    (s.entries.insert name e).has other = (other == name || s.entries.has other) := by
  unfold Table.has
  rw [Table.get?_insert]
  cases other == name <;> rfl

theorem has_iff_mem_keys {s : Shelf} {name : String} :
    s.entries.has name = true ↔ name ∈ s.entries.keys := by
  rw [← not_iff_not, ← Table.get?_eq_none_iff, Table.has, Option.isSome_iff_ne_none, not_not]

theorem Closed.insert {s : Shelf} (h : s.Closed) {name : String} {e : ShelfEntry}
    {nested : List String} (he : ∀ child ∈ e.children, s.entries.has child = true) :
    Closed { entries := s.entries.insert name e, nested := nested } := by
  rintro parent child ⟨f, hf, hc⟩
  rw [has_insert, Bool.or_eq_true]
  rw [Table.get?_insert] at hf
  split at hf
  · cases hf
    exact .inr (he child hc)
  · exact .inr (h parent child ⟨f, hf, hc⟩)

theorem Closed.setTitle {s : Shelf} (h : s.Closed) (name title : String) :
    (s.setTitle name title).Closed := by
  unfold Shelf.setTitle
  split
  · rename_i e he
    exact h.insert fun child hc => h name child ⟨e, he, hc⟩
  · exact h

theorem Closed.nest {s : Shelf} (h : s.Closed) (parent : String) {child : String}
    (hchild : s.entries.has child = true) : (s.nest parent child).Closed := by
  unfold Shelf.nest
  split
  · exact h
  · split
    · rename_i e he
      refine h.insert fun other ho => ?_
      rcases List.mem_append.mp ho with ho | ho
      · exact h parent other ⟨e, he, ho⟩
      · rw [List.mem_singleton.mp ho]
        exact hchild
    · exact h

theorem IsFlat.closed {s : Shelf} (h : s.IsFlat) : s.Closed := by
  rintro parent child ⟨e, he, hc⟩
  rw [h parent e he] at hc
  cases hc

theorem closed_ofDirectory {t : FileTree} {yaml : Yaml.Reader} {directory : Path} {s : Logged}
    (h : ofDirectory t yaml directory = .ok s) : s.1.Closed := by
  unfold ofDirectory at h
  obtain ⟨flat, ha, h⟩ := Fault.bind_eq_ok_iff.mp h
  obtain ⟨read, -, h⟩ := Fault.bind_eq_ok_iff.mp h
  have hflat : flat.WellNested ∧ flat.IsFlat :=
    addFiles_flat wellNested_empty (fun _ _ he => by cases he) ha
  exact arrange_keeps (fun _ name title hs => hs.setTitle name title)
    (fun _ parent _ hs hchild => hs.nest parent hchild) hflat.2.closed h

end Shelf

/-- The shelf whose tree is loaded: without a directory it is empty. -/
def Tutorial.shelf (t : FileTree) (directory : Option Path)
    (yaml : Yaml.Reader := Yaml.readFlow) : Except Fault Shelf.Logged :=
  match directory with
  | none => .ok ({}, [])
  | some path =>
    match t.isDirectory path with
    | .error e => .error (.unusablePath e)
    | .ok false =>
      .ok ({}, [.warn ("Tutorials directory " ++ path.display ++ " does not exist")])
    | .ok true => Shelf.ofDirectory t yaml path

theorem Tutorial.load_eq (t : FileTree) (directory : Option Path) (yaml : Yaml.Reader) :
    Tutorial.load t directory yaml =
      (Tutorial.shelf t directory yaml).map fun s => (s.1.tree, s.2) := by
  unfold Tutorial.load Tutorial.shelf
  cases directory with
  | none => rfl
  | some path =>
    dsimp only
    cases t.isDirectory path with
    | error e => rfl
    | ok found =>
      cases found with
      | false => rfl
      | true =>
        dsimp only
        cases Shelf.ofDirectory t yaml path <;> rfl

theorem Tutorial.shelf_sound {t : FileTree} {directory : Option Path} {yaml : Yaml.Reader}
    {s : Shelf.Logged} (h : Tutorial.shelf t directory yaml = .ok s) :
    s.1.WellNested ∧ s.1.Closed := by
  have hempty : ({} : Shelf).WellNested ∧ ({} : Shelf).Closed :=
    ⟨Shelf.wellNested_empty, Shelf.IsFlat.closed fun _ _ he => by cases he⟩
  unfold Tutorial.shelf at h
  split at h
  · cases h
    exact hempty
  · split at h
    · cases h
    · cases h
      exact hempty
    · exact ⟨Shelf.wellNested_ofDirectory h, Shelf.closed_ofDirectory h⟩

namespace Shelf

/-! ## The way to a tutorial -/

/-- A way from a tutorial up to one that is under no other one, the nearest above it first. -/
inductive Way (s : Shelf) : String → List String → Prop
  | top {name : String} (h : name ∈ s.top) : Way s name []
  | under {parent child : String} {above : List String} (way : Way s parent above)
      (h : s.IsUnder parent child) : Way s child (parent :: above)

section
variable {s : Shelf} {name : String} {above : List String}

theorem WellNested.not_isUnder_of_mem_top (h : s.WellNested) (hname : name ∈ s.top)
    (parent : String) : ¬ s.IsUnder parent name := by
  intro hunder
  have hnested := h.nested parent name hunder
  simp [Shelf.top, hnested] at hname

/-- There is one way to a tutorial at most. -/
theorem Way.unique (h : s.WellNested) (way : s.Way name above) {other : List String}
    (way' : s.Way name other) : above = other := by
  induction way generalizing other with
  | top hname =>
    cases way' with
    | top => rfl
    | under _ hunder => exact absurd hunder (h.not_isUnder_of_mem_top hname _)
  | under _ hunder ih =>
    cases way' with
    | top hname => exact absurd hunder (h.not_isUnder_of_mem_top hname _)
    | under up hunder' =>
      obtain rfl := h.parent_eq _ _ _ hunder hunder'
      exact congrArg _ (ih up)

/-- The way to a tutorial goes on from each one it passes. -/
theorem Way.of_mem (way : s.Way name above) {passed : String} (hpassed : passed ∈ above) :
    ∃ higher, s.Way passed higher ∧ higher.length < above.length := by
  induction way with
  | top => cases hpassed
  | @under parent child above up _ ih =>
    rcases List.mem_cons.mp hpassed with rfl | hpassed
    · exact ⟨above, up, by simp⟩
    · obtain ⟨higher, way, hlt⟩ := ih hpassed
      exact ⟨higher, way, by rw [List.length_cons]; omega⟩

/-- The way to a tutorial passes none twice: from the second time on it would be a shorter way. -/
theorem Way.nodup (h : s.WellNested) (way : s.Way name above) : (name :: above).Nodup := by
  have hself : ∀ {name above}, s.Way name above → name ∉ above := by
    intro name above way hname
    obtain ⟨higher, way', hlt⟩ := way.of_mem hname
    rw [way.unique h way'] at hlt
    omega
  induction way with
  | top hname => exact List.nodup_cons.mpr ⟨hself (.top hname), List.nodup_nil⟩
  | under up hunder ih => exact List.nodup_cons.mpr ⟨hself (.under up hunder), ih⟩

theorem Way.mem_keys (hc : s.Closed) (way : s.Way name above) : name ∈ s.entries.keys := by
  cases way with
  | top h => exact (List.mem_filter.mp h).1
  | under _ hunder => exact has_iff_mem_keys.mp (hc _ _ hunder)

/-- A way is shorter than the shelf. -/
theorem Way.length_lt (h : s.WellNested) (hc : s.Closed) (way : s.Way name above) :
    above.length < s.entries.keys.length := by
  have hsub : name :: above ⊆ s.entries.keys := by
    intro other ho
    rcases List.mem_cons.mp ho with rfl | ho
    · exact way.mem_keys hc
    · obtain ⟨higher, way', -⟩ := way.of_mem ho
      exact way'.mem_keys hc
  have hle := ((way.nodup h).subperm hsub).length_le
  rw [List.length_cons] at hle
  omega

end

/-! ## The tree is whole -/

/-- A tree shows a tutorial as it is on the shelf, with all that are under it, and so on down. -/
inductive Shows (s : Shelf) : Tutorial → Prop
  | intro {name : String} {e : ShelfEntry} {children : List Tutorial}
      (entry : s.entries.get? name = some e) (names : children.map Tutorial.name = e.children)
      (below : ∀ t ∈ children, Shows s t) : Shows s ⟨name, e.title, e.content, e.format, children⟩

section
variable {s : Shelf}

theorem name_treeWithin (levels : ℕ) (name : String) : (s.treeWithin levels name).name = name := by
  cases levels with
  | zero => rfl
  | succ levels =>
    rw [treeWithin]
    split <;> rfl

theorem map_name_treeWithin (levels : ℕ) (names : List String) :
    (names.map (s.treeWithin levels)).map Tutorial.name = names := by
  rw [List.map_map]
  exact (List.map_congr_left fun name _ => name_treeWithin levels name).trans (List.map_id names)

/-- Enough levels for the way that may still follow are enough for the whole tree. -/
theorem shows_treeWithin (h : s.WellNested) (hc : s.Closed) {levels : ℕ} {name : String}
    {above : List String} (way : s.Way name above)
    (hlevels : above.length + levels = s.entries.keys.length) :
    s.Shows (s.treeWithin levels name) := by
  induction levels generalizing name above with
  | zero =>
    have hlt := way.length_lt h hc
    omega
  | succ levels ih =>
    rw [treeWithin]
    split
    · rename_i e he
      refine .intro he (map_name_treeWithin levels e.children) fun t ht => ?_
      obtain ⟨child, hchild, rfl⟩ := List.mem_map.mp ht
      refine ih (.under way ⟨e, he, hchild⟩) ?_
      rw [List.length_cons]
      omega
    · rename_i hnone
      exact absurd (way.mem_keys hc) (Table.get?_eq_none_iff.mp hnone)

theorem map_name_tree : s.tree.children.map Tutorial.name = s.top := map_name_treeWithin _ _

theorem shows_tree (h : s.WellNested) (hc : s.Closed) : ∀ t ∈ s.tree.children, s.Shows t := by
  intro t ht
  obtain ⟨name, hname, rfl⟩ := List.mem_map.mp ht
  exact shows_treeWithin h hc (.top hname) (Nat.zero_add _)

end

/-! ## Walks -/

/-- A walk that takes the last name that waits and puts those under it in its place, with the names
it takes in order. -/
inductive Walk (s : Shelf) : List String → List String → Prop
  | done : Walk s [] []
  | visit {waiting visited : List String} {name : String}
      (rest : Walk s (waiting ++ s.childrenOf name) visited) :
      Walk s (waiting ++ [name]) (name :: visited)

/-- A walk that goes down below each name before it goes on, with the names it meets in order. -/
inductive Descent (s : Shelf) : List String → List String → Prop
  | done : Descent s [] []
  | visit {name : String} {rest below beside : List String}
      (down : Descent s (s.childrenOf name) below) (on : Descent s rest beside) :
      Descent s (name :: rest) (name :: (below ++ beside))

section
variable {s : Shelf}

theorem Walk.unique {waiting visited visited' : List String} (h : s.Walk waiting visited)
    (h' : s.Walk waiting visited') : visited = visited' := by
  induction h generalizing visited' with
  | done =>
    generalize hw : ([] : List String) = waiting at h'
    cases h' with
    | done => rfl
    | visit => exact absurd hw.symm (by simp)
  | @visit waiting visited name rest ih =>
    generalize hw : waiting ++ [name] = waiting' at h'
    cases h' with
    | done => exact absurd hw (by simp)
    | visit rest' =>
      obtain ⟨rfl, hname⟩ := List.append_inj' hw rfl
      obtain rfl := List.singleton_inj.mp hname
      exact congrArg _ (ih rest')

theorem Walk.append {front back visited visited' : List String} (h : s.Walk back visited)
    (h' : s.Walk front visited') : s.Walk (front ++ back) (visited ++ visited') := by
  induction h with
  | done =>
    rw [List.append_nil]
    exact h'
  | visit _ ih =>
    rw [← List.append_assoc] at ih ⊢
    exact .visit ih

theorem Descent.unique {names met met' : List String} (h : s.Descent names met)
    (h' : s.Descent names met') : met = met' := by
  induction h generalizing met' with
  | done =>
    cases h'
    rfl
  | visit _ _ down on =>
    cases h' with
    | visit down' on' => rw [down down', on on']

end

end Shelf

/-- Tutorials in the order in which they become known. -/
def Tutorial.lastFirst : List Tutorial → List Tutorial
  | [] => []
  | ⟨name, title, content, format, children⟩ :: rest =>
    lastFirst rest ++ ⟨name, title, content, format, children⟩ :: lastFirst children

theorem Registry.addTutorials_eq_foldl : ∀ (ts : List Tutorial) (r : Registry),
    r.addTutorials ts = (Tutorial.lastFirst ts).foldl (fun r t => r.addTutorial t.name t.title) r
  | [], r => by
    rw [addTutorials, Tutorial.lastFirst]
    rfl
  | ⟨name, title, content, format, children⟩ :: rest, r => by
    rw [addTutorials, Tutorial.lastFirst, List.foldl_append, List.foldl_cons,
      addTutorials_eq_foldl rest, addTutorials_eq_foldl children]

theorem Tutorial.lastFirst_perm : ∀ ts : List Tutorial,
    ((lastFirst ts).map Tutorial.name).Perm (namesOf ts)
  | [] => by rw [lastFirst, namesOf]; exact List.Perm.refl _
  | ⟨name, title, content, format, children⟩ :: rest => by
    rw [lastFirst, namesOf, List.map_append, List.map_cons]
    refine List.perm_middle.trans (List.Perm.cons name ?_)
    exact (List.perm_append_comm).trans ((lastFirst_perm children).append (lastFirst_perm rest))

theorem Tutorial.map_name_inOrder : ∀ ts : List Tutorial,
    (inOrder ts).map Tutorial.name = namesOf ts
  | [] => by rw [inOrder, namesOf]; rfl
  | ⟨name, title, content, format, children⟩ :: rest => by
    rw [inOrder, namesOf, List.map_cons, List.map_append, map_name_inOrder children,
      map_name_inOrder rest]

namespace Shelf

section
variable {s : Shelf}

theorem Shows.childrenOf {t : Tutorial} (h : s.Shows t) :
    s.childrenOf t.name = t.children.map Tutorial.name := by
  cases h with
  | intro entry names =>
    unfold Shelf.childrenOf
    rw [entry]
    exact names.symm

theorem Shows.children {t : Tutorial} (h : s.Shows t) : ∀ c ∈ t.children, s.Shows c := by
  cases h with
  | intro _ _ below => exact below

theorem walk_of_shows : ∀ {ts : List Tutorial}, (∀ t ∈ ts, s.Shows t) →
    s.Walk (ts.map Tutorial.name) ((Tutorial.lastFirst ts).map Tutorial.name)
  | [], _ => by
    rw [Tutorial.lastFirst]
    exact .done
  | ⟨name, title, content, format, children⟩ :: rest, h => by
    have hfirst := h _ List.mem_cons_self
    have hbelow := walk_of_shows hfirst.children
    have hrest := walk_of_shows fun t ht => h t (List.mem_cons_of_mem _ ht)
    rw [Tutorial.lastFirst, List.map_append, List.map_cons, List.map_cons]
    have hvisit : s.Walk ([] ++ [name])
        (name :: (Tutorial.lastFirst children).map Tutorial.name) := by
      refine .visit ?_
      rw [List.nil_append, hfirst.childrenOf]
      exact hbelow
    exact hrest.append hvisit

theorem descent_of_shows : ∀ {ts : List Tutorial}, (∀ t ∈ ts, s.Shows t) →
    s.Descent (ts.map Tutorial.name) (Tutorial.namesOf ts)
  | [], _ => by
    rw [Tutorial.namesOf]
    exact .done
  | ⟨name, title, content, format, children⟩ :: rest, h => by
    have hfirst := h _ List.mem_cons_self
    rw [Tutorial.namesOf, List.map_cons]
    refine .visit ?_ (descent_of_shows fun t ht => h t (List.mem_cons_of_mem _ ht))
    rw [hfirst.childrenOf]
    exact descent_of_shows hfirst.children

theorem shows_lastFirst : ∀ {ts : List Tutorial}, (∀ t ∈ ts, s.Shows t) →
    ∀ t ∈ Tutorial.lastFirst ts, s.Shows t
  | [], _, t, ht => by
    rw [Tutorial.lastFirst] at ht
    cases ht
  | ⟨name, title, content, format, children⟩ :: rest, h, t, ht => by
    have hfirst := h _ List.mem_cons_self
    rw [Tutorial.lastFirst, List.mem_append, List.mem_cons] at ht
    rcases ht with ht | rfl | ht
    · exact shows_lastFirst (fun c hc => h c (List.mem_cons_of_mem _ hc)) t ht
    · exact hfirst
    · exact shows_lastFirst hfirst.children t ht

end

/-- The title of a tutorial of the shelf. -/
def titleOf (s : Shelf) (name : String) : String :=
  ((s.entries.get? name).map ShelfEntry.title).getD ""

theorem Shows.title {s : Shelf} {t : Tutorial} (h : s.Shows t) : s.titleOf t.name = t.title := by
  cases h with
  | intro entry =>
    unfold titleOf
    rw [entry]
    rfl

/-- Making the tutorials of a tree known is the walk that takes the last name that waits. -/
theorem addTutorials_eq_walk {s : Shelf} {ts : List Tutorial} (h : ∀ t ∈ ts, s.Shows t)
    (r : Registry) : r.addTutorials ts = ((Tutorial.lastFirst ts).map Tutorial.name).foldl
      (fun r name => r.addTutorial name (s.titleOf name)) r := by
  rw [Registry.addTutorials_eq_foldl, List.foldl_map]
  refine List.foldl_ext _ _ r fun r t ht => ?_
  rw [(shows_lastFirst h t ht).title]

end Shelf

/-- Writing the pages of a tree goes down below each tutorial before it goes on. -/
theorem Site.writeTutorials_eq_foldlM (sidebar : Html) (ts : List Tutorial) (site : Site) :
    site.writeTutorials sidebar ts = (Tutorial.inOrder ts).foldlM (writeTutorial sidebar) site := by
  rw [writeTutorials_eq_jobs, List.foldlM_map]
  congr
  funext site t
  exact run_tutorial t

/-- On the shelf that is loaded a tutorial is in one list at most, once at most: in that of a
tutorial, or in that of the top. The tree shows the shelf from the top on and is nowhere cut off.
So both walks from the top, the one that makes tutorials known and the one that writes their pages,
come to an end, in one way, and meet every tutorial once at most. -/
theorem Tutorial.load_forest {t : FileTree} {directory : Option Path} {yaml : Yaml.Reader}
    {root : Tutorial} {log : List LogRecord}
    (h : Tutorial.load t directory yaml = .ok (root, log)) :
    ∃ s : Shelf, Tutorial.shelf t directory yaml = .ok (s, log) ∧ root = s.tree ∧
      (∀ p q child, s.IsUnder p child → s.IsUnder q child → p = q) ∧
      (∀ p, (s.childrenOf p).Nodup) ∧
      s.top.Nodup ∧
      (∀ child ∈ s.top, ∀ p, ¬ s.IsUnder p child) ∧
      root.children.map Tutorial.name = s.top ∧
      (∀ c ∈ root.children, s.Shows c) ∧
      (∃ visited : List String, visited.Nodup ∧
        (∀ v, s.Walk s.top v ↔ v = visited) ∧
        ∀ r : Registry, r.addTutorials root.children =
          visited.foldl (fun r name => r.addTutorial name (s.titleOf name)) r) ∧
      ∃ visited : List String, visited.Nodup ∧
        (∀ v, s.Descent s.top v ↔ v = visited) ∧
        (Tutorial.inOrder root.children).map Tutorial.name = visited ∧
        ∀ (sidebar : Html) (site : Site), site.writeTutorials sidebar root.children =
          (Tutorial.inOrder root.children).foldlM (Site.writeTutorial sidebar) site := by
  rw [Tutorial.load_eq] at h
  cases hs : Tutorial.shelf t directory yaml with
  | error e =>
    rw [hs] at h
    cases h
  | ok found =>
    obtain ⟨s, notes⟩ := found
    rw [hs] at h
    cases h
    obtain ⟨hnested, hclosed⟩ := Tutorial.shelf_sound hs
    have hshows := Shelf.shows_tree hnested hclosed
    have hwalk := Shelf.walk_of_shows hshows
    have hdescent := Shelf.descent_of_shows hshows
    rw [Shelf.map_name_tree] at hwalk hdescent
    have hnames : (Tutorial.namesOf s.tree.children).Nodup := hnested.nodup_tree
    refine ⟨s, rfl, rfl, hnested.parent_eq, fun p => ?_, hnested.keys_nodup.filter _,
      fun child hchild => hnested.not_isUnder_of_mem_top hchild, Shelf.map_name_tree, hshows,
      ⟨_, (Tutorial.lastFirst_perm _).nodup_iff.mpr hnames,
        fun v => ⟨fun hv => hv.unique hwalk, fun hv => hv ▸ hwalk⟩,
        Shelf.addTutorials_eq_walk hshows⟩,
      ⟨_, hnames, fun v => ⟨fun hv => hv.unique hdescent, fun hv => hv ▸ hdescent⟩,
        Tutorial.map_name_inOrder _, fun sidebar => Site.writeTutorials_eq_foldlM sidebar _⟩⟩
    unfold Shelf.childrenOf
    cases he : s.entries.get? p with
    | none => exact List.nodup_nil
    | some e => exact hnested.children_nodup p e he

/-- Two tutorials that are under each other, and two more, one of which asks for one of the others
and for itself. -/
def circled : FileTree :=
  ⟨[(⟨false, ["t"]⟩, .directory), (⟨false, ["t", "a.md"]⟩, .file []),
    (⟨false, ["t", "b.md"]⟩, .file []), (⟨false, ["t", "c.md"]⟩, .file []),
    (⟨false, ["t", "d.html"]⟩, .file []),
    (⟨false, ["t", "tutorials.json"]⟩, .file (Page.bytesOf
      ("\x7b\"a\":\x7b\"children\":[\"b\"]\x7d,\"b\":\x7b\"children\":[\"a\"]\x7d," ++
        "\"c\":\x7b\"children\":\x7b\"d\":\x7b\"children\":[\"b\",\"d\"]\x7d\x7d\x7d\x7d")))]⟩

theorem circled_forest :
    ∃ root s, Tutorial.load circled (some (Path.ofString "t")) = .ok (root, []) ∧
      Tutorial.shelf circled (some (Path.ofString "t")) = .ok (s, []) ∧
      s.childrenOf "a" = ["b"] ∧ s.childrenOf "b" = ["a"] ∧ s.top = ["c"] ∧
      s.childrenOf "c" = ["d"] ∧
      ∃ visited : List String, visited.Nodup ∧ ∀ v, s.Walk s.top v ↔ v = visited := by
  have hfound : circled.children (Path.ofString "t") =
      circled.nodes.tail.map fun p => (p.1.parts.getLast!, p.2) := by
    have hsorted : circled.descendants (Path.ofString "t") =
        circled.nodes.tail.map fun p => (⟨"", [p.1.parts.getLast!]⟩, p.2) := by
      unfold FileTree.descendants
      exact List.mergeSort_of_pairwise (by decide)
    rw [FileTree.children, hsorted]
    rfl
  have hshown : ((Tutorial.shelf circled (some (Path.ofString "t"))).map fun s =>
      ([s.1.childrenOf "a", s.1.childrenOf "b", s.1.top, s.1.childrenOf "c"], s.2)).toOption =
        some ([["b"], ["a"], ["c"], ["d"]], []) := by
    have hdirectory : circled.isDirectory (Path.ofString "t") = .ok true := by rfl
    rw [Tutorial.shelf, hdirectory]
    dsimp only
    rw [Shelf.ofDirectory, hfound]
    decide +kernel
  cases hs : Tutorial.shelf circled (some (Path.ofString "t")) with
  | error e =>
    rw [hs] at hshown
    cases hshown
  | ok found =>
    obtain ⟨s, log⟩ := found
    rw [hs] at hshown
    simp only [Except.map, Except.toOption, Option.some.injEq, Prod.mk.injEq, List.cons.injEq]
      at hshown
    obtain ⟨⟨ha, hb, htop, hc, -⟩, rfl⟩ := hshown
    have hload : Tutorial.load circled (some (Path.ofString "t")) = .ok (s.tree, []) := by
      rw [Tutorial.load_eq, hs]
      rfl
    obtain ⟨s', hs', -, -, -, -, -, -, -, ⟨visited, hd, hwalk, -⟩, -⟩ := Tutorial.load_forest hload
    rw [hs] at hs'
    cases hs'
    exact ⟨s.tree, s, hload, rfl, ha, hb, htop, hc, visited, hd, hwalk⟩

end DocSite
