import DocSite.Proofs.Nav.Parts
import Mathlib.Data.List.Infix

/-! The tree that items make when they are put in under paths. Among the groups under one group a
key tells its segment, so what stands under a prefix is the tree of the items whose paths start with
it, the prefix taken off. All else about the tree follows: which groups there are, what they hold
and in which order they stand. -/
namespace DocSite.NavGroup
set_option autoImplicit false

/-- Items with the paths that they are put in under. -/
abbrev Placed := List (List String × NavItem)

/-! ## Keys -/

/-- A path as headings and keys show it: its segments, each with a slash after it. -/
def slugOf (path : List String) : String := String.join (path.map (· ++ "/"))

/-- The keys on the way to the group of a path: its prefixes as they are shown. -/
def keysOf (path : List String) : List String := path.inits.tail.map slugOf

def at? : List String → NavGroup → Option NavGroup
  | [], g => some g
  | key :: rest, g => (g.children.lookup key).bind (at? rest)

section
variable {slug segment segment' : String} {path path' rest : List String}

theorem slugOf_cons : slugOf (segment :: rest) = segment ++ "/" ++ slugOf rest := String.join_cons

theorem slug_append_cons :
    slug ++ slugOf (segment :: rest) = extend slug segment ++ slugOf rest := by
  rw [slugOf_cons, extend, String.append_assoc, String.append_assoc, String.append_assoc]

theorem slug_append_singleton : slug ++ slugOf [segment] = extend slug segment := by
  rw [slug_append_cons]
  exact String.append_empty

theorem slugOf_concat : slugOf (path ++ [segment]) = extend (slugOf path) segment := by
  induction path with
  | nil => exact slug_append_singleton
  | cons first rest ih =>
    rw [List.cons_append, slugOf_cons, ih, slugOf_cons, extend, extend]
    simp only [String.append_assoc]

theorem slugsFrom_eq_map (slug : String) (path : List String) :
    slugsFrom slug path = path.inits.tail.map fun p => slug ++ slugOf p := by
  induction path generalizing slug with
  | nil => rfl
  | cons segment rest ih =>
    have hinits : rest.inits = [] :: rest.inits.tail := by cases rest <;> simp
    rw [slugsFrom, ih, List.inits_cons, List.tail_cons, hinits, List.map_cons, List.map_cons,
      slug_append_singleton, List.tail_cons, List.map_map]
    congr 1
    exact List.map_congr_left fun p _ => slug_append_cons.symm

theorem slugsFrom_empty (path : List String) : slugsFrom "" path = keysOf path := by
  rw [slugsFrom_eq_map, keysOf]
  exact List.map_congr_left fun p _ => String.empty_append

/-- Segments lead where their keys lead. -/
theorem findFrom?_eq_at? (slug : String) (path : List String) (g : NavGroup) :
    findFrom? slug path g = g.at? (slugsFrom slug path) := by
  induction path generalizing slug g with
  | nil => rfl
  | cons segment rest ih => exact congrArg (Option.bind _) (funext (ih _))

theorem find?_eq_at? (root : NavGroup) (path : List String) :
    root.find? path = root.at? (keysOf path) := by
  rw [find?, findFrom?_eq_at?, slugsFrom_empty]

theorem extend_inj : extend slug segment = extend slug segment' ↔ segment = segment' := by
  rw [extend, extend, String.append_left_inj, String.append_right_inj]

/-- Different paths have different keys, whatever slashes stand in their segments. -/
theorem slugsFrom_injective (slug : String) : (slugsFrom slug).Injective := by
  intro path path' h
  induction path generalizing slug path' with
  | nil =>
    cases path' with
    | nil => rfl
    | cons _ _ => cases h
  | cons segment rest ih =>
    cases path' with
    | nil => cases h
    | cons segment' rest' =>
      obtain ⟨hkey, hrest⟩ := List.cons.inj h
      obtain rfl := extend_inj.mp hkey
      rw [ih _ hrest]

theorem keysOf_injective : keysOf.Injective := by
  have h := slugsFrom_injective ""
  rwa [show slugsFrom "" = keysOf from funext slugsFrom_empty] at h

end

/-! ## One item -/

section
variable {slug segment : String} {item : NavItem} {path : List String} {g : NavGroup}

theorem insertFrom_heading : (insertFrom slug item path g).heading = g.heading := by
  cases path <;> rfl

theorem insertFrom_items :
    (insertFrom slug item path g).items = g.items ++ if path = [] then [item] else [] := by
  cases path with
  | nil => rfl
  | cons segment rest => simp [insertFrom]

/-- The step lemma for look-ups: the item goes on below the child of the first segment of its path,
which is made where there is none; other children stay. -/
theorem lookup_insertFrom_cons (first : String) (rest : List String) :
    (insertFrom slug item (first :: rest) g).children.lookup (extend slug segment) =
      if segment = first then
        some (insertFrom (extend slug segment) item rest
          ((g.children.lookup (extend slug segment)).getD { heading := extend slug segment }))
      else g.children.lookup (extend slug segment) := by
  have hkey : (extend slug segment == extend slug first) = decide (segment = first) := by
    rw [Bool.eq_iff_iff, beq_iff_eq, extend_inj, decide_eq_true_eq]
  rw [insertFrom, Table.lookup_put, hkey]
  by_cases h : segment = first
  · simp [h]
  · simp [h]

theorem keys_insertFrom_cons (first : String) (rest : List String) :
    (insertFrom slug item (first :: rest) g).children.map (·.1) =
      if extend slug first ∈ g.children.map (·.1) then g.children.map (·.1)
      else g.children.map (·.1) ++ [extend slug first] := Table.keys_put ..

theorem at?_insertFrom (slug : String) (item : NavItem) (path : List String) (g : NavGroup) :
    (insertFrom slug item path g).at? (slugsFrom slug path) =
      some (reachedFrom slug item path g) := by
  induction path generalizing slug g with
  | nil => rfl
  | cons segment rest ih =>
    rw [slugsFrom, at?, lookup_insertFrom_cons, if_pos rfl, Option.bind_some, ih]
    rfl

end

/-! ## Many items -/

/-- Items put in one after another, when the prefix so far is `slug`. -/
def insertAllFrom (slug : String) (placed : Placed) (g : NavGroup) : NavGroup :=
  placed.foldl (fun g p => insertFrom slug p.2 p.1 g) g

def insertAll (root : NavGroup) (placed : Placed) : NavGroup := insertAllFrom "" placed root

/-- What stands under a prefix, the prefix taken off. -/
def under (path : List String) (placed : Placed) : Placed :=
  placed.filterMap fun p => (path.isPrefixOf? p.1).map (·, p.2)

/-- The segments that follow a prefix, each where it is first used. -/
def nextSegments (path : List String) (placed : Placed) : List String :=
  Text.distinct ((under path placed).filterMap (·.1.head?))

section
variable {slug segment : String} {path rest : List String} {placed : Placed} {g : NavGroup}

theorem insertAllFrom_concat (slug : String) (placed : Placed) (path : List String) (item : NavItem)
    (g : NavGroup) : insertAllFrom slug (placed ++ [(path, item)]) g =
      insertFrom slug item path (insertAllFrom slug placed g) := List.foldl_append ..

theorem insertAllFrom_heading : (insertAllFrom slug placed g).heading = g.heading := by
  induction placed generalizing g with
  | nil => rfl
  | cons p rest ih => exact ih.trans insertFrom_heading

theorem insertAllFrom_items : (insertAllFrom slug placed g).items =
    g.items ++ (placed.filter (·.1 == [])).map (·.2) := by
  induction placed generalizing g with
  | nil => exact (List.append_nil _).symm
  | cons p rest ih =>
    have hstep : (insertAllFrom slug (p :: rest) g).items = _ := ih
    rw [hstep, insertFrom_items, List.filter_cons]
    by_cases h : p.1 = [] <;> simp [h]

theorem under_nil : under [] placed = placed := by
  simp [under, List.isPrefixOf?]

theorem under_cons (segment : String) (rest : List String) (placed : Placed) :
    under (segment :: rest) placed = under rest (under [segment] placed) := by
  rw [under, under, under, List.filterMap_filterMap]
  refine List.filterMap_congr fun p _ => ?_
  cases p.1 with
  | nil => rfl
  | cons first later =>
    simp only [List.isPrefixOf?]
    split <;> simp

theorem under_ne_nil_iff : under path placed ≠ [] ↔ ∃ p ∈ placed, path <+: p.1 := by
  rw [ne_eq, under, List.filterMap_eq_nil_iff]
  simp only [Option.map_eq_none_iff, not_forall, exists_prop]
  refine exists_congr fun p => and_congr_right fun _ => ?_
  rw [← ne_eq, Option.ne_none_iff_exists']
  exact exists_congr fun _ => List.isPrefixOf?_eq_some_iff_append_eq

theorem filter_under : ((under path placed).filter (·.1 == [])).map (·.2) =
    (placed.filter (·.1 == path)).map (·.2) := by
  induction placed with
  | nil => rfl
  | cons p rest ih =>
    unfold under at ih ⊢
    rw [List.filterMap_cons]
    cases hp : path.isPrefixOf? p.1 with
    | none =>
      have hne : p.1 ≠ path := by
        rintro rfl
        rw [List.isPrefixOf?_eq_some_iff_append_eq.mpr (List.append_nil _)] at hp
        cases hp
      simpa [hne] using ih
    | some later =>
      have hpath := List.isPrefixOf?_eq_some_iff_append_eq.mp hp
      by_cases hnil : later = []
      · have heq : p.1 = path := by rw [← hpath, hnil, List.append_nil]
        simpa [hnil, heq] using ih
      · have hne : p.1 ≠ path := by
          rw [← hpath]
          simpa using hnil
        simpa [hnil, hne] using ih

/-- The child of a segment is the tree of what stands under it. -/
theorem lookup_insertAllFrom (slug segment : String) (placed : Placed) (g : NavGroup) :
    (insertAllFrom slug placed g).children.lookup (extend slug segment) =
      if under [segment] placed = [] then g.children.lookup (extend slug segment)
      else some (insertAllFrom (extend slug segment) (under [segment] placed)
        ((g.children.lookup (extend slug segment)).getD { heading := extend slug segment })) := by
  induction placed generalizing g with
  | nil => rfl
  | cons p rest ih =>
    have hstep : (insertAllFrom slug (p :: rest) g).children.lookup (extend slug segment) = _ :=
      ih (insertFrom slug p.2 p.1 g)
    obtain ⟨path, item⟩ := p
    rw [hstep]
    cases path with
    | nil => rfl -- The item is the group's own; its children stay.
    | cons first later =>
      rw [lookup_insertFrom_cons]
      by_cases hfirst : segment = first
      · have hunder : under [segment] ((first :: later, item) :: rest) =
            (later, item) :: under [segment] rest := by simp [under, hfirst, List.isPrefixOf?]
        rw [if_pos hfirst, hunder, if_neg (List.cons_ne_nil _ _), Option.getD_some]
        split
        · rename_i hnil
          rw [hnil]
          rfl
        · rfl
      · have hunder : under [segment] ((first :: later, item) :: rest) = under [segment] rest := by
          simp [under, hfirst, List.isPrefixOf?]
        rw [if_neg hfirst, hunder]

theorem at?_insertAllFrom (hpath : path ≠ []) (slug : String) (placed : Placed) (title : String)
    (css : Option String) :
    (insertAllFrom slug placed { heading := title, css := css }).at? (slugsFrom slug path) =
      if under path placed = [] then none
      else some (insertAllFrom (slug ++ slugOf path) (under path placed)
        { heading := slug ++ slugOf path }) := by
  induction path generalizing slug placed title css with
  | nil => exact absurd rfl hpath
  | cons segment rest ih =>
    have hnone : ∀ key, ({ heading := title, css := css } : NavGroup).children.lookup key = none :=
      fun _ => rfl
    rw [slugsFrom, at?, lookup_insertAllFrom, hnone, Option.getD_none,
      under_cons segment rest, slug_append_cons]
    -- One step down, the tree of all items becomes the tree of those under the first segment.
    by_cases hsegment : under [segment] placed = []
    · rw [if_pos hsegment, hsegment]
      exact (if_pos rfl).symm
    · rw [if_neg hsegment, Option.bind_some]
      by_cases hrest : rest = []
      · rw [hrest, under_nil, if_neg hsegment, slugOf, List.map_nil, String.join_nil,
          String.append_empty]
        rfl
      · exact ih hrest _ _ _ _

theorem nextSegments_concat_nil (item : NavItem) :
    nextSegments [] (placed ++ [([], item)]) = nextSegments [] placed := by
  rw [nextSegments, under_nil, nextSegments, under_nil, List.filterMap_append]
  exact congrArg _ (List.append_nil _)

theorem nextSegments_concat_cons (first : String) (later : List String) (item : NavItem) :
    nextSegments [] (placed ++ [(first :: later, item)]) =
      if first ∈ nextSegments [] placed then nextSegments [] placed
      else nextSegments [] placed ++ [first] := by
  simp [nextSegments, under_nil, Text.distinct]

/-- The children of a group stand in the order in which their segments are first used. -/
theorem keys_insertAllFrom (slug title : String) (css : Option String) (placed : Placed) :
    (insertAllFrom slug placed { heading := title, css := css }).children.map (·.1) =
      (nextSegments [] placed).map (extend slug) := by
  induction placed using List.reverseRecOn with
  | nil => rfl
  | append_singleton placed p ih =>
    -- From the back: a new key goes to the end, so the last item is the one to look at.
    obtain ⟨path, item⟩ := p
    have hstep := insertAllFrom_concat slug placed path item { heading := title, css := css }
    rw [hstep]
    cases path with
    | nil =>
      rw [nextSegments_concat_nil, ← ih]
      rfl
    | cons first later =>
      have hused : extend slug first ∈ (nextSegments [] placed).map (extend slug) ↔
          first ∈ nextSegments [] placed :=
        List.mem_map_of_injective fun _ _ => extend_inj.mp
      rw [nextSegments_concat_cons, keys_insertFrom_cons, ih]
      by_cases h : first ∈ nextSegments [] placed
      · rw [if_pos h, if_pos (hused.mpr h)]
      · rw [if_neg h, if_neg (mt hused.mp h), List.map_append, List.map_singleton]

theorem exists_path_of_at? {keys : List String} {title : String} {css : Option String}
    (h : ((insertAllFrom slug placed { heading := title, css := css }).at? keys).isSome = true) :
    ∃ path, keys = slugsFrom slug path := by
  induction keys generalizing slug placed title css with
  | nil => exact ⟨[], rfl⟩
  | cons key rest ih =>
    rw [at?] at h
    cases hchild :
        (insertAllFrom slug placed { heading := title, css := css }).children.lookup key with
    | none =>
      rw [hchild] at h
      cases h
    | some child =>
      have hkey : key ∈ (nextSegments [] placed).map (extend slug) := by
        rw [← keys_insertAllFrom slug title css]
        obtain ⟨before, after, he, -⟩ := List.lookup_eq_some_iff.mp hchild
        simp [he]
      obtain ⟨segment, -, rfl⟩ := List.mem_map.mp hkey
      have hlookup := lookup_insertAllFrom slug segment placed
        { heading := title, css := css }
      rw [hchild] at hlookup
      split at hlookup
      · cases hlookup
      · rw [hchild, Option.bind_some, Option.some.inj hlookup] at h
        obtain ⟨path, rfl⟩ := ih h
        exact ⟨segment :: path, rfl⟩

end

/-! ## The whole tree -/

/-- A tree that holds items under the prefixes of their paths, and nothing else. A path has a group
as soon as one of the paths starts with it. The group is headed by the path, holds what was put in
under just this path, and its children stand in the order in which their segments were first used.
No place in the tree belongs to two paths. -/
structure IsPrefixTree (placed : Placed) (tree : NavGroup) : Prop where
  isSome_iff : ∀ path, path ≠ [] →
    ((tree.at? (keysOf path)).isSome = true ↔ ∃ p ∈ placed, path <+: p.1)
  heading_eq : ∀ path g, path ≠ [] → tree.at? (keysOf path) = some g → g.heading = slugOf path
  items_eq : ∀ path g, tree.at? (keysOf path) = some g →
    g.items = (placed.filter (·.1 == path)).map (·.2)
  keys_eq : ∀ path g, tree.at? (keysOf path) = some g →
    g.children.map (·.1) = (nextSegments path placed).map fun segment => slugOf (path ++ [segment])
  path_unique : ∀ keys, (tree.at? keys).isSome = true → ∃! path, keys = keysOf path

section
variable {path : List String} {placed : Placed} {title : String} {css : Option String}

theorem at?_insertAll_keysOf (hpath : path ≠ []) :
    (insertAll { heading := title, css := css } placed).at? (keysOf path) =
      if under path placed = [] then none
      else some (insertAllFrom (slugOf path) (under path placed) { heading := slugOf path }) := by
  rw [← slugsFrom_empty, insertAll, at?_insertAllFrom hpath, String.empty_append]

theorem at?_insertAll_eq_some {g : NavGroup}
    (h : (insertAll { heading := title, css := css } placed).at? (keysOf path) = some g) :
    g = insertAllFrom (slugOf path) (under path placed)
      (if path = [] then { heading := title, css := css } else { heading := slugOf path }) := by
  by_cases hpath : path = []
  · subst hpath
    rw [if_pos rfl, under_nil]
    exact (Option.some.inj h).symm
  · rw [at?_insertAll_keysOf hpath] at h
    split at h
    · cases h
    · rw [if_neg hpath]
      exact (Option.some.inj h).symm

theorem isPrefixTree_insertAll (title : String) (css : Option String) (placed : Placed) :
    IsPrefixTree placed (insertAll { heading := title, css := css } placed) := by
  refine ⟨fun path hpath => ?_, fun path g hpath h => ?_, fun path g h => ?_, fun path g h => ?_,
    fun keys h => ?_⟩
  · rw [at?_insertAll_keysOf hpath, ← under_ne_nil_iff]
    split
    · rename_i hnone
      simp [hnone]
    · rename_i hsome
      simp [hsome]
  · rw [at?_insertAll_eq_some h, insertAllFrom_heading, if_neg hpath]
  · have hitems : (if path = [] then ({ heading := title, css := css } : NavGroup)
        else { heading := slugOf path }).items = [] := by split <;> rfl
    rw [at?_insertAll_eq_some h, insertAllFrom_items, filter_under, hitems, List.nil_append]
  · have hkeys : ∀ slug placed, (insertAllFrom slug placed
        (if path = [] then { heading := title, css := css } else { heading := slugOf path })
          ).children.map (·.1) = (nextSegments [] placed).map (extend slug) := by
      intro slug placed
      split <;> exact keys_insertAllFrom ..
    have hnext : nextSegments [] (under path placed) = nextSegments path placed := by
      rw [nextSegments, under_nil, nextSegments]
    rw [at?_insertAll_eq_some h, hkeys, hnext]
    exact List.map_congr_left fun segment _ => slugOf_concat.symm
  · obtain ⟨path, rfl⟩ := exists_path_of_at? h
    exact ⟨path, slugsFrom_empty path, fun other he => keysOf_injective (he ▸ slugsFrom_empty path)⟩

/-- Items that are put in under paths make the prefix tree of their paths. The group that each of
them comes to, when it is put in, is the group of its own path, which is where the path leads. -/
theorem insertAll_faithful (title : String) (css : Option String) (placed : Placed) :
    IsPrefixTree placed (insertAll { heading := title, css := css } placed) ∧
      ∀ path item, (insertAll { heading := title, css := css } (placed ++ [(path, item)])).at?
          (keysOf path) =
        some ((insertAll { heading := title, css := css } placed).reached path item) ∧
      (insertAll { heading := title, css := css } placed).find? path =
        (insertAll { heading := title, css := css } placed).at? (keysOf path) := by
  refine ⟨isPrefixTree_insertAll title css placed, fun path item => ⟨?_, find?_eq_at? _ path⟩⟩
  rw [← slugsFrom_empty, insertAll, insertAllFrom_concat]
  exact at?_insertFrom ..

/-- A slash in a segment does not lead into another group, though the headings are the same. -/
example : [["a", "b"], ["a/b"]].map (fun path =>
    ((insertAll {} [(["a", "b"], { link := .raw "x" }), (["a/b"], { link := .raw "y" })]).at?
      (keysOf path)).map fun g => (g.heading, g.items.map (·.link.markup))) =
    [some ("a/b/", ["x"]), some ("a/b/", ["y"])] := by
  decide +kernel

end

end DocSite.NavGroup
