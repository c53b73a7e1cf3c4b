import DocSite.Groups
import DocSite.Proofs.Doclet.StableSort
import DocSite.Publish.Site

/-! The place of a doclet in the dump is carried along and never looked at: what is asked of
doclets, and what is made of them, is the same without their places. -/
namespace DocSite
set_option autoImplicit false

-- Choices between doclets go through this lemma: a doclet has too many fields to compare them one
-- by one at every use.
theorem Doclet.ite_unplaced {c c' : Prop} [Decidable c] [Decidable c'] {a a' b b' : Doclet}
    (hc : c' = c) (ha : a' = a.unplaced) (hb : b' = b.unplaced) :
    (if c' then a' else b') = (if c then a else b).unplaced := by
  subst hc ha hb
  split <;> rfl

/-! ## Choosing and sorting -/

theorem filter_unplaced {p : Doclet → Bool} (hp : ∀ d, p d.unplaced = p d) (ds : List Doclet) :
    (ds.map Doclet.unplaced).filter p = (ds.filter p).map Doclet.unplaced := by
  rw [List.filter_map]
  exact congrArg _ (List.filter_congr fun d _ => hp d)

theorem Store.find_unplaced {p : Doclet → Bool} (hp : ∀ d, p d.unplaced = p d) (s : Store) :
    s.unplaced.find p = (s.find p).map Doclet.unplaced := filter_unplaced hp s.doclets

theorem Store.ofKind_unplaced (s : Store) (kind : String) :
    s.unplaced.ofKind kind = (s.ofKind kind).map Doclet.unplaced :=
  s.find_unplaced fun _ => rfl

theorem Doclet.field_unplaced (d : Doclet) (name : String) :
    d.unplaced.field name = d.field name := rfl

theorem Query.accepts_unplaced (q : Query) (d : Doclet) : q.accepts d.unplaced = q.accepts d := by
  induction q with
  | nil => rfl
  | cons p rest ih => rw [accepts, accepts, Doclet.field_unplaced, ih]

theorem Query.select_unplaced (q : Query) (ds : List Doclet) :
    q.select (ds.map Doclet.unplaced) = (q.select ds).map (List.map Doclet.unplaced) := by
  induction ds with
  | nil => rfl
  | cons d rest ih =>
    rw [List.map_cons, select, select, accepts_unplaced, ih]
    cases q.accepts d with
    | error e => rfl
    | ok keep =>
      cases q.select rest with
      | error e => rfl
      | ok found => cases keep <;> rfl

theorem Query.selectOf_unplaced (q : Option Query) (ds : List Doclet) :
    Query.selectOf q (ds.map Doclet.unplaced) =
      (Query.selectOf q ds).map (List.map Doclet.unplaced) := by
  cases q with
  | none => rfl
  | some q => exact select_unplaced q ds

theorem OrderField.pass_unplaced (f : OrderField) (ds : List Doclet) :
    f.pass (ds.map Doclet.unplaced) = (f.pass ds).map Doclet.unplaced := by
  have hsort : ∀ ds : List Doclet,
      RunSort.sort (fun a b => (f.key a).lt (f.key b)) (ds.map Doclet.unplaced) =
        (RunSort.sort (fun a b => (f.key a).lt (f.key b)) ds).map Doclet.unplaced :=
    RunSort.sort_map fun _ _ => rfl
  unfold pass
  dsimp only
  split
  · rw [← List.map_reverse, hsort, List.map_reverse]
  · exact hsort ds

theorem orderBy_unplaced (fields : List OrderField) (ds : List Doclet) :
    orderBy fields (ds.map Doclet.unplaced) = (orderBy fields ds).map Doclet.unplaced := by
  induction fields with
  | nil => rfl
  | cons f rest ih =>
    change f.pass (orderBy rest (ds.map Doclet.unplaced)) = _
    rw [ih]
    exact f.pass_unplaced _

/-! ## The stages of a store -/

namespace Store

theorem map_unplaced {f f' : Doclet → Doclet} (hf : ∀ d, f' d.unplaced = (f d).unplaced)
    (s : Store) : s.unplaced.map f' = (s.map f).unplaced := by
  simp only [unplaced, map, List.map_map, Store.mk.injEq]
  exact List.map_congr_left fun d _ => hf d

theorem unplaced_unplaced (s : Store) : s.unplaced.unplaced = s.unplaced := by
  simp only [unplaced, map, List.map_map, Store.mk.injEq]
  exact List.map_congr_left fun _ _ => rfl

theorem prune_unplaced (s : Store) (includePrivate : Bool) :
    s.unplaced.prune includePrivate = (s.prune includePrivate).unplaced :=
  congrArg Store.mk (filter_unplaced (fun _ => rfl) s.doclets)

theorem sort_unplaced (s : Store) (spec : String) :
    s.unplaced.sort spec = (s.sort spec).unplaced :=
  congrArg Store.mk (orderBy_unplaced _ s.doclets)

theorem listenersOf_unplaced (s : Store) (event : String) :
    s.unplaced.listenersOf event = s.listenersOf event := by
  rw [listenersOf, find_unplaced (fun _ => rfl), List.filterMap_map]
  rfl

theorem addListeners_unplaced (s : Store) : s.unplaced.addListeners = s.addListeners.unplaced := by
  rw [addListeners]
  simp only [listenersOf_unplaced]
  refine map_unplaced (fun d => ?_) s
  exact Doclet.ite_unplaced rfl rfl rfl

theorem unquoteExternals_unplaced (s : Store) :
    s.unplaced.unquoteExternals = s.unquoteExternals.unplaced := by
  refine map_unplaced (fun d => ?_) s
  exact Doclet.ite_unplaced rfl rfl rfl

theorem globals_unplaced (s : Store) : s.unplaced.globals = s.globals.map Doclet.unplaced :=
  s.find_unplaced fun _ => rfl

theorem exportCandidates_unplaced (s : Store) :
    s.unplaced.exportCandidates = s.exportCandidates.map Doclet.unplaced :=
  s.find_unplaced fun _ => rfl

theorem sourceFiles_unplaced (s : Store) : s.unplaced.sourceFiles = s.sourceFiles := by
  rw [sourceFiles, sourcePaths, unplaced, map, List.filterMap_map]
  rfl

end Store

theorem TypeIndex.ofStore_unplaced (s : Store) : ofStore s.unplaced = ofStore s := by
  rw [ofStore, s.find_unplaced fun _ => rfl, List.map_map]
  rfl

theorem Doclet.asExport_unplaced (d : Doclet) : d.unplaced.asExport = d.asExport.unplaced :=
  ite_unplaced rfl rfl rfl

theorem Doclet.exportsOf_unplaced (candidates : List Doclet) (d : Doclet) :
    exportsOf (candidates.map unplaced) d.unplaced = (exportsOf candidates d).map unplaced := by
  unfold exportsOf
  have hsame : (candidates.map unplaced).filter (fun e => e.longname == d.unplaced.longname) =
      (candidates.filter fun e => e.longname == d.longname).map unplaced :=
    filter_unplaced (fun _ => rfl) candidates
  have hshown : ∀ ds : List Doclet,
      (ds.map unplaced).filter (fun d => d.description != "" || d.kind == "class") =
        (ds.filter fun d => d.description != "" || d.kind == "class").map unplaced :=
    filter_unplaced fun _ => rfl
  have hlong : d.unplaced.longnameOrEmpty = d.longnameOrEmpty := rfl
  dsimp only
  rw [hlong, hsame, hshown, List.map_map]
  split
  · rfl
  · rw [List.map_map]
    exact List.map_congr_left fun e _ => e.asExport_unplaced

/-! ## Trails -/

theorem byLongname_unplaced (ds : List Doclet) :
    byLongname (ds.map Doclet.unplaced) = (byLongname ds).map Doclet.unplaced := by
  rw [byLongname, byLongname, ← Table.ofList_map, List.filterMap_map, List.map_filterMap]
  congr 2
  funext d
  rw [Option.map_map]
  rfl

theorem containersOf_of_none {table : List (String × Doclet)} {container : Option String}
    (h : container.filter (· != "") = none) : containersOf table container = [] := by
  rw [containersOf, h]

theorem containersOf_of_unknown {table : List (String × Doclet)} {container : Option String}
    {name : String} (h : container.filter (· != "") = some name) (hn : table.lookup name = none) :
    containersOf table container = [] := by
  rw [containersOf, h]
  dsimp only
  split
  · rfl
  · rename_i d hd
    rw [hn] at hd
    cases hd

theorem containersOf_of_known {table : List (String × Doclet)} {container : Option String}
    {name : String} {d : Doclet} (h : container.filter (· != "") = some name)
    (hd : table.lookup name = some d) :
    containersOf table container = d :: containersOf (Table.without name table) d.memberof := by
  rw [containersOf, h]
  dsimp only
  split
  · rename_i hn
    rw [hn] at hd
    cases hd
  · rename_i e he
    rw [he] at hd
    cases hd
    rfl

theorem containersOf_unplaced (table : List (String × Doclet)) (container : Option String) :
    containersOf (table.map fun p => (p.1, p.2.unplaced)) container =
      (containersOf table container).map Doclet.unplaced := by
  -- The cases are those of the definition: each container that is passed leaves the table.
  induction table, container using containersOf.induct with
  | case1 table container h =>
    rw [containersOf_of_none h, containersOf_of_none h]
    rfl
  | case2 table container name h hn =>
    have hn' := Table.lookup_map Doclet.unplaced name table
    rw [hn] at hn'
    rw [containersOf_of_unknown h hn, containersOf_of_unknown h hn']
    rfl
  | case3 table container name h d hd ih =>
    have hd' := Table.lookup_map Doclet.unplaced name table
    rw [hd] at hd'
    rw [containersOf_of_known h hd, containersOf_of_known h hd', Table.without_map, List.map_cons,
      ← ih]
    rfl

theorem trailLink_unplaced (r : Registry) (d : Doclet) :
    trailLink r d.unplaced = trailLink r d := by
  have hname : d.unplaced.name = d.name := rfl
  have hscope : d.unplaced.scope = d.scope := rfl
  have hlong : d.unplaced.longname = d.longname := rfl
  rw [trailLink, trailLink, hname, hscope, hlong]

theorem ancestorLinks_unplaced (ds : List Doclet) (r : Registry) (d : Doclet) :
    ancestorLinks (byLongname (ds.map Doclet.unplaced)) r d.unplaced =
      ancestorLinks (byLongname ds) r d := by
  have hchain : containersOf (byLongname (ds.map Doclet.unplaced)).entries d.unplaced.memberof =
      (containersOf (byLongname ds).entries d.memberof).map Doclet.unplaced := by
    rw [byLongname_unplaced]
    exact containersOf_unplaced _ _
  have hscope : d.unplaced.scope = d.scope := rfl
  have hlink : trailLink r ∘ Doclet.unplaced = trailLink r := by
    funext e
    rw [Function.comp_apply, trailLink_unplaced]
  unfold ancestorLinks
  dsimp only
  rw [hchain, hscope, ← List.map_reverse, List.map_map, hlink]

end DocSite
