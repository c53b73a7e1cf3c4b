import DocSite.Proofs.Doclet.Unplaced

/-! Pages do not show where doclets stand in the dump. -/
namespace DocSite.Page
set_option autoImplicit false

/-! ## One symbol -/

theorem callable_unplaced (c : Context) (d : Doclet) :
    callable c.unplaced d.unplaced = callable c d := rfl

theorem readable_unplaced (c : Context) (d : Doclet) :
    readable c.unplaced d.unplaced = readable c d := rfl

theorem typedef_unplaced (c : Context) (d : Doclet) :
    typedef c.unplaced d.unplaced = typedef c d := rfl

/-! ## What belongs to a container -/

theorem membersOf_unplaced (c : Context) (container : Option String) (kind : String) :
    membersOf c.unplaced container kind = (membersOf c container kind).map Doclet.unplaced :=
  c.store.find_unplaced fun _ => rfl

theorem classList_unplaced (c : Context) (classes : List Doclet) :
    classList c.unplaced (classes.map Doclet.unplaced) = classList c classes := by
  unfold classList
  rw [List.isEmpty_map, Html.each, List.map_map]
  rfl

theorem namespaceList_unplaced (c : Context) (namespaces : List Doclet) :
    namespaceList c.unplaced (namespaces.map Doclet.unplaced) = namespaceList c namespaces := by
  unfold namespaceList
  rw [List.isEmpty_map, Html.each, List.map_map]
  rfl

theorem descriptions_unplaced {describe describe' : Doclet → Html}
    (h : ∀ d, describe' d.unplaced = describe d) (title : String) (ds : List Doclet) :
    descriptions title describe' (ds.map Doclet.unplaced) = descriptions title describe ds := by
  unfold descriptions
  rw [List.isEmpty_map, Html.each, List.map_map, Html.each]
  congr 3
  refine List.map_congr_left fun d _ => ?_
  rw [Function.comp, h]

theorem belongings_unplaced (c : Context) (container : Option String) :
    belongings c.unplaced container = belongings c container := by
  have hread := descriptions_unplaced (readable_unplaced c)
  have hcall := descriptions_unplaced (callable_unplaced c)
  have htype := descriptions_unplaced (typedef_unplaced c)
  simp only [belongings, membersOf_unplaced, classList_unplaced, namespaceList_unplaced, hread,
    hcall, htype]

/-! ## Topics -/

theorem overview_unplaced (c : Context) (d : Doclet) :
    overview c.unplaced d.unplaced = overview c d := by
  have hexports : (if d.unplaced.kind == "module" then
      Doclet.exportsOf c.unplaced.store.exportCandidates d.unplaced else []) =
        (if d.kind == "module" then Doclet.exportsOf c.store.exportCandidates d else []).map
          Doclet.unplaced := by
    have hkind : d.unplaced.kind = d.kind := rfl
    have hstore : c.unplaced.store.exportCandidates =
        c.store.exportCandidates.map Doclet.unplaced := c.store.exportCandidates_unplaced
    rw [hkind, hstore, Doclet.exportsOf_unplaced]
    split <;> rfl
  unfold overview
  dsimp only
  rw [hexports, List.isEmpty_map, Html.each, List.map_map]
  rfl

theorem containerSection_unplaced (c : Context) (container : Option Doclet) :
    containerSection c.unplaced (container.map Doclet.unplaced) =
      containerSection c container := by
  cases container with
  | none => simp only [containerSection, Option.map_none, belongings_unplaced]
  | some d =>
    have hlong : d.unplaced.longnameOrEmpty = d.longnameOrEmpty := rfl
    have htitle : containerTitle d.unplaced = containerTitle d := rfl
    have hclass : d.unplaced.classDescription = d.classDescription := rfl
    have hkind : d.unplaced.kind = d.kind := rfl
    simp only [containerSection, Option.map_some, belongings_unplaced, overview_unplaced, hlong,
      htitle, hclass, hkind]

theorem topic_unplaced (c : Context) (t : Topic) : topic c.unplaced t.unplaced = topic c t := by
  cases t with
  | readme markup longname => rfl
  | globals => exact containerSection_unplaced c none
  | symbol d =>
    have hkind : d.unplaced.kind = d.kind := rfl
    have hpackage : packageSection d.unplaced = packageSection d := rfl
    have hfile : fileSection c.unplaced d.unplaced = fileSection c d := rfl
    have hcontainer : containerSection c.unplaced (some d.unplaced) =
        containerSection c (some d) := containerSection_unplaced c (some d)
    rw [Topic.unplaced, topic, topic, hkind, hpackage, hfile, hcontainer]

theorem topics_unplaced (c : Context) (ts : List Topic) :
    topics c.unplaced (ts.map Topic.unplaced) = topics c ts := by
  rw [topics, topics, Html.each, Html.each, List.map_map]
  exact congrArg Html.concat (List.map_congr_left fun t _ => topic_unplaced c t)

/-! ## What templates are given -/

theorem Context.unplaced_unplaced (c : Context) : c.unplaced.unplaced = c.unplaced := by
  rw [unplaced, unplaced, Store.unplaced_unplaced]

theorem Topic.unplaced_unplaced (t : Topic) : t.unplaced.unplaced = t.unplaced := by
  cases t <;> rfl

end DocSite.Page
