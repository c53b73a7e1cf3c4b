import DocSite.Proofs.Link.Anchor
import DocSite.Proofs.Type.Alike
import DocSite.Proofs.Type.Tokens
import Mathlib.Data.List.Forall2

/-! What becomes of a type expression: one piece for each token, in order. A name that stands for
the longname of one type and of no other is linked; every other token stays. So the text of the
expression is still there, escaped once, around the links and within them. -/
namespace DocSite
set_option autoImplicit false

namespace Store

def types (s : Store) : List Doclet := s.find fun d => TypeIndex.kinds.contains d.kind

def typesNamed (s : Store) (name : String) : List Doclet := s.types.filter (·.name == name)

/-- One type has the longname, and no other. -/
def HasOnly (s : Store) (longname : String) : Prop :=
  (s.types.filter (·.longname == some longname)).length = 1

/-- The longname that a name stands for: the name itself or, where short names are expanded, the
longname of the only type of that name, if there is one and has a longname. -/
inductive StandsFor (s : Store) (name : String) : Bool → String → Prop where
  | itself : s.StandsFor name false name
  | only {d : Doclet} {longname : String} (found : s.typesNamed name = [d])
      (named : d.longname = some longname) (ne : longname ≠ "") : s.StandsFor name true longname
  | nameless {d : Doclet} (found : s.typesNamed name = [d]) (blank : d.longnameOrEmpty = "") :
      s.StandsFor name true name
  | unclear (found : (s.typesNamed name).length ≠ 1) : s.StandsFor name true name

end Store

namespace TypeIndex

section
variable {s : Store} {name longname : String}

theorem entries_ofStore_named : (ofStore s).entries.filter (·.1 == name) =
    (s.typesNamed name).map fun d => (d.name, d.longname) := List.filter_map

theorem isUnique_ofStore_iff (h : longname ≠ "") :
    (ofStore s).isUnique longname = true ↔ s.HasOnly longname := by
  have hlength : ((ofStore s).entries.filter (·.2 == some longname)).length =
      (s.types.filter (·.longname == some longname)).length := by
    rw [ofStore, List.filter_map, List.length_map]
    rfl
  rw [isUnique, hlength, Bool.and_eq_true, bne_iff_ne, beq_iff_eq]
  exact and_iff_right h

theorem longnameFor_of_length_ne {index : TypeIndex}
    (h : (index.entries.filter (·.1 == name)).length ≠ 1) : index.longnameFor name = name := by
  unfold longnameFor
  split
  · rename_i hfound
    rw [hfound] at h
    exact absurd rfl h
  · rfl

theorem standsFor_longnameFor (s : Store) (name : String) :
    s.StandsFor name true ((ofStore s).longnameFor name) := by
  by_cases hone : (s.typesNamed name).length = 1
  · obtain ⟨d, hd⟩ := List.length_eq_one_iff.mp hone
    rw [longnameFor, entries_ofStore_named, hd, List.map_cons, List.map_nil]
    cases hl : d.longname with
    | none => exact .nameless hd (by simp [Doclet.longnameOrEmpty, hl])
    | some longname =>
      by_cases hne : longname = ""
      · simp only [hne, beq_self_eq_true, if_true]
        exact .nameless hd (by simp [Doclet.longnameOrEmpty, hl, hne])
      · simp only [beq_iff_eq, hne, if_false]
        exact .only hd hl hne
  · have hlength : ((ofStore s).entries.filter (·.1 == name)).length ≠ 1 := by
      rwa [entries_ofStore_named, List.length_map]
    rw [longnameFor_of_length_ne hlength]
    exact .unclear hone

end

end TypeIndex

theorem Store.StandsFor.eq {s : Store} {name longname longname' : String} {expand : Bool}
    (h : s.StandsFor name expand longname) (h' : s.StandsFor name expand longname') :
    longname = longname' := by
  cases h <;> cases h' <;> simp_all [Doclet.longnameOrEmpty]

theorem Store.StandsFor.ne_empty {s : Store} {name longname : String} {expand : Bool}
    (h : s.StandsFor name expand longname) (hname : name ≠ "") : longname ≠ "" := by
  cases h with
  | only _ _ ne => exact ne
  | itself | nameless | unclear => exact hname

namespace TypeLinker

def ofStore (s : Store) (compact expand : Bool) : TypeLinker := ⟨.ofStore s, compact, expand⟩

/-- What stands for a token: the link to the type that a name means, else the text itself. -/
inductive IsPiece (s : Store) (r : Registry) (compact expand : Bool) (t : TypeToken) :
    Html → Prop where
  | link {longname : String} (isName : t.isName = true)
      (meant : s.StandsFor (String.ofList t.text) expand longname) (only : s.HasOnly longname) :
      IsPiece s r compact expand t
        (r.linkTo (some longname) (.text (if compact then shortTypeName longname else longname)))
  | text (other : ¬ (t.isName = true ∧
      ∃ longname, s.StandsFor (String.ofList t.text) expand longname ∧ s.HasOnly longname)) :
      IsPiece s r compact expand t (.text (String.ofList t.text))

section
variable {s : Store} {r : Registry} {compact expand : Bool} {name longname : String}

theorem standsFor_meant (s : Store) (compact expand : Bool) (name : String) :
    s.StandsFor name expand ((ofStore s compact expand).meant name) := by
  cases expand with
  | false => exact .itself
  | true => exact TypeIndex.standsFor_longnameFor s name

theorem meant_eq (h : s.StandsFor name expand longname) :
    (ofStore s compact expand).meant name = longname := (standsFor_meant s compact expand name).eq h

theorem links_ofStore_iff (hname : name ≠ "") :
    (ofStore s compact expand).links name = true ↔
      ∃ longname, s.StandsFor name expand longname ∧ s.HasOnly longname := by
  have hmeant := standsFor_meant s compact expand name
  rw [show (ofStore s compact expand).links name = true ↔ s.HasOnly _ from
    TypeIndex.isUnique_ofStore_iff (hmeant.ne_empty hname)]
  constructor
  · exact fun h => ⟨_, hmeant, h⟩
  · rintro ⟨longname, hstands, honly⟩
    rwa [← meant_eq hstands] at honly

theorem isPiece_token {cs : List Char} {t : TypeToken} (ht : t ∈ TypeToken.list cs) :
    IsPiece s r compact expand t ((ofStore s compact expand).token r t) := by
  cases hn : t.isName with
  | false =>
    rw [token_of_not_isName hn]
    exact .text fun h => by simp [hn] at h
  | true =>
    have hname : String.ofList t.text ≠ "" := by
      simpa using TypeToken.text_ne_nil ht hn
    cases hl : (ofStore s compact expand).links (String.ofList t.text) with
    | false =>
      rw [token_of_not_links hl]
      refine .text fun h => ?_
      have hlinks : (ofStore s compact expand).links (String.ofList t.text) = true :=
        (links_ofStore_iff hname).mpr h.2
      rw [hl] at hlinks
      cases hlinks
    | true =>
      rw [token_of_links hn hl]
      obtain ⟨longname, hstands, honly⟩ := (links_ofStore_iff hname).mp hl
      rw [link, meant_eq hstands]
      exact .link hn hstands honly

/-! ## Without the links -/

/-- A link under the name itself shows the name, wherever it leads. -/
theorem withoutLinks_linkTo (hname : name ≠ "") (after : List Char) :
    withoutLinks ((r.linkTo (some name) (.text name)).markup.toList ++ after) =
      Html.escape name.toList ++ withoutLinks after := by
  have hlabel := Html.isEmpty_text hname
  by_cases h : r.HasAddress name
  · obtain ⟨address, he⟩ := Registry.linkTo_of_hasAddress h hlabel
    rw [he]
    exact withoutLinks_anchorText address name.toList after
  · rw [Registry.linkTo_of_not_hasAddress h hlabel, Html.text, String.toList_ofList]
    exact withoutLinks_append (Html.not_mem_escape (by decide) _) after

theorem withoutLinks_piece {t : TypeToken} {piece : Html} (h : IsPiece s r false false t piece)
    (hne : t.text ≠ []) (after : List Char) :
    withoutLinks (piece.markup.toList ++ after) = Html.escape t.text ++ withoutLinks after := by
  cases h with
  | link _ meant _ =>
    cases meant
    have hname : String.ofList t.text ≠ "" := by simpa using hne
    have hread := withoutLinks_linkTo (r := r) hname after
    rwa [String.toList_ofList] at hread
  | text _ =>
    rw [Html.text, String.toList_ofList, String.toList_ofList]
    exact withoutLinks_append (Html.not_mem_escape (by decide) _) after

theorem withoutLinks_pieces {ts : List TypeToken} {pieces : List Html}
    (h : List.Forall₂ (IsPiece s r false false) ts pieces) (hne : ∀ t ∈ ts, t.text ≠ []) :
    withoutLinks (Html.concat pieces).markup.toList = Html.escape (TypeToken.textOf ts) := by
  induction h with
  | nil => rw [Html.concat, Html.empty, String.toList_empty, withoutLinks]; rfl
  | cons hpiece _ ih =>
    obtain ⟨ht, hrest⟩ := List.forall_mem_cons.mp hne
    rw [Html.concat, Html.markup_append, String.toList_append, withoutLinks_piece hpiece ht,
      ih hrest, TypeToken.textOf_cons, Html.escape_append]

theorem pieces_expression (s : Store) (r : Registry) (compact expand : Bool) (text : String) :
    List.Forall₂ (IsPiece s r compact expand) (TypeToken.list text.toList)
      ((TypeToken.list text.toList).map ((ofStore s compact expand).token r)) := by
  rw [List.forall₂_map_right_iff, List.forall₂_same]
  exact fun t ht => isPiece_token ht

/-- A type expression becomes one piece for each of its tokens, and without the links that stand in
it, it is the text that it was. -/
theorem linked_in_pieces (s : Store) (r : Registry) (compact expand : Bool) (text : String) :
    (∃ pieces, (ofStore s compact expand).expression r text = Html.concat pieces ∧
        List.Forall₂ (IsPiece s r compact expand) (TypeToken.list text.toList) pieces) ∧
      withoutLinks ((ofStore s false false).expression r text).markup.toList =
        Html.escape text.toList := by
  refine ⟨⟨_, rfl, pieces_expression s r compact expand text⟩, ?_⟩
  have htokens := TypeToken.tokenizes_list text.toList
  rw [expression, Html.each, withoutLinks_pieces (pieces_expression s r false false text)
    htokens.ne_nil, htokens.joined]

end

end TypeLinker

end DocSite
