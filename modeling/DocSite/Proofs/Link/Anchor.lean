import DocSite.Proofs.Link.Nested

/-! What a link is as markup: a tag with an escaped address, the label as it stands, the closing
tag. A name is linked where it has an address, of its own or in the registry; elsewhere the label
stands alone. -/
namespace DocSite
set_option autoImplicit false

namespace Html

theorem escape_cons (c : Char) (cs : List Char) : escape (c :: cs) = escapeChar c ++ escape cs :=
  List.flatMap_cons

theorem length_le_escape (cs : List Char) : cs.length ≤ (escape cs).length := by
  induction cs with
  | nil => exact Nat.le_refl _
  | cons c rest ih =>
    have hc : 1 ≤ (escapeChar c).length := by
      unfold escapeChar
      split <;> simp
    rw [escape_cons, List.length_append, List.length_cons]
    omega

theorem isEmpty_text {s : String} (h : s ≠ "") : (text s).isEmpty = false := by
  have hlength := length_le_escape s.toList
  have hpos := List.length_pos_iff.mpr fun hnil => h (String.toList_eq_nil_iff.mp hnil)
  have hescape : escape s.toList ≠ [] := List.ne_nil_of_length_pos (by omega)
  simpa [isEmpty, text] using hescape

end Html

/-- The markup of a link to an address around a body. -/
def anchorText (address extra body : String) : String :=
  "<a href=\"" ++ (Html.text address).markup ++ "\"" ++ extra ++ ">" ++ body ++ "</a>"

theorem toList_anchorText (address extra body : String) :
    (anchorText address extra body).toList = "<a href=\"".toList ++ (Html.escape address.toList ++
      '"' :: (extra.toList ++ '>' :: (body.toList ++ "</a>".toList))) := by
  unfold anchorText
  simp only [Html.text, String.toList_append, String.toList_ofList, String.reduceToList,
    List.append_assoc, List.cons_append, List.nil_append]

theorem anchorText_inj {address extra body body' : String} :
    anchorText address extra body = anchorText address extra body' ↔ body = body' := by
  refine ⟨fun h => ?_, fun h => h ▸ rfl⟩
  rw [← String.toList_inj, toList_anchorText, toList_anchorText] at h
  rw [← String.toList_inj]
  simpa using h

theorem Html.markup_link (address : String) (body : Html) :
    (link address body).markup = anchorText address "" body.markup := by
  have hclose : "</a>" = "</" ++ "a" ++ ">" := rfl
  unfold anchorText
  rw [hclose]
  simp only [link, leadingTo, element, attr, each, concat, List.map_cons, List.map_nil,
    markup_append, raw, empty, String.append_empty, ← String.append_assoc]
  simp only [String.reduceAppend]

namespace Registry

theorem markup_anchorWith (address : String) (extra body : Html) :
    (anchorWith (.text address) extra body).markup =
      anchorText address extra.markup body.markup := by
  unfold anchorText
  simp only [anchorWith, Html.attr, Html.markup_append, Html.raw, ← String.append_assoc,
    String.reduceAppend]

/-- The attribute of a class, if there is one. -/
def classAttribute (css : Option String) : Html :=
  match css.filter (· != "") with
  | some css => Html.attr "class" (.text css)
  | none => .empty

theorem append_suffix (url fragment : String) :
    url ++ (if fragment == "" then "" else "#" ++ fragment) =
      Address.withFragment url fragment := by
  unfold Address.withFragment
  split
  · exact String.append_empty
  · rw [String.append_assoc]

section
variable {r : Registry} {name url : String} {label : Html}

theorem linkWith_of_external (h : Address.isExternal (withoutBrackets name) = true)
    (css : Option String) (fragment : String) :
    r.linkWith (some name) label css fragment =
      anchorWith (.text (Address.withFragment (withoutBrackets name) fragment)) (classAttribute css)
        (if label.isEmpty then .text (withoutBrackets name) else label) := by
  rw [← append_suffix]
  exact if_pos h

theorem linkWith_of_known (h : Address.isExternal (withoutBrackets name) = false)
    (hu : r.url? name = some url) (hne : url ≠ "") (css : Option String) (fragment : String) :
    r.linkWith (some name) label css fragment =
      (anchorWith (.text (Text.addressEncoded (Address.withFragment url fragment)))
        (classAttribute css) (if label.isEmpty then .text name else label)).leadingTo
          (Address.withFragment url fragment) := by
  have hfound : ((some name).bind r.url?).filter (· != "") = some url := by
    simp [hu, hne]
  have hnot : ¬ Address.isExternal (withoutBrackets name) = true := by simp [h]
  rw [← append_suffix]
  unfold linkWith
  dsimp only
  rw [hfound]
  exact if_neg hnot

/-- A name that leads somewhere: it is an address itself, or it is registered with one. -/
def HasAddress (r : Registry) (name : String) : Prop :=
  Address.isExternal (withoutBrackets name) = true ∨ ∃ url, r.url? name = some url ∧ url ≠ ""

theorem linkTo_of_hasAddress (h : r.HasAddress name) (hl : label.isEmpty = false) :
    ∃ address, (r.linkTo (some name) label).markup = anchorText address "" label.markup := by
  cases hx : Address.isExternal (withoutBrackets name) with
  | true =>
    refine ⟨Address.withFragment (withoutBrackets name) "", ?_⟩
    rw [linkTo, linkWith_of_external hx, markup_anchorWith, hl]
    rfl
  | false =>
    obtain ⟨url, hu, hne⟩ := h.resolve_left (by simp [hx])
    refine ⟨Text.addressEncoded (Address.withFragment url ""), ?_⟩
    rw [linkTo, linkWith_of_known hx hu hne, Html.leadingTo, markup_anchorWith, hl]
    rfl

theorem linkTo_of_not_hasAddress (h : ¬ r.HasAddress name) (hl : label.isEmpty = false) :
    r.linkTo (some name) label = label := by
  obtain ⟨hx, hu⟩ := not_or.mp h
  have hnone : ((some name).bind r.url?).filter (· != "") = none := by
    rw [Option.filter_eq_none_iff]
    intro url hurl
    rw [bne_iff_ne, ne_eq, Classical.not_not]
    exact Classical.byContradiction fun hne => hu ⟨url, hurl, hne⟩
  unfold linkTo linkWith
  dsimp only
  rw [hnone, hl]
  exact if_neg hx

end

end Registry

/-! ## Texts without their links -/

/-- What follows the tag that a text is in. -/
def afterTag (cs : List Char) : List Char := (cs.dropWhile (· != '>')).drop 1

theorem length_afterTag_le (cs : List Char) : (afterTag cs).length ≤ cs.length := by
  have h := (List.dropWhile_suffix (· != '>') (l := cs)).length_le
  rw [afterTag, List.length_drop]
  omega

/-- A text without the tags of its links. -/
def withoutLinks : List Char → List Char
  | '<' :: 'a' :: ' ' :: rest => withoutLinks (afterTag rest)
  | '<' :: '/' :: 'a' :: '>' :: rest => withoutLinks rest
  | c :: rest => c :: withoutLinks rest
  | [] => []
termination_by cs => cs.length
decreasing_by
  all_goals simp only [List.length_cons]
  · have := length_afterTag_le rest
    omega
  all_goals omega

theorem withoutLinks_cons {c : Char} (h : c ≠ '<') (rest : List Char) :
    withoutLinks (c :: rest) = c :: withoutLinks rest := by
  rw [withoutLinks]
  · rintro tail rfl
    contradiction
  · rintro tail rfl
    contradiction

theorem withoutLinks_append {cs : List Char} (h : '<' ∉ cs) (after : List Char) :
    withoutLinks (cs ++ after) = cs ++ withoutLinks after := by
  induction cs with
  | nil => rfl
  | cons c rest ih =>
    have hc : c ≠ '<' := fun e => h (e ▸ List.mem_cons_self)
    have hrest : '<' ∉ rest := fun hm => h (List.mem_cons_of_mem c hm)
    rw [List.cons_append, withoutLinks_cons hc, ih hrest, List.cons_append]

theorem afterTag_append {cs : List Char} (h : '>' ∉ cs) (after : List Char) :
    afterTag (cs ++ '>' :: after) = after := by
  have hall : ∀ c ∈ cs, (c != '>') = true := fun c hc => bne_iff_ne.mpr fun e => h (e ▸ hc)
  rw [afterTag, List.dropWhile_append_of_pos hall]
  simp

theorem withoutLinks_anchorText (address : String) (cs after : List Char) :
    withoutLinks ((anchorText address "" (String.ofList (Html.escape cs))).toList ++ after) =
      Html.escape cs ++ withoutLinks after := by
  have haddress : '>' ∉ Html.escape address.toList := Html.not_mem_escape (by decide) _
  have hcs : '<' ∉ Html.escape cs := Html.not_mem_escape (by decide) _
  have htag : '>' ∉
      'h' :: 'r' :: 'e' :: 'f' :: '=' :: '"' :: (Html.escape address.toList ++ ['"']) := by
    simp [haddress]
  rw [toList_anchorText]
  simp only [String.toList_ofList, String.reduceToList, String.toList_empty, List.cons_append,
    List.nil_append, List.append_assoc]
  calc withoutLinks ('<' :: 'a' :: ' ' :: 'h' :: 'r' :: 'e' :: 'f' :: '=' :: '"' ::
        (Html.escape address.toList ++ '"' :: '>' :: (Html.escape cs ++
          '<' :: '/' :: 'a' :: '>' :: after)))
    _ = withoutLinks (Html.escape cs ++ '<' :: '/' :: 'a' :: '>' :: after) := by
      have hafter := afterTag_append htag (Html.escape cs ++ '<' :: '/' :: 'a' :: '>' :: after)
      simp only [List.cons_append, List.append_assoc, List.nil_append] at hafter
      rw [withoutLinks, hafter]
    _ = Html.escape cs ++ withoutLinks ('<' :: '/' :: 'a' :: '>' :: after) :=
      withoutLinks_append hcs _
    _ = Html.escape cs ++ withoutLinks after := by rw [withoutLinks]

end DocSite
