import DocSite.Proofs.Link.Address
import DocSite.Proofs.Link.Anchor
import DocSite.Proofs.Text.Percent
import DocSite.Proofs.Text.Trim

/-! The address of a link as it is followed: the text of the attribute, its references replaced, its
percent signs decoded. For a symbol this is the address it is registered with. -/
namespace DocSite
set_option autoImplicit false

namespace Html

/-- A text with the references of escaped text replaced. -/
def unescape : List Char → List Char
  | '&' :: 'a' :: 'm' :: 'p' :: ';' :: rest => '&' :: unescape rest
  | '&' :: 'l' :: 't' :: ';' :: rest => '<' :: unescape rest
  | '&' :: 'g' :: 't' :: ';' :: rest => '>' :: unescape rest
  | '&' :: '#' :: '3' :: '4' :: ';' :: rest => '"' :: unescape rest
  | '&' :: '#' :: '3' :: '9' :: ';' :: rest => '\'' :: unescape rest
  | c :: rest => c :: unescape rest
  | [] => []

theorem unescape_cons {c : Char} (h : c ≠ '&') (rest : List Char) :
    unescape (c :: rest) = c :: unescape rest := by
  rw [unescape] <;> rintro _ rfl <;> contradiction

theorem unescape_escapeChar (c : Char) (rest : List Char) :
    unescape (escapeChar c ++ rest) = c :: unescape rest := by
  unfold escapeChar
  split
  case h_6 h _ _ _ _ => exact unescape_cons h rest
  all_goals rfl

theorem unescape_escape (cs : List Char) : unescape (escape cs) = cs := by
  induction cs with
  | nil => rfl
  | cons c rest ih => rw [escape_cons, unescape_escapeChar, ih]

/-- The address in the tag that some markup starts with. -/
def href? (h : Html) : Option String :=
  ("<a href=\"".toList.isPrefixOf? h.markup.toList).bind fun rest =>
    (Text.cutFirst? '"' rest).map fun cut => String.ofList (unescape cut.1)

theorem href?_anchorText {h : Html} {address extra body : String}
    (he : h.markup = anchorText address extra body) : h.href? = some address := by
  have hquote : '"' ∉ escape address.toList := not_mem_escape (by decide) _
  have hopen := List.isPrefixOf?_eq_some_iff_append_eq.mpr
    (he ▸ (toList_anchorText address extra body).symm)
  rw [href?, hopen, Option.bind_some, Text.cutFirst?_append hquote, Option.map_some,
    unescape_escape, String.ofList_toList]

end Html

namespace Address

theorem page_addressEncoded (s : String) :
    page (Text.addressEncoded s) = Text.addressEncoded (page s) := by
  rw [page_eq, page_eq, Text.addressEncoded, Text.addressEncoded, String.toList_ofList,
    String.toList_ofList, Text.percentEncode_takeWhile]

theorem hasEscape_page {s : String} (h : Text.hasEscape s.toList = false) :
    Text.hasEscape (page s).toList = false := by
  rw [page_eq, String.toList_ofList]
  rw [← List.takeWhile_append_dropWhile (p := (· != '#')) (l := s.toList)] at h
  exact Text.hasEscape_of_append h

end Address

namespace Registry

section
variable {r : Registry} {name url : String} {label : Html}

theorem href?_linkWith (h : Address.isExternal (withoutBrackets name) = false)
    (hu : r.url? name = some url) (hne : url ≠ "") (css : Option String) (fragment : String) :
    (r.linkWith (some name) label css fragment).href? =
      some (Text.addressEncoded (Address.withFragment url fragment)) := by
  apply Html.href?_anchorText
  rw [linkWith_of_known h hu hne, Html.leadingTo, markup_anchorWith]

end

/-- Whatever a link to a symbol shows, its address is read back as the one that the symbol is
registered with, with the fragment, and what it names as a page is the page. -/
theorem address_read_back {r : Registry} {name url fragment : String}
    (hu : r.url? name = some url) (hne : url ≠ "")
    (h : Address.isExternal (withoutBrackets name) = false)
    (hescape : Text.hasEscape (Address.withFragment url fragment).toList = false)
    (label : Html) (css : Option String) :
    ∃ href, (r.linkWith (some name) label css fragment).href? = some href ∧
      Text.percentDecoded? href = some (Address.withFragment url fragment) ∧
      Text.percentDecoded? (Address.page href) = some (Address.page url) := by
  refine ⟨_, href?_linkWith h hu hne css fragment, Text.percentDecoded?_addressEncoded hescape, ?_⟩
  rw [Address.page_addressEncoded, ← Address.page_withFragment url fragment]
  exact Text.percentDecoded?_addressEncoded (Address.hasEscape_page hescape)

/-- A registry with one class in it. -/
def ofClass (name : String) : Registry :=
  (initial.link { kind := "class", name := name, longname := some name }).2.1

theorem accentedClass_read_back :
    (ofClass "Zoë & Co").url? "Zoë & Co" = some "Zoë & Co.html" ∧
      ∃ href, ((ofClass "Zoë & Co").linkWith (some "Zoë & Co") .empty none "50% 'ü'").href? =
          some href ∧
        Text.percentDecoded? href = some "Zoë & Co.html#50% 'ü'" ∧
        Text.percentDecoded? (Address.page href) = some "Zoë & Co.html" := by
  have hurl : (ofClass "Zoë & Co").url? "Zoë & Co" = some "Zoë & Co.html" := by decide +kernel
  refine ⟨hurl, ?_⟩
  exact address_read_back hurl (by decide) (by decide +kernel) (by decide +kernel) .empty none

/-- A class whose name is an address is linked as that address, and a byte that is written in the
name of a class is read in the address of its page. -/
theorem addresses_not_read_back :
    ((ofClass "mailto:x").url? "mailto:x" = some "mailto_x.html" ∧
      ((ofClass "mailto:x").linkNamed "mailto:x").href?.bind Text.percentDecoded? =
        some "mailto:x") ∧
    (ofClass "a%41").url? "a%41" = some "a%41.html" ∧
      ((ofClass "a%41").linkNamed "a%41").href?.bind Text.percentDecoded? = some "aA.html" := by
  have haddress : ((ofClass "mailto:x").linkNamed "mailto:x").href? = some "mailto:x" := by
    decide +kernel
  have hbyte : ((ofClass "a%41").linkNamed "a%41").href? = some "a%41.html" := by decide +kernel
  refine ⟨⟨by decide +kernel, ?_⟩, by decide +kernel, ?_⟩
  · rw [haddress]
    exact Text.percentDecoded?_of_bytes (by decide +kernel)
  · rw [hbyte]
    exact Text.percentDecoded?_of_bytes (by decide +kernel)

end Registry

end DocSite
