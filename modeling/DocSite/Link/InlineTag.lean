import DocSite.Fault
import DocSite.Link.Markup

/-! Inline tags in page text: an optional caption in square brackets, then a tag in braces with a
link kind, a blank and a content. Tags are found from left to right and replaced in place. -/
namespace DocSite
set_option autoImplicit false

inductive TagKind where
  | link
  | code
  | plain
  | tutorial
deriving DecidableEq, Repr, Inhabited

def TagKind.words : List (List Char × TagKind) := [
  ("link".toList, .link), ("linkcode".toList, .code), ("linkplain".toList, .plain),
  ("tutorial".toList, .tutorial)]

structure InlineTag where
  caption : Option (List Char)
  kind : TagKind
  content : List Char
deriving DecidableEq, Repr, Inhabited

namespace InlineTag

/-! ## Finding tags -/

/-- The content of a tag's text once the blanks around it are taken off. A text of blanks alone
is a content only when it is longer than one character: its last blank. -/
def content? (body : List Char) : Option (List Char) :=
  match body with
  | [] => none
  | c :: rest =>
    if Text.isBlank c then
      let kept := Text.trim rest
      if kept.isEmpty then rest.getLast?.map fun last => [last] else some kept
    else none

/-- Reads a kind with the content after it, in a tag's text without the braces. -/
def kindAndContent? (body : List Char) : Option (TagKind × List Char) :=
  TagKind.words.findSome? fun (word, kind) =>
    match word.isPrefixOf? body with
    | some rest => (content? rest).map (kind, ·)
    | none => none

/-- Reads the braces of a tag at the start of a text, and what follows them. -/
def braces? (caption : Option (List Char)) (cs : List Char) : Option (InlineTag × List Char) :=
  match cs with
  | '{' :: '@' :: rest =>
    match Text.cutFirst? '}' rest with
    | some (body, after) =>
      (kindAndContent? body).map fun (kind, content) => (⟨caption, kind, content⟩, after)
    | none => none
  | _ => none

/-- Reads a tag at the start of a text, and what follows it. -/
def read? (cs : List Char) : Option (InlineTag × List Char) :=
  match cs with
  | '[' :: rest =>
    match Text.cutFirst? ']' rest with
    | some ([], _) => none
    | some (caption, after) => braces? (some caption) after
    | none => none
  | _ => braces? none cs

/-- A stretch of page text: text that stays or a tag. -/
inductive Piece where
  | literal (c : Char)
  | tag (t : InlineTag)
deriving DecidableEq, Repr, Inhabited

/-- The pieces of a text; every step takes at least one character, so as many steps as there are
characters are enough. -/
def piecesWithin : Nat → List Char → List Piece
  | 0, cs => cs.map .literal
  | _ + 1, [] => []
  | steps + 1, c :: cs =>
    match read? (c :: cs) with
    | some (t, after) => .tag t :: piecesWithin steps after
    | none => .literal c :: piecesWithin steps cs

/-- The pieces of a text from left to right. -/
def pieces (cs : List Char) : List Piece := piecesWithin cs.length cs

/-! ## Resolving -/

/-- Splits the content of a link at its first bar, or else after its first word, into target and
label. Blank content has no target. -/
def splitContent (cs : List Char) : Except Fault (List Char × List Char) :=
  match Text.cutFirst? '|' cs with
  | some (target, label) => .ok (Text.trim target, Text.trim label)
  | none =>
    let cs := cs.dropWhile Text.isBlank
    match cs.takeWhile (!Text.isBlank ·) with
    | [] => .error .emptyLink
    | target => .ok (target, Text.trim (cs.dropWhile (!Text.isBlank ·)))

/-- The first of three texts that is not empty. -/
def firstOf (caption : Option (List Char)) (label target : List Char) : List Char :=
  match caption with
  | some c => if !c.isEmpty then c else if !label.isEmpty then label else target
  | none => if !label.isEmpty then label else target

/-- The markup of a tag. Text on a page is markup already, so it is not escaped again; a
tutorial's caption is taken as plain text. -/
def resolve (r : Registry) (t : InlineTag) : Except Fault Html × Registry :=
  match t.kind with
  | .tutorial =>
    let (link, r) :=
      r.tutorialLink (String.ofList (Text.trim t.content)) (t.caption.map String.ofList)
    (.ok link, r)
  | kind =>
    match splitContent t.content with
    | .error e => (.error e, r)
    | .ok (target, label) =>
      let shown := Html.raw (String.ofList (firstOf t.caption label target))
      let shown := if kind == .code then Html.element "code" [] shown else shown
      (.ok (r.linkTo (some (String.ofList target)) shown), r)

/-- The characters of pieces in order with the links among them; the registry passes from left to
right. -/
def resolvePieces (r : Registry) :
    List Piece → Except Fault (List Char × List String) × Registry
  | [] => (.ok ([], []), r)
  | .literal c :: rest =>
    let (tail, r) := resolvePieces r rest
    (tail.map fun (cs, links) => (c :: cs, links), r)
  | .tag t :: rest =>
    match resolve r t with
    | (.error e, r) => (.error e, r)
    | (.ok link, r) =>
      let (tail, r) := resolvePieces r rest
      (tail.map fun (cs, links) => (link.markup.toList ++ cs, link.links ++ links), r)

end InlineTag

/-- Page text with its inline tags replaced. -/
def Registry.resolveTags (r : Registry) (page : Html) : Except Fault Html × Registry :=
  let (result, r) := InlineTag.resolvePieces r (InlineTag.pieces page.markup.toList)
  (result.map fun (cs, links) => ⟨String.ofList cs, page.links ++ links⟩, r)

end DocSite
