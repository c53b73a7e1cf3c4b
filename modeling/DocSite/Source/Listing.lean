import DocSite.Html
import DocSite.Text.Encoding

/-! Listings of source files as plain text: numbered lines, each with an anchor. -/
namespace DocSite.Listing
set_option autoImplicit false

/-- A character of code in a listing. -/
def escapeChar : Char → List Char
  | '&' => "&amp;".toList
  | '<' => "&lt;".toList
  | '>' => "&gt;".toList
  | '"' => "&quot;".toList
  | '\'' => "&#39;".toList
  | c => [c]

def withoutMark : List Char → List Char
  | c :: rest => if c == Char.ofNat 0xFEFF then rest else c :: rest
  | [] => []

/-- The lines of a listing: empty lines at both ends are left out, but one line always stays. -/
def linesOf (code : String) : List (List Char) :=
  Text.pieces (· == '\n') (Text.trimWhere (· == '\n') (Text.unifyLineEnds (withoutMark code.toList)))

/-- A number in a column. -/
def padded (width n : Nat) : String :=
  let digits := toString n
  String.ofList (List.replicate (width - digits.length) ' ') ++ digits

def line (width n : Nat) (cs : List Char) : Html :=
  let id := "line-" ++ toString n
  .element "a" [("id", .raw id), ("name", .raw id)] .empty ++
    .element "a" [("href", .raw ("#" ++ id))] (.styled "span" "linenos" (.raw (padded width n))) ++
    .raw (String.ofList (cs.flatMap escapeChar)) ++ .raw "\n"

def render (code : String) : Html :=
  let rows := linesOf code
  let width := (toString rows.length).length
  .raw "<div class=\"source\"><pre><span></span>" ++
    .each (rows.zipIdx 1) (fun row => line width row.2 row.1) ++
    .raw "</pre></div>\n"

end DocSite.Listing
