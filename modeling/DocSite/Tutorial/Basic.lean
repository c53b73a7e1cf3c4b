import DocSite.Link.Markup
import DocSite.Text.Split

/-! Tutorial pages and the tree they form. -/
namespace DocSite
set_option autoImplicit false

/-- How the content of a tutorial is written. -/
inductive ContentFormat where
  | markdown
  | html
deriving DecidableEq, Repr, Inhabited

/-- A tutorial with the tutorials under it. The root of a tree has neither name nor content. -/
structure Tutorial where
  name : String
  title : String := ""
  content : String := ""
  format : ContentFormat := .markdown
  children : List Tutorial := []
deriving Inhabited

def Tutorial.root : Tutorial := { name := "" }

/-! ## Content -/

/-- Plain words in Markdown: one paragraph, or nothing when there are none. -/
def paragraph (s : String) : String :=
  let words := Text.strip s
  if words == "" then "" else "<p>" ++ words ++ "</p>"

/-- The content of a tutorial as markup, by a reader of Markdown. -/
def Tutorial.markup (markdown : String → String) (t : Tutorial) : Html :=
  match t.format with
  | .html => .raw t.content
  | .markdown => .raw (markdown t.content)

/-! ## Registration -/

/-- Makes tutorials and those under them known by name. Later ones come first, so that of several
with one name the first counts, and before it the ones under it. -/
def Registry.addTutorials (r : Registry) : List Tutorial → Registry
  | [] => r
  | ⟨name, title, _, _, children⟩ :: rest =>
    ((r.addTutorials rest).addTutorial name title).addTutorials children
termination_by ts => sizeOf ts
decreasing_by all_goals simp only [List.cons.sizeOf_spec, Tutorial.mk.sizeOf_spec]; omega

end DocSite
