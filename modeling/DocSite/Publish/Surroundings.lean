import DocSite.Page.Container
import DocSite.Page.Theme
import DocSite.Source.Listing
import DocSite.Tutorial.Basic
import DocSite.Value.Yaml

/-! What a run is given from outside: which files refuse a page, the encodings, and the readers and
writers of other notations. A run uses whatever it is given. The plain surroundings do with what is
plain in each of these notations: flow style for YAML, one paragraph for Markdown, numbered lines
for highlighted code, and templates without instructions. -/
namespace DocSite
set_option autoImplicit false

namespace Page

/-- What a page shows in its frame. -/
inductive Content where
  | topics (pageType : String) (topics : List Topic)
  | listing (code : Html)
  | tutorial (header : String) (markup : Html) (children : List Tutorial)
deriving Inhabited

/-- What templates are given to draw a page. -/
structure Variables where
  /-- The name of the frame. -/
  frameName : String
  title : String
  sidebar : Html
  siteTitle : String
  content : Content
  context : Context
deriving Inhabited

namespace Variables

/-- Whether the page describes symbols, which takes the parts for them. -/
def describesSymbols (v : Variables) : Bool :=
  match v.content with
  | .topics _ topics => topics.any (Page.describesSymbols v.context)
  | _ => false

/-- The page of topics in the frame. -/
def framed (v : Variables) : Html :=
  frame v.siteTitle v.title v.sidebar
    (match v.content with
      | .topics _ topics => Page.topics v.context topics
      | _ => .empty)

end Variables

/-- The text of a template without instructions: one line end at its end is left out. -/
def literal (text : String) : String :=
  if text.endsWith "\n" then String.ofList text.toList.dropLast else text

/-- What templates draw: markup, with the tutorials that they ask the addresses of, in order. -/
structure Drawing where
  markup : String
  tutorials : List String := []
deriving Inhabited

/-- Draws a page by templates without instructions. Parts of this kind hold none that describe
symbols, so a page that needs these cannot be drawn. -/
def drawLiterally (d : Design) (v : Variables) : Option Drawing :=
  match d.page, d.frame with
  | .ok (.own text), _ => some { markup := literal text }
  | _, .ok (.own text) => some { markup := literal text }
  | _, _ => if v.describesSymbols then none else some { markup := v.framed.markup }

end Page

/-- What a run is given from outside. -/
structure Surroundings where
  /-- The files that refuse a page for a reason that is not in the tree. -/
  refuses : Path → Bool := fun _ => false
  encodings : Text.Encodings := Text.Encoding.all
  yaml : Yaml.Reader := Yaml.readFlow
  /-- The markup of a text in Markdown. -/
  markdown : String → String := paragraph
  /-- The markup of a listing by its title and its code. -/
  highlight : String → String → String := fun _ code => (Listing.render code).markup
  /-- The page that the user's templates draw, if they can be drawn. -/
  draw : Page.Design → Page.Variables → Option Page.Drawing := Page.drawLiterally

namespace Surroundings

instance : Inhabited Surroundings := ⟨{}⟩

/-- The same surroundings in which no file refuses a page for a reason that is not in the tree. -/
def accepting (around : Surroundings) : Surroundings := { around with refuses := fun _ => false }

end Surroundings
end DocSite
