import DocSite.Files.Content
import DocSite.Html
import DocSite.Settings.Basic

/-! The looks of pages: the common frame, and what stands for the pages, the frame and the parts in
the user's own templates. -/
namespace DocSite.Page
set_option autoImplicit false

inductive Form where
  | container
  | source
  | tutorial
deriving DecidableEq, Repr, Inhabited

/-- The file that holds a form in a directory of templates. -/
def Form.file : Form → String
  | container => "container.html"
  | source => "source.html"
  | tutorial => "tutorial.html"

/-- The file of the parts that describe symbols. -/
def partsFile : String := "_macros.html"

/-- The file of the frame when no other one is set. -/
def frameFile : String := "layout.html"

/-! ## The frame -/

/-- The frame of every page around its content. -/
def frame (siteTitle title : String) (sidebar content : Html) : Html :=
  .lines [
    "<!DOCTYPE html>",
    "<html lang=\"en\">",
    "<head>",
    "  <meta charset=\"utf-8\">",
    "  <meta name=\"viewport\" content=\"width=device-width, initial-scale=1\">"] ++
  .line 2 (.element "title" [] (.text title ++ .raw " - " ++ .text siteTitle)) ++
  .lines [
    "  <link type=\"text/css\" rel=\"stylesheet\" href=\"styles/site.css\">",
    "  <link type=\"text/css\" rel=\"stylesheet\" href=\"styles/source.css\">",
    "</head>",
    "<body>",
    "<input type=\"checkbox\" id=\"nav-trigger\" class=\"nav-trigger\">",
    "<label for=\"nav-trigger\" class=\"navicon-button x\"><div class=\"navicon\"></div></label>",
    "<nav>"] ++
  .line 0 sidebar ++
  .lines ["</nav>", "<div id=\"main\">"] ++
  .when (title != "") (.line 2 (.styled "h1" "page-title" (.text title))) ++
  content ++
  .lines [
    "</div>",
    "<footer>",
    "  Documentation generated by doclet-html",
    "</footer>",
    "<script src=\"scripts/nav.js\"></script>",
    "</body>"] ++
  .raw "</html>"

/-! ## Templates -/

/-- What a name among the templates stands for. -/
inductive Template where
  /-- The user's own template. -/
  | own (text : String)
  /-- A page, the frame or the parts as they come. -/
  | bundled (name : String)
deriving DecidableEq, Repr, Inhabited

/-- The directories that are searched for the user's templates. -/
def templateDirectories (s : Settings) : List Path :=
  (s.templatesDirectory.filter (· != "")).toList.map Path.ofString ++
    (s.layoutFile.filter (· != "")).toList.map fun f => (Path.ofString f).parent

def layoutName (s : Settings) : String :=
  match s.layoutFile.filter (· != "") with
  | some f => (Path.ofString f).name
  | none => frameFile

/-- Looks a template up in directories. Only files count; a name that leads elsewhere finds
nothing. -/
def findTemplate (t : FileTree) (name : String) : List Path → Except Fault (Option String)
  | [] => .ok none
  | directory :: rest =>
    let path := directory ++ Path.ofString name
    match if name == ".." then none else (t.read path).toOption with
    | none => findTemplate t name rest
    | some bytes =>
      match Text.Encoding.utf8.text bytes with
      | .ok s => .ok (some s)
      | .error e => .error (.undecodable e)

def bundledNames : List String :=
  [Form.container.file, Form.source.file, Form.tutorial.file, partsFile, frameFile]

/-- What a name among the templates stands for. -/
def template (t : FileTree) (s : Settings) (name : String) : Except Fault Template :=
  match findTemplate t name (templateDirectories s) with
  | .error e => .error e
  | .ok (some text) => .ok (.own text)
  | .ok none =>
    if bundledNames.contains name then .ok (.bundled name) else .error .layoutMissing

/-- What a page is drawn with: what stands for the page, for its frame and for the parts that
describe symbols. -/
structure Design where
  page : Except Fault Template
  frame : Except Fault Template
  parts : Except Fault Template
deriving Inhabited

/-- The design of a form under the settings. -/
def design (t : FileTree) (s : Settings) (form : Form) : Design where
  page := template t s form.file
  frame := template t s (layoutName s)
  parts := template t s partsFile

/-- The parts as a frame of their own: five empty lines. -/
def partsAsFrame : Html := .raw "\n\n\n\n\n"

/-- What becomes of a page: it is drawn by the user's own templates, it is fixed text, or it is the
frame around the content. -/
inductive Look where
  | drawn
  | fixed (text : Html)
  | framed
deriving Inhabited

/-- The look of a form in a design. The parts are looked at where they describe symbols. -/
def Design.look (d : Design) (form : Form) : Except Fault Look := do
  match ← d.page with
  | .own _ => return .drawn
  | .bundled _ =>
    match ← d.frame with
    | .own _ => return .drawn
    | .bundled name =>
      if name == frameFile then
        if form == .container then
          match ← d.parts with
          | .own _ => return .drawn
          | .bundled _ => return .framed
        else return .framed
      else if name == partsFile then return .fixed partsAsFrame
      else throw .endlessLayout

end DocSite.Page
