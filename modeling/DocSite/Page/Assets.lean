import DocSite.Files.Tree

/-! The files that every site brings along besides its pages: a style sheet, a style sheet for
listings and a script. -/
namespace DocSite.Page
set_option autoImplicit false

structure StyleRule where
  selector : String
  declarations : List (String × String)

def StyleRule.text (r : StyleRule) : String :=
  r.selector ++ " \x7b\n" ++
    String.join (r.declarations.map fun d => "  " ++ d.1 ++ ": " ++ d.2 ++ ";\n") ++ "\x7d\n"

def styleSheet (rules : List StyleRule) : String := Text.join "\n" (rules.map StyleRule.text)

def siteStyle : String := styleSheet [
  ⟨"body", [("margin", "0"), ("font-family", "Helvetica, Arial, sans-serif"), ("color", "#333"),
    ("line-height", "1.5")]⟩,
  ⟨"nav", [("position", "fixed"), ("top", "0"), ("bottom", "0"), ("left", "0"),
    ("width", "250px"), ("overflow-y", "auto"), ("padding", "0 20px"), ("background", "#fafafa"),
    ("border-right", "1px solid #ddd"), ("font-size", "14px")]⟩,
  ⟨"nav ul", [("list-style", "none"), ("margin", "0"), ("padding-left", "12px")]⟩,
  ⟨"#main", [("margin-left", "290px"), ("padding", "20px 30px")]⟩,
  ⟨"table.params td, table.params th", [("border", "1px solid #ddd"), ("padding", "4px 8px"),
    ("vertical-align", "top")]⟩,
  ⟨".ancestors, .type-signature, .signature-attributes, .disabled", [("color", "#888")]⟩]

def listingStyle : String := styleSheet [
  ⟨".source pre", [("line-height", "125%")]⟩,
  ⟨".source .linenos", [("color", "#888"), ("padding", "0 5px")]⟩]

/-- The script that brings the entry of the current page into view. -/
def navScript : String :=
  "var page = document.location.pathname.split('/').pop() || 'index.html';\n" ++
  "var entry = document.querySelector('nav a[href^=\"' + page + '\"]');\n" ++
  "if (entry) \x7b entry.scrollIntoView(\x7b block: 'center' \x7d); \x7d\n"

def bytesOf (s : String) : List UInt8 := s.toList.flatMap String.utf8EncodeChar

/-- The files that are copied into every site, in the order of their paths. -/
def assets : List (Path × List UInt8) := [
  (Path.ofString "scripts/nav.js", bytesOf navScript),
  (Path.ofString "styles/site.css", bytesOf siteStyle)]

end DocSite.Page
