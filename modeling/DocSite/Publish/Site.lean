import DocSite.Link.InlineTag
import DocSite.Nav.Sidebar
import DocSite.Page.Assets
import DocSite.Publish.Names
import DocSite.Publish.Surroundings
import DocSite.Signature
import DocSite.Source.Path

/-! Publishing a site. The store is prepared, its files are made known, every doclet gets its
address and its signature, then the pages are written one after another. A page that cannot be
written is noted and the next one follows; any other fault ends the run. -/
namespace DocSite
set_option autoImplicit false

structure Site where
  settings : Settings
  store : Store
  registry : Registry
  files : FileTree
  /-- Where pages are written. -/
  root : Path
  log : List LogRecord := []
  /-- The lines printed. -/
  printed : List String := []
  /-- The pages written, in order. -/
  written : List Path := []
  /-- The file names of the pages that could not be written, in order. -/
  failed : List String := []
  /-- The pages that were to be written, by the addresses they were made for, in order. -/
  made : List (String × Html) := []
  around : Surroundings := {}
deriving Inhabited

namespace Site

def note (s : Site) (r : LogRecord) : Site := { s with log := s.log ++ [r] }

def print (s : Site) (l : String) : Site := { s with printed := s.printed ++ [l] }

/-! ## Preparing the doclets -/

/-- The store without hidden doclets, in order, with the listeners of events. -/
def prepareStore (settings : Settings) (s : Store) : Store :=
  let s := s.prune settings.includePrivate
  let s := if settings.sorts then s.sort settings.effectiveSortFields else s
  s.addListeners

/-- References with those to members turned into links. -/
def linkReferences (r : Registry) (d : Doclet) : List Reference → List Reference × Registry
  | [] => ([], r)
  | .symbol see :: rest =>
    let (first, r) := r.memberReference d see
    let (others, r) := linkReferences r d rest
    (first :: others, r)
  | .link markup :: rest =>
    let (others, r) := linkReferences r d rest
    (.link markup :: others, r)

/-- Doclets with split examples and linked references. -/
def normalizeAll (r : Registry) : List Doclet → List Doclet × Registry
  | [] => ([], r)
  | d :: rest =>
    let (see, r) := linkReferences r d d.see
    let (others, r) := normalizeAll r rest
    ({ d with examples := d.examples.map Example.split, see := see } :: others, r)

/-- Takes quotes off names, splits examples and links references. -/
def normalize (s : Site) : Site :=
  let store := match s.settings.quoteRule with
    | some rule => s.store.map (Doclet.removeQuotes rule)
    | none => s.store
  let (ds, r) := normalizeAll s.registry store.doclets
  { s with store := ⟨ds⟩, registry := r }

/-- The state in which a run starts: the doclets prepared and normalized, no file written. -/
def start (settings : Settings) (store : Store) (files : FileTree) (out : Path) : Site :=
  normalize
    { settings := settings
      store := prepareStore settings store
      registry := .initial
      files := files
      root := out }

/-- A linker for the types of the store. -/
def linker (s : Site) : TypeLinker :=
  ⟨.ofStore s.store, s.settings.compactLongTypes, s.settings.expandShortTypes⟩

/-! ## Files that are not pages -/

/-- The directory of its own that the first package has, by its name and its version. -/
def packageDirectory? (s : Store) : Option Path :=
  match s.ofKind "package" with
  | package :: _ =>
    if package.name == "" then none
    else some (Path.ofString package.name ++ Path.ofString (package.version.getD ""))
  | [] => none

/-- The directory of the pages. -/
def rootFor (out : Path) (s : Store) : Path :=
  match packageDirectory? s with
  | some directory => out ++ directory
  | none => out

/-- A change of the file tree that may fault. -/
def withFiles (s : Site) (change : FileTree → Except PathError FileTree) : Except Fault Site :=
  match change s.files with
  | .ok files => .ok { s with files := files }
  | .error e => .error (.unusablePath e)

/-- Whether two paths lead to one place. -/
def isSamePlace (s : Site) (p q : Path) : Bool :=
  match s.files.follow p, s.files.follow q with
  | .ok a, .ok b => a == b
  | _, _ => false

/-- Writes a copy to a path, unless that is the place it comes from. -/
def copyOnto (s : Site) (source : Option Path) (target : Path) (bytes : List UInt8) :
    Except Fault Site :=
  if source.any (s.isSamePlace · target) then .error .copyOntoItself
  else s.withFiles (·.write target bytes)

/-- Puts a file below the root, from the path that it comes from, if it has one. A directory in its
place takes it in. -/
def copyTo (s : Site) (source : Option Path) (file : Path) (bytes : List UInt8) :
    Except Fault Site := do
  let target := s.root ++ file
  let s ← s.withFiles (·.makeDirectories target.parent)
  match s.files.isDirectory target with
  | .error e => throw (.unusablePath e)
  | .ok inside =>
    s.copyOnto source (if inside then target ++ Path.ofString file.name else target) bytes

def copyAssets (s : Site) : Except Fault Site :=
  Page.assets.foldlM (fun s a => s.copyTo none a.1 a.2) s

def writeListingStyle (s : Site) : Except Fault Site :=
  s.withFiles (·.put (s.root ++ Path.ofString "styles/source.css")
    (Page.bytesOf Page.listingStyle))

/-- Copies one file of a directory of the user. -/
def copyUserFile (directory : Path) (s : Site) (file : Path) : Except Fault Site := do
  match s.files.read (directory ++ file) with
  | .error _ => return s
  | .ok bytes => s.copyTo (some (directory ++ file)) file bytes

/-- Copies a directory of the user with its layout. -/
def copyUserFiles (s : Site) (directory : String) : Except Fault Site :=
  let path := Path.ofString directory
  match s.files.isDirectory path with
  | .error e => .error (.unusablePath e)
  | .ok false =>
    .ok (s.note (.warn ("Static files directory " ++ path.display ++ " does not exist")))
  | .ok true => ((s.files.descendants path).map (·.1)).foldlM (copyUserFile path) s

/-- Makes the directory of the pages and puts the files in it that are not pages. -/
def copyFiles (s : Site) : Except Fault Site := do
  let s ← s.withFiles (·.makeDirectories s.root)
  let s ← s.copyAssets
  let s ← s.writeListingStyle
  s.settings.staticFiles.foldlM copyUserFiles s

/-! ## Addresses and signatures -/

/-- Registers an address, noting a conflict in the log. -/
def register (s : Site) (longname url : String) : Site :=
  let (r, conflict) := s.registry.register longname url
  let s := { s with registry := r }
  match conflict with
  | none => s
  | some c =>
    s.note (.fail ("Conflicting link for " ++ c.longname ++ ": keeping " ++ c.kept ++
      ", ignoring " ++ c.ignored))

/-- Gives a doclet its address; files have none of their own. -/
def registerDoclet (s : Site) (d : Doclet) : Site :=
  if d.kind == "file" then s
  else
    let (url, r) := s.registry.urlFor d
    { s with registry := r }.register d.linkName url

/-- A doclet with the short path of the file it was found in. -/
def locate (sources : List Source.File) (d : Doclet) : Doclet :=
  match d.origin, d.sourcePath?.bind fun path => sources.find? (·.path == path) with
  | some o, some file =>
    if file.shortPath == "" then d
    else { d with origin := some { o with shortPath := some file.shortPath } }
  | _, _ => d

/-- Gives every doclet its address and its place in the sources. -/
def registerAll (s : Site) (sources : List Source.File) : Site :=
  let s := s.store.doclets.foldl registerDoclet s
  { s with store := s.store.map (locate sources) }

/-- The id of a doclet: the fragment of its address, or its name. -/
def anchorOf (r : Registry) (d : Doclet) : String :=
  match (Address.fragment? ((r.url? d.linkName).getD "")).filter (· != "") with
  | some fragment => fragment
  | none => d.name

/-- A doclet with its id and, if it is called, its signature. -/
def addCall (l : TypeLinker) (r : Registry) (d : Doclet) : Doclet :=
  let d := { d with anchor := anchorOf r d }
  if d.needsSignature then (d.addCallSignature l r).addAttributes else d

/-- A doclet with its trail and, if it is read, its types; constants count as members from here
on. -/
def addTrail (l : TypeLinker) (r : Registry) (table : Table Doclet) (d : Doclet) : Doclet :=
  let d := { d with ancestors := ancestorLinks table r d }
  let d :=
    if d.kind == "member" || d.kind == "constant" then (d.addTypeSignature l r).addAttributes
    else d
  if d.kind == "constant" then { d with kind := "member" } else d

/-- Gives every doclet its id, its signature and its trail. -/
def addSignatures (s : Site) : Site :=
  let l := s.linker
  let store := s.store.map (addCall l s.registry)
  { s with store := store.map (addTrail l s.registry (byLongname store.doclets)) }

/-! ## Pages -/

/-- Notes that the page of an address could not be written. -/
def notWritten (s : Site) (url : String) : Site :=
  { s.note (.fail ("Failed to write page " ++ url)) with failed := s.failed ++ [url] }

/-- Writes a page to the file its address names. A page that cannot be written is noted. -/
def writePage (s : Site) (url : String) (page : Html) : Except Fault Site :=
  let target := s.root ++ Path.ofString (Address.page url)
  let s := { s with made := s.made ++ [(url, page)] }
  match s.files.put target (Page.bytesOf page.markup) with
  | .ok files =>
    if s.around.refuses target then .ok (s.notWritten url)
    else .ok { s with files := files, written := s.written ++ [target] }
  | .error .nullByte => .error (.unusablePath .nullByte)
  | .error _ => .ok (s.notWritten url)

def resolveTags (s : Site) (page : Html) : Except Fault (Html × Site) :=
  match s.registry.resolveTags page with
  | (.ok page, r) => .ok (page, { s with registry := r })
  | (.error e, _) => .error e

/-- What the parts of pages draw on. -/
def context (s : Site) : Page.Context := ⟨s.registry, s.linker, s.store, s.settings.listSources⟩

/-- What templates are given to draw a page. -/
def templateVariables (s : Site) (sidebar : Html) (title : String) (content : Page.Content) :
    Page.Variables where
  frameName := Page.layoutName s.settings
  title := title
  sidebar := sidebar
  siteTitle := s.settings.siteTitle
  content := content
  context := s.context.unplaced

/-- A registry that was asked for the addresses of tutorials. -/
def askTutorials (r : Registry) (names : List String) : Registry :=
  names.foldl (fun r name => (r.tutorialLink name none).2) r

/-- Draws a page by the user's templates. What they draw is markup. -/
def draw (s : Site) (design : Page.Design) (v : Page.Variables) : Except Fault (Html × Site) :=
  match s.around.draw design v with
  | some drawing =>
    .ok (.raw drawing.markup, { s with registry := askTutorials s.registry drawing.tutorials })
  | none => .error .helperMissing

/-- A page as it looks under the settings: drawn by the user's templates, fixed, or in the frame. -/
def pageOf (s : Site) (form : Page.Form) (v : Page.Variables) (framed : Html × Site) :
    Except Fault (Html × Site) := do
  let design := Page.design s.files s.settings form
  match ← design.look form with
  | .drawn => s.draw design v
  | .fixed text => return (text, s)
  | .framed => return framed

/-- The markup of a page of topics. -/
def topicPage (s : Site) (sidebar : Html) (pageType title : String) (topics : List Page.Topic) :
    Except Fault (Html × Site) :=
  s.pageOf .container
    (s.templateVariables sidebar title (.topics pageType (topics.map Page.Topic.unplaced)))
    (Page.frame s.settings.siteTitle title sidebar (Page.topics s.context topics), s)

def writeTopics (sidebar : Html) (s : Site) (pageType title : String) (topics : List Page.Topic)
    (url : String) : Except Fault Site := do
  let (page, s) ← s.topicPage sidebar pageType title topics
  let (page, s) ← s.resolveTags page
  s.writePage url page

def listingContent (code : Html) : Html :=
  .lines ["<section>", "  <article>"] ++ .line 4 code ++ .lines ["  </article>", "</section>"]

/-- The text of a source file in the encoding of the settings; a file that cannot be read or
decoded gives the reason instead. -/
def readSource (s : Site) (path : Path) : Except Fault (Except String String) :=
  match s.files.readTextNamed path s.settings.encoding s.around.encodings with
  | .ok code => .ok (.ok code)
  | .error (.undecodable (.badBytes codec first last byte reason)) =>
    .ok (.error (Text.DecodeError.badBytesMessage codec first last byte reason))
  | .error (.unusablePath .nullByte) => .error (.unusablePath .nullByte)
  | .error (.unusablePath e) => .ok (.error (e.message path))
  | .error e => .error e

/-- The address of the listing of a title, to which the title leads from here on. -/
def addListing (s : Site) (title : String) : String × Site :=
  let (url, r) := s.registry.allocate title ("<source>" ++ title)
  (url, { s with registry := r }.register title url)

def listingPage (s : Site) (sidebar : Html) (title code : String) :
    Except Fault (Html × Site) :=
  let code := Html.raw (s.around.highlight title code)
  s.pageOf .source (s.templateVariables sidebar title (.listing code))
    (Page.frame s.settings.siteTitle title sidebar (listingContent code), s)

/-- Writes the listing of a source file, or notes why there is none. -/
def writeListing (sidebar : Html) (s : Site) (file : Source.File) : Except Fault Site := do
  match ← s.readSource (Path.ofString file.path) with
  | .error reason =>
    return s.note (.fail ("Error while generating source file " ++ file.path ++ ": " ++ reason))
  | .ok code =>
    let (url, s) := s.addListing file.title
    let (page, s) ← s.listingPage sidebar file.title code
    s.writePage url page

/-- Writes the listings of source files, if the settings want them. -/
def writeListings (sidebar : Html) (sources : List Source.File) (s : Site) : Except Fault Site :=
  if s.settings.listSources then
    sources.foldlM (writeListing sidebar)
      (s.print ("Writing " ++ toString sources.length ++ " source listings..."))
  else .ok s

/-- Writes the page of globals, if there are any. -/
def writeGlobals (sidebar : Html) (s : Site) : Except Fault Site :=
  if s.store.globals.isEmpty then .ok s
  else s.writeTopics sidebar "" "Global" [.globals] s.registry.globalUrl

/-- Writes the home page: packages, the readme, files. -/
def writeHome (sidebar : Html) (readme : Option String) (s : Site) : Except Fault Site :=
  s.writeTopics sidebar "" "Home"
    ((s.store.ofKind "package").map .symbol ++ .readme readme s.settings.mainPageTitle ::
      (s.store.ofKind "file").map .symbol)
    s.registry.homeUrl

/-- The types of pages of containers with the kinds of these, in the order they are written for one
longname. -/
def pageTypes : List (String × String) := [("Module", "module"), ("Class", "class"),
  ("Namespace", "namespace"), ("Mixin", "mixin"), ("External", "external"),
  ("Interface", "interface")]

/-- Writes the page of one type for a longname, if it has doclets of the kind. -/
def writeContainer (sidebar : Html) (longname url : String) (s : Site) (type : String × String) :
    Except Fault Site :=
  match s.store.find fun d => d.kind == type.2 && d.longname == some longname with
  | [] => .ok s
  | d :: rest => s.writeTopics sidebar type.1 d.name ((d :: rest).map .symbol) url

/-- Writes the pages of the longnames that are registered by now. -/
def writeContainers (sidebar : Html) (s : Site) : Except Fault Site :=
  s.registry.urls.entries.foldlM
    (fun s entry => pageTypes.foldlM (writeContainer sidebar entry.1 entry.2) s) s

/-! ## Tutorials -/

/-- Links to tutorials as the entries of a list. -/
def tutorialLinks (r : Registry) : List Tutorial → Html × Registry
  | [] => (.empty, r)
  | t :: rest =>
    let (link, r) := r.tutorialLink t.name none
    let (others, r) := tutorialLinks r rest
    (.line 6 (.element "li" [] link) ++ others, r)

/-- The content of a tutorial's page. -/
def tutorialContent (markdown : String → String) (r : Registry) (t : Tutorial) :
    Html × Registry :=
  let (links, r) := tutorialLinks r t.children
  (.lines ["<section>", "  <header>"] ++
    .when (!t.children.isEmpty)
      (.line 4 (.raw "<ul>") ++ links ++ .line 4 (.raw "</ul>")) ++
    .line 4 (.element "h2" [] (.text t.title)) ++
    .lines ["  </header>", "  <article>"] ++
    .line 4 (t.markup markdown) ++
    .lines ["  </article>", "</section>"], r)

def tutorialPage (s : Site) (sidebar : Html) (t : Tutorial) : Except Fault (Html × Site) :=
  let title := "Tutorial: " ++ t.title
  let (content, r) := tutorialContent s.around.markdown s.registry t
  s.pageOf .tutorial
    (s.templateVariables sidebar title (.tutorial t.title (t.markup s.around.markdown) t.children))
    (Page.frame s.settings.siteTitle title sidebar content, { s with registry := r })

def writeTutorial (sidebar : Html) (s : Site) (t : Tutorial) : Except Fault Site := do
  let (page, s) ← s.tutorialPage sidebar t
  let (page, s) ← s.resolveTags page
  let (url, r) := s.registry.tutorialUrl t.name
  { s with registry := r }.writePage url page

/-- Writes the pages of tutorials, each before those under it. -/
def writeTutorials (sidebar : Html) (s : Site) : List Tutorial → Except Fault Site
  | [] => .ok s
  | ⟨name, title, content, format, children⟩ :: rest => do
    let s ← writeTutorial sidebar s ⟨name, title, content, format, children⟩
    let s ← writeTutorials sidebar s children
    writeTutorials sidebar s rest

/-! ## The whole run -/

/-- The doclets with their addresses, signatures and trails, and the files that are not pages. -/
def prepare (s : Site) (sources : List Source.File) : Except Fault Site := do
  let s ← s.copyFiles
  let s := (s.registerAll sources).addSignatures
  return { s with store := s.store.unquoteExternals }

/-- Writes every page: listings first, so that other pages can lead to their lines. -/
def writePages (sidebar : Html) (sources : List Source.File) (readme : Option String)
    (tutorials : List Tutorial) (s : Site) : Except Fault Site := do
  let s ← s.writeListings sidebar sources
  let s ← s.writeGlobals sidebar
  let s ← s.writeHome sidebar readme
  let s ← s.writeContainers sidebar
  s.writeTutorials sidebar tutorials

/-- Publishes a store with tutorials into a directory. -/
def publish (settings : Settings) (store : Store) (tutorial : Tutorial) (readme : Option String)
    (files : FileTree) (out : Path) (around : Surroundings := {}) : Except Fault Site := do
  let s := start settings store files out
  let s := { s with root := rootFor out s.store }
  let sources := s.store.sourceFiles
  let s ← s.prepare sources
  let s := { s with registry := s.registry.addTutorials tutorial.children }
  let (sidebar, r) ← Sidebar.render s.store settings tutorial.children s.registry
  let s ← { s with registry := r, around := around }.writePages sidebar sources readme
    tutorial.children
  return s.print ("Generated " ++ toString s.written.length ++ " HTML pages into: " ++
    s.root.display)

end Site
end DocSite
