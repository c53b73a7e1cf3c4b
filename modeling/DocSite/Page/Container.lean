import DocSite.Groups
import DocSite.Page.Parts

/-! The contents of pages: the home page's parts, the page of globals and the pages of
containers with what belongs to them. -/
namespace DocSite.Page
set_option autoImplicit false

inductive Topic where
  /-- The readme of the home page, with the longname of that page. -/
  | readme (markup : Option String) (longname : String)
  /-- What has no container. -/
  | globals
  /-- A package, a file or a container. -/
  | symbol (d : Doclet)
deriving Inhabited

/-- A topic whose doclet has no place. -/
def Topic.unplaced : Topic → Topic
  | symbol d => symbol d.unplaced
  | other => other

def partHeading (title : String) : Html :=
  .line 2 (.styled "h3" "subsection-title" (.raw title))

/-- The doclets of a kind that belong to a container, or to none. -/
def membersOf (c : Context) (container : Option String) (kind : String) : List Doclet :=
  c.store.find fun d => d.kind == kind && d.memberof == container

/-! ## What belongs to a container -/

/-- The classes of a container, linked with their descriptions. -/
def classList (c : Context) (classes : List Doclet) : Html :=
  .when (!classes.isEmpty)
    (partHeading "Classes" ++ .line 2 (.raw "<dl>") ++
      .each classes (fun d =>
        .line 4 (.element "dt" [] (c.registry.linkTo d.longname (.text d.name))) ++
          .line 4 (.element "dd" [] (.raw d.classDescription))) ++
      .line 2 (.raw "</dl>"))

/-- The namespaces of a container, linked. -/
def namespaceList (c : Context) (namespaces : List Doclet) : Html :=
  .when (!namespaces.isEmpty)
    (partHeading "Namespaces" ++ .line 2 (.raw "<dl>") ++
      .each namespaces (fun d =>
        .line 4 (.element "dt" [] (c.registry.linkTo d.longname (.text d.name)))) ++
      .line 2 (.raw "</dl>"))

/-- Symbols described one after another under a heading. -/
def descriptions (title : String) (describe : Doclet → Html) (ds : List Doclet) : Html :=
  .when (!ds.isEmpty) (partHeading title ++ .each ds fun d => .line 2 (describe d))

/-- A type definition, described as what is called when it has a signature and parameters. -/
def typedef (c : Context) (d : Doclet) : Html :=
  if !d.signature.isEmpty && !d.params.isEmpty then callable c d else readable c d

/-- Everything that belongs to a container, or to none when it is left out. -/
def belongings (c : Context) (container : Option String) : Html :=
  let isContainer := container.isSome
  .raw "\n" ++
  .when isContainer (classList c (membersOf c container "class")) ++ .raw "\n" ++
  .when isContainer (namespaceList c (membersOf c container "namespace")) ++ .raw "\n" ++
  descriptions "Members" (readable c) (membersOf c container "member") ++ .raw "\n" ++
  descriptions "Methods" (callable c) (membersOf c container "function") ++ .raw "\n" ++
  descriptions "Type Definitions" (typedef c) (membersOf c container "typedef") ++ .raw "\n" ++
  descriptions "Events" (callable c) (membersOf c container "event")

/-! ## Topics -/

def containerTitle (d : Doclet) : Html :=
  .element "h2" []
    (.when (!d.ancestors.isEmpty) (.styled "span" "ancestors" (.concat d.ancestors)) ++
      .text d.name ++
      match d.variation.filter (· != "") with
      | some v => .styled "sup" "variation" (.text v)
      | none => .empty)

/-- What a container is: what a module exports, the constructor of a class, or its details. -/
def overview (c : Context) (d : Doclet) : Html :=
  let exports := if d.kind == "module" then Doclet.exportsOf c.store.exportCandidates d else []
  if !exports.isEmpty then
    .when (d.description != "") (description "description" d.description) ++
      .each exports fun e => .line 4 (callable c e)
  else if d.kind == "class" && !d.hidesConstructor then .line 4 (callable c d)
  else
    .when (d.description != "") (description "description" d.description) ++
      .line 4 (details c d) ++ examples 4 d.examples

def containerSection (c : Context) (container : Option Doclet) : Html :=
  .lines ["<section>", "<header>"] ++
  (match container with
    | some d =>
      .line 2 (containerTitle d) ++
      .when (d.classDescription != "" && d.kind != "class")
        (.line 2 (description "class-description" d.classDescription))
    | none => .empty) ++
  .lines ["</header>", "<article>", "  <div class=\"container-overview\">"] ++
  (container.map (overview c)).getD .empty ++
  .line 2 (.raw "</div>") ++
  belongings c (container.map Doclet.longnameOrEmpty) ++
  .lines ["</article>", "</section>"]

def packageSection (d : Doclet) : Html :=
  .line 0 (.raw "<section class=\"package\">") ++
  .line 2 (.element "h3" [] (.text d.name ++ .raw " " ++ .text (d.version.getD ""))) ++
  .when (d.description != "") (description "description" d.description) ++
  .line 0 (.raw "</section>")

def fileSection (c : Context) (d : Doclet) : Html :=
  .line 0 (.raw "<section class=\"file\">") ++
  .line 2 (.element "header" [] (.element "h3" [] (.text d.name))) ++
  .when (d.description != "") (description "description" d.description) ++
  .line 2 (details c d) ++
  .line 0 (.raw "</section>")

def readmeSection (markup : String) : Html :=
  .line 0 (.raw "<section class=\"readme\">") ++
  .line 2 (.element "article" [] (.raw markup)) ++
  .line 0 (.raw "</section>")

def topic (c : Context) : Topic → Html
  | .readme markup _ =>
    match markup.filter (· != "") with
    | some m => readmeSection m
    | none => .empty
  | .globals => containerSection c none
  | .symbol d =>
    if d.kind == "package" then packageSection d
    else if d.kind == "file" then fileSection c d
    else containerSection c (some d)

/-- Whether the markup of a topic describes symbols in full. -/
def describesSymbols (c : Context) : Topic → Bool
  | .readme _ _ => false
  | .globals =>
    ["member", "function", "typedef", "event"].any fun kind => !(membersOf c none kind).isEmpty
  | .symbol d => d.kind != "package"

def topics (c : Context) (ts : List Topic) : Html := .each ts (topic c)

end DocSite.Page
