import DocSite.Type.Linker

/-! Parts of pages that describe one symbol: its types, parameters, examples and details, and the
two forms of a whole description, for what is called and for what is read. -/
namespace DocSite.Page
set_option autoImplicit false

/-- What the parts of a page draw on. -/
structure Context where
  registry : Registry
  linker : TypeLinker
  store : Store
  /-- Whether source listings are written. -/
  listSources : Bool
deriving Inhabited

namespace Context

/-- The same with doclets that have no places, which templates do not see. -/
def unplaced (c : Context) : Context := { c with store := c.store.unplaced }

def linkName (c : Context) (name : String) : Html := c.registry.linkNamed name

/-- A link to where a reference leads. -/
def linkReference (c : Context) : Reference → Html
  | .symbol name => c.registry.linkNamed name
  | .link markup => c.registry.linkTo (some markup.markup) markup

/-- Links as the entries of a list. -/
def linkList (c : Context) (names : List String) : Html :=
  .element "ul" [] (.each names fun n => .element "li" [] (c.linkName n))

end Context

/-! ## Types and parameters -/

/-- The types of something with bars between them. -/
def types (c : Context) (names : Option (List String)) : Html :=
  match names.getD [] with
  | [] => .empty
  | names =>
    .styled "span" "param-type" (.join (.raw " | ") (names.map (c.linker.expression c.registry))) ++
      .raw "\n"

/-- Markup of a description, which is markup already. -/
def description (css text : String) : Html := .styled "div" css (.raw text)

/-- What may be said of a parameter besides its type. -/
def parameterAttributes (p : Parameter) : Html :=
  .when p.isOptional (.raw "&lt;optional&gt;<br>") ++
  .when p.nullable.isGiven (.raw "&lt;nullable&gt;<br>") ++
  .when p.isRepeatable (.raw "&lt;repeatable&gt;<br>") ++
  match p.defaultValue with
  | .null => .empty
  | v => .raw "default: " ++ .element "code" [] (.text v.display)

def parameterRow (c : Context) (p : Parameter) : Html :=
  .line 2 (.raw "<tr>") ++
  .line 4 (.styled "td" "name" (.element "code" [] (.text p.name))) ++
  .line 4 (.styled "td" "type" (types c p.types)) ++
  .line 4 (.raw "<td class=\"attributes\">") ++
  parameterAttributes p ++
  .line 4 (.raw "</td>") ++
  .line 4 (.styled "td" "description last" (.raw p.description)) ++
  .line 2 (.raw "</tr>")

def parameterTable (c : Context) (params : List Parameter) : Html :=
  .lines [
    "<table class=\"params\">",
    "  <thead>",
    "  <tr>",
    "    <th>Name</th>",
    "    <th>Type</th>",
    "    <th>Attributes</th>",
    "    <th class=\"last\">Description</th>",
    "  </tr>",
    "  </thead>",
    "  <tbody>"] ++
  .each params (parameterRow c) ++
  .lines ["  </tbody>", "</table>"]

/-! ## Examples and details -/

def oneExample (e : Example) : Html :=
  .when (e.caption != "") (.styled "p" "code-caption" (.raw e.caption)) ++
  .styled "pre" "prettyprint" (.element "code" [] (.text e.code)) ++ .raw "\n"

def exampleHeading (examples : List Example) : Html :=
  .element "h5" [] (.raw (if 1 < examples.length then "Examples" else "Example"))

/-- Examples under a heading, indented by some spaces. -/
def examples (indent : Nat) (es : List Example) : Html :=
  .when (!es.isEmpty)
    (.line indent (exampleHeading es) ++ .line indent (.each es oneExample))

/-- A term and what it stands for. -/
def term (css label : String) (body : Html) : Html :=
  .styled "dt" css (.raw label) ++ .styled "dd" css body

/-- What is said of a deprecated symbol: its text, which is markup, or a plain yes. -/
def deprecation : Value → Html
  | .text s => .raw s
  | _ => .raw "Yes"

/-- The place of a symbol in its source listing. -/
def sourcePlace (c : Context) (o : Origin) (shortPath : String) : Html :=
  .line 2 (.styled "dt" "tag-source" (.raw "Source:")) ++
  .line 2 (.raw "<dd class=\"tag-source\">") ++
  .raw "    " ++ c.linkName shortPath ++
  (match o.line.filter (· != 0) with
    | some n =>
      .raw ", " ++ c.registry.linkWith (some shortPath) (.text ("line " ++ toString n)) none
        ("line-" ++ toString n)
    | none => .empty) ++
  .line 2 (.raw "</dd>")

def details (c : Context) (d : Doclet) : Html :=
  .line 0 (.raw "<dl class=\"details\">") ++
  (match d.version.filter (· != "") with
    | some v => term "tag-version" "Version:" (.text v)
    | none => .empty) ++
  (match d.since.filter (· != "") with
    | some v => term "tag-since" "Since:" (.text v)
    | none => .empty) ++
  .when d.deprecated.isGiven
    (.styled "dt" "important tag-deprecated" (.raw "Deprecated:") ++
      .element "dd" [] (deprecation d.deprecated)) ++
  .when (!d.author.isEmpty)
    (term "tag-author" "Author:"
      (.element "ul" [] (.each d.author fun a => .element "li" [] (.text a)))) ++
  (match d.origin with
    | some o =>
      match o.shortPath.filter (· != "") with
      | some shortPath => .when c.listSources (sourcePlace c o shortPath)
      | none => .empty
    | none => .empty) ++
  .when (!d.see.isEmpty)
    (.line 2 (.styled "dt" "tag-see" (.raw "See:")) ++
      .line 2 (.styled "dd" "tag-see"
        (.element "ul" [] (.each d.see fun s => .element "li" [] (c.linkReference s))))) ++
  .when (!d.listeners.isEmpty)
    (.line 2 (.styled "dt" "tag-listeners" (.raw "Listeners of This Event:")) ++
      .line 2 (.element "dd" [] (c.linkList d.listeners))) ++
  .line 0 (.raw "</dl>")

/-! ## Whole descriptions -/

def symbolHeading (d : Doclet) : Html :=
  .line 0 (.element "h4" [("class", .raw "name"), ("id", .text d.anchor)]
    (d.attributes ++ .when (d.kind == "class") (.raw "new ") ++ .text d.name ++ d.signature))

def returnValue (c : Context) (p : Parameter) : Html :=
  .line 0 (description "param-desc" p.description) ++
  .line 0 (.element "dl" []
    (.element "dt" [] (.raw "Type") ++ .element "dd" [] (types c p.types)))

/-- The description of a symbol that is called. -/
def callable (c : Context) (d : Doclet) : Html :=
  .when (d.kind != "module") (symbolHeading d) ++
  .when (d.kind == "class" && d.classDescription != "")
    (.line 0 (description "class-description" d.classDescription)) ++
  .when (d.description != "") (.line 0 (description "description" d.description)) ++
  .when (!d.params.isEmpty)
    (.line 0 (.element "h5" [] (.raw "Parameters:")) ++ .line 0 (parameterTable c d.params)) ++
  .line 0 (details c d) ++
  .when (!d.fires.isEmpty)
    (.line 0 (.element "h5" [] (.raw "Fires:")) ++ .line 0 (c.linkList d.fires)) ++
  .when (!d.returns.isEmpty)
    (.line 0 (.element "h5" [] (.raw "Returns:")) ++ .each d.returns (returnValue c)) ++
  examples 0 d.examples

/-- The description of a symbol that is read. -/
def readable (c : Context) (d : Doclet) : Html :=
  .line 0 (.element "h4" [("class", .raw "name"), ("id", .text d.anchor)]
    (d.attributes ++ .text d.name ++ d.signature)) ++
  .when (d.description != "") (.line 0 (description "description" d.description)) ++
  .when (!(d.types.getD []).isEmpty)
    (.line 0 (.element "h5" [] (.raw "Type:")) ++
      .line 0 (.element "ul" [] (.element "li" [] (types c d.types)))) ++
  .when (!d.properties.isEmpty)
    (.line 0 (.element "h5" [] (.raw "Properties:")) ++
      .line 0 (parameterTable c d.properties)) ++
  .line 0 (details c d) ++
  examples 0 d.examples

end DocSite.Page
