import DocSite.CommandLine.Run

/-! The program. The files that a run may read are those that the command line names and those
listed on standard input, one path a line; what the run leaves behind is written out. -/
namespace DocSite
set_option autoImplicit false

def usageLine : String :=
  "usage: docsite [-h] [--config CONFIG] [--tutorials TUTORIALS] [--readme README] [--verbose] " ++
    "doclets out_dir"

def helpText : String := Text.join "\n" [
  usageLine,
  "",
  "Render JSDoc doclets (jsdoc -X output) as a static HTML site.",
  "The files that may be read are listed on standard input, one path a line.",
  "",
  "  doclets                doclet dump (JSON, or YAML with .yml)",
  "  out_dir                directory for the generated site",
  "  --config CONFIG        YAML configuration file; repeat to layer several",
  "  --tutorials TUTORIALS  directory of Markdown or HTML tutorials",
  "  --readme README        Markdown file shown on the home page",
  "  --verbose              list the files that were read"]

/-- Standard input as the paths it lists. -/
partial def listedPaths (input : IO.FS.Stream) (sofar : List String) : IO (List String) := do
  let line ← input.getLine
  if line == "" then return sofar.reverse
  else
    let path := (line.toList.reverse.dropWhile fun c => c == '\n' || c == '\r').reverse
    listedPaths input (String.ofList path :: sofar)

/-- A file tree with the file at a path, if it can be read. -/
def readInto (isVerbose : Bool) (t : FileTree) (path : String) : IO FileTree := do
  try
    let bytes ← IO.FS.readBinFile path
    if isVerbose then IO.eprintln ("DEBUG read " ++ path)
    match t.put (Path.ofString path) bytes.toList with
    | .ok t => return t
    | .error _ => return t
  catch _ => return t

/-- The paths of files that a command line names. -/
def Arguments.namedFiles (a : Arguments) : List String :=
  let named : NamedPath → List String
    | .named text => [text]
    | .nameless => []
  named a.dump ++ a.config ++ a.readme.toList

def Place.path (p : Place) : Path := ⟨if p.absolute then "/" else "", p.parts⟩

/-- Writes what a tree holds and another one did not. -/
def writeChanges (old new : FileTree) : IO Unit := do
  for (place, node) in new.nodes do
    let path := place.path.display
    match node, old.at? place with
    | .directory, some .directory => pure ()
    | .directory, _ => IO.FS.createDirAll path
    | .file bytes, some (.file before) =>
      if bytes != before then IO.FS.writeBinFile path (ByteArray.mk bytes.toArray)
    | .file bytes, _ => IO.FS.writeBinFile path (ByteArray.mk bytes.toArray)

def Severity.written : Severity → String
  | warning => "WARNING"
  | error => "ERROR"

/-- Shows what a run leaves behind and gives its exit code. -/
def Outcome.report (o : Outcome) : IO UInt32 := do
  for r in o.log do IO.eprintln (r.severity.written ++ " docsite: " ++ r.message)
  for line in o.printed do IO.println line
  match o.complaint with
  | some line => IO.eprintln line
  | none => pure ()
  return UInt32.ofNat o.exitCode

/-- Shows a fault and gives the exit code. -/
def Fault.report : Fault → IO UInt32
  | .helpShown => do
    IO.println helpText
    return 0
  | .usage => do
    IO.eprintln usageLine
    return 2
  | f => do
    IO.eprintln (f.message?.getD "The run was stopped by its input")
    return 1

def runProgram (line : List String) : IO UInt32 := do
  match Arguments.read line with
  | .error f => f.report
  | .ok a =>
    let listed ← listedPaths (← IO.getStdin) []
    let t ← (a.namedFiles ++ listed).foldlM (readInto a.isVerbose) {}
    match a.run t with
    | .error f => f.report
    | .ok o =>
      writeChanges t o.files
      o.report

end DocSite

def main (args : List String) : IO UInt32 := DocSite.runProgram args
