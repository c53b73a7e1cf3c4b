import DocSite.Doclet.Store
import DocSite.Text.Split

/-! Paths of source files as texts: where a doclet comes from, what the paths of a run have in
common, and the short forms that pages show. -/
namespace DocSite.Source
set_option autoImplicit false

/-- A path put after a directory: an absolute path stands alone, and a slash comes between where
there is none. -/
def joinPath (directory file : String) : String :=
  if file.startsWith "/" then file
  else if directory == "" || directory.endsWith "/" then directory ++ file
  else directory ++ "/" ++ file

/-- The directory of a path without slashes at its end, unless it is nothing but slashes. -/
def directoryOf (path : String) : String :=
  match Text.cutLast? '/' path.toList with
  | none => ""
  | some (head, _) =>
    let head := head ++ ['/']
    let bare := Text.dropEnd (· == '/') head
    String.ofList (if bare.isEmpty then head else bare)

/-- The parts of a directory that count. -/
def partsOf (path : String) : List String :=
  (Text.splitAt '/' path).filter fun part => part != "" && part != "."

/-- What two lists have in common at their start. -/
def commonParts : List String → List String → List String
  | x :: xs, y :: ys => if x == y then x :: commonParts xs ys else []
  | _, _ => []

def commonOfAll : List (List String) → List String
  | [] => []
  | [parts] => parts
  | parts :: rest => commonParts parts (commonOfAll rest)

/-- The longest common directory of paths with a slash after it. It is empty when there is none,
or when absolute and relative directories meet. -/
def commonPrefix (paths : List String) : String :=
  let directories := paths.map directoryOf
  let absolute := directories.filter (·.startsWith "/")
  if paths.isEmpty || (!absolute.isEmpty && absolute.length != directories.length) then ""
  else
    let root := if absolute.isEmpty then "" else "/"
    let common := root ++ Text.join "/" (commonOfAll (directories.map partsOf))
    if common == "" then ""
    else String.ofList (Text.dropEnd (· == '/') common.toList) ++ "/"

/-- A path without the common prefix, with forward slashes only. -/
def shortened (commonHead path : String) : String :=
  let rest := if commonHead != "" && path.startsWith commonHead then
      String.ofList (path.toList.drop commonHead.length)
    else path
  Text.replaceChar '\\' "/" rest

structure File where
  path : String
  shortPath : String
deriving DecidableEq, Repr, Inhabited

/-- The title of a file: its short path, or its path when that is empty. -/
def File.title (f : File) : String := if f.shortPath == "" then f.path else f.shortPath

/-- Files of paths, with the short forms that their common prefix gives. -/
def filesOf (paths : List String) : List File :=
  let head := commonPrefix paths
  paths.map fun path => ⟨path, shortened head path⟩

end DocSite.Source

namespace DocSite
set_option autoImplicit false

/-- The path of the file that a doclet was found in. -/
def Doclet.sourcePath? (d : Doclet) : Option String :=
  match d.origin with
  | none => none
  | some o =>
    if o.fileName == "" then none
    else
      match o.directory.filter fun p => p != "" && p != "null" with
      | some directory => some (Source.joinPath directory o.fileName)
      | none => some o.fileName

/-- The paths of the source files of a store, each once. -/
def Store.sourcePaths (s : Store) : List String :=
  Text.distinct ((s.doclets.filterMap Doclet.sourcePath?).filter (· != ""))

/-- The source files of a store in order of first appearance. -/
def Store.sourceFiles (s : Store) : List Source.File := Source.filesOf s.sourcePaths

end DocSite
