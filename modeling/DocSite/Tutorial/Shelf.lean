import DocSite.Doclet.Reader
import DocSite.Files.Content
import DocSite.Tutorial.Basic

/-! A directory of tutorials. Its files are put on a shelf by name; a structure file gives titles
and puts tutorials under others. A tutorial goes under one other at most. -/
namespace DocSite
set_option autoImplicit false

/-- A tutorial on a shelf: the names of those under it stand in place of the tutorials. -/
structure ShelfEntry where
  title : String
  content : String
  format : ContentFormat
  children : List String := []
deriving DecidableEq, Repr, Inhabited

/-- Tutorials by name, with the names of those that are under another one. -/
structure Shelf where
  entries : Table ShelfEntry := .empty
  nested : List String := []
deriving Inhabited, Repr

namespace Shelf

/-! ## Structure -/

/-- Gives a tutorial a title. -/
def setTitle (s : Shelf) (name title : String) : Shelf :=
  match s.entries.get? name with
  | some e => { s with entries := s.entries.insert name { e with title := title } }
  | none => s

/-- Puts a tutorial under another one, unless it is under one already or is the same. -/
def nest (s : Shelf) (parent child : String) : Shelf :=
  if s.nested.contains child || child == parent then s
  else
    match s.entries.get? parent with
    | some e =>
      { s with
        entries := s.entries.insert parent { e with children := e.children ++ [child] }
        nested := s.nested ++ [child] }
    | none => s

/-- A shelf with the log of what was wrong with its structure. -/
abbrev Logged := Shelf × List LogRecord

/-- Puts listed tutorials under one, noting the unknown ones. -/
def nestAll (parent : String) : Logged → List Value → Logged
  | s, [] => s
  | (s, log), v :: rest =>
    if s.entries.has v.display then nestAll parent (s.nest parent v.display, log) rest
    else
      let note := LogRecord.warn
        ("Tutorial " ++ parent ++ " lists unknown child " ++ v.display)
      nestAll parent (s, log ++ [note]) rest

/-- The title of a structure entry, if it is given. -/
def titled (s : Shelf) (name : String) (conf : List (String × Value)) : Shelf :=
  let title := Value.field conf "title"
  if title.isGiven then s.setTitle name title.display else s

mutual

/-- Applies a structure, entry by entry. -/
def arrange (s : Logged) : List (String × Value) → Except Fault Logged
  | [] => .ok s
  | (name, conf) :: rest =>
    if s.1.entries.has name then
      match conf with
      | .mapping fields => do
        let s := (s.1.titled name fields, s.2)
        let s ← arrangeInner s fields
        let children ← (Value.field fields "children").items
        arrange (nestAll name s children) rest
      | _ => arrange s rest
    else
      let note := LogRecord.warn ("Tutorial structure names unknown tutorial " ++ name)
      arrange (s.1, s.2 ++ [note]) rest

/-- Applies the structure that an entry's children form when they are a mapping. -/
def arrangeInner (s : Logged) : List (String × Value) → Except Fault Logged
  | [] => .ok s
  | (key, v) :: rest =>
    if key == "children" then
      match v with
      | .mapping inner => arrange s inner
      | _ => .ok s
    else arrangeInner s rest

end

/-! ## Trees -/

/-- The tree under a name, down to a number of levels. -/
def treeWithin (s : Shelf) : Nat → String → Tutorial
  | 0, name => { name := name }
  | levels + 1, name =>
    match s.entries.get? name with
    | some e => ⟨name, e.title, e.content, e.format, e.children.map (s.treeWithin levels)⟩
    | none => { name := name }

/-- The names that are under no other one, in order. -/
def top (s : Shelf) : List String := s.entries.keys.filter (!s.nested.contains ·)

/-- The tree of a shelf. No branch is longer than the number of tutorials. -/
def tree (s : Shelf) : Tutorial :=
  { Tutorial.root with children := s.top.map (s.treeWithin s.entries.keys.length) }

/-! ## Loading -/

/-- The format of a file by the ending of its name, for files that are tutorials. -/
def formatOf? (p : Path) : Option ContentFormat :=
  match Text.lowercase p.suffix with
  | ".md" => some .markdown
  | ".markdown" => some .markdown
  | ".html" => some .html
  | ".htm" => some .html
  | _ => none

/-- Puts a file on a shelf if it is a tutorial. -/
def addFile (s : Shelf) (file : String × Node) : Except Fault Shelf :=
  match file with
  | (_, .directory) => .ok s
  | (name, .file bytes) =>
    let path := Path.ofString name
    match formatOf? path with
    | none => .ok s
    | some format =>
      match Text.Encoding.utf8.text bytes with
      | .error e => .error (.undecodable e)
      | .ok content =>
        .ok { s with entries := s.entries.insert path.stem ⟨path.stem, content, format, []⟩ }

/-- Puts the tutorial files of a directory on a shelf, in the order of their names. -/
def addFiles (s : Shelf) (files : List (String × Node)) : Except Fault Shelf := files.foldlM addFile s

/-- The names that a structure file may have, in the order they are looked for. -/
def structureFiles : List String := ["tutorials.json", "tutorials.yml", "tutorials.yaml"]

/-- Reads the first structure file that holds a mapping, noting those that do not. -/
def readStructure (t : FileTree) (yaml : Yaml.Reader) (directory : Path) (log : List LogRecord) :
    List String → Except Fault (List (String × Value) × List LogRecord)
  | [] => .ok ([], log)
  | file :: rest => do
    let path := directory ++ Path.ofString file
    if !(← t.leadsTo path) then readStructure t yaml directory log rest
    else
      let v ← if path.suffix == ".json" then t.readJson path else t.readYaml path yaml
      match v with
      | .mapping fields => return (fields, log)
      | _ =>
        let note := LogRecord.warn
          ("Ignoring " ++ path.display ++ ": expected a mapping of tutorial names")
        readStructure t yaml directory (log ++ [note]) rest

def ofDirectory (t : FileTree) (yaml : Yaml.Reader) (directory : Path) : Except Fault Logged := do
  let s ← ({} : Shelf).addFiles (t.children directory)
  let (structure_, log) ← readStructure t yaml directory [] structureFiles
  arrange (s, log) structure_

end Shelf

/-- Loads the tutorials of a directory, if one is named. -/
def Tutorial.load (t : FileTree) (directory : Option Path)
    (yaml : Yaml.Reader := Yaml.readFlow) : Except Fault (Tutorial × List LogRecord) :=
  match directory with
  | none => .ok (.root, [])
  | some path =>
    match t.isDirectory path with
    | .error e => .error (.unusablePath e)
    | .ok false =>
      .ok (.root, [.warn ("Tutorials directory " ++ path.display ++ " does not exist")])
    | .ok true => do
      let (shelf, log) ← Shelf.ofDirectory t yaml path
      return (shelf.tree, log)

end DocSite
