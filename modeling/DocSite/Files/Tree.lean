import DocSite.Files.Path
import DocSite.Text.Encoding

/-! A file tree as a value: which places hold a directory and which a file with its bytes. Paths
are followed part by part from the working directory, so a missing or wrong part on the way is
reported before the last one. -/
namespace DocSite
set_option autoImplicit false

inductive Node where
  | directory
  | file (bytes : List UInt8)
deriving Inhabited

/-- Why a path cannot be followed, read or written. -/
inductive PathError where
  | missing
  | notDirectory
  | isDirectory
  | alreadyThere
  | nameTooLong
  | nullByte
deriving DecidableEq, Repr, Inhabited

/-- The sentence for an error at a path. -/
def PathError.message (e : PathError) (p : Path) : String :=
  let shown := Text.quoted p.display
  match e with
  | missing => "[Errno 2] No such file or directory: " ++ shown
  | notDirectory => "[Errno 20] Not a directory: " ++ shown
  | isDirectory => "[Errno 21] Is a directory: " ++ shown
  | alreadyThere => "[Errno 17] File exists: " ++ shown
  | nameTooLong => "[Errno 36] File name too long: " ++ shown
  | nullByte => "embedded null byte"

/-- A place in the tree: its parts from the working directory, or from the root when absolute. -/
structure Place where
  absolute : Bool := false
  parts : List String := []
deriving DecidableEq, Repr, Inhabited

/-- Places with what they hold. The working directory and the root are always directories. -/
structure FileTree where
  nodes : List (Place × Node) := []
deriving Inhabited

namespace FileTree

/-! ## Following a path -/

def at? (t : FileTree) (place : Place) : Option Node :=
  if place.parts.all (· == "..") then some .directory else t.nodes.lookup place

/-- The place one step up. Above the working directory the steps up are kept. -/
def up (place : Place) : Place :=
  match place.parts.reverse with
  | [] => if place.absolute then place else { place with parts := [".."] }
  | last :: rest =>
    if last == ".." then { place with parts := place.parts ++ [".."] }
    else { place with parts := rest.reverse }

/-- The longest name, in bytes, that a directory can hold. -/
def longestName : Nat := 255

/-- The longest path, in bytes, that can be followed. -/
def longestPath : Nat := 4095

/-- One step from a place. -/
def step (t : FileTree) (place : Place) (part : String) : Except PathError Place :=
  match t.at? place with
  | none => .error .missing
  | some (.file _) => .error .notDirectory
  | some .directory =>
    if part == ".." then .ok (up place)
    else if longestName < part.utf8ByteSize then .error .nameTooLong
    else .ok { place with parts := place.parts ++ [part] }

/-- The place a path leads to; the last part need not be there. -/
def follow (t : FileTree) (p : Path) : Except PathError Place :=
  if p.parts.any fun part => part.toList.contains (Char.ofNat 0) then .error .nullByte
  else if longestPath < p.display.utf8ByteSize then .error .nameTooLong
  else p.parts.foldlM t.step { absolute := p.root != "" }

def node (t : FileTree) (p : Path) : Except PathError Node :=
  match t.follow p with
  | .error e => .error e
  | .ok place =>
    match t.at? place with
    | some n => .ok n
    | none => .error .missing

/-- What a path leads to, where a path that leads nowhere is no error. -/
def node? (t : FileTree) (p : Path) : Except PathError (Option Node) :=
  match t.node p with
  | .ok n => .ok (some n)
  | .error .nameTooLong => .error .nameTooLong
  | .error _ => .ok none

def isDirectory (t : FileTree) (p : Path) : Except PathError Bool :=
  (t.node? p).map fun n => n matches some .directory

def leads (t : FileTree) (p : Path) : Except PathError Bool :=
  (t.node? p).map (·.isSome)

/-! ## Reading -/

def read (t : FileTree) (p : Path) : Except PathError (List UInt8) :=
  match t.node p with
  | .ok (.file bytes) => .ok bytes
  | .ok .directory => .error .isDirectory
  | .error e => .error e

/-- The parts of `place` that lie below `top`, if it lies there. -/
def below? (top place : Place) : Option (List String) :=
  if top.absolute == place.absolute then
    match top.parts.isPrefixOf? place.parts with
    | some [] => none
    | some ("..":: _) => none
    | other => other
  else none

/-- Everything below a directory as paths relative to it, ordered by parts. -/
def descendants (t : FileTree) (p : Path) : List (Path × Node) :=
  match t.follow p with
  | .error _ => []
  | .ok top =>
    let found := t.nodes.filterMap fun (place, n) =>
      (below? top place).map fun parts => ((⟨"", parts⟩ : Path), n)
    found.mergeSort fun a b => Path.le a.1 b.1

/-- The names in a directory in order, with what they hold. -/
def children (t : FileTree) (p : Path) : List (String × Node) :=
  (t.descendants p).filterMap fun (q, n) =>
    match q.parts with
    | [name] => some (name, n)
    | _ => none

/-! ## Writing -/

/-- The tree with a place set. -/
def set (t : FileTree) (place : Place) (n : Node) : FileTree :=
  ⟨if t.nodes.any (·.1 == place) then t.nodes.map fun p => if p.1 == place then (place, n) else p
    else t.nodes ++ [(place, n)]⟩

/-- Makes one directory where there is none. -/
def makeDirectory (isLast : Bool) (t : FileTree) (p : Path) : Except PathError FileTree :=
  match t.follow p with
  | .error e => .error e
  | .ok place =>
    match t.at? place with
    | some .directory => .ok t
    | some (.file _) => .error (if isLast then .alreadyThere else .notDirectory)
    | none => .ok (t.set place .directory)

/-- Makes a directory and those above it that are missing. -/
def makeDirectories (t : FileTree) (p : Path) : Except PathError FileTree :=
  (List.range p.parts.length).foldlM (fun t i =>
    makeDirectory (i + 1 == p.parts.length) t ⟨p.root, p.parts.take (i + 1)⟩) t

/-- Writes a file whose directory is there. -/
def write (t : FileTree) (p : Path) (bytes : List UInt8) : Except PathError FileTree :=
  match t.follow p with
  | .error e => .error e
  | .ok place =>
    match t.at? place with
    | some .directory => .error .isDirectory
    | _ => .ok (t.set place (.file bytes))

/-- Writes a file, making the directories above it that are missing. -/
def put (t : FileTree) (p : Path) (bytes : List UInt8) : Except PathError FileTree := do
  (← t.makeDirectories p.parent).write p bytes

end FileTree
end DocSite
