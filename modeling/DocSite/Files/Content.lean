import DocSite.Fault
import DocSite.Value.Yaml

/-! What files hold: text in an encoding, JSON and YAML. -/
namespace DocSite.FileTree
set_option autoImplicit false

def readText (t : FileTree) (p : Path) (encoding : Text.Encoding) : Except Fault String :=
  match t.read p with
  | .error e => .error (.unusablePath e)
  | .ok bytes =>
    match encoding.text bytes with
    | .ok s => .ok s
    | .error e => .error (.undecodable e)

/-- The text of a file in an encoding that is named. -/
def readTextNamed (t : FileTree) (p : Path) (encoding : String)
    (encodings : Text.Encodings := Text.Encoding.all) : Except Fault String :=
  if encoding.toList.contains (Char.ofNat 0) then .error .nullInEncoding
  else
    match t.read p, encodings encoding with
    | .error e, _ => .error (.unusablePath e)
    | .ok _, none => .error .unknownEncoding
    | .ok bytes, some decode =>
      match decode.text bytes with
      | .ok s => .ok s
      | .error e => .error (.undecodable e)

/-- Whether a path leads anywhere, or the fault that keeps it from being followed. -/
def leadsTo (t : FileTree) (p : Path) : Except Fault Bool :=
  match t.leads p with
  | .ok b => .ok b
  | .error e => .error (.unusablePath e)

/-- What was read as JSON, or the fault of a kind of file. -/
def contentOf (malformed : Fault) : Except JsonError Value → Except Fault Value
  | .ok v => .ok v
  | .error .malformed => .error malformed
  | .error (.longInteger digits) => .error (.longInteger digits)
  | .error .tooDeep => .error .deepNesting

def readYaml (t : FileTree) (p : Path) (yaml : Yaml.Reader := Yaml.readFlow) :
    Except Fault Value := do
  contentOf .malformedYaml (yaml (← t.readText p .utf8))

/-- Reads a JSON file. A byte order mark is not allowed in front. -/
def readJson (t : FileTree) (p : Path) : Except Fault Value := do
  contentOf .malformedJson (Json.read (← t.readText p .utf8))

end DocSite.FileTree
