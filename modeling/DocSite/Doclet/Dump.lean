import DocSite.Doclet.Reader
import DocSite.Files.Content

/-! Loading a dump: a list of records in a JSON file, or in a YAML file if its name says so. -/
namespace DocSite.Doclet
set_option autoImplicit false

/-- Whether the name of a dump says that it holds YAML. -/
def isYamlDump (p : Path) : Bool := [".yml", ".yaml"].contains (Text.lowercase p.suffix)

def readDump (t : FileTree) (p : Path) (yaml : Yaml.Reader) : Except Fault Value := do
  if !(← t.leadsTo p) then throw (.dumpMissing p)
  if isYamlDump p then t.readYaml p yaml else t.readJson p

/-- Loads the doclets of a dump. Items that are no records are passed over. -/
def loadDump (t : FileTree) (p : Path) (yaml : Yaml.Reader := Yaml.readFlow) :
    Except Fault (List Doclet) := do
  match ← readDump t p yaml with
  | .list items => ofRecords 0 (← (Value.list items).records)
  | v => throw (.dumpNotList p v)

end DocSite.Doclet
