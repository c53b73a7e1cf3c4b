import DocSite.Settings.Basic
import DocSite.Files.Content
import DocSite.Value.Merge

/-! Layers of settings: files laid over the defaults in order, later ones over earlier ones. -/
namespace DocSite.Settings
set_option autoImplicit false

/-- The settings that hold where no file says otherwise. -/
def defaults : Fields := [
  ("navigation", .mapping [
    ("group_by_path", .bool false),
    ("details", .bool true),
    ("details_filter", .null),
    ("details_order", .text "kind, scope desc, name"),
    ("section_order", .list (Section.all.map fun s => .text s.title)),
    ("skip_empty_groups", .bool true),
    ("use_longname", .bool false),
    ("typedefs", .bool false),
    ("menu", .mapping [])]),
  ("sorting", .mapping [("enabled", .bool true), ("fields", .null)]),
  ("types", .mapping [("compact_long_types", .bool false), ("expand_short_types", .bool false)]),
  ("doclets", .mapping [("remove_quotes", .null), ("private", .bool false)]),
  ("output", .mapping [
    ("source_files", .bool true),
    ("encoding", .text "utf-8"),
    ("static_files", .list []),
    ("site_title", .text "Documentation"),
    ("main_page_title", .text "Main Page"),
    ("readme", .null)]),
  ("templates", .mapping [("dir", .null), ("layout_file", .null)])]

/-- The mapping that a settings file holds; a file without content holds the empty one. -/
def layerOfValue (file : Path) (v : Value) : Except SettingsError Fields :=
  if !v.isGiven then .ok []
  else
    match v with
    | .mapping fields => .ok fields
    | _ => .error (.fileNotMapping file)

/-- What a settings file holds; a missing file holds nothing and is noted. An empty name stands
for no file. -/
def readLayer (t : FileTree) (file : String) (yaml : Yaml.Reader := Yaml.readFlow) :
    Except Fault (Fields × List LogRecord) := do
  if file == "" then return ([], [])
  let path := Path.ofString file
  if !(← t.leadsTo path) then
    return ([], [.warn ("Config file " ++ path.display ++ " not found, skipping it")])
  match layerOfValue path (← t.readYaml path yaml) with
  | .ok update => return (update, [])
  | .error e => throw (.settings e)

/-- Lays settings files over fields in order. The log tells what was noted up to the end, or up to
the fault. -/
def layOver (t : FileTree) (yaml : Yaml.Reader) (fields : Fields) :
    List String → Except Fault Fields × List LogRecord
  | [] => (.ok fields, [])
  | file :: rest =>
    match readLayer t file yaml with
    | .error e => (.error e, [])
    | .ok (update, notes) =>
      let (result, log) := layOver t yaml (Value.mergeFields fields update) rest
      (result, notes ++ log)

/-- Reads settings files in order over the defaults, with the log of reading them. -/
def load (t : FileTree) (files : List String) (yaml : Yaml.Reader := Yaml.readFlow) :
    Except Fault Fields × List LogRecord :=
  layOver t yaml defaults files

end DocSite.Settings
