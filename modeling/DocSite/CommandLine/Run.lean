import DocSite.CommandLine.Arguments
import DocSite.Doclet.Dump
import DocSite.Publish.Site
import DocSite.Settings.Layers
import DocSite.Tutorial.Shelf

/-! A run from the command line to the written pages: settings, dump, tutorials, readme, then the
site. Settings that cannot be used end the run with a complaint, pages that cannot be written with
their number. -/
namespace DocSite
set_option autoImplicit false

/-- What a run leaves behind. -/
structure Outcome where
  /-- Zero when every page is written, one when some are not, two for unusable settings. -/
  exitCode : Nat := 0
  /-- The lines printed. -/
  printed : List String := []
  /-- The line that tells what went wrong. -/
  complaint : Option String := none
  log : List LogRecord := []
  files : FileTree
deriving Inhabited

namespace Outcome

def ofSettingsError (t : FileTree) (log : List LogRecord) (e : SettingsError) : Outcome :=
  { exitCode := 2
    complaint := some ("Invalid configuration: " ++ e.message)
    log := log
    files := t }

def ofSite (log : List LogRecord) (s : Site) : Outcome :=
  let failed := s.failed.length
  { exitCode := if failed == 0 then 0 else 1
    printed := s.printed
    complaint :=
      if failed == 0 then none else some (toString failed ++ " pages could not be written")
    log := log ++ s.log
    files := s.files }

end Outcome

namespace NamedPath

/-- The path, which must not be nameless. -/
def path : NamedPath → Except Fault Path
  | named text => .ok (Path.ofString text)
  | nameless => .error .namelessPath

end NamedPath

namespace Arguments

/-- The checked settings of the files that the command line names, with the log of reading
them. -/
def loadSettings (t : FileTree) (a : Arguments) (yaml : Yaml.Reader := Yaml.readFlow) :
    Except Fault Settings × List LogRecord :=
  let (fields, log) := Settings.load t a.config yaml
  (fields.bind fun fields =>
    match Settings.ofFields fields with
    | .ok settings => .ok settings
    | .error e => .error (.settings e), log)

/-- Where the readme is: the command line goes before the settings. -/
def readmePath? (a : Arguments) (settings : Settings) : Option Path :=
  match a.readme with
  | some text => some (Path.ofString text)
  | none => (settings.readme.filter (· != "")).map Path.ofString

/-- Reads a readme as markup. One that is missing is noted. -/
def loadReadme (t : FileTree) (encoding : String) (p : Path) (around : Surroundings := {}) :
    Except Fault (Option String × List LogRecord) := do
  if !(← t.leadsTo p) then
    return (none,
      [.warn ("README " ++ p.display ++ " not found, home page will have no readme")])
  let text ← t.readTextNamed p encoding around.encodings
  return (some (around.markdown text), [])

/-- The directory for the site. A nameless one can neither be made nor be the place of a
package. -/
def outDirectory (a : Arguments) (settings : Settings) (doclets : List Doclet) :
    Except Fault Path :=
  match a.out with
  | .named text => .ok (Path.ofString text)
  | .nameless =>
    match Site.packageDirectory? (Site.start settings ⟨doclets⟩ {} {}).store with
    | some _ => .error .namelessParent
    | none => .error .namelessPath

/-- The site of settings, with what was logged on the way to it. -/
def publish (t : FileTree) (a : Arguments) (settings : Settings) (around : Surroundings := {}) :
    Except Fault (List LogRecord × Site) := do
  let doclets ← Doclet.loadDump t (← a.dump.path) around.yaml
  let (tutorial, tutorialLog) ← Tutorial.load t (a.tutorials.map Path.ofString) around.yaml
  let (readme, readmeLog) ← match a.readmePath? settings with
    | some p => loadReadme t settings.encoding p around
    | none => pure (none, [])
  let out ← a.outDirectory settings doclets
  let site ← Site.publish settings ⟨doclets⟩ tutorial readme t out around
  return (tutorialLog ++ readmeLog, site)

def run (t : FileTree) (a : Arguments) (around : Surroundings := {}) : Except Fault Outcome :=
  let (settings, log) := a.loadSettings t around.yaml
  match settings with
  | .error (.settings e) => .ok (.ofSettingsError t log e)
  | .error e => .error e
  | .ok settings => do
    let (more, site) ← a.publish t settings around
    return .ofSite (log ++ more) site

end Arguments
end DocSite
