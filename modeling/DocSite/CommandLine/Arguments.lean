import DocSite.Fault
import DocSite.Text.Letter
import DocSite.Text.Split

/-! What a command line asks for: a dump, a directory for the pages, and options between them in
any order. An option may be cut short as long as it stays unique, its value may follow an equals
sign or stand in the next argument, and a mark of two dashes ends the options. -/
namespace DocSite
set_option autoImplicit false

/-! ## Options -/

inductive Switch where
  | help
  | config
  | tutorials
  | readme
  | verbose
deriving DecidableEq, Repr, Inhabited

namespace Switch

def all : List Switch := [help, config, tutorials, readme, verbose]

def written : Switch → String
  | help => "--help"
  | config => "--config"
  | tutorials => "--tutorials"
  | readme => "--readme"
  | verbose => "--verbose"

def takesValue : Switch → Bool
  | config | tutorials | readme => true
  | help | verbose => false

/-- The options that a text is, or begins. An option in full is never taken for the beginning of
another one. -/
def candidates (s : String) : List Switch :=
  match all.filter (·.written == s) with
  | [] => all.filter fun o => s.toList.isPrefixOf o.written.toList
  | found => found

end Switch

/-! ## Single arguments -/

inductive Argument where
  /-- A path, or the value of the option before it. -/
  | plain (text : String)
  /-- An option with the value after its equals sign. -/
  | switch (option : Switch) (value : Option String)
  /-- The letter for help with the letters that follow it. -/
  | helpLetter (rest : List Char)
  /-- An option that does not exist. -/
  | unknown
deriving DecidableEq, Repr, Inhabited

namespace Argument

/-- Whether characters are decimal digits, at least one. -/
def areDigits (cs : List Char) : Bool := !cs.isEmpty && cs.all fun c => (Text.digitValue? c).isSome

/-- Whether the characters after a dash make it a negative number. One line end may follow. -/
def isNumber (cs : List Char) : Bool :=
  let cs := if cs.getLast? == some '\n' then cs.dropLast else cs
  match Text.cutFirst? '.' cs with
  | some (whole, fraction) => (whole.isEmpty || areDigits whole) && areDigits fraction
  | none => areDigits cs

/-- An argument with one dash in front. -/
def ofLetters (cs : List Char) : Argument :=
  match cs with
  | [] => .plain "-"
  | 'h' :: rest => .helpLetter rest
  | _ =>
    if isNumber cs || cs.contains ' ' then .plain (String.ofList ('-' :: cs)) else .unknown

/-- Whether the letters behind the one for help leave it in force: more of the same do, and so does
an unknown letter, but not a dash or an equals sign. -/
def keepsHelp (letters : List Char) : Bool :=
  match letters.dropWhile (· == 'h') with
  | c :: _ => c != '-' && c != '='
  | [] => true

/-- An argument with two dashes in front. -/
def ofWord (s : String) : Except Fault Argument :=
  let (name, value) := match Text.cutFirst? '=' s.toList with
    | some (name, value) => (String.ofList name, some (String.ofList value))
    | none => (s, none)
  match Switch.candidates name with
  | [option] => .ok (.switch option value)
  | [] => .ok (if s.toList.contains ' ' then .plain s else .unknown)
  | _ => .error .usage

/-- What an argument is. One that begins several options is not understood. -/
def ofString (s : String) : Except Fault Argument :=
  match s.toList with
  | '-' :: '-' :: _ => ofWord s
  | '-' :: cs => .ok (ofLetters cs)
  | _ => .ok (.plain s)

end Argument

/-! ## The whole line -/

/-- A path that a command line names. A mark of two dashes is a path only in first place behind
the mark that ends the options; elsewhere it names nothing. -/
inductive NamedPath where
  | named (text : String)
  | nameless
deriving DecidableEq, Repr, Inhabited

def endMark : String := "--"

def NamedPath.ofString (s : String) : NamedPath := if s == endMark then .nameless else .named s

/-- What a command line asks for. -/
structure Arguments where
  dump : NamedPath
  out : NamedPath
  config : List String := []
  tutorials : Option String := none
  readme : Option String := none
  isVerbose : Bool := false
deriving DecidableEq, Repr, Inhabited

namespace Arguments

/-- What is known of a command line while it is read. -/
structure Reading where
  paths : List NamedPath := []
  /-- Something could not be placed; this is told at the end only, as help comes before it. -/
  isSpoiled : Bool := false
  /-- The argument before was a path. -/
  isBehindPath : Bool := false
  config : List String := []
  tutorials : Option String := none
  readme : Option String := none
  isVerbose : Bool := false
deriving Inhabited

namespace Reading

def addPath (r : Reading) (path : NamedPath) : Reading :=
  { r with paths := r.paths ++ [path], isBehindPath := true }

def addValue (r : Reading) (option : Switch) (value : String) : Reading :=
  let r := { r with isBehindPath := false }
  match option with
  | .config => { r with config := r.config ++ [value] }
  | .tutorials => { r with tutorials := some value }
  | .readme => { r with readme := some value }
  | .help | .verbose => r

/-- An option without value is read. Help ends the reading. -/
def addFlag (r : Reading) : Switch → Except Fault Reading
  | .help => .error .helpShown
  | .verbose => .ok { r with isVerbose := true, isBehindPath := false }
  | _ => .error .usage

/-- Reads arguments up to the mark that ends the options. -/
def addArguments (r : Reading) : List Argument → Except Fault Reading
  | [] => .ok r
  | .plain s :: rest => (r.addPath (.named s)).addArguments rest
  | .unknown :: rest => { r with isSpoiled := true, isBehindPath := false }.addArguments rest
  | .helpLetter letters :: _ =>
    .error (if Argument.keepsHelp letters then .helpShown else .usage)
  | .switch option (some value) :: rest =>
    if option.takesValue then (r.addValue option value).addArguments rest else .error .usage
  | .switch option none :: .plain value :: rest =>
    if option.takesValue then (r.addValue option value).addArguments rest
    else
      match r.addFlag option with
      | .ok r => (r.addPath (.named value)).addArguments rest
      | .error e => .error e
  | .switch option none :: rest =>
    match r.addFlag option with
    | .ok r => r.addArguments rest
    | .error e => .error e

/-- Reads what follows the mark that ends the options. The mark belongs to the path before it, or
else to the one behind it; there must be one. -/
def addRest (r : Reading) (rest : List String) : Reading :=
  if r.isBehindPath then rest.foldl (fun r s => r.addPath (.ofString s)) r
  else
    match rest with
    | first :: more =>
      more.foldl (fun r s => r.addPath (.ofString s)) (r.addPath (.named first))
    | [] => { r with isSpoiled := true }

/-- What was asked for: two paths and nothing that could not be placed. -/
def finish (r : Reading) : Except Fault Arguments :=
  match r.paths, r.isSpoiled with
  | [dump, out], false => .ok ⟨dump, out, r.config, r.tutorials, r.readme, r.isVerbose⟩
  | _, _ => .error .usage

end Reading

def read (line : List String) : Except Fault Arguments := do
  let front := line.takeWhile (· != endMark)
  let r ← ({} : Reading).addArguments (← front.mapM Argument.ofString)
  match line.dropWhile (· != endMark) with
  | [] => r.finish
  | _ :: rest => (r.addRest rest).finish

end Arguments
end DocSite
