import DocSite.Doclet.Order
import DocSite.Fault
import DocSite.Nav.Section

/-! The settings of one run, checked. -/
namespace DocSite
set_option autoImplicit false

/-- Which quotes are taken off names. -/
inductive QuoteRule where
  /-- Every quote. -/
  | all
  /-- One pair around the name. -/
  | trim
deriving DecidableEq, Repr, Inhabited

/-- The settings of one run. -/
structure Settings where
  groupByPath : Bool := false
  showDetails : Bool := true
  detailsFilter : Option (List (String × Value)) := none
  detailsOrder : String := "kind, scope desc, name"
  sectionOrder : List Section := Section.all
  skipEmptyGroups : Bool := true
  listByLongname : Bool := false
  listTypedefs : Bool := false
  menu : List (String × List (String × String)) := []
  sorts : Bool := true
  sortFields : Option String := none
  compactLongTypes : Bool := false
  expandShortTypes : Bool := false
  quoteRule : Option QuoteRule := none
  includePrivate : Bool := false
  listSources : Bool := true
  encoding : String := "utf-8"
  staticFiles : List String := []
  siteTitle : String := "Documentation"
  mainPageTitle : String := "Main Page"
  readme : Option String := none
  templatesDirectory : Option String := none
  layoutFile : Option String := none
deriving Inhabited

namespace Settings

/-- The order of the store: the one that is set, or by the name that the sidebar shows. -/
def effectiveSortFields (s : Settings) : String :=
  match s.sortFields.filter (· != "") with
  | some fields => fields
  | none => if s.listByLongname then "longname, version, since" else "name, version, since"

/-! ## Checking -/

abbrev Fields := List (String × Value)

/-- A section of the settings; one that is left out is empty. -/
def readSection (fields : Fields) (name : String) : Except SettingsError Fields :=
  let v := Value.field fields name
  if !v.isGiven then .ok []
  else
    match v with
    | .mapping inner => .ok inner
    | _ => .error (.sectionNotMapping name)

/-- A truth value; null means the default. -/
def readBool (inner : Fields) (place key : String) (fallback : Bool) :
    Except SettingsError Bool :=
  match Value.field inner key with
  | .null => .ok fallback
  | .bool b => .ok b
  | v => .error (.notTruthValue (place ++ "." ++ key) v)

/-- A text; null means that there is none. -/
def readText (inner : Fields) (place key : String) : Except SettingsError (Option String) :=
  match Value.field inner key with
  | .null => .ok none
  | .text s => .ok (some s)
  | v => .error (.notText (place ++ "." ++ key) v)

/-- A text with a default for null and for the empty text. -/
def readTextOr (inner : Fields) (place key fallback : String) : Except SettingsError String := do
  return ((← readText inner place key).filter (· != "")).getD fallback

def asText? : Value → Option String
  | .text s => some s
  | _ => none

/-- A list of texts; null means the default. -/
def readTexts (inner : Fields) (place key : String) (fallback : List String) :
    Except SettingsError (List String) :=
  match Value.field inner key with
  | .null => .ok fallback
  | .list items =>
    match items.mapM asText? with
    | some texts => .ok texts
    | none => .error (.notTexts (place ++ "." ++ key))
  | _ => .error (.notTexts (place ++ "." ++ key))

def readSectionOrder (nav : Fields) : Except SettingsError (List Section) := do
  let titles ← readTexts nav "navigation" "section_order" (Section.all.map Section.title)
  match titles.filter fun t => (Section.ofTitle? t).isNone with
  | [] => return titles.filterMap Section.ofTitle?
  | unknown => throw (.unknownSections unknown)

/-- The order of the members under a symbol; it must name a field. -/
def readDetailsOrder (nav : Fields) : Except SettingsError String := do
  let order := (← readText nav "navigation" "details_order").getD ""
  if (OrderField.listOfString order).isEmpty then throw .noDetailsOrder
  return order

def readDetailsFilter (nav : Fields) : Except SettingsError (Option Fields) :=
  match Value.field nav "details_filter" with
  | .null => .ok none
  | .mapping fields => .ok (some fields)
  | _ => .error .detailsFilterNotMapping

/-- The attributes of a menu link by name. -/
def readMenuLink : String × Value → Option (String × List (String × String))
  | (label, .mapping attrs) => some (label, attrs.map fun a => (a.1, a.2.display))
  | _ => none

def readMenu (nav : Fields) : Except SettingsError (List (String × List (String × String))) :=
  let v := Value.field nav "menu"
  if !v.isGiven then .ok []
  else
    match v with
    | .mapping fields =>
      match fields.mapM readMenuLink with
      | some menu => .ok menu
      | none => .error .menuNotMapping
    | _ => .error .menuNotMapping

def readQuoteRule (doclets : Fields) : Except SettingsError (Option QuoteRule) :=
  match Value.field doclets "remove_quotes" with
  | .null => .ok none
  | .text "all" => .ok (some .all)
  | .text "trim" => .ok (some .trim)
  | _ => .error .unknownQuoteRule

/-- Checks untyped settings. The first fault in the order of these lines is reported. -/
def ofFields (fields : Fields) : Except SettingsError Settings := do
  let nav ← readSection fields "navigation"
  let sorting ← readSection fields "sorting"
  let types ← readSection fields "types"
  let doclets ← readSection fields "doclets"
  let output ← readSection fields "output"
  let templates ← readSection fields "templates"
  let sectionOrder ← readSectionOrder nav
  let detailsOrder ← readDetailsOrder nav
  let detailsFilter ← readDetailsFilter nav
  let menu ← readMenu nav
  let quoteRule ← readQuoteRule doclets
  let groupByPath ← readBool nav "navigation" "group_by_path" false
  let showDetails ← readBool nav "navigation" "details" true
  let skipEmptyGroups ← readBool nav "navigation" "skip_empty_groups" true
  let listByLongname ← readBool nav "navigation" "use_longname" false
  let listTypedefs ← readBool nav "navigation" "typedefs" false
  let sorts ← readBool sorting "sorting" "enabled" true
  let sortFields ← readText sorting "sorting" "fields"
  let compactLongTypes ← readBool types "types" "compact_long_types" false
  let expandShortTypes ← readBool types "types" "expand_short_types" false
  let includePrivate ← readBool doclets "doclets" "private" false
  let listSources ← readBool output "output" "source_files" true
  let encoding ← readTextOr output "output" "encoding" "utf-8"
  let staticFiles ← readTexts output "output" "static_files" []
  let siteTitle ← readTextOr output "output" "site_title" "Documentation"
  let mainPageTitle ← readTextOr output "output" "main_page_title" "Main Page"
  let readme ← readText output "output" "readme"
  let templatesDirectory ← readText templates "templates" "dir"
  let layoutFile ← readText templates "templates" "layout_file"
  return {
    groupByPath, showDetails, detailsFilter, detailsOrder, sectionOrder, skipEmptyGroups,
    listByLongname, listTypedefs, menu, sorts, sortFields, compactLongTypes, expandShortTypes,
    quoteRule, includePrivate, listSources, encoding, staticFiles, siteTitle, mainPageTitle,
    readme, templatesDirectory, layoutFile }

end Settings
end DocSite
