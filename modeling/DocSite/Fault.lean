import DocSite.Number.Integer
import DocSite.Value.Display
import DocSite.Files.Tree

/-! What can stop a run, as causes; the wording stands apart in `message`. -/
namespace DocSite
set_option autoImplicit false

/-- What is wrong with the settings. A setting is named by its section and its key. -/
inductive SettingsError where
  | fileNotMapping (file : Path)
  | sectionNotMapping (name : String)
  | notTruthValue (setting : String) (found : Value)
  | notText (setting : String) (found : Value)
  | notTexts (setting : String)
  | unknownSections (names : List String)
  | noDetailsOrder
  | detailsFilterNotMapping
  | menuNotMapping
  | unknownQuoteRule
deriving Inhabited

def SettingsError.message : SettingsError → String
  | fileNotMapping file => "Config file " ++ file.display ++ " must contain a mapping"
  | sectionNotMapping name => "Config section '" ++ name ++ "' must be a mapping"
  | notTruthValue setting found =>
    setting ++ " must be true or false, got " ++ found.written
  | notText setting found => setting ++ " must be a string, got " ++ found.written
  | notTexts setting => setting ++ " must be a list of strings"
  | unknownSections names =>
    "navigation.section_order has unknown sections: " ++ Value.writtenTexts names
  | noDetailsOrder => "navigation.details_order must name at least one field"
  | detailsFilterNotMapping => "navigation.details_filter must be a mapping"
  | menuNotMapping => "navigation.menu must map labels to attribute mappings"
  | unknownQuoteRule => "doclets.remove_quotes must be one of (None, 'all', 'trim')"

/-- What can stop a run. -/
inductive Fault where
  /-- The settings cannot be used. -/
  | settings (error : SettingsError)
  /-- The command line cannot be understood. -/
  | usage
  /-- Help was asked for and shown. -/
  | helpShown
  /-- The command line names no path where one is needed. -/
  | namelessPath
  /-- A directory is wanted below a path that the command line does not name. -/
  | namelessParent
  /-- There is no dump at the path. -/
  | dumpMissing (path : Path)
  /-- The dump holds something else than a list. -/
  | dumpNotList (path : Path) (found : Value)
  /-- A text is not JSON. -/
  | malformedJson
  /-- Lists and mappings are nested too deeply. -/
  | deepNesting
  /-- A text is not YAML. -/
  | malformedYaml
  /-- Bytes stand for no text. -/
  | undecodable (error : Text.DecodeError)
  /-- The encoding of a setting is not known. -/
  | unknownEncoding
  /-- The name of an encoding holds the null character. -/
  | nullInEncoding
  /-- A number or truth value stands where items are needed. -/
  | notItems
  /-- A list or mapping stands where a whole number is needed. -/
  | notNumber
  /-- A text stands where a whole number is needed. -/
  | badInteger (found : String)
  /-- A whole number has more digits than are read. -/
  | longInteger (digits : Nat)
  /-- An infinite number stands where a whole number is needed. -/
  | infiniteInteger
  /-- A number without value stands where a whole number is needed. -/
  | undefinedInteger
  /-- A query uses operators that do not exist. -/
  | unknownOperator (names : List String)
  /-- A link tag names no target. -/
  | emptyLink
  /-- A path cannot be used. -/
  | unusablePath (error : PathError)
  /-- A file would be copied onto itself. -/
  | copyOntoItself
  /-- The page layout of a setting does not exist. -/
  | layoutMissing
  /-- The user's templates cannot be drawn, such as when a page needs a helper that they lack. -/
  | helperMissing
  /-- The page layout of a setting is laid out by itself. -/
  | endlessLayout
deriving Inhabited

/-- The longest part of a text that a message shows. -/
def Fault.shownLength : Nat := 200

/-- The sentence that tells the fault, where there is one. -/
def Fault.message? : Fault → Option String
  | settings e => some e.message
  | usage => some "2"
  | helpShown => some "0"
  | dumpMissing path => some ("Doclet dump not found: " ++ path.display)
  | dumpNotList path found =>
    some ("Expected a list of doclets in " ++ path.display ++ ", got " ++ found.kindName)
  | badInteger found =>
    some ("invalid literal for int() with base 10: " ++
      String.ofList ((Text.quoted found).toList.take shownLength))
  | longInteger digits =>
    some ("Exceeds the limit (" ++ toString Integer.mostDigits ++
      " digits) for integer string conversion: value has " ++ toString digits ++
      " digits; use sys.set_int_max_str_digits() to increase the limit")
  | undefinedInteger => some "cannot convert float NaN to integer"
  | unknownOperator names => some ("Unsupported query operator: " ++ Value.writtenTexts names)
  | unusablePath .nullByte => some "embedded null byte"
  | nullInEncoding => some "embedded null character"
  | _ => none

/-- How much a record of the log matters. -/
inductive Severity where
  | warning
  | error
deriving DecidableEq, Repr, Inhabited

structure LogRecord where
  severity : Severity
  message : String
deriving DecidableEq, Repr, Inhabited

def LogRecord.warn (message : String) : LogRecord := ⟨.warning, message⟩

def LogRecord.fail (message : String) : LogRecord := ⟨.error, message⟩

/-! ## Laws -/

/-- Two steps after one another end where the second ends on what the first gave. -/
theorem Fault.bind_eq_ok_iff {α β : Type} {first : Except Fault α} {second : α → Except Fault β}
    {b : β} : first >>= second = .ok b ↔ ∃ a, first = .ok a ∧ second a = .ok b := by
  cases first with
  | error e => exact ⟨fun h => (by cases h), fun ⟨_, h, _⟩ => (by cases h)⟩
  | ok a => exact ⟨fun h => ⟨a, rfl, h⟩, fun ⟨_, h, hb⟩ => (by cases h; exact hb)⟩

/-- What every step keeps, all steps after one another keep. -/
theorem Fault.foldlM_preserves {σ α : Type} {f : σ → α → Except Fault σ} {P : σ → Prop}
    (hf : ∀ x s s', P s → f s x = .ok s' → P s') {xs : List α} {s s' : σ} (hs : P s)
    (h : xs.foldlM f s = .ok s') : P s' := by
  induction xs generalizing s with
  | nil =>
    cases h
    exact hs
  | cons x rest ih =>
    rw [List.foldlM_cons] at h
    obtain ⟨next, hn, h⟩ := Fault.bind_eq_ok_iff.mp h
    exact ih (hf x s next hs hn) h

/-- Steps that agree where something holds that they keep agree one after another. -/
theorem Fault.foldlM_congr {σ α : Type} {f g : σ → α → Except Fault σ} {P : σ → Prop}
    (hf : ∀ x s s', P s → f s x = .ok s' → P s') (hfg : ∀ x s, P s → f s x = g s x)
    {xs : List α} {s : σ} (hs : P s) : xs.foldlM f s = xs.foldlM g s := by
  induction xs generalizing s with
  | nil => rfl
  | cons x rest ih =>
    rw [List.foldlM_cons, List.foldlM_cons, ← hfg x s hs]
    cases h : f s x with
    | error e => rfl
    | ok next => exact ih (hf x s next hs h)

theorem Fault.foldlM_flatMap {σ α β : Type} (f : α → List β) (g : σ → β → Except Fault σ)
    (xs : List α) (s : σ) :
    (xs.flatMap f).foldlM g s = xs.foldlM (fun s x => (f x).foldlM g s) s := by
  induction xs generalizing s with
  | nil => rfl
  | cons x rest ih =>
    rw [List.flatMap_cons, List.foldlM_append, List.foldlM_cons]
    exact bind_congr ih

/-- Two steps after one another map along with what they start from. -/
theorem Fault.bind_map {α β : Type} {f : α → α} {g : β → β} {first first' : Except Fault α}
    {second second' : α → Except Fault β} (h : first' = first.map f)
    (hs : ∀ a, second' (f a) = (second a).map g) :
    first' >>= second' = (first >>= second).map g := by
  subst h
  cases first with
  | error e => rfl
  | ok a => exact hs a

theorem Fault.bind_map_right {α β : Type} {g : β → β} {first : Except Fault α}
    {second second' : α → Except Fault β} (hs : ∀ a, second' a = (second a).map g) :
    first >>= second' = (first >>= second).map g := by
  cases first with
  | error e => rfl
  | ok a => exact hs a

theorem Fault.foldlM_map {σ α : Type} {f : σ → σ} {g : α → α} {step step' : σ → α → Except Fault σ}
    (h : ∀ s x, step' (f s) (g x) = (step s x).map f) (xs : List α) (s : σ) :
    (xs.map g).foldlM step' (f s) = (xs.foldlM step s).map f := by
  induction xs generalizing s with
  | nil => rfl
  | cons x rest ih =>
    rw [List.map_cons, List.foldlM_cons, List.foldlM_cons]
    exact Fault.bind_map (h s x) ih

end DocSite
