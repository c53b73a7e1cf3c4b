import DocSite.Text.Split

/-! Markup as a type of its own. Plain text enters it only by escaping; text that is markup
already enters by `raw`. -/
namespace DocSite
set_option autoImplicit false

/-- A piece of markup. -/
structure Html where
  markup : String := ""
  /-- The addresses that the links of the program in it lead to, without encoding. -/
  links : List String := []
deriving DecidableEq, Repr, Inhabited

namespace Html

/-- A character of plain text in markup. -/
def escapeChar : Char → List Char
  | '&' => "&amp;".toList
  | '<' => "&lt;".toList
  | '>' => "&gt;".toList
  | '"' => "&#34;".toList
  | '\'' => "&#39;".toList
  | c => [c]

def escape (cs : List Char) : List Char := cs.flatMap escapeChar

def text (s : String) : Html := ⟨String.ofList (escape s.toList), []⟩

def raw (s : String) : Html := ⟨s, []⟩

def empty : Html := ⟨"", []⟩

def isEmpty (h : Html) : Bool := h.markup == ""

instance : Append Html := ⟨fun a b => ⟨a.markup ++ b.markup, a.links ++ b.links⟩⟩

/-- Markup that is a link of the program to an address. -/
def leadingTo (address : String) (h : Html) : Html := ⟨h.markup, address :: h.links⟩

def concat : List Html → Html
  | [] => empty
  | h :: rest => h ++ concat rest

def join (sep : Html) : List Html → Html
  | [] => empty
  | [h] => h
  | h :: rest => h ++ sep ++ join sep rest

def each {α : Type} (items : List α) (f : α → Html) : Html := concat (items.map f)

/-- A piece that is there under a condition. -/
def when (shown : Bool) (h : Html) : Html := if shown then h else empty

/-- An attribute inside a tag. -/
def attr (name : String) (value : Html) : Html :=
  raw " " ++ raw name ++ raw "=\"" ++ value ++ raw "\""

/-- A tag with its attributes, what stands in it, and the closing tag. -/
def element (tag : String) (attributes : List (String × Html)) (body : Html) : Html :=
  raw "<" ++ raw tag ++ each attributes (fun a => attr a.1 a.2) ++ raw ">" ++ body ++
    raw "</" ++ raw tag ++ raw ">"

def styled (tag css : String) (body : Html) : Html := element tag [("class", raw css)] body

/-- A line of markup, indented by spaces. -/
def line (indent : Nat) (h : Html) : Html :=
  raw (String.ofList (List.replicate indent ' ')) ++ h ++ raw "\n"

def lines (rows : List String) : Html := each rows fun row => raw row ++ raw "\n"

/-! ## Laws -/

theorem ext_parts {a b : Html} (hm : a.markup = b.markup) (hl : a.links = b.links) : a = b := by
  cases a; cases b; simp_all

@[simp] theorem markup_append (a b : Html) : (a ++ b).markup = a.markup ++ b.markup := rfl

@[simp] theorem links_append (a b : Html) : (a ++ b).links = a.links ++ b.links := rfl

theorem append_assoc (a b c : Html) : a ++ b ++ c = a ++ (b ++ c) := by
  apply ext_parts
  · simp [String.append_assoc]
  · simp

@[simp] theorem append_empty (a : Html) : a ++ empty = a := by
  apply ext_parts <;> simp [empty]

@[simp] theorem empty_append (a : Html) : empty ++ a = a := by
  apply ext_parts <;> simp [empty]

theorem concat_append (xs ys : List Html) : concat (xs ++ ys) = concat xs ++ concat ys := by
  induction xs with
  | nil => simp [concat]
  | cons x rest ih => simp [concat, ih, append_assoc]

theorem escape_append (xs ys : List Char) : escape (xs ++ ys) = escape xs ++ escape ys := by
  simp [escape]

/-- Escaped text holds no tag bracket and no quote. -/
theorem not_mem_escape {c : Char} (h : c = '<' ∨ c = '>' ∨ c = '"' ∨ c = '\'') (cs : List Char) :
    c ∉ escape cs := by
  simp only [escape, List.mem_flatMap, not_exists, not_and]
  intro d _
  unfold escapeChar
  rcases h with rfl | rfl | rfl | rfl <;> split <;> simp_all [eq_comm]

end Html
end DocSite
