import DocSite.Value.Basic
import DocSite.Number.Shortest
import DocSite.Text.Quoted

/-! The text of untyped data in messages and pages: texts as they are at the top and in quotes
inside lists and mappings. -/
namespace DocSite.Value
set_option autoImplicit false

mutual

/-- The text of a value inside a list, a mapping or a message. -/
def written : Value → String
  | null => "None"
  | bool b => if b then "True" else "False"
  | int n => toString n
  | real x => x.text
  | text s => Text.quoted s
  | list items => "[" ++ writtenItems items ++ "]"
  | mapping fields => "\x7b" ++ writtenFields fields ++ "\x7d"

/-- Items with commas between them. -/
def writtenItems : List Value → String
  | [] => ""
  | [v] => written v
  | v :: rest => written v ++ ", " ++ writtenItems rest

/-- Fields with commas between them. -/
def writtenFields : List (String × Value) → String
  | [] => ""
  | [(k, v)] => Text.quoted k ++ ": " ++ written v
  | (k, v) :: rest => Text.quoted k ++ ": " ++ written v ++ ", " ++ writtenFields rest

end

/-- The text of a value on its own. -/
def display : Value → String
  | text s => s
  | v => written v

/-- A list of texts as it is written in messages. -/
def writtenTexts (texts : List String) : String := written (list (texts.map text))

/-- The word for the kind of a value in messages about a dump. -/
def kindName : Value → String
  | null => "NoneType"
  | bool _ => "bool"
  | int _ => "int"
  | real _ => "float"
  | text _ => "str"
  | list _ => "list"
  | mapping _ => "dict"

end DocSite.Value
