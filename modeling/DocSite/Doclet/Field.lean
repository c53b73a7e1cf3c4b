import DocSite.Doclet.Basic
import DocSite.Value.Display

/-! The fields of a doclet by the names that queries and sort orders use. -/
namespace DocSite
set_option autoImplicit false

/-- What a named field holds. -/
inductive Field where
  /-- Data, as conditions and orders see it. -/
  | data (v : Value)
  /-- Texts, some of them markup: conditions see the texts, orders a form that tells them apart. -/
  | texts (items : List String) (written : String)
  /-- A record of which only the written form counts. -/
  | structured (isList : Bool) (written : String)
deriving Inhabited

namespace Field

def ofText (s : String) : Field := data (.text s)

def ofText? : Option String → Field
  | some s => ofText s
  | none => data .null

def ofTexts (texts : List String) : Field := data (.list (texts.map .text))

end Field

/-! ## Written forms of records -/

def writtenText? (s : Option String) : String := ((s.map Value.text).getD .null).written

def writtenTypes : Option (List String) → String
  | some names => "(names=" ++ Value.writtenTexts names ++ ")"
  | none => "None"

def writtenBool (b : Bool) : String := (Value.bool b).written

/-- The written form of a parameter: its fields in order. -/
def Parameter.written (p : Parameter) : String :=
  "(name=" ++ Text.quoted p.name ++ ", type=" ++ writtenTypes p.types ++
    ", description=" ++ Text.quoted p.description ++ ", optional=" ++ writtenBool p.isOptional ++
    ", nullable=" ++ p.nullable.written ++ ", variable=" ++ writtenBool p.isRepeatable ++
    ", defaultvalue=" ++ p.defaultValue.written ++ ")"

def Origin.written (o : Origin) : String :=
  "(filename=" ++ Text.quoted o.fileName ++ ", path=" ++ writtenText? o.directory ++
    ", lineno=" ++ ((o.line.map Value.int).getD .null).written ++
    ", shortpath=" ++ writtenText? o.shortPath ++ ")"

def Html.written (h : Html) : String := "Markup(" ++ Text.quoted h.markup ++ ")"

def Example.written : Example → String
  | whole text => Text.quoted text
  | captioned caption code =>
    "(code=" ++ Text.quoted code ++ ", caption=" ++ Text.quoted caption ++ ")"

def writtenList (items : List String) : String := "[" ++ Text.join ", " items ++ "]"

def Reference.text : Reference → String
  | symbol name => name
  | link markup => markup.markup

def Reference.written : Reference → String
  | symbol name => Text.quoted name
  | link markup => markup.written

def writtenRecord (fields : List (String × String)) : String :=
  "(" ++ Text.join ", " (fields.map fun f => f.1 ++ "=" ++ f.2) ++ ")"

/-- The written form of a doclet: all its fields in order. -/
def Doclet.written (d : Doclet) : String := writtenRecord [
  ("kind", Text.quoted d.kind), ("name", Text.quoted d.name),
  ("longname", writtenText? d.longname), ("memberof", writtenText? d.memberof),
  ("scope", writtenText? d.scope), ("type", writtenTypes d.types),
  ("params", writtenList (d.params.map Parameter.written)),
  ("returns", writtenList (d.returns.map Parameter.written)),
  ("properties", writtenList (d.properties.map Parameter.written)),
  ("description", Text.quoted d.description), ("classdesc", Text.quoted d.classDescription),
  ("meta", (d.origin.map Origin.written).getD "None"),
  ("examples", writtenList (d.examples.map Example.written)),
  ("see", writtenList (d.see.map Reference.written)), ("access", writtenText? d.access),
  ("is_async", writtenBool d.isAsync), ("generator", writtenBool d.isGenerator),
  ("virtual", writtenBool d.isVirtual), ("readonly", writtenBool d.isReadonly),
  ("nullable", d.nullable.written), ("variation", writtenText? d.variation),
  ("hideconstructor", writtenBool d.hidesConstructor),
  ("undocumented", writtenBool d.isUndocumented), ("ignore", writtenBool d.isIgnored),
  ("listens", Value.writtenTexts d.listens), ("fires", Value.writtenTexts d.fires),
  ("version", writtenText? d.version), ("since", writtenText? d.since),
  ("deprecated", d.deprecated.written), ("author", Value.writtenTexts d.author),
  ("readme", Text.quoted d.readme), ("raw", (Value.mapping d.record).written),
  ("signature", d.signature.written), ("attribs", d.attributes.written),
  ("id", Text.quoted d.anchor), ("ancestors", writtenList (d.ancestors.map Html.written)),
  ("modules", writtenList []), ("listeners", Value.writtenTexts d.listeners)]

/-! ## Reserved names -/

def reservedName (word : String) : String := "__" ++ word ++ "__"

/-- Reserved words that stand for the doclet as a whole. -/
def wholeWords : List String := ["dict", "eq", "init", "repr"]

/-- Reserved words that stand for the same with every doclet. -/
def sharedWords : List String := [
  "annotations", "class", "dataclass_fields", "dataclass_params", "delattr", "dir", "doc",
  "format", "ge", "getattribute", "getstate", "gt", "init_subclass", "le", "lt", "match_args",
  "module", "ne", "new", "reduce", "reduce_ex", "setattr", "sizeof", "str", "subclasshook"]

/-- What a name holds that is not the name of a field: names that doclets do not have hold null. -/
def Doclet.reserved (d : Doclet) (name : String) : Field :=
  if name == "get" || (wholeWords.map reservedName).contains name then
    .structured false d.written
  else if (sharedWords.map reservedName).contains name then .structured false ""
  else .data .null

/-! ## Look-up -/

/-- The examples as a field: texts until captions are split off, then records. -/
def examplesField (examples : List Example) : Field :=
  if examples.all fun e => e matches .whole _ then .ofTexts (examples.map Example.code)
  else .structured true (writtenList (examples.map Example.written))

def Doclet.field (d : Doclet) : String → Field
  | "kind" => .ofText d.kind
  | "name" => .ofText d.name
  | "longname" => .ofText? d.longname
  | "memberof" => .ofText? d.memberof
  | "scope" => .ofText? d.scope
  | "type" =>
    match d.types with
    | some _ => .structured false (writtenTypes d.types)
    | none => .data .null
  | "params" => .structured true (writtenList (d.params.map Parameter.written))
  | "returns" => .structured true (writtenList (d.returns.map Parameter.written))
  | "properties" => .structured true (writtenList (d.properties.map Parameter.written))
  | "description" => .ofText d.description
  | "classdesc" => .ofText d.classDescription
  | "meta" =>
    match d.origin with
    | some o => .structured false o.written
    | none => .data .null
  | "examples" => examplesField d.examples
  | "see" => .texts (d.see.map Reference.text) (writtenList (d.see.map Reference.written))
  | "access" => .ofText? d.access
  | "async" => .data (.bool d.isAsync)
  | "is_async" => .data (.bool d.isAsync)
  | "generator" => .data (.bool d.isGenerator)
  | "virtual" => .data (.bool d.isVirtual)
  | "readonly" => .data (.bool d.isReadonly)
  | "nullable" => .data d.nullable
  | "variation" => .ofText? d.variation
  | "hideconstructor" => .data (.bool d.hidesConstructor)
  | "undocumented" => .data (.bool d.isUndocumented)
  | "ignore" => .data (.bool d.isIgnored)
  | "listens" => .ofTexts d.listens
  | "fires" => .ofTexts d.fires
  | "version" => .ofText? d.version
  | "since" => .ofText? d.since
  | "deprecated" => .data d.deprecated
  | "author" => .ofTexts d.author
  | "readme" => .ofText d.readme
  | "raw" => .data (.mapping d.record)
  | "signature" => .ofText d.signature.markup
  | "attribs" => .ofText d.attributes.markup
  | "id" => .ofText d.anchor
  | "ancestors" =>
    .texts (d.ancestors.map Html.markup) (writtenList (d.ancestors.map Html.written))
  | "modules" => .data (.list [])
  | "listeners" => .ofTexts d.listeners
  | name => d.reserved name

end DocSite
