import DocSite.Type.Linker

/-! Signatures and attribute words: the markup next to the name of a symbol. -/
namespace DocSite
set_option autoImplicit false

/-- The word for a value that may or may not be null. -/
def nullabilityWords : Value → List String
  | .bool true => ["nullable"]
  | .bool false => ["non-null"]
  | _ => []

namespace Doclet

/-- Whether the symbol is shown with a call signature: functions, classes that show their
constructor and type definitions of function types. -/
def needsSignature (d : Doclet) : Bool :=
  d.kind == "function" || (d.kind == "class" && !d.hidesConstructor) ||
    (d.kind == "typedef" && (d.types.getD []).any fun t => Text.lowercase t == "function")

def attributeWords (d : Doclet) : List String :=
  (if d.isAsync then ["async"] else []) ++
  (if d.isGenerator then ["generator"] else []) ++
  (if d.isVirtual then ["abstract"] else []) ++
  (d.access.filter fun a => a != "" && a != "public").toList ++
  (if ["function", "member", "constant"].contains d.kind then
    (d.scope.filter fun s => s != "" && s != "instance" && s != "global").toList
  else []) ++
  (if d.isReadonly && d.kind == "member" then ["readonly"] else []) ++
  (if d.kind == "constant" then ["constant"] else []) ++
  nullabilityWords d.nullable

end Doclet

def Parameter.attributeWords (p : Parameter) : List String := nullabilityWords p.nullable

/-- Attribute words in parentheses, with a blank after them. -/
def attributeMarkup (words : List String) : Html :=
  if words.isEmpty then .empty else .text ("(" ++ Text.join ", " words ++ ") ")

namespace Signature

/-- A span of the type part of a signature. -/
def typeSpan (body : Html) : Html := .styled "span" "type-signature" body

def parameter (p : Parameter) : Html :=
  let name := Html.text p.name
  let name := if p.isRepeatable then .raw "&hellip;" ++ name else name
  let words := (if p.isOptional then ["opt"] else []) ++ nullabilityWords p.nullable
  if words.isEmpty then name
  else name ++ .styled "span" "signature-attributes" (.text (Text.join ", " words))

/-- Whether a signature shows a parameter: it has a name and is no part of another one. -/
def shows (p : Parameter) : Bool := p.name != "" && !p.name.toList.contains '.'

/-- A signature with the parameters after it. -/
def withParams (signature : Html) (params : List Parameter) : Html :=
  signature ++ .raw "(" ++ .join (.raw ", ") ((params.filter shows).map parameter) ++ .raw ") "

/-- The arrow with the attribute words and the types of what is returned. -/
def returnMarkup (words : List String) (types : List Html) : Html :=
  if types.isEmpty then .empty
  else .raw " &rarr; " ++ attributeMarkup words ++ .raw "\x7b" ++ .join (.raw "|") types ++
    .raw "\x7d"

/-- A signature closed off, with what is returned after it. -/
def withReturns (l : TypeLinker) (r : Registry) (signature : Html) (returns : List Parameter) :
    Html :=
  let words := Text.distinct (returns.flatMap Parameter.attributeWords)
  let types := returns.flatMap fun p => l.expressions r p.types
  .styled "span" "signature" signature ++ typeSpan (returnMarkup words types)

/-- A signature with the types of a member after it. -/
def withTypes (l : TypeLinker) (r : Registry) (signature : Html) (types : Option (List String)) :
    Html :=
  let markup := l.expressions r types
  signature ++
    typeSpan (if markup.isEmpty then .empty else .raw " :" ++ .join (.raw "|") markup)

end Signature

namespace Doclet

/-- The doclet with its parameters and return values in its signature. -/
def addCallSignature (l : TypeLinker) (r : Registry) (d : Doclet) : Doclet :=
  { d with
    signature := Signature.withReturns l r (Signature.withParams d.signature d.params) d.returns }

/-- The doclet with its types in its signature. -/
def addTypeSignature (l : TypeLinker) (r : Registry) (d : Doclet) : Doclet :=
  { d with signature := Signature.withTypes l r d.signature d.types }

/-- The doclet with the markup of its attribute words. -/
def addAttributes (d : Doclet) : Doclet :=
  { d with attributes := Signature.typeSpan (attributeMarkup d.attributeWords) }

end Doclet
end DocSite
