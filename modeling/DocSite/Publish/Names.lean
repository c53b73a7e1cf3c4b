import DocSite.Doclet.Basic
import DocSite.Settings.Basic
import DocSite.Text.Lower

/-! Preparing names and examples for publication: quotes are taken off names, captions off
examples. -/
namespace DocSite
set_option autoImplicit false

/-! ## Quotes -/

def isQuote (c : Char) : Bool := c == '"' || c == '\''

/-- Takes one pair of equal quotes off a text. A line feed after the closing quote stays. -/
def trimQuotes : List Char → List Char
  | [] => []
  | q :: rest =>
    if !isQuote q then q :: rest
    else if rest.getLast? == some q then rest.dropLast
    else if rest.getLast? == some '\n' && rest.dropLast.getLast? == some q then
      rest.dropLast.dropLast ++ ['\n']
    else q :: rest

/-- A text without the quotes that the rule takes off. -/
def QuoteRule.applyChars (rule : QuoteRule) (cs : List Char) : List Char :=
  match rule with
  | all => cs.filter (!isQuote ·)
  | trim => trimQuotes cs

def QuoteRule.apply (rule : QuoteRule) (s : String) : String :=
  String.ofList (rule.applyChars s.toList)

/-- A doclet with the quotes off its name and its longname. -/
def Doclet.removeQuotes (rule : QuoteRule) (d : Doclet) : Doclet :=
  { d with
    name := rule.apply d.name
    longname := d.longname.map fun l => if l == "" then l else rule.apply l }

/-! ## Captions -/

/-- Whether a character is a letter of a tag, in either case. The dotted and the dotless i count
as one. -/
def matchesLetter (letter c : Char) : Bool :=
  lowerLetter c == letter
where
  /-- The letter that a character counts as. -/
  lowerLetter (c : Char) : Char := if c == 'İ' || c == 'ı' then 'i' else Text.lowerChar c

/-- What follows a tag at the start of a text. -/
def afterTag? : List Char → List Char → Option (List Char)
  | [], cs => some cs
  | _ :: _, [] => none
  | letter :: tag, c :: cs => if matchesLetter letter c then afterTag? tag cs else none

/-- The code after a caption: it starts after the last line end among the blanks, and is not
empty. -/
def codeAfter? (cs : List Char) : Option (List Char) :=
  let blanks := cs.takeWhile Text.isBlank
  let blanks := if blanks.length == cs.length then blanks.dropLast else blanks
  match Text.dropEnd (fun c => c != '\n' && c != '\r') blanks with
  | [] => none
  | kept => some (cs.drop kept.length)

/-- Reads a caption up to the first closing tag that code follows. -/
def captionRest? (read : List Char) : List Char → Option (List Char × List Char)
  | [] => none
  | c :: cs =>
    match if read.isEmpty then none else
        (afterTag? "</caption>".toList (c :: cs)).bind codeAfter? with
    | some code => some (read.reverse, code)
    | none => captionRest? (c :: read) cs

/-- Splits a caption in its tags off the start of an example. -/
def splitCaption? (cs : List Char) : Option (List Char × List Char) :=
  (afterTag? "<caption>".toList (cs.dropWhile Text.isBlank)).bind (captionRest? [])

def Example.split : Example → Example
  | whole text =>
    match splitCaption? text.toList with
    | some (caption, code) => captioned (String.ofList caption) (String.ofList code)
    | none => captioned "" text
  | captioned caption code => captioned caption code

end DocSite
