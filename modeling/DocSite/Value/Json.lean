import DocSite.Number.Integer
import DocSite.Value.Basic

/-! Reading JSON text. A number with a point or an exponent is a double, any other an integer;
`NaN` and the infinities are read too. A key that is repeated keeps its first place and its last
value. The first fault from the left is reported. -/
namespace DocSite
set_option autoImplicit false

/-- Why a text is not read as JSON. -/
inductive JsonError where
  | malformed
  /-- A whole number has more digits than are read. -/
  | longInteger (digits : Nat)
  /-- Lists and mappings are nested too deeply. -/
  | tooDeep
deriving DecidableEq, Repr, Inhabited

namespace Json

/-- The most lists and mappings that may lie in one another. -/
def mostLevels : Nat := 990

/-! ## Tokens -/

/-- Drops the blanks that JSON allows between tokens. -/
def skipBlanks (cs : List Char) : List Char :=
  cs.dropWhile fun c => c == ' ' || c == '\t' || c == '\n' || c == '\r'

def hexDigit? (c : Char) : Option Nat :=
  if c.isDigit then some (c.toNat - 48)
  else if 'a' ≤ c ∧ c ≤ 'f' then some (c.toNat - 87)
  else if 'A' ≤ c ∧ c ≤ 'F' then some (c.toNat - 55)
  else none

/-- The number that four hexadecimal digits stand for. -/
def hex4? (a b c d : Char) : Option Nat := do
  return (((← hexDigit? a) * 16 + (← hexDigit? b)) * 16 + (← hexDigit? c)) * 16 + (← hexDigit? d)

/-- The character of a short escape. -/
def shortEscape? : Char → Option Char
  | '"' => some '"'
  | '\\' => some '\\'
  | '/' => some '/'
  | 'b' => some (Char.ofNat 8)
  | 'f' => some (Char.ofNat 12)
  | 'n' => some '\n'
  | 'r' => some '\r'
  | 't' => some '\t'
  | _ => none

/-- The characters read so far, in reverse, once a first half of a pair that stayed alone has
become the replacement character. -/
def settle (half : Option Nat) (read : List Char) : List Char :=
  if half.isSome then Char.ofNat 0xFFFD :: read else read

/-- Adds one code unit to what was read: a second half completes a waiting first half, and a
first half waits. -/
def addUnit (half : Option Nat) (read : List Char) (unit : Nat) : Option Nat × List Char :=
  if 0xD800 ≤ unit && unit ≤ 0xDBFF then (some unit, settle half read)
  else if 0xDC00 ≤ unit && unit ≤ 0xDFFF then
    match half with
    | some high => (none, Char.ofNat (0x10000 + (high - 0xD800) * 1024 + (unit - 0xDC00)) :: read)
    | none => (none, Char.ofNat 0xFFFD :: read)
  else (none, Char.ofNat unit :: settle half read)

/-- Reads the rest of a string up to its closing quote, given a waiting half of a pair and what
was read so far in reverse. -/
def stringRest (half : Option Nat) (read : List Char) :
    List Char → Option (List Char × List Char)
  | [] => none
  | '"' :: rest => some ((settle half read).reverse, rest)
  | '\\' :: 'u' :: a :: b :: c :: d :: rest =>
    match hex4? a b c d with
    | none => none
    | some unit =>
      let (half, read) := addUnit half read unit
      stringRest half read rest
  | '\\' :: c :: rest =>
    match shortEscape? c with
    | some x => stringRest none (x :: settle half read) rest
    | none => none
  | c :: rest => if c.toNat < 32 then none else stringRest none (c :: settle half read) rest

/-- The number that decimal digits stand for. -/
def decimal (digits : List Char) : Nat :=
  digits.foldl (fun n c => 10 * n + (c.toNat - 48)) 0

/-- The digits of an exponent with its sign, if one follows. -/
def exponent? : List Char → Option (Int × List Char)
  | e :: rest =>
    if e == 'e' || e == 'E' then
      let (negative, rest) := match rest with
        | '-' :: r => (true, r)
        | '+' :: r => (false, r)
        | r => (false, r)
      let digits := rest.takeWhile Char.isDigit
      if digits.isEmpty then none
      else
        let n : Int := decimal digits
        some (if negative then -n else n, rest.dropWhile Char.isDigit)
    else none
  | [] => none

/-- Reads the digits of a number after its sign. -/
def unsigned (negative : Bool) (cs : List Char) : Except JsonError (Value × List Char) :=
  let whole := match cs with
    | '0' :: _ => ['0']
    | _ => cs.takeWhile Char.isDigit
  if whole.isEmpty then .error .malformed
  else
    let rest := cs.drop whole.length
    let (fraction, rest) := match rest with
      | '.' :: r =>
        let digits := r.takeWhile Char.isDigit
        if digits.isEmpty then ([], rest) else (digits, r.dropWhile Char.isDigit)
      | _ => ([], rest)
    match exponent? rest with
    | some (e, rest) =>
      .ok (.real (.ofDecimal negative (decimal (whole ++ fraction)) (e - fraction.length)), rest)
    | none =>
      if !fraction.isEmpty then
        .ok (.real (.ofDecimal negative (decimal (whole ++ fraction)) (-fraction.length)), rest)
      else if Integer.mostDigits < whole.length then .error (.longInteger whole.length)
      else
        let size : Int := decimal whole
        .ok (.int (if negative then -size else size), rest)

/-! ## Values -/

/-- The words that stand for values. -/
def constants : List (List Char × Value) := [
  ("null".toList, .null), ("true".toList, .bool true), ("false".toList, .bool false),
  ("NaN".toList, .real .undefined), ("Infinity".toList, .real (.infinite false)),
  ("-Infinity".toList, .real (.infinite true))]

/-- Reads a word that stands for a value. -/
def constant? (cs : List Char) : Option (Value × List Char) :=
  constants.findSome? fun (word, v) => (word.isPrefixOf? cs).map (v, ·)

def scalar (cs : List Char) : Except JsonError (Value × List Char) :=
  match constant? cs with
  | some found => .ok found
  | none =>
    match cs with
    | '-' :: rest => unsigned true rest
    | _ => unsigned false cs

/-- The string that starts behind a quote, and what follows it. -/
def string (cs : List Char) : Except JsonError (String × List Char) :=
  match stringRest none [] cs with
  | some (s, rest) => .ok (String.ofList s, rest)
  | none => .error .malformed

mutual

/-- Reads a value at the start of the text. So many levels of lists and mappings may lie in one
another; `fuel` bounds the calls. -/
def value (fuel levels : Nat) (cs : List Char) : Except JsonError (Value × List Char) :=
  match fuel with
  | 0 => .error .malformed
  | fuel + 1 =>
    match cs, levels with
    | '"' :: rest, _ => (string rest).map fun (s, rest) => (.text s, rest)
    | '[' :: _, 0 => .error .tooDeep
    | '[' :: rest, levels + 1 =>
      match skipBlanks rest with
      | ']' :: rest => .ok (.list [], rest)
      | rest => (items fuel levels [] rest).map fun (vs, rest) => (.list vs, rest)
    | '{' :: _, 0 => .error .tooDeep
    | '{' :: rest, levels + 1 =>
      match skipBlanks rest with
      | '}' :: rest => .ok (.mapping [], rest)
      | rest => (fields fuel levels .empty rest).map fun (t, rest) => (.mapping t.entries, rest)
    | _, _ => scalar cs

/-- Reads the items of a list up to its closing bracket. -/
def items (fuel levels : Nat) (read : List Value) (cs : List Char) :
    Except JsonError (List Value × List Char) :=
  match fuel with
  | 0 => .error .malformed
  | fuel + 1 =>
    match value fuel levels cs with
    | .error e => .error e
    | .ok (v, rest) =>
      match skipBlanks rest with
      | ',' :: rest => items fuel levels (v :: read) (skipBlanks rest)
      | ']' :: rest => .ok ((v :: read).reverse, rest)
      | _ => .error .malformed

/-- Reads the fields of a mapping up to its closing brace. -/
def fields (fuel levels : Nat) (read : Table Value) (cs : List Char) :
    Except JsonError (Table Value × List Char) :=
  match fuel with
  | 0 => .error .malformed
  | fuel + 1 =>
    match cs with
    | '"' :: rest =>
      match string rest with
      | .error e => .error e
      | .ok (key, rest) =>
        match skipBlanks rest with
        | ':' :: rest =>
          match value fuel levels (skipBlanks rest) with
          | .error e => .error e
          | .ok (v, rest) =>
            match skipBlanks rest with
            | ',' :: rest => fields fuel levels (read.insert key v) (skipBlanks rest)
            | '}' :: rest => .ok (read.insert key v, rest)
            | _ => .error .malformed
        | _ => .error .malformed
    | _ => .error .malformed

end

def read (s : String) : Except JsonError Value := do
  let cs := s.toList
  let (v, rest) ← value (2 * cs.length + 2) mostLevels (skipBlanks cs)
  if (skipBlanks rest).isEmpty then return v else throw .malformed

end Json
end DocSite
