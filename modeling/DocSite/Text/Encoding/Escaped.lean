import DocSite.Text.Encoding.Basic

/-! Decoding texts in which a backslash begins an escape. Bytes outside escapes stand for the
characters of their own number. Escapes by name are refused. -/
namespace DocSite.Text
set_option autoImplicit false

/-- Which escapes a text may use: only those by hexadecimal number, or all. -/
inductive EscapeStyle where
  | numbersOnly
  | all
deriving DecidableEq, Repr, Inhabited

/-- Where a text is read: outside escapes, or in an escape that starts at a position. -/
inductive EscapeState where
  | outside
  /-- A backslash was read. -/
  | backslash (start : Nat)
  /-- So many more hexadecimal digits are needed. -/
  | digits (start needed value : Nat) (truncated : String)
  /-- So many more octal digits may follow. -/
  | octal (more value : Nat)
  /-- A name is to follow, or is being read; `length` counts its brace and its characters. -/
  | name (start length : Nat)
deriving Repr, Inhabited

/-- The number of the character that a letter behind a backslash stands for. -/
def letterEscape? (b : UInt8) : Option Nat :=
  match Char.ofNat b.toNat with
  | '\\' => some 92
  | '\'' => some 39
  | '"' => some 34
  | 'a' => some 7
  | 'b' => some 8
  | 'f' => some 12
  | 'n' => some 10
  | 'r' => some 13
  | 't' => some 9
  | 'v' => some 11
  | _ => none

def hexByte? (b : UInt8) : Option Nat :=
  let n := b.toNat
  if 48 ≤ n && n ≤ 57 then some (n - 48)
  else if 65 ≤ n && n ≤ 70 then some (n - 55)
  else if 97 ≤ n && n ≤ 102 then some (n - 87)
  else none

def octalByte? (b : UInt8) : Option Nat :=
  if 48 ≤ b.toNat && b.toNat ≤ 55 then some (b.toNat - 48) else none

namespace EscapeStyle

/-- The name of the style in errors. -/
def codec : EscapeStyle → String
  | numbersOnly => "rawunicodeescape"
  | all => "unicodeescape"

/-- The error at the bytes of an escape. -/
def bad (style : EscapeStyle) (first last : Nat) (reason : String) :
    Except DecodeError (List Nat) :=
  .error (.badBytes style.codec first last 92 reason)

/-- What a text says about a number that no character has. -/
def tooLarge : EscapeStyle → String
  | numbersOnly => "\\Uxxxxxxxx out of range"
  | all => "illegal Unicode character"

/-- What the byte behind a backslash begins: an escape to be read on, with the numbers of the
characters read so far in reverse. -/
def begin (style : EscapeStyle) (start : Nat) (b : UInt8) (read : List Nat) :
    EscapeState × List Nat :=
  let other : EscapeState × List Nat := (.outside, b.toNat :: 92 :: read)
  match style, Char.ofNat b.toNat with
  | _, 'u' => (.digits start 4 0 "truncated \\uXXXX escape", read)
  | _, 'U' => (.digits start 8 0 "truncated \\UXXXXXXXX escape", read)
  | numbersOnly, _ => other
  | all, 'x' => (.digits start 2 0 "truncated \\xXX escape", read)
  | all, 'N' => (.name start 0, read)
  | all, '\n' => (.outside, read)
  | all, _ =>
    match letterEscape? b, octalByte? b with
    | some n, _ => (.outside, n :: read)
    | none, some d => (.octal 2 d, read)
    | none, none => other

/-- Decodes from a position on, to the numbers of characters. -/
def decodeFrom (style : EscapeStyle) (position : Nat) (state : EscapeState) (read : List Nat) :
    List UInt8 → Except DecodeError (List Nat)
  | [] =>
    match state with
    | .outside => .ok read.reverse
    | .backslash start =>
      match style with
      | numbersOnly => .ok (92 :: read).reverse
      | all => style.bad start start "\\ at end of string"
    | .digits start _ _ truncated => style.bad start (position - 1) truncated
    | .octal _ n => .ok (n :: read).reverse
    | .name start _ => style.bad start (position - 1) "malformed \\N character escape"
  | b :: rest =>
    let plain (read : List Nat) : Except DecodeError (List Nat) :=
      if b == 92 then decodeFrom style (position + 1) (.backslash position) read rest
      else decodeFrom style (position + 1) .outside (b.toNat :: read) rest
    match state with
    | .outside => plain read
    | .backslash start =>
      let (state, read) := style.begin start b read
      decodeFrom style (position + 1) state read rest
    | .digits start needed value truncated =>
      match hexByte? b with
      | none => style.bad start (position - 1) truncated
      | some d =>
        let n := 16 * value + d
        if 1 < needed then
          decodeFrom style (position + 1) (.digits start (needed - 1) n truncated) read rest
        else if 0x10FFFF < n then style.bad start position style.tooLarge
        else decodeFrom style (position + 1) .outside (n :: read) rest
    | .octal more n =>
      match octalByte? b with
      | none => plain (n :: read)
      | some d =>
        if 1 < more then decodeFrom style (position + 1) (.octal (more - 1) (8 * n + d)) read rest
        else decodeFrom style (position + 1) .outside ((8 * n + d) :: read) rest
    | .name start 0 =>
      if b == 123 then decodeFrom style (position + 1) (.name start 1) read rest
      else style.bad start (position - 1) "malformed \\N character escape"
    | .name start (length + 1) =>
      if b != 125 then decodeFrom style (position + 1) (.name start (length + 2)) read rest
      else if length == 0 then style.bad start (position - 1) "malformed \\N character escape"
      else style.bad start position "unknown Unicode character name"

def decode (style : EscapeStyle) (bytes : List UInt8) : Except DecodeError (List Char) :=
  style.decodeFrom 0 .outside [] bytes >>= charsOfNumbers

end EscapeStyle
end DocSite.Text
