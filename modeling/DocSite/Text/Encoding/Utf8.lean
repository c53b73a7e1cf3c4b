import DocSite.Text.Encoding.Basic

/-! Decoding UTF-8, with and without a mark in front, and ASCII, byte by byte. -/
namespace DocSite.Text
set_option autoImplicit false

/-- A character that is not complete yet: where it starts, its first byte, how many bytes it still
needs, its value so far and the range of the next byte. -/
structure Pending where
  start : Nat
  lead : UInt8
  needed : Nat
  value : Nat
  low : Nat
  high : Nat

/-- What a first byte begins, if it may begin a character of several bytes. -/
def lead? (position : Nat) (b : UInt8) : Option Pending :=
  let n := b.toNat
  if 0xC2 ≤ n && n ≤ 0xDF then some ⟨position, b, 1, n - 0xC0, 0x80, 0xBF⟩
  else if n == 0xE0 then some ⟨position, b, 2, 0, 0xA0, 0xBF⟩
  else if n == 0xED then some ⟨position, b, 2, 13, 0x80, 0x9F⟩
  else if 0xE1 ≤ n && n ≤ 0xEF then some ⟨position, b, 2, n - 0xE0, 0x80, 0xBF⟩
  else if n == 0xF0 then some ⟨position, b, 3, 0, 0x90, 0xBF⟩
  else if 0xF1 ≤ n && n ≤ 0xF3 then some ⟨position, b, 3, n - 0xF0, 0x80, 0xBF⟩
  else if n == 0xF4 then some ⟨position, b, 3, 4, 0x80, 0x8F⟩
  else none

def decodeUtf8 (position : Nat) (pending : Option Pending) :
    List UInt8 → Except DecodeError (List Char)
  | [] =>
    match pending with
    | none => .ok []
    | some p => .error (.badBytes "utf-8" p.start (position - 1) p.lead "unexpected end of data")
  | b :: rest =>
    match pending with
    | none =>
      if b.toNat < 128 then
        return Char.ofNat b.toNat :: (← decodeUtf8 (position + 1) none rest)
      else
        match lead? position b with
        | some p => decodeUtf8 (position + 1) (some p) rest
        | none => .error (.badBytes "utf-8" position position b "invalid start byte")
    | some p =>
      if p.low ≤ b.toNat && b.toNat ≤ p.high then
        let value := p.value * 64 + (b.toNat - 0x80)
        if p.needed == 1 then
          return Char.ofNat value :: (← decodeUtf8 (position + 1) none rest)
        else
          let p := { p with needed := p.needed - 1, value := value, low := 0x80, high := 0xBF }
          decodeUtf8 (position + 1) (some p) rest
      else
        .error (.badBytes "utf-8" p.start (position - 1) p.lead "invalid continuation byte")

/-- The mark that may stand in front of UTF-8. -/
def utf8Mark : List UInt8 := [0xEF, 0xBB, 0xBF]

/-- Decodes UTF-8 with a mark in front, which is no part of the text. A text that ends within the
mark is empty; without the mark all is text. -/
def decodeMarkedUtf8 (bytes : List UInt8) : Except DecodeError (List Char) :=
  if bytes.isPrefixOf utf8Mark then .ok []
  else decodeUtf8 0 none ((utf8Mark.isPrefixOf? bytes).getD bytes)

def decodeAscii (position : Nat) : List UInt8 → Except DecodeError (List Char)
  | [] => .ok []
  | b :: rest =>
    if b.toNat < 128 then return Char.ofNat b.toNat :: (← decodeAscii (position + 1) rest)
    else .error (.badBytes "ascii" position position b "ordinal not in range(128)")

end DocSite.Text
