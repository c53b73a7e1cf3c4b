import DocSite.Text.Encoding.Basic

/-! Encodings of one byte a character. -/
namespace DocSite.Text
set_option autoImplicit false

/-- A page of characters: the bytes below `first` stand for the characters of their own number, the
others for those of the row in turn. The replacement character in the row marks a byte that stands
for nothing. -/
structure CodePage where
  first : Nat
  row : String
deriving DecidableEq, Repr, Inhabited

namespace CodePage

/-- The page on which every byte stands for the character of its own number. -/
def identity : CodePage := ⟨256, ""⟩

/-- The character of a byte below `first`, or the one in the row. -/
def char? (first : Nat) (row : Array Char) (b : UInt8) : Option Char :=
  if b.toNat < first then some (Char.ofNat b.toNat)
  else (row[b.toNat - first]?).filter fun c => c.toNat != 0xFFFD

/-- Decodes bytes from a position on. -/
def decodeFrom (first : Nat) (row : Array Char) (position : Nat) :
    List UInt8 → Except DecodeError (List Char)
  | [] => .ok []
  | b :: rest =>
    match char? first row b with
    | some c => return c :: (← decodeFrom first row (position + 1) rest)
    | none =>
      .error (.badBytes "charmap" position position b "character maps to <undefined>")

def decode (p : CodePage) (bytes : List UInt8) : Except DecodeError (List Char) :=
  decodeFrom p.first p.row.toList.toArray 0 bytes

end CodePage
end DocSite.Text
