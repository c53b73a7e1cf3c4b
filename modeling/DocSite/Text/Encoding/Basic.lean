import DocSite.Text.Quoted

/-! What keeps bytes from being decoded. -/
namespace DocSite.Text
set_option autoImplicit false

/-- Why bytes stand for no text. -/
inductive DecodeError where
  /-- The bytes between two positions stand for no character; `byte` is the first of them. -/
  | badBytes (codec : String) (first last : Nat) (byte : UInt8) (reason : String)
  /-- The encoding refuses the text as a whole. -/
  | refused
  /-- A half of a pair stands alone, which no page can hold. -/
  | loneHalf
deriving DecidableEq, Repr, Inhabited

namespace DecodeError

/-- The sentence that tells which bytes are bad and why. -/
def badBytesMessage (codec : String) (first last : Nat) (byte : UInt8) (reason : String) :
    String :=
  "'" ++ codec ++ "' codec can't decode " ++
    (if first == last then
      "byte 0x" ++ String.ofList (hex 2 byte.toNat) ++ " in position " ++ toString first
    else "bytes in position " ++ toString first ++ "-" ++ toString last) ++
    ": " ++ reason

end DecodeError

/-! ## Halves of pairs -/

/-- Whether a code unit is the first half of a pair. -/
def isHighHalf (n : Nat) : Bool := 0xD800 ≤ n && n ≤ 0xDBFF

/-- Whether a code unit is the second half of a pair. -/
def isLowHalf (n : Nat) : Bool := 0xDC00 ≤ n && n ≤ 0xDFFF

/-- The number of the character that a pair stands for. -/
def joinHalves (high low : Nat) : Nat := 0x10000 + (high - 0xD800) * 0x400 + (low - 0xDC00)

/-- The characters of numbers, none of which may be half of a pair. -/
def charsOfNumbers (numbers : List Nat) : Except DecodeError (List Char) :=
  if numbers.any fun n => isHighHalf n || isLowHalf n then .error .loneHalf
  else .ok (numbers.map Char.ofNat)

end DocSite.Text
