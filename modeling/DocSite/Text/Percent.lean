import DocSite.Text.Quoted

/-! Percent-encoding of addresses: the UTF-8 bytes of every character outside the safe set are
written as a percent sign and two capital hexadecimal digits. -/
namespace DocSite.Text
set_option autoImplicit false

/-- Characters that stay as they are in an address: ASCII letters, digits, the four unreserved
marks and the reserved ones that addresses of pages use, the percent sign included. -/
def isAddressSafe (c : Char) : Bool :=
  (c.toNat < 128 && c.isAlphanum) || "_.-~:/#?&=@!$'()*+,;%".toList.contains c

/-- One byte as a percent sign and two capital hexadecimal digits. -/
def percentByte (b : UInt8) : List Char :=
  '%' :: (hex 2 b.toNat).map Char.toUpper

/-- The percent-encoded form of a list of characters. -/
def percentEncode (cs : List Char) : List Char :=
  cs.flatMap fun c =>
    if isAddressSafe c then [c] else (String.utf8EncodeChar c).flatMap percentByte

/-- The percent-encoded form of an address. -/
def addressEncoded (s : String) : String := String.ofList (percentEncode s.toList)

end DocSite.Text
