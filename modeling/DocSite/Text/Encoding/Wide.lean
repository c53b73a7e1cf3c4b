import DocSite.Text.Encoding.Basic

/-! Decoding UTF-16 and UTF-32. The bytes of a unit stand in one of two orders, which a mark in
front may tell; the mark is then no part of the text, but positions count it. -/
namespace DocSite.Text
set_option autoImplicit false

/-- The order of the bytes of a unit: the least or the most significant one first. -/
inductive ByteOrder where
  | little
  | big
deriving DecidableEq, Repr, Inhabited

namespace ByteOrder

/-- The ending of the names of encodings with this order. -/
def ending : ByteOrder → String
  | little => "-le"
  | big => "-be"

/-- The number that bytes stand for, most significant first. -/
def ofBigEnd (bytes : List UInt8) : Nat := bytes.foldl (fun n b => 256 * n + b.toNat) 0

/-- The number that bytes stand for. -/
def number : ByteOrder → List UInt8 → Nat
  | little, bytes => ofBigEnd bytes.reverse
  | big, bytes => ofBigEnd bytes

end ByteOrder

/-! ## UTF-16 -/

def decodeUtf16 (order : ByteOrder) (position : Nat) :
    List UInt8 → Except DecodeError (List Char)
  | [] => .ok []
  | [a] => bad 0 a "truncated data"
  | a :: b :: rest =>
    let n := order.number [a, b]
    if isHighHalf n then
      match rest with
      | c :: d :: rest =>
        if isLowHalf (order.number [c, d]) then
          return Char.ofNat (joinHalves n (order.number [c, d])) ::
            (← decodeUtf16 order (position + 4) rest)
        else bad 1 a "illegal UTF-16 surrogate"
      | rest => bad (1 + rest.length) a "unexpected end of data"
    else if isLowHalf n then bad 1 a "illegal encoding"
    else return Char.ofNat n :: (← decodeUtf16 order (position + 2) rest)
where
  /-- The error at the position, with so many more bytes. -/
  bad (more : Nat) (byte : UInt8) (reason : String) : Except DecodeError (List Char) :=
    .error (.badBytes ("utf-16" ++ order.ending) position (position + more) byte reason)

/-- Decodes UTF-16 whose order a mark tells. Without a mark only the empty text is accepted; bytes
that are bad in the order with the least significant byte first are reported before that. -/
def decodeMarkedUtf16 : List UInt8 → Except DecodeError (List Char)
  | 0xFF :: 0xFE :: rest => decodeUtf16 .little 2 rest
  | 0xFE :: 0xFF :: rest => decodeUtf16 .big 2 rest
  | bytes => do
    let _ ← decodeUtf16 .little 0 bytes
    if bytes.isEmpty then return [] else throw .refused

/-! ## UTF-32 -/

def decodeUtf32 (order : ByteOrder) (position : Nat) :
    List UInt8 → Except DecodeError (List Char)
  | a :: b :: c :: d :: rest =>
    let n := order.number [a, b, c, d]
    if isHighHalf n || isLowHalf n then
      bad 3 a "code point in surrogate code point range(0xd800, 0xe000)"
    else if 0x10FFFF < n then bad 3 a "code point not in range(0x110000)"
    else return Char.ofNat n :: (← decodeUtf32 order (position + 4) rest)
  | [] => .ok []
  | [a] => bad 0 a "truncated data"
  | [a, _] => bad 1 a "truncated data"
  | [a, _, _] => bad 2 a "truncated data"
where
  /-- The error at the position, with so many more bytes. -/
  bad (more : Nat) (byte : UInt8) (reason : String) : Except DecodeError (List Char) :=
    .error (.badBytes ("utf-32" ++ order.ending) position (position + more) byte reason)

/-- Decodes UTF-32 whose order a mark tells. Without a mark only the empty text is accepted; bytes
that are bad in the order with the least significant byte first are reported before that. -/
def decodeMarkedUtf32 : List UInt8 → Except DecodeError (List Char)
  | 0xFF :: 0xFE :: 0 :: 0 :: rest => decodeUtf32 .little 4 rest
  | 0 :: 0 :: 0xFE :: 0xFF :: rest => decodeUtf32 .big 4 rest
  | bytes => do
    let _ ← decodeUtf32 .little 0 bytes
    if bytes.isEmpty then return [] else throw .refused

end DocSite.Text
