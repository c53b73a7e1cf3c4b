import DocSite.Text.Encoding.Names
import DocSite.Text.Encoding.Punycode
import DocSite.Text.Encoding.Utf7
import DocSite.Text.Encoding.Utf8

/-! The text of a file's bytes. -/
namespace DocSite.Text
set_option autoImplicit false

def MultiByteFamily.decode (f : MultiByteFamily) (bytes : List UInt8) :
    Except DecodeError (List Char) :=
  match f with
  | big5 => MultiByte.decode "big5" (MultiByte.pairsBesideAscii MultiByte.big5Char?) bytes
  | big5HongKong => MultiByte.decode "big5hkscs" MultiByte.big5HongKong bytes
  | eucJis revised =>
    MultiByte.decode (if revised then "euc_jis_2004" else "euc_jisx0213")
      (MultiByte.eucJis revised) bytes
  | eucJp => MultiByte.decode "euc_jp" MultiByte.eucJp bytes
  | eucKr => MultiByte.decode "euc_kr" MultiByte.eucKr bytes
  | gb18030 => MultiByte.decode "gb18030" MultiByte.gb18030 bytes
  | gb2312 => MultiByte.decode "gb2312" (MultiByte.pairsBesideAscii MultiByte.gb2312Char?) bytes
  | gbk => MultiByte.decode "gbk" (MultiByte.pairsBesideAscii MultiByte.gbkChar?) bytes
  | hz => MultiByte.decodeHeld "hz" MultiByte.hzStep 0 [] false bytes
  | iso2022 family => family.form.decode bytes
  | johab => MultiByte.decode "johab" MultiByte.johab bytes
  | page932 => MultiByte.decode "cp932" MultiByte.page932 bytes
  | page949 => MultiByte.decode "cp949" MultiByte.page949 bytes
  | page950 => MultiByte.decode "cp950" (MultiByte.pairsBesideAscii MultiByte.page950Char?) bytes
  | shiftJis => MultiByte.decode "shift_jis" MultiByte.shiftJis bytes
  | shiftedJis revised =>
    MultiByte.decode (if revised then "shift_jis_2004" else "shift_jisx0213")
      (MultiByte.shiftedJis revised) bytes

namespace Encoding

def decode (e : Encoding) (bytes : List UInt8) : Except DecodeError (List Char) :=
  match e with
  | utf8 => decodeUtf8 0 none bytes
  | markedUtf8 => decodeMarkedUtf8 bytes
  | utf7 => decodeUtf7 0 none [] bytes >>= charsOfNumbers
  | ascii => decodeAscii 0 bytes
  | utf16 order => decodeUtf16 order 0 bytes
  | markedUtf16 => decodeMarkedUtf16 bytes
  | utf32 order => decodeUtf32 order 0 bytes
  | markedUtf32 => decodeMarkedUtf32 bytes
  | page p => p.decode bytes
  | multiByte family => family.decode bytes
  | escaped style => style.decode bytes
  | punycode => Punycode.decode bytes
  | nothing => .error .refused

end Encoding

/-- Line ends of every kind as line feeds. -/
def unifyLineEnds : List Char → List Char
  | '\r' :: '\n' :: rest => '\n' :: unifyLineEnds rest
  | '\r' :: rest => '\n' :: unifyLineEnds rest
  | c :: rest => c :: unifyLineEnds rest
  | [] => []

/-- A reader of bytes. -/
abbrev Decoder := List UInt8 → Except DecodeError (List Char)

/-- The text of a file's bytes: its characters, with line ends of one kind. -/
def Decoder.text (decode : Decoder) (bytes : List UInt8) : Except DecodeError String :=
  (decode bytes).map fun cs => String.ofList (unifyLineEnds cs)

def Encoding.text (e : Encoding) (bytes : List UInt8) : Except DecodeError String :=
  Decoder.text e.decode bytes

/-- The encodings that are known by names. -/
abbrev Encodings := String → Option Decoder

def Encoding.all : Encodings := fun name => (Encoding.ofName? name).map Encoding.decode

end DocSite.Text
