import DocSite.Text.MultiByte.Basic
import DocSite.Text.MultiByte.Big5
import DocSite.Text.MultiByte.Gb2312
import DocSite.Text.MultiByte.HongKong

/-! Chinese encodings: the plane of GB 2312 and what later standards put around it, and Big5. -/
namespace DocSite.Text.MultiByte
set_option autoImplicit false

/-! ## GB 2312 and GBK -/

/-- Pairs of the plane that GB 2312 reads in its own way. -/
def gbFirstReadings : List (Nat × Char) := [(0xA1A4, '\u30fb'), (0xA1AA, '\u2015')]

/-- Ranges of pairs whose symbols were added to the plane later. -/
def gbAdditions : List (Nat × Nat) := [(0xA2A1, 0xA2AA), (0xA6E0, 0xA6F5), (0xA8BB, 0xA8C0)]

/-- The character that a pair stands for in GB 2312. -/
def gb2312Char? (a b : Nat) : Option Char :=
  let pair := 256 * a + b
  if gbAdditions.any fun r => r.1 ≤ pair && pair ≤ r.2 then none
  else (gbFirstReadings.lookup pair).orElse fun _ => planeChar? gb2312 a b

/-- The ideographs that the plane lacks, in order, and the characters behind them. -/
def gbRemaining : Array Char :=
  (remaining 0x4E00 0x9FA6 (charsOf gb2312) ++ gbTail.toList).toArray

/-- The column of a second byte among the 190 that a first byte may have. -/
def gbColumn? (b : Nat) : Option Nat :=
  if 0x40 ≤ b && b ≤ 0x7E then some (b - 0x40)
  else if 0x80 ≤ b && b ≤ 0xFE then some (b - 0x41)
  else none

/-- The number of columns to the left of the plane. -/
def gbLeft : Nat := 96

/-- The character that a pair stands for in GBK. -/
def gbkChar? (a b : Nat) : Option Char := do
  let column ← gbColumn? b
  if 0x81 ≤ a && a ≤ 0xA0 then gbRemaining[190 * (a - 0x81) + column]?
  else if gbLeft ≤ column then planeChar? gb2312 a b
  else if a == 0xA8 || a == 0xA9 then cell? gbSymbols (a - 0xA8) column
  else if 0xAA ≤ a then gbRemaining[190 * 32 + gbLeft * (a - 0xAA) + column]?
  else none

/-- The plane between tildes with braces, and ASCII outside of them. -/
def hzStep (inPlane : Bool) : List UInt8 → Step Bool
  | [a] =>
    if a == 126 then .more
    else if 128 ≤ a.toNat then .bad 1
    else if inPlane then .more
    else .done [Char.ofNat a.toNat] inPlane
  | [a, b] =>
    if a == 126 then
      match inPlane, Char.ofNat b.toNat with
      | false, '~' => .done ['~'] false
      | false, '{' => .done [] true
      | false, '\n' => .done [] false
      | true, '}' => .done [] false
      | _, _ => .bad 1
    else
      match gb2312Char? (a.toNat + 128) (b.toNat + 128) with
      | some c => if b.toNat < 128 then .done [c] inPlane else .bad 1
      | none => .bad 1
  | _ => .bad 1

/-! ## GB 18030 -/

/-- The private character of a pair in one of the areas that are left to users. -/
def gbPrivate? (a b : Nat) : Option Char := do
  let column ← gbColumn? b
  if gbLeft ≤ column then
    if 0xAA ≤ a && a ≤ 0xAF then
      return Char.ofNat (0xE000 + 94 * (a - 0xAA) + (column - gbLeft))
    else if 0xF8 ≤ a && a ≤ 0xFE then
      return Char.ofNat (0xE234 + 94 * (a - 0xF8) + (column - gbLeft))
    else none
  else if 0xA1 ≤ a && a ≤ 0xA7 then
    return Char.ofNat (0xE4C6 + gbLeft * (a - 0xA1) + column)
  else none

/-- The pairs that stand for characters in GB 18030, in order. -/
def gbPairs : List (Nat × Nat) :=
  (List.range' 0x81 126).flatMap fun a =>
    ((List.range' 0x40 63) ++ (List.range' 0x80 127)).map fun b => (a, b)

/-- The pairs that neither GBK nor users take. -/
def gbFreePairs : List (Nat × Nat) :=
  gbPairs.filter fun p => (gbkChar? p.1 p.2).isNone && (gbPrivate? p.1 p.2).isNone

/-- Runs of free pairs that were given characters later. -/
def gbGiven : List ((Nat × Nat) × String) := [
  ((0xA2, 0xE3), "€"), ((0xA8, 0xBF), "ǹ"), ((0xA9, 0x89), "〾⿰⿱⿲⿳⿴⿵⿶⿷⿸⿹⿺⿻"), ((0xFE, 0x50), gbLast)]

/-- The character that a free pair was given. -/
def gbGiven? (a b : Nat) : Option Char := do
  let column ← gbColumn? b
  gbGiven.findSome? fun ((lead, first), row) => do
    let start ← gbColumn? first
    if lead == a && start ≤ column then charAt? row (column - start) else none

/-- The characters of free pairs: those that they were given, or private ones in turn. -/
def gbFreeChars : List ((Nat × Nat) × Char) :=
  gbFreePairs.zipIdx.map fun ((a, b), i) =>
    ((a, b), (gbGiven? a b).getD (Char.ofNat (0xE766 + i)))

/-- The character that a pair stands for in GB 18030. -/
def gb18030Char? (a b : Nat) : Option Char :=
  (gbkChar? a b).orElse fun _ => (gbPrivate? a b).orElse fun _ => gbFreeChars.lookup (a, b)

/-- The characters of two bytes at most that no pair stands for, in order. -/
def gbOthers : Array Char :=
  let paired := gbPairs.filterMap fun p => gb18030Char? p.1 p.2
  (remaining 0x80 0xD800 paired ++ remaining 0xE000 0x10000 paired).toArray

/-- The place of four bytes in the order of such groups. -/
def gbPlace? (a b c d : Nat) : Option Nat :=
  if 0x81 ≤ a && a ≤ 0xFE && 0x30 ≤ b && b ≤ 0x39 && 0x81 ≤ c && c ≤ 0xFE && 0x30 ≤ d && d ≤ 0x39
  then some (((10 * (a - 0x81) + (b - 0x30)) * 126 + (c - 0x81)) * 10 + (d - 0x30))
  else none

/-- The place of the first character beyond the first plane. -/
def gbBeyond : Nat := 189000

/-- The character that four bytes stand for. -/
def gbLong? (a b c d : Nat) : Option Char := do
  let place ← gbPlace? a b c d
  if place < gbBeyond then gbOthers[place]?
  else if place < gbBeyond + 0x100000 then some (Char.ofNat (0x10000 + (place - gbBeyond)))
  else none

/-- GB 18030: pairs, and groups of four bytes whose second is a digit. -/
def gb18030 : Meaning
  | [a] => if a.toNat < 128 then .done [Char.ofNat a.toNat] () else .more
  | [a, b] =>
    if 0x30 ≤ b.toNat && b.toNat ≤ 0x39 then .more else charOrBad (gb18030Char? a.toNat b.toNat)
  | [_, _, _] => .more
  | [a, b, c, d] => charOrBad (gbLong? a.toNat b.toNat c.toNat d.toNat)
  | _ => .bad 1

/-! ## Big5 -/

/-- The column of a second byte among the 157 that a first byte may have. -/
def big5Column? (b : Nat) : Option Nat :=
  if 0x40 ≤ b && b ≤ 0x7E then some (b - 0x40)
  else if 0xA1 ≤ b && b ≤ 0xFE then some (b - 0x62)
  else none

/-- The character that a pair stands for in Big5. -/
def big5Char? (a b : Nat) : Option Char := do
  let column ← big5Column? b
  if 0xA1 ≤ a then cell? big5 (a - 0xA1) column else none

/-- Runs of pairs that page 950 reads in its own way. -/
def page950Readings : List ((Nat × Nat) × String) := [
  ((0xA1, 0x45), "‧"), ((0xA1, 0x4E), "﹑"), ((0xA1, 0xC2), "¯"), ((0xA1, 0xE3), "～"),
  ((0xA1, 0xF2), "⊕⊙"), ((0xA2, 0x41), "∕﹨"), ((0xA2, 0x44), "￥"), ((0xA2, 0x46), "￠￡"),
  ((0xA3, 0xE1), "€"),
  ((0xF9, 0xD6), "碁銹裏墻恒粧嫺╔╦╗╠╬╣╚╩╝╒╤╕╞╪╡╘╧╛╓╥╖╟╫╢╙╨╜║═╭╮╰╯▓")]

/-- The character that a pair stands for on page 950. -/
def page950Char? (a b : Nat) : Option Char := do
  let column ← big5Column? b
  let own := page950Readings.findSome? fun ((lead, first), row) => do
    let start ← big5Column? first
    if lead == a && start ≤ column then charAt? row (column - start) else none
  own.orElse fun _ => big5Char? a b

/-- The pairs that stand for two characters in the form for Hong Kong. -/
def hongKongPairs : List (Nat × String) := [
  (0x8862, "Ê\u0304"), (0x8864, "Ê\u030c"), (0x88A3, "ê\u0304"), (0x88A5, "ê\u030c")]

/-- The characters that a pair stands for in the form for Hong Kong, which has its own ones in a
run of pairs in the middle. -/
def hongKongChars? (a b : Nat) : Option (List Char) := do
  let column ← big5Column? b
  let pair := 256 * a + b
  let shared := if 0xC6A1 ≤ pair && pair ≤ 0xC8FE then none else big5Char? a b
  match shared.orElse fun _ => numberedCell? hongKong a column with
  | some c => some [c]
  | none => (hongKongPairs.lookup pair).map String.toList

/-- Big5 with the characters that Hong Kong added. -/
def big5HongKong : Meaning
  | [a] => if a.toNat < 128 then .done [Char.ofNat a.toNat] () else .more
  | [a, b] => charsOrBad (hongKongChars? a.toNat b.toNat)
  | _ => .bad 1

end DocSite.Text.MultiByte
