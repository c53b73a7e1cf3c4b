import DocSite.Text.MultiByte.Basic
import DocSite.Text.MultiByte.Jis0208
import DocSite.Text.MultiByte.Jis0212
import DocSite.Text.MultiByte.Jis0213
import DocSite.Text.MultiByte.JisExtra

/-! Japanese encodings: the plane of JIS X 0208, and later those of JIS X 0213, shifted between
single bytes and in the upper halves of pairs. -/
namespace DocSite.Text.MultiByte
set_option autoImplicit false

/-- The half-width character of a byte. -/
def halfWidth? (n : Nat) : Option Char :=
  if 0xA1 ≤ n && n ≤ 0xDF then some (Char.ofNat (0xFEC0 + n)) else none

/-! ## Shifted pairs -/

/-- The column of a second byte among the 188 that a first byte may have. -/
def shiftedColumn? (b : Nat) : Option Nat :=
  if 0x40 ≤ b && b ≤ 0x7E then some (b - 0x40)
  else if 0x80 ≤ b && b ≤ 0xFC then some (b - 0x41)
  else none

/-- The double row of a first byte. -/
def shiftedRow? (a : Nat) : Option Nat :=
  if 0x81 ≤ a && a ≤ 0x9F then some (a - 0x81)
  else if 0xE0 ≤ a && a ≤ 0xEA then some (a - 0xC1)
  else none

/-- The character of the plane that a shifted pair stands for. -/
def shiftedChar? (a b : Nat) : Option Char := do
  let row ← shiftedRow? a
  let column ← shiftedColumn? b
  cell? jis0208 (2 * row + column / 94) (column % 94)

/-- Shifted JIS. -/
def shiftJis : Meaning
  | [a] =>
    let n := a.toNat
    if n < 128 then .done [Char.ofNat n] ()
    else if (shiftedRow? n).isSome then .more
    else charOrBad (halfWidth? n)
  | [a, b] => charOrBad (shiftedChar? a.toNat b.toNat)
  | _ => .bad 1

/-- The first bytes of the rows that were added. -/
def extraLeads : List Nat := [0x87, 0xED, 0xEE, 0xFA, 0xFB, 0xFC]

/-- Pairs whose characters page 932 replaces by wide ones. -/
def wideReplacements : List (Nat × Char) := [
  (0x8160, '\uff5e'), (0x8161, '\u2225'), (0x817C, '\uff0d'), (0x8191, '\uffe0'),
  (0x8192, '\uffe1'), (0x81CA, '\uffe2')]

/-- The character of a pair on page 932: a replacement, one of an added row, one of the plane, or a
private one. -/
def page932Char? (a b : Nat) : Option Char := do
  let column ← shiftedColumn? b
  if let some c := wideReplacements.lookup (256 * a + b) then some c
  else if extraLeads.contains a then cell? jisExtra (extraLeads.idxOf a) column
  else if 0xF0 ≤ a && a ≤ 0xF9 then some (Char.ofNat (0xE000 + 188 * (a - 0xF0) + column))
  else shiftedChar? a b

/-- Page 932: shifted JIS with the rows that were added. -/
def page932 : Meaning
  | [a] =>
    let n := a.toNat
    if n ≤ 128 then .done [Char.ofNat n] ()
    else if n == 0xA0 then .done [Char.ofNat 0xF8F0] ()
    else if 0xFD ≤ n then .done [Char.ofNat (0xF8F1 + (n - 0xFD))] ()
    else
      match halfWidth? n with
      | some c => .done [c] ()
      | none => .more
  | [a, b] => charOrBad (page932Char? a.toNat b.toNat)
  | _ => .bad 1

/-! ## Pairs in the upper half -/

/-- The Japanese form of the extended Unix code: half-width characters behind 8E, the
supplementary plane behind 8F. -/
def eucJp : Meaning
  | [a] => if a.toNat < 128 then .done [Char.ofNat a.toNat] () else .more
  | [a, b] =>
    if a == 0x8F then .more
    else if a == 0x8E then charOrBad (halfWidth? b.toNat)
    else charOrBad (planeChar? jis0208 a.toNat b.toNat)
  | [_, b, c] => charOrBad (planeChar? jis0212 b.toNat c.toNat)
  | _ => .bad 1

/-! ## JIS X 0213 -/

/-- Cells of the first plane that have characters only since the revision of 2004. -/
def revisedCells : List Nat := [
  0x2E21, 0x2F7E, 0x4F54, 0x4F7E, 0x7427, 0x7E7A, 0x7E7B, 0x7E7C, 0x7E7D, 0x7E7E]

/-- The number of a cell by the numbers of its row and its column, which start at one. -/
def cellNumber (row column : Nat) : Nat := 256 * (row + 32) + column + 32

/-- The characters in a cell of the first plane. Two cells hold narrow characters here. -/
def firstPlane? (row column : Nat) : Option (List Char) :=
  if row == 1 && column == 32 then some ['\\']
  else
    match cell? jis0208 (row - 1) (column - 1), numberedCell? jis0213First row (column - 1) with
    | some c, _ => some [c]
    | none, some c => some [c]
    | none, none => (jis0213Pairs.lookup (cellNumber row column)).map String.toList

/-- The characters in a cell of the first plane where all characters are wide. -/
def wideFirstPlane? (row column : Nat) : Option (List Char) :=
  if row == 1 && column == 32 then some ['＼']
  else if row == 2 && column == 18 then some ['～']
  else firstPlane? row column

/-- The character in a cell of the second plane. One was another before the revision. -/
def secondPlane? (revised : Bool) (row column : Nat) : Option Char :=
  if !revised && cellNumber row column == 0x7D3B then some (Char.ofNat 0x9B1D)
  else numberedCell? jis0213Second row (column - 1)

/-- Bytes of a cell of the first plane. A cell of the revision is bad as a whole before it. -/
def firstPlaneStep (revised : Bool) (row column : Nat) (found : Option (List Char)) : Step Unit :=
  if !revised && revisedCells.contains (cellNumber row column) then .bad 2 else charsOrBad found

/-- The number of a row or a column in the upper half, which starts at one. -/
def upperNumber? (b : UInt8) : Option Nat :=
  if 0xA1 ≤ b.toNat && b.toNat ≤ 0xFE then some (b.toNat - 0xA0) else none

/-- The extended Unix code with both planes, and the supplementary one where they are empty. -/
def eucJis (revised : Bool) : Meaning
  | [a] => if a.toNat < 128 then .done [Char.ofNat a.toNat] () else .more
  | [a, b] =>
    if a == 0x8F then .more
    else if a == 0x8E then charOrBad (halfWidth? b.toNat)
    else
      match upperNumber? a, upperNumber? b with
      | some row, some column =>
        firstPlaneStep revised row column (wideFirstPlane? row column)
      | _, _ => .bad 1
  | [_, b, c] =>
    match upperNumber? b, upperNumber? c with
    | some row, some column =>
      charOrBad ((secondPlane? revised row column).orElse fun _ =>
        planeChar? jis0212 b.toNat c.toNat)
    | _, _ => .bad 1
  | _ => .bad 1

/-- The row of the second plane that comes so many rows behind the first plane. -/
def rowBehindFirst (i : Nat) : Nat :=
  if 9 ≤ i then i + 69 else if 5 ≤ i || i == 1 then i + 7 else i + 1

/-- The double row of a first byte among those of both planes. -/
def longShiftedRow? (a : Nat) : Option Nat :=
  if 0x81 ≤ a && a ≤ 0x9F then some (a - 0x81)
  else if 0xE0 ≤ a && a ≤ 0xFC then some (a - 0xC1)
  else none

/-- A single byte of shifted JIS in which the backslash and the tilde are the yen sign and the
overline. -/
def romanChar (n : Nat) : Char :=
  if n == 0x5C then Char.ofNat 0xA5 else if n == 0x7E then Char.ofNat 0x203E else Char.ofNat n

/-- Shifted JIS with both planes. -/
def shiftedJis (revised : Bool) : Meaning
  | [a] =>
    let n := a.toNat
    if n < 128 then .done [romanChar n] ()
    else if (longShiftedRow? n).isSome then .more
    else charOrBad (halfWidth? n)
  | [a, b] =>
    match longShiftedRow? a.toNat, shiftedColumn? b.toNat with
    | some double, some place =>
      let row := 2 * double + place / 94
      let column := place % 94 + 1
      if row < 94 then firstPlaneStep revised (row + 1) column (firstPlane? (row + 1) column)
      else charOrBad (secondPlane? revised (rowBehindFirst (row - 94)) column)
    | _, _ => .bad 1
  | _ => .bad 1

end DocSite.Text.MultiByte
