import DocSite.Text.MultiByte.Chinese
import DocSite.Text.MultiByte.Japanese
import DocSite.Text.MultiByte.Korean

/-! Encodings in which escape sequences call sets of characters into places. Bytes stand for
characters of the set in the first place, or in the second one while the shift is on; an encoding
may have a third place, for single characters. -/
namespace DocSite.Text.MultiByte
set_option autoImplicit false

/-- What bytes may stand for between two escape sequences. -/
inductive IsoSet where
  | ascii
  /-- ASCII with the yen sign and the overline. -/
  | roman
  /-- Half-width characters. -/
  | halfWidth
  | latin
  | greek
  /-- The plane of JIS X 0208. -/
  | kanji
  /-- The same plane under its older mark. -/
  | oldKanji
  /-- The supplementary plane JIS X 0212. -/
  | supplement
  /-- The first plane of JIS X 0213, before or since its revision. -/
  | first (revised : Bool)
  | second
  | chinese
  | korean
deriving DecidableEq, Repr, Inhabited

/-- The sets that escape sequences name by a letter: those of single bytes, then those of pairs. -/
def singleSets : List (Char × IsoSet) :=
  [('A', .latin), ('B', .ascii), ('F', .greek), ('I', .halfWidth), ('J', .roman)]

def pairSets : List (Char × IsoSet) :=
  [('@', .oldKanji), ('B', .kanji), ('A', .chinese), ('C', .korean), ('D', .supplement),
    ('O', .first false), ('Q', .first true), ('P', .second)]

/-- An encoding with escape sequences: the sets besides ASCII that may be called, and what else it
allows. -/
structure IsoForm where
  codec : String
  sets : List IsoSet
  /-- Bytes turn the shift on and off. -/
  shifts : Bool := false
  /-- There is a third place. -/
  hasThird : Bool := false
  /-- The plane of JIS X 0208 may be called with a prefix that tells its revision. -/
  hasPrefix : Bool := true

/-- The sets in the places, whether the shift is on, and whether an escape sequence of no meaning
here is passing. -/
structure IsoState where
  first : IsoSet := .ascii
  second : IsoSet := .ascii
  third : IsoSet := .ascii
  isShifted : Bool := false
  isPassing : Bool := false
deriving DecidableEq, Repr, Inhabited

/-! ## Escape sequences -/

/-- Whether a byte ends an escape sequence. -/
def endsEscape (b : UInt8) : Bool := 64 ≤ b.toNat && b.toNat ≤ 90

/-- The most bytes in which the end of an escape sequence is looked for. -/
def longestEscape : Nat := 16

/-- Whether an escape sequence has an end, once `length` bytes of it were looked at. Where there is
a prefix, the three bytes from its ampersand and its at sign on do not end it. -/
def hasEnd (hasPrefix : Bool) (length : Nat) : List UInt8 → Bool
  | [] => false
  | 38 :: 64 :: rest =>
    if hasPrefix then
      match rest with
      | [] => false
      | _ :: rest => hasEnd hasPrefix (length + 3) rest
    else length + 1 < longestEscape
  | b :: rest => length < longestEscape && (endsEscape b || hasEnd hasPrefix (length + 1) rest)

namespace IsoForm

variable (form : IsoForm)

/-- A set, if it may be called. -/
def allowed? (set : IsoSet) : Option IsoSet :=
  if set == .ascii || form.sets.contains set then some set else none

/-- The state once an escape sequence is read, told by what follows its first byte. -/
def called? (s : IsoState) (tail : List Char) : Option IsoState :=
  match tail with
  | ['$', mark] => (pairSets.lookup mark).bind form.allowed? |>.map ({ s with first := · })
  | ['(', mark] => (singleSets.lookup mark).bind form.allowed? |>.map ({ s with first := · })
  | [')', mark] => (singleSets.lookup mark).bind form.allowed? |>.map ({ s with second := · })
  | ['.', mark] =>
    if form.hasThird then
      (singleSets.lookup mark).bind form.allowed? |>.map ({ s with third := · })
    else none
  | ['$', '(', mark] => (pairSets.lookup mark).bind form.allowed? |>.map ({ s with first := · })
  | ['$', ')', mark] => (pairSets.lookup mark).bind form.allowed? |>.map ({ s with second := · })
  | ['&', '@', '\x1b', '$', 'B'] =>
    if form.hasPrefix then some { s with first := .kanji } else none
  | _ => none

/-- What an escape sequence means, told by what follows its first byte. -/
def escape (s : IsoState) (tail : List UInt8) : Step IsoState :=
  let length := tail.length + 1
  if hasEnd form.hasPrefix 1 tail then
    match form.called? s (tail.map fun b => Char.ofNat b.toNat) with
    | some s => .done [] s
    | none => .bad length
  else if longestEscape ≤ length then .bad 1
  else .more

end IsoForm

/-- Whether a byte follows the first one of the escape sequences that are read here. -/
def opensEscape (b : UInt8) : Bool := [36, 38, 40, 41, 46].contains b

/-! ## Characters -/

/-- The symbols of the Greek set that have their own numbers. -/
def greekSymbols : List Nat := [
  0xA0, 0xA3, 0xA6, 0xA7, 0xA8, 0xA9, 0xAB, 0xAC, 0xAD, 0xB0, 0xB1, 0xB2, 0xB3, 0xB7, 0xBB, 0xBD]

/-- The character of a number in the upper half of the Greek set. -/
def greekChar? (n : Nat) : Option Char :=
  if greekSymbols.contains n then some (Char.ofNat n)
  else if n == 0xA1 then some (Char.ofNat 0x2018)
  else if n == 0xA2 then some (Char.ofNat 0x2019)
  else if n == 0xAF then some (Char.ofNat 0x2015)
  else if 0xB4 ≤ n && n ≤ 0xFE && n != 0xD2 then some (Char.ofNat (0x2D0 + n))
  else none

/-- The character of a byte in the third place. -/
def thirdChar? (set : IsoSet) (n : Nat) : Option Char :=
  match set with
  | .ascii => if n < 128 then some (Char.ofNat n) else none
  | .latin => if n < 128 then some (Char.ofNat (n + 128)) else none
  | .greek =>
    if n < 0x20 then some (Char.ofNat (n + 128))
    else if n < 128 then greekChar? (n + 128)
    else some (Char.ofNat (n - 128))
  | _ => none

/-- The characters that a pair of bytes stands for in a set of pairs. -/
def pairChars? (set : IsoSet) (a b : UInt8) : Option (List Char) :=
  let upper := a.toNat + 128
  let lower := b.toNat + 128
  let single (c : Option Char) : Option (List Char) := c.map ([·])
  if 128 ≤ b.toNat then none
  else
  match set with
  | .kanji | .oldKanji => single (planeChar? jis0208 upper lower)
  | .supplement => single (planeChar? jis0212 upper lower)
  | .chinese => single (gb2312Char? upper lower)
  | .korean => single (planeChar? ks1001 upper lower)
  | .first revised =>
    let row := a.toNat - 32
    let column := b.toNat - 32
    if a.toNat ≤ 32 || b.toNat ≤ 32 ||
        !revised && revisedCells.contains (cellNumber row column) then none
    else if row == 1 && column == 32 then some ['＼']
    else firstPlane? row column
  | .second =>
    if a.toNat ≤ 32 || b.toNat ≤ 32 then none
    else single (secondPlane? true (a.toNat - 32) (b.toNat - 32))
  | _ => none

/-- What a single byte of a set means that stands for characters. -/
def setStep (set : IsoSet) (s : IsoState) (a : UInt8) : Step IsoState :=
  let n := a.toNat
  match set with
  | .ascii => .done [Char.ofNat n] s
  | .roman => .done [romanChar n] s
  | .halfWidth =>
    match halfWidth? (n + 128) with
    | some c => .done [c] s
    | none => .bad 1
  | .latin | .greek => .bad 1
  | _ => .more

namespace IsoForm

variable (form : IsoForm)

/-- The set that bytes stand for. -/
def current (s : IsoState) : IsoSet := if s.isShifted then s.second else s.first

/-- What a single byte means. -/
def single (s : IsoState) (a : UInt8) : Step IsoState :=
  let n := a.toNat
  if s.isPassing then .done [Char.ofNat n] { s with isPassing := !endsEscape a }
  else if n == 27 then .more
  else if form.shifts && n == 14 then .done [] { s with isShifted := true }
  else if form.shifts && n == 15 then .done [] { s with isShifted := false }
  else if n == 10 then .done ['\n'] { s with isShifted := false }
  else if n < 32 then .done [Char.ofNat n] s
  else if 128 ≤ n then .bad 1
  else setStep (current s) s a

def step (s : IsoState) : List UInt8 → Step IsoState
  | [] => .more
  | [a] => form.single s a
  | a :: b :: rest =>
    if a == 27 then
      if opensEscape b then form.escape s (b :: rest)
      else if form.hasThird && b == 78 then
        match rest with
        | [] => .more
        | c :: _ =>
          match thirdChar? s.third c.toNat with
          | some c => .done [c] s
          | none => .bad 3
      else .done [Char.ofNat 27, Char.ofNat b.toNat] { s with isPassing := !endsEscape b }
    else
      match pairChars? (current s) a b with
      | some cs => .done cs s
      | none => .bad 2

/-- The characters that bytes stand for. -/
def decode (bytes : List UInt8) : Except DecodeError (List Char) :=
  decodeHeld form.codec form.step 0 [] {} bytes

end IsoForm

/-! ## The encodings -/

/-- The encodings with escape sequences. -/
inductive IsoFamily where
  | japanese
  | japanese1
  | japanese2
  | japanese3
  | japanese2004
  | japaneseExtended
  | korean
deriving DecidableEq, Repr, Inhabited

def IsoFamily.form : IsoFamily → IsoForm
  | japanese => { codec := "iso2022_jp", sets := [.kanji, .oldKanji, .roman] }
  | japanese1 => { codec := "iso2022_jp_1", sets := [.kanji, .oldKanji, .supplement, .roman] }
  | japanese2 =>
    { codec := "iso2022_jp_2"
      sets := [.kanji, .oldKanji, .supplement, .korean, .chinese, .roman, .latin, .greek]
      hasThird := true }
  | japanese3 => { codec := "iso2022_jp_3", sets := [.kanji, .first false, .second] }
  | japanese2004 => { codec := "iso2022_jp_2004", sets := [.kanji, .first true, .second] }
  | japaneseExtended =>
    { codec := "iso2022_jp_ext", sets := [.kanji, .oldKanji, .supplement, .roman, .halfWidth] }
  | korean => { codec := "iso2022_kr", sets := [.korean], shifts := true, hasPrefix := false }

end DocSite.Text.MultiByte
