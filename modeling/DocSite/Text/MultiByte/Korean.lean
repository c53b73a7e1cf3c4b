import DocSite.Text.MultiByte.Basic
import DocSite.Text.MultiByte.Ks1001

/-! Korean encodings: the plane of KS X 1001, syllables spelled letter by letter, and the remaining
syllables in order. -/
namespace DocSite.Text.MultiByte
set_option autoImplicit false

/-! ## Spelled syllables -/

/-- The letters that may begin a syllable, in order. -/
def initialLetters : List Char := "ㄱㄲㄴㄷㄸㄹㅁㅂㅃㅅㅆㅇㅈㅉㅊㅋㅌㅍㅎ".toList

def vowels : List Char := "ㅏㅐㅑㅒㅓㅔㅕㅖㅗㅘㅙㅚㅛㅜㅝㅞㅟㅠㅡㅢㅣ".toList

/-- The letters that may end a syllable, in order, behind the filler for none. -/
def finalLetters : List Char := "\u3164ㄱㄲㄳㄴㄵㄶㄷㄹㄺㄻㄼㄽㄾㄿㅀㅁㅂㅄㅅㅆㅇㅈㅊㅋㅌㅍㅎ".toList

/-- The syllable of an initial letter, a vowel and a final letter. -/
def syllable? (initial vowel final : Char) : Option Char := do
  let i ← initialLetters.idxOf? initial
  let v ← vowels.idxOf? vowel
  let f ← finalLetters.idxOf? final
  return Char.ofNat (0xAC00 + 588 * i + 28 * v + f)

/-- The character of the plane that a pair stands for. -/
def koreanChar? (a b : UInt8) : Option Char := planeChar? ks1001 a.toNat b.toNat

/-- The syllable that four pairs spell: a filler, then its letters. -/
def spelled? (bytes : List UInt8) : Option Char := do
  let [0xA4, 0xD4, 0xA4, i, 0xA4, v, 0xA4, f] := bytes | none
  syllable? (← koreanChar? 0xA4 i) (← koreanChar? 0xA4 v) (← koreanChar? 0xA4 f)

/-- The Korean form of the extended Unix code. -/
def eucKr : Meaning
  | [a] => if a.toNat < 128 then .done [Char.ofNat a.toNat] () else .more
  | [a, b] => if a == 0xA4 && b == 0xD4 then .more else charOrBad (koreanChar? a b)
  | bytes => if bytes.length < 8 then .more else charOrBad (spelled? bytes)

/-! ## Letters in groups of bits -/

/-- The place of a group of five bits among the vowels; the outer nothing stands for no place, the
inner one for none of them. -/
def johabVowel? (n : Nat) : Option (Option Nat) :=
  if n == 2 then some none
  else if 3 ≤ n && n ≤ 29 && n % 8 != 0 && n % 8 != 1 then some (some (n - 3 - 2 * (n / 8)))
  else none

/-- The place of a group of five bits among the initial letters. -/
def johabInitial? (n : Nat) : Option (Option Nat) :=
  if n == 1 then some none
  else if 2 ≤ n && n ≤ 20 then some (some (n - 2))
  else none

/-- The place of a group of five bits among the final letters, where the filler is the first. -/
def johabFinal? (n : Nat) : Option (Option Nat) :=
  if n == 1 then some none
  else if 2 ≤ n && n ≤ 17 then some (some (n - 1))
  else if 19 ≤ n && n ≤ 29 then some (some (n - 2))
  else none

/-- A syllable, or a letter alone. -/
def johabSyllable? (a b : Nat) : Option Char := do
  let initial ← johabInitial? (a / 4 % 32)
  let vowel ← johabVowel? (a % 4 * 8 + b / 32)
  let final ← johabFinal? (b % 32)
  match initial, vowel, final with
  | none, none, none => some '\u3000'
  | none, none, some f => finalLetters[f]?
  | none, some v, none => vowels[v]?
  | some i, none, none => initialLetters[i]?
  | some i, some v, f => some (Char.ofNat (0xAC00 + 588 * i + 28 * v + f.getD 0))
  | _, _, _ => none

/-- The character of the plane that a shifted pair stands for. Its letters are spelled instead. -/
def johabOther? (a b : Nat) : Option Char :=
  if a == 0xDF || 0xF9 < a || b < 0x31 || 0x80 ≤ b && b < 0x91 || b % 128 == 127 ||
      a == 0xDA && 0xA1 ≤ b && b ≤ 0xD3 then none
  else
    let double := if a < 0xE0 then 2 * (a - 0xD9) else 2 * a - 0x197
    let place := if b < 0x91 then b - 0x31 else b - 0x43
    if a < 0xD9 then none else cell? ks1001 (double + place / 94) (place % 94)

/-- Syllables whose letters are groups of five bits, and the plane in shifted pairs. -/
def johab : Meaning := pairsBesideAscii fun a b =>
  if a < 0xD8 then johabSyllable? a b else johabOther? a b

/-! ## Remaining syllables -/

/-- The syllables that the plane lacks, in order. -/
def remainingSyllables : Array Char := (remaining 0xAC00 0xD7A4 (charsOf ks1001)).toArray

/-- The column of a second byte outside the plane. -/
def syllableColumn? (b : Nat) : Option Nat :=
  if 0x41 ≤ b && b ≤ 0x5A then some (b - 0x41)
  else if 0x61 ≤ b && b ≤ 0x7A then some (b - 0x47)
  else if 0x81 ≤ b && b ≤ 0xFE then some (b - 0x4D)
  else none

/-- The remaining syllable that a pair stands for: 178 for each first byte below A1, then 84. -/
def remainingSyllable? (a b : Nat) : Option Char := do
  let column ← syllableColumn? b
  if 0x81 ≤ a && a ≤ 0xA0 then remainingSyllables[178 * (a - 0x81) + column]?
  else if 0xA1 ≤ a && column < 84 then
    remainingSyllables[178 * 32 + 84 * (a - 0xA1) + column]?
  else none

/-- Page 949: the plane and the remaining syllables. -/
def page949 : Meaning := pairsBesideAscii fun a b =>
  (planeChar? ks1001 a b).orElse fun _ => remainingSyllable? a b

end DocSite.Text.MultiByte
