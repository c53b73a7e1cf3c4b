import DocSite.Text.Encoding.Utf8

/-! Decoding texts in which the characters beyond ASCII stand behind all others, as the distances
from one to the next in numbers of digits and letters. -/
namespace DocSite.Text.Punycode
set_option autoImplicit false

/-- The value of a digit. -/
def digit? (c : Char) : Option Nat :=
  if c.isUpper then some (c.toNat - 65)
  else if c.isLower then some (c.toNat - 97)
  else if c.isDigit then some (c.toNat - 22)
  else none

/-- The least digit in a place that is not the last of its number. -/
def threshold (place bias : Nat) : Nat := min 26 (max 1 (36 * (place + 1) - bias))

/-- Reads a number, with what follows it. -/
def number? (bias place weight value : Nat) : List Char → Option (Nat × List Char)
  | [] => none
  | c :: rest => do
    let d ← digit? c
    let value := value + d * weight
    let least := threshold place bias
    if d < least then return (value, rest)
    number? bias (place + 1) (weight * (36 - least)) value rest

/-- Divides a distance until it is small, counting the divisions. -/
def reduce (distance divisions : Nat) : Nat × Nat :=
  if 455 < distance then reduce (distance / 35) (divisions + 1) else (distance, divisions)
termination_by distance
decreasing_by omega

/-- The bias for the next number, told by the last distance and by how many characters there are. -/
def adapt (distance : Nat) (isFirst : Bool) (count : Nat) : Nat :=
  let distance := if isFirst then distance / 700 else distance / 2
  let (rest, divisions) := reduce (distance + distance / count) 0
  36 * divisions + 36 * rest / (rest + 38)

theorem length_of_number? {bias place weight value n : Nat} {cs rest : List Char}
    (h : number? bias place weight value cs = some (n, rest)) : rest.length < cs.length := by
  induction cs generalizing place weight value with
  | nil => cases h
  | cons c cs ih =>
    rw [number?] at h
    obtain ⟨d, -, h⟩ := Option.bind_eq_some_iff.mp h
    dsimp only at h
    split at h
    · cases h
      exact Nat.lt_succ_self _
    · exact Nat.lt_succ_of_lt (ih h)

/-- Inserts the characters that numbers tell into those that are there. The last one inserted has
the number `last` and stands in front of `position`. -/
def insert (numbers : List Nat) (last position bias : Nat) (isFirst : Bool) (cs : List Char) :
    Except DecodeError (List Nat) :=
  match cs with
  | [] => .ok numbers
  | c :: tail =>
    match h : number? bias 0 1 0 (c :: tail) with
    | none => .error .refused
    | some (distance, rest) =>
      let places := numbers.length + 1
      let total := position + distance
      let next := last + total / places
      if 0x10FFFF < next then .error .refused
      else
        insert (numbers.insertIdx (total % places) next) next (total % places + 1)
          (adapt distance isFirst places) false rest
termination_by cs.length
decreasing_by exact length_of_number? h

/-- The bytes in front of the last hyphen, if there is one, and those behind it. -/
def parts (bytes : List UInt8) : List UInt8 × List UInt8 :=
  let behind := (bytes.reverse.takeWhile (· != 45)).reverse
  (bytes.take (bytes.length - behind.length - 1), behind)

def decode (bytes : List UInt8) : Except DecodeError (List Char) := do
  let (front, behind) := parts bytes
  let base ← decodeAscii 0 front
  let extended ← decodeAscii 0 behind
  charsOfNumbers (← insert (base.map Char.toNat) 128 0 72 true extended)

end DocSite.Text.Punycode
