/-! Double-precision numbers in exact arithmetic: reading a decimal rounds to the nearest double,
ties to the even mantissa; comparison and truncation lose nothing. -/
namespace DocSite
set_option autoImplicit false

/-- A double-precision number. A finite one is `mantissa * 2 ^ exponent` with its sign; the
mantissa has 53 bits unless the exponent is the least one, `-1074`. -/
inductive Double where
  | finite (negative : Bool) (mantissa : Nat) (exponent : Int)
  | infinite (negative : Bool)
  | undefined
deriving DecidableEq, Repr, Inhabited

namespace Double

/-- The quotient rounded to the nearest natural number, ties to even. -/
def roundDiv (num den : Nat) : Nat :=
  let q := num / den
  let r := num % den
  if 2 * r < den then q
  else if den < 2 * r then q + 1
  else if q % 2 == 0 then q else q + 1

/-- The greatest `k` with `2 ^ k * den ≤ num`, for positive `num` and `den`. -/
def ratioLog2 (num den : Nat) : Int :=
  let l : Int := (Nat.log2 num : Int) - (Nat.log2 den : Int)
  let reaches := if 0 ≤ l then den * Nat.pow 2 l.toNat ≤ num else den ≤ num * Nat.pow 2 (-l).toNat
  if reaches then l else l - 1

/-- The double nearest to a positive ratio. -/
def ofRatio (negative : Bool) (num den : Nat) : Double :=
  let e := max (ratioLog2 num den - 52) (-1074)
  let m :=
    if 0 ≤ e then roundDiv num (den * Nat.pow 2 e.toNat)
    else roundDiv (num * Nat.pow 2 (-e).toNat) den
  let (m, e) := if m == Nat.pow 2 53 then (Nat.pow 2 52, e + 1) else (m, e)
  if 971 < e then infinite negative else finite negative m e

/-- The double nearest to `digits * 10 ^ exponent`. Exponents far outside the range are decided
without computing the power. -/
def ofDecimal (negative : Bool) (digits : Nat) (exponent : Int) : Double :=
  if digits == 0 then finite negative 0 (-1074)
  else
    let magnitude : Int := (Nat.log2 digits : Int) / 3 + exponent
    if 400 < exponent then infinite negative
    else if magnitude < -800 then finite negative 0 (-1074)
    else if 0 ≤ exponent then ofRatio negative (digits * Nat.pow 10 exponent.toNat) 1
    else ofRatio negative digits (Nat.pow 10 (-exponent).toNat)

/-- Whether the number is a zero of either sign. -/
def isZero : Double → Bool
  | finite _ m _ => m == 0
  | _ => false

/-- Sign and magnitude of a finite number as an integer over a power of two. -/
def signed (negative : Bool) (mantissa : Nat) : Int :=
  if negative then -(mantissa : Int) else mantissa

/-- The order of `a * 2 ^ p` and `b * 2 ^ q`. -/
def compareScaled (a : Int) (p : Int) (b : Int) (q : Int) : Ordering :=
  let low := min p q
  compare (a * (Nat.pow 2 (p - low).toNat : Nat)) (b * (Nat.pow 2 (q - low).toNat : Nat))

/-- How two numbers compare. One without value is put in front of all others here; `lt` is what
sorting asks. -/
def order : Double → Double → Ordering
  | undefined, undefined => .eq
  | undefined, _ => .lt
  | _, undefined => .gt
  | infinite a, infinite b => compare b a
  | infinite a, finite .. => if a then .lt else .gt
  | finite .., infinite b => if b then .gt else .lt
  | finite s m e, finite t n f => compareScaled (signed s m) e (signed t n) f

/-- Whether a number is less than another one. A number without value neither is nor has one. -/
def lt (x y : Double) : Bool := x != undefined && order x y == .lt

/-- An integer as a number of the exact order: its mantissa may be longer than 53 bits. -/
def ofInt (n : Int) : Double := finite (n < 0) n.natAbs 0

/-- The integer part of a finite number. -/
def truncate? : Double → Option Int
  | finite s m e =>
    some (if 0 ≤ e then signed s (m * Nat.pow 2 e.toNat) else signed s (m / Nat.pow 2 (-e).toNat))
  | _ => none

end Double
end DocSite
