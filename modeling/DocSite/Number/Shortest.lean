import DocSite.Number.Double

/-! Decimal text of a double: the fewest digits that read back as the same number, and of those
the nearest to it. -/
namespace DocSite.Double
set_option autoImplicit false

/-! ## Digits -/

/-- The numbers that round to a finite double, as integers over a common power of two: lower end,
the double itself, upper end and the common exponent. The gap below a power of two is half. -/
def interval (mantissa : Nat) (exponent : Int) : Nat × Nat × Nat × Int :=
  if mantissa == Nat.pow 2 52 && -1074 < exponent then
    (4 * mantissa - 1, 4 * mantissa, 4 * mantissa + 2, exponent - 2)
  else (2 * mantissa - 1, 2 * mantissa, 2 * mantissa + 1, exponent - 1)

/-- The least `k` with `num < 10 ^ k * den`, for positive `num` and `den`. -/
def decimalPlaces (num den : Nat) : Int :=
  let guess : Int := ((Nat.log2 num : Int) - (Nat.log2 den : Int)) * 30103 / 100000 - 1
  let below (k : Int) : Bool :=
    if 0 ≤ k then num < Nat.pow 10 k.toNat * den else num * Nat.pow 10 (-k).toNat < den
  ((List.range 6).map fun (i : Nat) => guess + i).find? below |>.getD (guess + 6)

/-- One try with a fixed number of digits: of the two neighbours of the double on that decimal
grid, the nearer one that reads back. -/
def onGrid (mantissa : Nat) (exponent : Int) (unit : Int) : Option Nat :=
  let (low, mid, high, e) := interval mantissa exponent
  let scaleUp := Nat.pow 10 (-unit).toNat * Nat.pow 2 e.toNat
  let den := Nat.pow 10 unit.toNat * Nat.pow 2 (-e).toNat
  let (low, mid, high) := (low * scaleUp, mid * scaleUp, high * scaleUp)
  let inside (q : Nat) : Bool :=
    if mantissa % 2 == 0 then low ≤ q * den && q * den ≤ high
    else low < q * den && q * den < high
  let q := mid / den
  let nearUp : Bool := den < 2 * (mid - q * den) || (den == 2 * (mid - q * den) && q % 2 == 1)
  match inside q, inside (q + 1) with
  | true, true => some (if nearUp then q + 1 else q)
  | true, false => some q
  | false, true => some (q + 1)
  | false, false => none

/-- Shortest digits and the place of the decimal point counted from their start, for a positive
mantissa. -/
def shortest (mantissa : Nat) (exponent : Int) : Nat × Int :=
  let num := mantissa * Nat.pow 2 exponent.toNat
  let den := Nat.pow 2 (-exponent).toNat
  let places := decimalPlaces num den
  let tries := (List.range 17).filterMap fun (i : Nat) =>
    let unit : Int := places - (i + 1)
    (onGrid mantissa exponent unit).map fun q => (q, unit)
  match tries with
  | (q, unit) :: _ => (q, unit)
  | [] => (mantissa, exponent)

/-! ## Text -/

/-- Digits with the zeros at their end dropped, and how many were dropped. -/
def dropZeros (digits : List Char) : List Char × Nat :=
  let kept := (digits.reverse.dropWhile (· == '0')).reverse
  (kept, digits.length - kept.length)

/-- Where the text of a number turns to exponents: positional from `10 ^ -4` up to below
`10 ^ 16`, always with a point; outside it the exponent has a sign and two digits at least. -/
def layout (digits : List Char) (point : Int) : List Char :=
  if -4 < point && point ≤ 16 then
    if point ≤ 0 then '0' :: '.' :: List.replicate (-point).toNat '0' ++ digits
    else
      let whole := point.toNat
      if digits.length ≤ whole then
        digits ++ List.replicate (whole - digits.length) '0' ++ ['.', '0']
      else digits.take whole ++ '.' :: digits.drop whole
  else
    let e := point - 1
    let shown := Nat.toDigits 10 e.natAbs
    let shown := List.replicate (2 - shown.length) '0' ++ shown
    let head := match digits with
      | d :: rest@(_ :: _) => d :: '.' :: rest
      | _ => digits
    head ++ 'e' :: (if e < 0 then '-' else '+') :: shown

def text : Double → String
  | undefined => "nan"
  | infinite negative => if negative then "-inf" else "inf"
  | finite negative m e =>
    let body :=
      if m == 0 then ['0', '.', '0']
      else
        let (q, unit) := shortest m e
        let all := Nat.toDigits 10 q
        let (digits, dropped) := dropZeros all
        layout digits (unit + dropped + digits.length)
    String.ofList (if negative then '-' :: body else body)

end DocSite.Double
