import DocSite.Text.Letter

/-! Whole numbers in texts: decimal digits of any script with single underscores between them, a
sign before them and blanks around. A number of too many digits is refused before what follows it
is looked at. -/
namespace DocSite
set_option autoImplicit false

/-- Why a text stands for no whole number. -/
inductive IntegerError where
  | malformed
  /-- The number has more digits than are read. -/
  | tooLong (digits : Nat)
deriving DecidableEq, Repr, Inhabited

namespace Integer

/-- The most digits that a number may have, leading zeros included. -/
def mostDigits : Nat := 4300

/-- Blanks around a number. The information separators are no blanks here. -/
def isSpacing (c : Char) : Bool := Text.isBlank c && !(28 ≤ c.toNat && c.toNat ≤ 31)

/-- The values of the digits at the start of a text, and what follows them. An underscore needs a
digit on both sides. -/
def digits? (afterDigit : Bool) : List Char → Option (List Nat × List Char)
  | [] => if afterDigit then some ([], []) else none
  | c :: rest =>
    if c == '_' then if afterDigit then digits? false rest else none
    else
      match Text.digitValue? c with
      | some d => (digits? true rest).map fun (ds, after) => (d :: ds, after)
      | none => if afterDigit then some ([], c :: rest) else none

def ofDigits (digits : List Nat) : Nat := digits.foldl (fun n d => 10 * n + d) 0

/-- A sign at the start of a text: whether it is a minus, and what follows. -/
def cutSign : List Char → Bool × List Char
  | '-' :: rest => (true, rest)
  | '+' :: rest => (false, rest)
  | rest => (false, rest)

/-- The number of digits under a sign, unless they are too many. -/
def signed (negative : Bool) (digits : List Nat) : Except IntegerError Int :=
  if mostDigits < digits.length then .error (.tooLong digits.length)
  else .ok (if negative then -(ofDigits digits : Int) else ofDigits digits)

def ofText (s : String) : Except IntegerError Int := do
  let (negative, cs) := cutSign (s.toList.dropWhile isSpacing)
  match digits? false cs with
  | none => throw .malformed
  | some (digits, rest) =>
    let n ← signed negative digits
    if rest.all isSpacing then return n else throw .malformed

end Integer
end DocSite
