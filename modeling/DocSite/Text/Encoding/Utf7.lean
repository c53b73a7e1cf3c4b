import DocSite.Text.Encoding.Basic

/-! Decoding UTF-7. ASCII stands for itself, except that a plus sign begins a run of base-64
digits, six bits each, which hold code units of sixteen bits. -/
namespace DocSite.Text
set_option autoImplicit false

/-- The value of a base-64 digit. -/
def base64Value? (b : UInt8) : Option Nat :=
  let n := b.toNat
  if 65 ≤ n && n ≤ 90 then some (n - 65)
  else if 97 ≤ n && n ≤ 122 then some (n - 71)
  else if 48 ≤ n && n ≤ 57 then some (n + 4)
  else if n == 43 then some 62
  else if n == 47 then some 63
  else none

/-- A run of base-64 digits: where its plus sign is, whether no digit was read yet, the bits that
make no unit yet, how many they are, and a first half that waits for its second one. -/
structure Base64Run where
  start : Nat
  isFresh : Bool := true
  bits : Nat := 0
  count : Nat := 0
  half : Option Nat := none

namespace Base64Run

/-- Adds a unit to the numbers of characters read so far, in reverse. A first half that stays alone
is kept as it is. -/
def addUnit (run : Base64Run) (unit : Nat) (read : List Nat) : Base64Run × List Nat :=
  match run.half with
  | some high =>
    if isLowHalf unit then ({ run with half := none }, joinHalves high unit :: read)
    else settle (high :: read)
  | none => settle read
where
  /-- Adds a unit that completes no pair. -/
  settle (read : List Nat) : Base64Run × List Nat :=
    if isHighHalf unit then ({ run with half := some unit }, read)
    else ({ run with half := none }, unit :: read)

/-- Adds the bits of a digit. -/
def addDigit (run : Base64Run) (digit : Nat) (read : List Nat) : Base64Run × List Nat :=
  let run := { run with isFresh := false }
  let bits := run.bits * 64 + digit
  let count := run.count + 6
  if count < 16 then ({ run with bits := bits, count := count }, read)
  else
    let left := count - 16
    addUnit { run with bits := bits % Nat.pow 2 left, count := left } (bits / Nat.pow 2 left) read

/-- What is wrong with the bits that are left when a run ends, if anything. -/
def fault? (run : Base64Run) : Option String :=
  if 6 ≤ run.count then some "partial character in shift sequence"
  else if run.bits != 0 then some "non-zero padding bits in shift sequence"
  else none

/-- Whether a run may end with the data. -/
def isComplete (run : Base64Run) : Bool :=
  run.half.isNone && run.fault?.isNone

/-- The numbers read once a run has ended: a first half that waits is kept. -/
def close (run : Base64Run) (read : List Nat) : List Nat := run.half.toList ++ read

end Base64Run

/-- The byte that begins a run. -/
def plusSign : UInt8 := 43

/-- The byte that ends a run and is no part of the text. -/
def hyphen : UInt8 := 45

/-- The error at bytes of UTF-7. -/
def utf7Error (first last : Nat) (byte : UInt8) (reason : String) :
    Except DecodeError (List Nat) :=
  .error (.badBytes "utf7" first last byte reason)

/-- Decodes UTF-7 from a position on, within a run or outside, to the numbers of characters. A
hyphen right after the plus sign stands for the plus sign. -/
def decodeUtf7 (position : Nat) (run : Option Base64Run) (read : List Nat) :
    List UInt8 → Except DecodeError (List Nat)
  | [] =>
    match run with
    | some run =>
      if run.isComplete then .ok read.reverse
      else utf7Error run.start (position - 1) plusSign "unterminated shift sequence"
    | none => .ok read.reverse
  | b :: rest =>
    match run, base64Value? b with
    | some run, some digit =>
      let (run, read) := run.addDigit digit read
      decodeUtf7 (position + 1) (some run) read rest
    | some run, none =>
      if run.isFresh then
        if b == hyphen then decodeUtf7 (position + 1) none (plusSign.toNat :: read) rest
        else utf7Error run.start position plusSign "ill-formed sequence"
      else
        match run.fault? with
        | some reason => utf7Error run.start position plusSign reason
        | none =>
          if b == hyphen then decodeUtf7 (position + 1) none (run.close read) rest
          else if b.toNat < 128 then
            decodeUtf7 (position + 1) none (b.toNat :: run.close read) rest
          else utf7Error position position b "unexpected special character"
    | none, _ =>
      if b == plusSign then decodeUtf7 (position + 1) (some { start := position }) read rest
      else if b.toNat < 128 then decodeUtf7 (position + 1) none (b.toNat :: read) rest
      else utf7Error position position b "unexpected special character"

end DocSite.Text
