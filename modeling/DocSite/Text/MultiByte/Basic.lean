import DocSite.Text.Encoding.Basic

/-! Encodings of several bytes a character. Bytes are held until they stand for something or can
no longer stand for anything. -/
namespace DocSite.Text.MultiByte
set_option autoImplicit false

/-- What held bytes mean in a state. -/
inductive Step (σ : Type) where
  /-- They stand for characters and lead to a state. -/
  | done (cs : List Char) (next : σ)
  /-- They may stand for something with more bytes behind them. -/
  | more
  /-- The first `length` of them stand for nothing. -/
  | bad (length : Nat)

/-- Decodes bytes behind those that are held from a position on. -/
def decodeHeld {σ : Type} (codec : String) (step : σ → List UInt8 → Step σ) (start : Nat)
    (held : List UInt8) (state : σ) : List UInt8 → Except DecodeError (List Char)
  | [] =>
    match held with
    | [] => .ok []
    | a :: _ =>
      .error (.badBytes codec start (start + held.length - 1) a "incomplete multibyte sequence")
  | b :: rest =>
    let held := held ++ [b]
    match step state held with
    | .done cs next => return cs ++ (← decodeHeld codec step (start + held.length) [] next rest)
    | .more => decodeHeld codec step start held state rest
    | .bad length =>
      .error (.badBytes codec start (start + length - 1) (held.headD b)
        "illegal multibyte sequence")

/-! ## Encodings without states -/

/-- What bytes mean without regard to those before them. -/
abbrev Meaning := List UInt8 → Step Unit

/-- Bytes that stand for characters, or for nothing. -/
def charsOrBad : Option (List Char) → Step Unit
  | some cs => .done cs ()
  | none => .bad 1

/-- Bytes that stand for a character, or for nothing. -/
def charOrBad (c : Option Char) : Step Unit := charsOrBad (c.map ([·]))

/-- ASCII in single bytes, characters in pairs that start with any other byte. -/
def pairsBesideAscii (pair : Nat → Nat → Option Char) : Meaning
  | [a] => if a.toNat < 128 then .done [Char.ofNat a.toNat] () else .more
  | [a, b] => charOrBad (pair a.toNat b.toNat)
  | _ => .bad 1

def decode (codec : String) (meaning : Meaning) (bytes : List UInt8) :
    Except DecodeError (List Char) :=
  decodeHeld codec (fun _ => meaning) 0 [] () bytes

/-! ## Tables -/

/-- The character in a cell of a row, unless the cell is empty. -/
def charAt? (row : String) (column : Nat) : Option Char :=
  (row.toList[column]?).filter fun c => c.toNat != 0xFFFD

/-- The character in a cell of a table. -/
def cell? (rows : Array String) (row column : Nat) : Option Char :=
  (rows[row]?).bind (charAt? · column)

/-- The character in a cell of rows that go by their numbers. -/
def numberedCell? (rows : List (Nat × String)) (row column : Nat) : Option Char :=
  (rows.lookup row).bind (charAt? · column)

/-- The character of a plane whose rows and columns start at the byte A1. -/
def planeChar? (rows : Array String) (a b : Nat) : Option Char :=
  if 0xA1 ≤ a && 0xA1 ≤ b then cell? rows (a - 0xA1) (b - 0xA1) else none

/-- Which numbers below a bound the characters have. -/
def numbersHeld (bound : Nat) (cs : List Char) : Array Bool :=
  cs.foldl (fun held c => held.setIfInBounds c.toNat true) (Array.replicate bound false)

/-- The characters from one number up to below another that are not among given ones, in order. -/
def remaining (first last : Nat) (cs : List Char) : List Char :=
  let held := numbersHeld last cs
  ((List.range' first (last - first)).filter fun n => !(held[n]?.getD false)).map Char.ofNat

def charsOf (rows : Array String) : List Char := rows.toList.flatMap String.toList

end DocSite.Text.MultiByte
