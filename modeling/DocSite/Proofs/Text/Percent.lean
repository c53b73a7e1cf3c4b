import DocSite.Text.Percent
import Mathlib.Data.List.Basic

/-! Reading percent-encoded text back. A percent sign and two hexadecimal digits are one byte, any
other character is its own bytes. Encoding keeps percent signs as they are, so what is read back is
the text itself only where no percent sign of it is followed by two digits. -/
namespace DocSite.Text
set_option autoImplicit false

def hexDigit? (c : Char) : Option Nat :=
  if c.isDigit then some (c.toNat - '0'.toNat)
  else if 'A' ≤ c ∧ c ≤ 'F' then some (c.toNat - 'A'.toNat + 10)
  else if 'a' ≤ c ∧ c ≤ 'f' then some (c.toNat - 'a'.toNat + 10)
  else none

/-- The byte that a text starts with as a percent sign and two digits. -/
def escapedByte? : List Char → Option UInt8
  | '%' :: high :: low :: _ =>
    (hexDigit? high).bind fun h => (hexDigit? low).map fun l => UInt8.ofNat (16 * h + l)
  | _ => none

/-- The bytes of a percent-encoded text. -/
def percentBytes : List Char → List UInt8
  | [] => []
  | c :: cs =>
    match escapedByte? (c :: cs) with
    | none => String.utf8EncodeChar c ++ percentBytes cs
    | some b =>
      match cs with
      | _ :: _ :: rest => b :: percentBytes rest
      | _ => [b]

/-- A percent-encoded text decoded, where its bytes are text. -/
def percentDecoded? (s : String) : Option String :=
  String.fromUTF8? (percentBytes s.toList).toByteArray

/-- Whether some percent sign of a text is followed by two digits. -/
def hasEscape : List Char → Bool
  | [] => false
  | c :: cs => (escapedByte? (c :: cs)).isSome || hasEscape cs

section
variable {c : Char} {cs rest : List Char} {b : UInt8}

theorem percentBytes_of_escapedByte? (h : escapedByte? cs = some b) :
    percentBytes cs = b :: percentBytes (cs.drop 3) := by
  unfold escapedByte? at h
  split at h
  · rename_i high low rest
    have hread : escapedByte? ('%' :: high :: low :: rest) = some b := h
    rw [percentBytes, hread]
    rfl
  · cases h

theorem percentBytes_cons (h : escapedByte? (c :: cs) = none) :
    percentBytes (c :: cs) = String.utf8EncodeChar c ++ percentBytes cs := by
  rw [percentBytes, h]

/-! ## Bytes -/

theorem escapedByte?_append (h : escapedByte? cs = some b) (more : List Char) :
    escapedByte? (cs ++ more) = some b := by
  unfold escapedByte? at h
  split at h
  · exact h
  · cases h

theorem percentByte_read (b : UInt8) : escapedByte? (percentByte b) = some b ∧
    (percentByte b).length = 3 ∧ '#' ∉ percentByte b := by
  have hall : ∀ n < 256, escapedByte? (percentByte (UInt8.ofNat n)) = some (UInt8.ofNat n) ∧
      (percentByte (UInt8.ofNat n)).length = 3 ∧ '#' ∉ percentByte (UInt8.ofNat n) := by
    decide +kernel
  have hb := hall b.toNat b.toNat_lt
  rwa [UInt8.ofNat_toNat] at hb

theorem percentBytes_percentByte (b : UInt8) (rest : List Char) :
    percentBytes (percentByte b ++ rest) = b :: percentBytes rest := by
  obtain ⟨hread, hlength, _⟩ := percentByte_read b
  rw [percentBytes_of_escapedByte? (escapedByte?_append hread rest), ← hlength, List.drop_left]

theorem percentBytes_flatMap (bs : List UInt8) (rest : List Char) :
    percentBytes (bs.flatMap percentByte ++ rest) = bs ++ percentBytes rest := by
  induction bs with
  | nil => rfl
  | cons b bs ih =>
    rw [List.flatMap_cons, List.append_assoc, percentBytes_percentByte, ih, List.cons_append]

/-! ## Characters -/

theorem percentEncode_cons_of_safe (h : isAddressSafe c = true) :
    percentEncode (c :: cs) = c :: percentEncode cs := by
  rw [percentEncode, List.flatMap_cons, if_pos h]
  rfl

theorem percentEncode_cons_of_not_safe (h : isAddressSafe c = false) :
    percentEncode (c :: cs) =
      (String.utf8EncodeChar c).flatMap percentByte ++ percentEncode cs := by
  rw [percentEncode, List.flatMap_cons, if_neg (by simp [h])]
  rfl

/-- A character that is not kept is written with a percent sign in front. -/
theorem exists_percentEncode (h : isAddressSafe c = false) (cs : List Char) :
    ∃ rest, percentEncode (c :: cs) = '%' :: rest := by
  obtain ⟨b, bs, hbs⟩ := List.exists_cons_of_ne_nil (String.utf8EncodeChar_ne_nil (c := c))
  rw [percentEncode_cons_of_not_safe h, hbs]
  exact ⟨_, rfl⟩

/-- Encoding what follows a character makes no byte of it. -/
theorem escapedByte?_percentEncode (h : escapedByte? (c :: cs) = none) :
    escapedByte? (c :: percentEncode cs) = none := by
  have hmark : hexDigit? '%' = none := by decide
  by_cases hc : c = '%'
  · subst hc
    cases cs with
    | nil => rfl
    | cons high cs =>
      cases hh : isAddressSafe high with
      | false =>
        obtain ⟨rest, he⟩ := exists_percentEncode hh cs
        rw [he]
        cases rest with
        | nil => rfl
        | cons low rest => rw [escapedByte?, hmark, Option.bind_none]
      | true =>
        rw [percentEncode_cons_of_safe hh]
        cases cs with
        | nil => rfl
        | cons low cs =>
          cases hl : isAddressSafe low with
          | true =>
            rw [percentEncode_cons_of_safe hl]
            exact h
          | false =>
            obtain ⟨rest, he⟩ := exists_percentEncode hl cs
            rw [he, escapedByte?, hmark]
            cases hexDigit? high <;> rfl
  · unfold escapedByte?
    split
    · simp_all
    · rfl

/-- Encoding keeps number signs and makes no other. -/
theorem percentEncode_takeWhile (cs : List Char) :
    percentEncode (cs.takeWhile (· != '#')) = (percentEncode cs).takeWhile (· != '#') := by
  induction cs with
  | nil => rfl
  | cons c cs ih =>
    by_cases hmark : c = '#'
    · subst hmark
      rw [percentEncode_cons_of_safe (by decide)]
      rfl
    · have hkeep : (c != '#') = true := by simpa using hmark
      have hcons : ∀ rest : List Char,
          (c :: rest).takeWhile (· != '#') = c :: rest.takeWhile (· != '#') :=
        fun _ => List.takeWhile_cons_of_pos hkeep
      rw [hcons]
      cases hc : isAddressSafe c with
      | true =>
        rw [percentEncode_cons_of_safe hc, percentEncode_cons_of_safe hc, hcons, ih]
      | false =>
        have hbytes : ∀ d ∈ (String.utf8EncodeChar c).flatMap percentByte, (d != '#') = true := by
          intro d hd
          obtain ⟨b, _, hb⟩ := List.mem_flatMap.mp hd
          exact bne_iff_ne.mpr fun e => (percentByte_read b).2.2 (e ▸ hb)
        rw [percentEncode_cons_of_not_safe hc, percentEncode_cons_of_not_safe hc,
          List.takeWhile_append_of_pos hbytes, ih]

theorem hasEscape_of_append {more : List Char} (h : hasEscape (cs ++ more) = false) :
    hasEscape cs = false := by
  induction cs with
  | nil => rfl
  | cons c cs ih =>
    rw [List.cons_append, hasEscape, Bool.or_eq_false_iff] at h
    rw [hasEscape, ih h.2, Bool.or_false]
    cases hread : escapedByte? (c :: cs) with
    | none => rfl
    | some b =>
      have hmore := escapedByte?_append hread more
      rw [List.cons_append] at hmore
      rw [hmore] at h
      cases h.1

theorem percentBytes_percentEncode (h : hasEscape cs = false) :
    percentBytes (percentEncode cs) = cs.flatMap String.utf8EncodeChar := by
  induction cs with
  | nil => rfl
  | cons c cs ih =>
    rw [hasEscape, Bool.or_eq_false_iff, Option.isSome_eq_false_iff, Option.isNone_iff_eq_none] at h
    rw [List.flatMap_cons]
    cases hc : isAddressSafe c with
    | true =>
      rw [percentEncode_cons_of_safe hc, percentBytes_cons (escapedByte?_percentEncode h.1), ih h.2]
    | false => rw [percentEncode_cons_of_not_safe hc, percentBytes_flatMap, ih h.2]

end

theorem percentDecoded?_of_bytes {s t : String}
    (h : percentBytes s.toList = t.toList.flatMap String.utf8EncodeChar) :
    percentDecoded? s = some t := by
  have hbytes : (percentBytes s.toList).toByteArray = t.toByteArray := by
    rw [h, ← String.utf8Encode_toList]
    rfl
  rw [percentDecoded?, hbytes, String.fromUTF8?, dif_pos t.isValidUTF8]
  rfl

/-- An encoded address is read back as it was, unless there is a byte to read in it already. -/
theorem percentDecoded?_addressEncoded {s : String} (h : hasEscape s.toList = false) :
    percentDecoded? (addressEncoded s) = some s := by
  apply percentDecoded?_of_bytes
  rw [addressEncoded, String.toList_ofList, percentBytes_percentEncode h]

end DocSite.Text
