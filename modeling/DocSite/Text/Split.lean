import DocSite.Text.Letter

/-! Cutting texts: pieces between separators, words, trimming, first and last occurrence of a
character. Nothing is lost: the pieces with the separator between them give the text back. -/
namespace DocSite.Text
set_option autoImplicit false

/-! ## Pieces -/

/-- The pieces between the characters that satisfy `p`, empty ones included. -/
def pieces (p : Char → Bool) : List Char → List (List Char)
  | [] => [[]]
  | c :: rest =>
    if p c then [] :: pieces p rest
    else
      match pieces p rest with
      | [] => [[c]]
      | piece :: more => (c :: piece) :: more

/-- The maximal runs of characters that are not blank. -/
def words (cs : List Char) : List (List Char) :=
  (pieces isBlank cs).filter (!·.isEmpty)

/-! ## Trimming -/

/-- Drops the characters at the end that satisfy `p`. -/
def dropEnd (p : Char → Bool) (cs : List Char) : List Char :=
  (cs.reverse.dropWhile p).reverse

/-- Drops the characters at both ends that satisfy `p`. -/
def trimWhere (p : Char → Bool) (cs : List Char) : List Char :=
  dropEnd p (cs.dropWhile p)

def trim (cs : List Char) : List Char := trimWhere isBlank cs

/-- Drops one leading occurrence of `head` and one trailing occurrence of `tail`. -/
def unwrap (head tail : Char) (cs : List Char) : List Char :=
  let cs := match cs with
    | c :: rest => if c == head then rest else cs
    | [] => []
  if cs.getLast? == some tail then cs.dropLast else cs

/-! ## First and last occurrence -/

/-- The text before and after the first occurrence of a character. -/
def cutFirst? (sep : Char) : List Char → Option (List Char × List Char)
  | [] => none
  | c :: rest =>
    if c == sep then some ([], rest)
    else (cutFirst? sep rest).map fun (before, after) => (c :: before, after)

/-- The text before and after the last occurrence of a character. -/
def cutLast? (sep : Char) : List Char → Option (List Char × List Char)
  | [] => none
  | c :: rest =>
    match cutLast? sep rest with
    | some (before, after) => some (c :: before, after)
    | none => if c == sep then some ([], rest) else none

theorem cutFirst?_eq_some {sep : Char} {cs before after : List Char}
    (h : cutFirst? sep cs = some (before, after)) :
    cs = before ++ sep :: after ∧ sep ∉ before := by
  induction cs generalizing before after with
  | nil => simp [cutFirst?] at h
  | cons c rest ih =>
    simp only [cutFirst?] at h
    split at h
    · rename_i e
      have e : c = sep := by simpa using e
      simp only [Option.some.injEq, Prod.mk.injEq] at h
      obtain ⟨rfl, rfl⟩ := h
      simp [e]
    · rename_i e
      have e : c ≠ sep := by simpa using e
      obtain ⟨⟨b, a⟩, hb, he⟩ := Option.map_eq_some_iff.1 h
      simp only [Prod.mk.injEq] at he
      obtain ⟨rfl, rfl⟩ := he
      obtain ⟨rfl, hn⟩ := ih hb
      exact ⟨rfl, by simp [hn, Ne.symm e]⟩

/-! ## Strings -/

/-- Drops the blanks at both ends of a string. -/
def strip (s : String) : String := String.ofList (trim s.toList)

def splitAt (sep : Char) (s : String) : List String :=
  (pieces (· == sep) s.toList).map String.ofList

/-- The part of a string before the first occurrence of a character, or all of it. -/
def beforeFirst (sep : Char) (s : String) : String :=
  match cutFirst? sep s.toList with
  | some (before, _) => String.ofList before
  | none => s

/-- The part of a string after the last occurrence of a character, if it occurs. -/
def afterLast? (sep : Char) (s : String) : Option String :=
  (cutLast? sep s.toList).map fun (_, after) => String.ofList after

/-- Every occurrence of a character replaced by a text. -/
def replaceChar (c : Char) (replacement : String) (s : String) : String :=
  String.ofList (s.toList.flatMap fun x => if x == c then replacement.toList else [x])

/-- Texts without repetition, in order of first appearance. -/
def distinct (texts : List String) : List String :=
  texts.foldl (fun seen s => if seen.contains s then seen else seen ++ [s]) []

def join (sep : String) : List String → String
  | [] => ""
  | [s] => s
  | s :: more => s ++ sep ++ join sep more

end DocSite.Text
