import DocSite.Files.Tree
import DocSite.Proofs.Link.PageName

/-! Writing files into one directory. A file that is written can be read, and the files beside it
stay as they are. -/
namespace DocSite
set_option autoImplicit false

/-! ## Names of files -/

/-- A name that stands for itself in a path. -/
structure IsFileName (s : String) : Prop where
  no_slash : '/' ∉ s.toList
  ne_empty : s ≠ ""
  ne_dot : s ≠ "."
  ne_up : s ≠ ".."

theorem Text.pieces_of_not_mem {p : Char → Bool} {cs : List Char} (h : ∀ c ∈ cs, p c = false) :
    Text.pieces p cs = [cs] := by
  induction cs with
  | nil => rfl
  | cons c rest ih =>
    have hc : p c = false := h c (List.mem_cons_self ..)
    have hrest := ih fun d hd => h d (List.mem_cons_of_mem _ hd)
    simp [Text.pieces, hc, hrest]

theorem Path.ofString_of_isFileName {s : String} (h : IsFileName s) :
    Path.ofString s = ⟨"", [s]⟩ := by
  have hne : ∀ c ∈ s.toList, (c == '/') = false := fun c hc =>
    beq_false_of_ne fun e => h.no_slash (e ▸ hc)
  have hs : s.toList.takeWhile (· == '/') = [] := by
    cases hl : s.toList with
    | nil => rfl
    | cons c rest => simp [hne c (by simp [hl])]
  simp [Path.ofString, hs, Text.splitAt, Text.pieces_of_not_mem hne, h.ne_empty, h.ne_dot]

theorem Path.append_ofString {s : String} (h : IsFileName s) (directory : Path) :
    directory ++ Path.ofString s = ⟨directory.root, directory.parts ++ [s]⟩ := by
  rw [Path.ofString_of_isFileName h]
  rfl

theorem Path.append_ofString_injective {s t : String} (hs : IsFileName s) (ht : IsFileName t)
    {directory : Path} (h : directory ++ Path.ofString s = directory ++ Path.ofString t) : s = t := by
  rw [Path.append_ofString hs, Path.append_ofString ht] at h
  simpa using h

namespace FileTree

/-! ## Places -/

theorem lookup_cons_if (place other : Place) (n : Node) (rest : List (Place × Node)) :
    ((place, n) :: rest).lookup other = if other = place then some n else rest.lookup other := by
  rw [List.lookup_cons]
  by_cases h : other = place
  · simp only [h, beq_self_eq_true, if_true]
  · simp only [beq_false_of_ne h, if_neg h]

theorem lookup_replace (place other : Place) (n : Node) (nodes : List (Place × Node)) :
    (nodes.map fun p => if p.1 == place then (place, n) else p).lookup other =
      if other = place then (if nodes.any (·.1 == place) then some n else none)
      else nodes.lookup other := by
  induction nodes with
  | nil => simp
  | cons p rest ih =>
    obtain ⟨q, m⟩ := p
    rw [List.map_cons, List.any_cons, lookup_cons_if]
    by_cases hq : q = place
    · subst hq
      rw [if_pos (beq_self_eq_true _), lookup_cons_if, ih]
      by_cases ho : other = q
      · simp only [ho, if_true, beq_self_eq_true, Bool.true_or]
      · simp only [if_neg ho]
    · have hqb : (q == place) = false := beq_false_of_ne hq
      simp only [hqb, Bool.false_or, Bool.false_eq_true, if_false]
      rw [lookup_cons_if, ih]
      by_cases ho : other = place
      · subst ho
        simp only [if_neg (Ne.symm hq), if_true]
      · simp only [if_neg ho]

theorem lookup_set (t : FileTree) (place other : Place) (n : Node) :
    (t.set place n).nodes.lookup other =
      if other = place then some n else t.nodes.lookup other := by
  unfold set
  by_cases hany : t.nodes.any (·.1 == place) = true
  · rw [if_pos hany]
    dsimp only
    rw [lookup_replace, if_pos hany]
  · have hnone : t.nodes.lookup place = none := by
      rw [List.lookup_eq_none_iff]
      intro p hp
      simp only [List.any_eq_true, not_exists, not_and] at hany
      exact bne_iff_ne.mpr fun e => hany p hp (beq_iff_eq.mpr e.symm)
    rw [if_neg hany]
    dsimp only
    rw [List.lookup_append, lookup_cons_if]
    by_cases ho : other = place
    · rw [ho, hnone, if_pos rfl, if_pos rfl]
      rfl
    · rw [if_neg ho, if_neg ho, List.lookup_nil, Option.or_none]

theorem at?_set_of_ne (t : FileTree) {place other : Place} (n : Node) (h : other ≠ place) :
    (t.set place n).at? other = t.at? other := by
  rw [at?, at?, lookup_set, if_neg h]

theorem at?_set_self (t : FileTree) {place : Place} (n : Node)
    (h : t.at? place ≠ some .directory) : (t.set place n).at? place = some n := by
  have hup : ¬ place.parts.all (· == "..") = true := by
    intro hall
    rw [at?, if_pos hall] at h
    exact h rfl
  rw [at?, if_neg hup, lookup_set, if_pos rfl]

/-! ## Trees with more in them -/

/-- Whatever is in the first tree is in the second one too. -/
def Extends (t t' : FileTree) : Prop := ∀ place n, t.at? place = some n → t'.at? place = some n

section
variable {t t' : FileTree}

theorem step_of_directories (h : ∀ place, t.at? place = some .directory →
    t'.at? place = some .directory) {place next : Place} {part : String}
    (hs : t.step place part = .ok next) : t'.step place part = .ok next := by
  unfold step at hs ⊢
  split at hs
  · cases hs
  · cases hs
  · rename_i hd
    rw [h place hd]
    exact hs

theorem follow_of_directories (h : ∀ place, t.at? place = some .directory →
    t'.at? place = some .directory) {p : Path} {place : Place}
    (hf : t.follow p = .ok place) : t'.follow p = .ok place := by
  have hfold : ∀ (parts : List String) (start : Place), parts.foldlM t.step start = .ok place →
      parts.foldlM t'.step start = .ok place := by
    intro parts
    induction parts with
    | nil => exact fun _ hs => hs
    | cons part rest ih =>
      intro start hs
      rw [List.foldlM_cons] at hs ⊢
      cases hn : t.step start part with
      | error e => simp [hn, bind, Except.bind] at hs
      | ok next =>
        rw [step_of_directories h hn]
        rw [hn] at hs
        exact ih next hs
  unfold follow at hf ⊢
  split at hf
  · cases hf
  · split at hf
    · cases hf
    · rename_i hnull hlong
      rw [if_neg hnull, if_neg hlong]
      exact hfold _ _ hf

theorem Extends.read (h : Extends t t') {p : Path} {bytes : List UInt8}
    (hr : t.read p = .ok bytes) : t'.read p = .ok bytes := by
  unfold FileTree.read node at hr ⊢
  cases hf : t.follow p with
  | error e => simp [hf] at hr
  | ok place =>
    rw [follow_of_directories (fun q hq => h q _ hq) hf]
    rw [hf] at hr
    dsimp only at hr ⊢
    cases ha : t.at? place with
    | none => simp [ha] at hr
    | some n =>
      rw [h place n ha]
      simpa [ha] using hr

theorem makeDirectory_extends {isLast : Bool} {p : Path}
    (h : makeDirectory isLast t p = .ok t') : Extends t t' := by
  unfold makeDirectory at h
  split at h
  · cases h
  · split at h
    · cases h
      exact fun _ _ hn => hn
    · cases h
    · rename_i place _ hnone
      cases h
      intro other n hn
      rw [at?_set_of_ne t _ fun e => ?_, hn]
      rw [e, hnone] at hn
      cases hn

theorem makeDirectories_extends {p : Path} (h : t.makeDirectories p = .ok t') : Extends t t' := by
  unfold makeDirectories at h
  generalize List.range p.parts.length = depths at h
  induction depths generalizing t with
  | nil =>
    cases h
    exact fun _ _ hn => hn
  | cons depth rest ih =>
    rw [List.foldlM_cons] at h
    cases hm : makeDirectory (depth + 1 == p.parts.length) t ⟨p.root, p.parts.take (depth + 1)⟩ with
    | error e => simp [hm, bind, Except.bind] at h
    | ok next =>
      rw [hm] at h
      exact fun q n hn => ih h q n (makeDirectory_extends hm q n hn)

end

/-! ## Files of one directory -/

section
variable {t t' : FileTree} {directory : Path} {bytes : List UInt8} {s : String}

theorem write_eq {p : Path} (h : t.write p bytes = .ok t') :
    ∃ place, t.follow p = .ok place ∧ t.at? place ≠ some .directory ∧
      t' = t.set place (.file bytes) := by
  unfold write at h
  split at h
  · cases h
  · rename_i place hf
    split at h
    · cases h
    · rename_i hd
      cases h
      exact ⟨place, hf, hd, rfl⟩

/-- Writing where there is no directory changes no way to a place. -/
theorem follow_set {p : Path} {place q : Place} (n : Node) (h : t.at? q ≠ some .directory)
    (hf : t.follow p = .ok place) : (t.set q n).follow p = .ok place := by
  refine follow_of_directories (fun other ho => ?_) hf
  have hne : other ≠ q := fun e => h (e ▸ ho)
  rw [at?_set_of_ne t n hne, ho]

/-- The place of a file ends in its name. -/
theorem follow_file (hs : s ≠ "..") {place : Place}
    (h : t.follow ⟨directory.root, directory.parts ++ [s]⟩ = .ok place) :
    place.parts.getLast? = some s := by
  unfold follow at h
  split at h
  · cases h
  · split at h
    · cases h
    · dsimp only at h
      rw [List.foldlM_append] at h
      cases hd : directory.parts.foldlM t.step { absolute := directory.root != "" } with
      | error e => simp [hd, bind, Except.bind] at h
      | ok top =>
        simp only [hd, bind, Except.bind, List.foldlM_cons, List.foldlM_nil] at h
        cases hn : t.step top s with
        | error e => simp [hn] at h
        | ok next =>
          rw [hn] at h
          cases h
          unfold step at hn
          split at hn
          · cases hn
          · cases hn
          · rw [if_neg (by simpa using hs)] at hn
            split at hn
            · cases hn
            · cases hn
              simp

theorem read_write_self {p : Path} (h : t.write p bytes = .ok t') : t'.read p = .ok bytes := by
  obtain ⟨place, hf, hd, rfl⟩ := write_eq h
  rw [read, node, follow_set _ hd hf]
  dsimp only
  rw [at?_set_self t _ hd]

/-- Files beside the one that is written stay as they are. -/
theorem read_write_beside {s' : String} (hs : s ≠ "..") (hs' : s' ≠ "..") (hne : s' ≠ s)
    (h : t.write ⟨directory.root, directory.parts ++ [s]⟩ bytes = .ok t') {old : List UInt8}
    (hr : t.read ⟨directory.root, directory.parts ++ [s']⟩ = .ok old) :
    t'.read ⟨directory.root, directory.parts ++ [s']⟩ = .ok old := by
  obtain ⟨place, hf, hd, rfl⟩ := write_eq h
  have hlast := follow_file hs hf
  unfold FileTree.read node at hr ⊢
  cases ho : t.follow ⟨directory.root, directory.parts ++ [s']⟩ with
  | error e => simp [ho] at hr
  | ok other =>
    have hlast' := follow_file hs' ho
    have hplace : other ≠ place := by
      intro e
      rw [e, hlast] at hlast'
      exact hne (Option.some.inj hlast').symm
    rw [follow_set _ hd ho]
    dsimp only
    rw [at?_set_of_ne t _ hplace]
    simpa [ho] using hr

theorem put_eq {p : Path} (h : t.put p bytes = .ok t') :
    ∃ made, Extends t made ∧ made.write p bytes = .ok t' := by
  unfold put at h
  cases hm : t.makeDirectories p.parent with
  | error e => simp [hm, bind, Except.bind] at h
  | ok made =>
    simp only [hm, bind, Except.bind] at h
    exact ⟨made, makeDirectories_extends hm, h⟩

theorem read_put_self {p : Path} (h : t.put p bytes = .ok t') : t'.read p = .ok bytes := by
  obtain ⟨made, _, hw⟩ := put_eq h
  exact read_write_self hw

theorem read_put_beside {s' : String} (hs : IsFileName s) (hs' : IsFileName s') (hne : s' ≠ s)
    (h : t.put (directory ++ Path.ofString s) bytes = .ok t') {old : List UInt8}
    (hr : t.read (directory ++ Path.ofString s') = .ok old) :
    t'.read (directory ++ Path.ofString s') = .ok old := by
  obtain ⟨made, hext, hw⟩ := put_eq h
  rw [Path.append_ofString hs] at hw
  rw [Path.append_ofString hs'] at hr ⊢
  exact read_write_beside hs.ne_up hs'.ne_up hne hw (hext.read hr)

end

end FileTree
end DocSite
