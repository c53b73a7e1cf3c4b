import DocSite.Proofs.Files.Tree

/-! Trees that differ in some files. Directories are what paths are followed through; where they are
the same, a path leads to one place in both trees, and reading tells them apart only at the places
where they differ. -/
namespace DocSite.FileTree
set_option autoImplicit false

section
variable {t t' t'' : FileTree} {p : Path} {place : Place}

/-! ## Directories that stay -/

/-- The directories of the first tree are in the second one too. -/
def Keeps (t t' : FileTree) : Prop :=
  ∀ place, t.at? place = some .directory → t'.at? place = some .directory

theorem Keeps.refl (t : FileTree) : Keeps t t := fun _ h => h

theorem Keeps.trans (h : Keeps t t') (h' : Keeps t' t'') : Keeps t t'' :=
  fun place hd => h' place (h place hd)

theorem Extends.keeps (h : Extends t t') : Keeps t t' := fun place hd => h place _ hd

theorem keeps_set (h : t.at? place ≠ some .directory) (n : Node) : Keeps t (t.set place n) := by
  intro other hd
  have hne : other ≠ place := fun he => h (he ▸ hd)
  rw [at?_set_of_ne t n hne, hd]

theorem keeps_write {bytes : List UInt8} (h : t.write p bytes = .ok t') : Keeps t t' := by
  obtain ⟨place, _, hd, rfl⟩ := write_eq h
  exact keeps_set hd _

theorem write_of_follow {bytes : List UInt8} (hf : t.follow p = .ok place)
    (hd : t.at? place ≠ some .directory) : t.write p bytes = .ok (t.set place (.file bytes)) := by
  rw [write, hf]
  dsimp only
  split
  · rename_i he
    exact absurd he hd
  · rfl

theorem keeps_makeDirectories (h : t.makeDirectories p = .ok t') : Keeps t t' :=
  (makeDirectories_extends h).keeps

theorem keeps_put {bytes : List UInt8} (h : t.put p bytes = .ok t') : Keeps t t' := by
  obtain ⟨made, hext, hw⟩ := put_eq h
  exact hext.keeps.trans (keeps_write hw)

/-- A path leads to a directory. -/
def IsDirectoryAt (t : FileTree) (p : Path) : Prop :=
  ∃ place, t.follow p = .ok place ∧ t.at? place = some .directory

theorem IsDirectoryAt.keeps (h : t.IsDirectoryAt p) (hk : Keeps t t') : t'.IsDirectoryAt p := by
  obtain ⟨place, hf, hd⟩ := h
  exact ⟨place, follow_of_directories hk hf, hk place hd⟩

/-- A path and all that is above it lead to directories. -/
def HasDirectories (t : FileTree) (p : Path) : Prop :=
  ∀ depth < p.parts.length, t.IsDirectoryAt ⟨p.root, p.parts.take (depth + 1)⟩

theorem HasDirectories.keeps (h : t.HasDirectories p) (hk : Keeps t t') : t'.HasDirectories p :=
  fun depth hd => (h depth hd).keeps hk

theorem isDirectoryAt_makeDirectory {isLast : Bool} (h : makeDirectory isLast t p = .ok t') :
    t'.IsDirectoryAt p := by
  unfold makeDirectory at h
  split at h
  · cases h
  · rename_i place hf
    split at h
    · rename_i hd
      cases h
      exact ⟨place, hf, hd⟩
    · cases h
    · rename_i hnone
      cases h
      have hd : t.at? place ≠ some .directory := by rw [hnone]; exact nofun
      exact ⟨place, follow_of_directories (keeps_set hd _) hf, at?_set_self t _ hd⟩

theorem makeDirectory_of_isDirectoryAt {isLast : Bool} (h : t.IsDirectoryAt p) :
    makeDirectory isLast t p = .ok t := by
  obtain ⟨place, hf, hd⟩ := h
  rw [makeDirectory, hf]
  dsimp only
  rw [hd]

/-- Making directories makes all of them. -/
theorem hasDirectories_of_makeDirectories (h : t.makeDirectories p = .ok t') :
    t'.HasDirectories p := by
  have hall : ∀ (depths : List Nat) (t : FileTree),
      depths.foldlM (fun t i =>
        makeDirectory (i + 1 == p.parts.length) t ⟨p.root, p.parts.take (i + 1)⟩) t = .ok t' →
      Extends t t' ∧ ∀ depth ∈ depths, t'.IsDirectoryAt ⟨p.root, p.parts.take (depth + 1)⟩ := by
    intro depths
    induction depths with
    | nil =>
      intro t h
      cases h
      exact ⟨fun _ _ hn => hn, fun _ hd => absurd hd List.not_mem_nil⟩
    | cons depth rest ih =>
      intro t h
      rw [List.foldlM_cons] at h
      cases hm : makeDirectory (depth + 1 == p.parts.length) t
          ⟨p.root, p.parts.take (depth + 1)⟩ with
      | error e => simp [hm, bind, Except.bind] at h
      | ok next =>
        rw [hm] at h
        obtain ⟨hext, hrest⟩ := ih next h
        refine ⟨fun q n hn => hext q n (makeDirectory_extends hm q n hn),
          List.forall_mem_cons.mpr ⟨?_, hrest⟩⟩
        exact (isDirectoryAt_makeDirectory hm).keeps hext.keeps
  exact fun depth hd => (hall _ t h).2 depth (List.mem_range.mpr hd)

/-- Where all directories are there, making them changes nothing. -/
theorem makeDirectories_of_hasDirectories (h : t.HasDirectories p) :
    t.makeDirectories p = .ok t := by
  unfold makeDirectories
  have hall : ∀ depths : List Nat, (∀ depth ∈ depths, depth < p.parts.length) →
      depths.foldlM (fun t i =>
        makeDirectory (i + 1 == p.parts.length) t ⟨p.root, p.parts.take (i + 1)⟩) t = .ok t := by
    intro depths
    induction depths with
    | nil => exact fun _ => rfl
    | cons depth rest ih =>
      intro hd
      obtain ⟨hfirst, hrest⟩ := List.forall_mem_cons.mp hd
      rw [List.foldlM_cons, makeDirectory_of_isDirectoryAt (h depth hfirst)]
      exact ih hrest
  exact hall _ fun depth hd => List.mem_range.mp hd

theorem put_of_hasDirectories {bytes : List UInt8} (h : t.HasDirectories p.parent) :
    t.put p bytes = t.write p bytes := by
  rw [put, makeDirectories_of_hasDirectories h]
  rfl

end

/-! ## Null bytes -/

def HasNull (p : Path) : Prop :=
  (p.parts.any fun part => part.toList.contains (Char.ofNat 0)) = true

section
variable {t t' : FileTree} {p : Path}

theorem step_ne_nullByte {place : Place} {part : String} :
    t.step place part ≠ .error .nullByte := by
  unfold step
  split
  · exact nofun
  · exact nofun
  · split
    · exact nofun
    · split <;> exact nofun

theorem follow_eq_nullByte_iff : t.follow p = .error .nullByte ↔ HasNull p := by
  have hfold : ∀ (parts : List String) (start : Place),
      parts.foldlM t.step start ≠ .error .nullByte := by
    intro parts
    induction parts with
    | nil => exact fun _ => nofun
    | cons part rest ih =>
      intro start h
      rw [List.foldlM_cons] at h
      cases hs : t.step start part with
      | error e =>
        rw [hs] at h
        cases h
        exact step_ne_nullByte hs
      | ok next =>
        rw [hs] at h
        exact ih next h
  unfold follow HasNull
  split
  · rename_i hnull
    exact ⟨fun _ => hnull, fun _ => rfl⟩
  · rename_i hnull
    refine ⟨fun h => ?_, fun h => absurd h hnull⟩
    split at h
    · cases h
    · exact absurd h (hfold _ _)

theorem read_eq_nullByte_iff : t.read p = .error .nullByte ↔ HasNull p := by
  rw [← follow_eq_nullByte_iff (t := t)]
  unfold FileTree.read node
  cases t.follow p with
  | error e => simp
  | ok place =>
    dsimp only
    cases t.at? place with
    | none => simp
    | some n => cases n <;> simp

end

/-! ## Trees that differ in some files -/

/-- Outside some places the trees hold the same, and they have the same directories. -/
structure Alike (lost : Place → Prop) (t t' : FileTree) : Prop where
  same : ∀ place, ¬ lost place → t'.at? place = t.at? place
  directories : ∀ place, t'.at? place = some .directory ↔ t.at? place = some .directory

section
variable {lost : Place → Prop} {t t' : FileTree} {p : Path} {place : Place}

theorem Alike.refl (lost : Place → Prop) (t : FileTree) : Alike lost t t :=
  ⟨fun _ _ => rfl, fun _ => Iff.rfl⟩

theorem Alike.keeps (h : Alike lost t t') : Keeps t t' := fun place => (h.directories place).mpr

/-- Paths lead to the same places. -/
theorem Alike.follow_iff (h : Alike lost t t') : t'.follow p = .ok place ↔ t.follow p = .ok place :=
  ⟨follow_of_directories fun place => (h.directories place).mp, follow_of_directories h.keeps⟩

/-- What is read is the same where the path does not lead to a place that differs. -/
theorem Alike.read (h : Alike lost t t') (hp : ∀ place, t.follow p = .ok place → ¬ lost place) :
    (t'.read p).toOption = (t.read p).toOption := by
  unfold FileTree.read node
  cases hf : t.follow p with
  | ok place =>
    rw [h.follow_iff.mpr hf]
    dsimp only
    rw [h.same place (hp place hf)]
  | error e =>
    cases hf' : t'.follow p with
    | ok place =>
      rw [h.follow_iff.mp hf'] at hf
      cases hf
    | error e' => rfl

/-- One file written in both trees. -/
theorem Alike.set (h : Alike lost t t') (hd : t.at? place ≠ some .directory)
    (bytes : List UInt8) : Alike lost (t.set place (.file bytes)) (t'.set place (.file bytes)) := by
  have hd' : t'.at? place ≠ some .directory := fun he => hd ((h.directories place).mp he)
  constructor
  · intro other hl
    by_cases he : other = place
    · rw [he, at?_set_self t _ hd, at?_set_self t' _ hd']
    · rw [at?_set_of_ne t _ he, at?_set_of_ne t' _ he, h.same other hl]
  · intro other
    by_cases he : other = place
    · rw [he, at?_set_self t _ hd, at?_set_self t' _ hd']
    · rw [at?_set_of_ne t _ he, at?_set_of_ne t' _ he]
      exact h.directories other

/-- A file written in one tree alone, at a place that may differ. -/
theorem Alike.set_left (h : Alike lost t t') (hl : lost place)
    (hd : t.at? place ≠ some .directory) (bytes : List UInt8) :
    Alike lost (t.set place (.file bytes)) t' := by
  constructor
  · intro other hother
    have hne : other ≠ place := fun he => hother (he ▸ hl)
    rw [at?_set_of_ne t _ hne, h.same other hother]
  · intro other
    by_cases he : other = place
    · rw [he, at?_set_self t _ hd, h.directories place]
      exact ⟨fun h => absurd h hd, nofun⟩
    · rw [at?_set_of_ne t _ he]
      exact h.directories other

end

end DocSite.FileTree
