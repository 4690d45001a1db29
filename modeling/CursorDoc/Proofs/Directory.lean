import CursorDoc.Directory

/-!
# Writing to files

Writing to a path that leads to a file changes that file and nothing else: all
other entries stay, and no directory is made on the way. The steps of a path
are followed by `placeFrom`, which is where `walk` ends if it ends at a file.
-/

namespace CursorDoc.Directory

def stepFrom (place : List Text) (part : Text) : List Text :=
  if part = ['.', '.'] then place.dropLast else place ++ [part]

def placeFrom (place : List Text) (parts : List Text) : List Text := parts.foldl stepFrom place

variable {directory : Directory} {content old : Bytes} {entry : Entry}

/-! ## Entries -/

theorem lookup?_insert {place target : List Text} (ht : target ≠ []) :
    Directory.lookup? (Dictionary.insert directory target entry) place =
      if place = target then some entry else directory.lookup? place := by
  cases place with
  | nil => exact (if_neg (Ne.symm ht)).symm
  | cons part place =>
    change Dictionary.find? (Dictionary.insert directory target entry) (part :: place) =
      if part :: place = target then some entry else Dictionary.find? directory (part :: place)
    rw [Dictionary.find?_insert]
    by_cases h : target = part :: place
    · rw [if_pos (beq_iff_eq.mpr h), if_pos h.symm]
    · rw [if_neg (by simpa using h), if_neg (Ne.symm h)]

theorem makeParents_eq_self {parts : List Text}
    (h : ∀ n < parts.length, directory.lookup? (parts.take n) = some .directory) :
    directory.makeParents parts = directory := by
  have hfold : ∀ places : List (List Text), (∀ place ∈ places, (directory.lookup? place).isSome = true) →
      places.foldl (fun directory place =>
        if (directory.lookup? place).isSome then directory
        else Dictionary.insert directory place .directory) directory = directory := by
    intro places hp
    induction places with
    | nil => rfl
    | cons place places ih =>
      rw [List.foldl_cons, if_pos (hp place (List.mem_cons_self ..))]
      exact ih fun place hm => hp place (List.mem_cons_of_mem _ hm)
  refine hfold _ fun place hm => ?_
  obtain ⟨n, hn, rfl⟩ := List.mem_map.mp hm
  rw [h n (List.mem_range.mp (List.mem_of_mem_tail hn))]
  rfl

/-! ## Walks that end at a file -/

theorem walk_outside_ne_file {parts : List Text} : directory.walk none parts ≠ .ok (.file content) := by
  induction parts with
  | nil => simp [walk]
  | cons part rest ih =>
    rw [walk]
    split
    · exact ih
    · simp

theorem walk_cons_file {place : List Text} {part : Text} {rest : List Text}
    (h : directory.walk (some place) (part :: rest) = .ok (.file content)) :
    directory.lookup? place = some .directory ∧
      directory.walk (some (stepFrom place part)) rest = .ok (.file content) := by
  rw [walk] at h
  unfold stepFrom
  cases hp : directory.lookup? place with
  | none => simp [hp] at h
  | some entry =>
    cases entry with
    | file _ => simp [hp] at h
    | directory =>
      refine ⟨rfl, ?_⟩
      simp only [hp] at h
      by_cases hup : part = ['.', '.']
      · rw [if_pos hup] at h
        by_cases hroot : place.isEmpty = true
        · rw [if_pos hroot] at h
          exact absurd h walk_outside_ne_file
        · rw [if_neg hroot] at h
          rwa [if_pos hup]
      · rw [if_neg hup] at h
        split at h
        · cases h
        · rwa [if_neg hup]

theorem lookup?_of_walk {place parts : List Text} (h : directory.walk (some place) parts = .ok (.file content)) :
    directory.lookup? (placeFrom place parts) = some (.file content) := by
  induction parts generalizing place with
  | nil =>
    rw [walk] at h
    cases hp : directory.lookup? place with
    | none => simp [hp] at h
    | some entry =>
      simp only [hp, Except.ok.injEq] at h
      rw [← h]
      exact hp
  | cons part rest ih => exact ih (walk_cons_file h).2

theorem isDirectory_of_walk {place parts : List Text}
    (h : directory.walk (some place) parts = .ok (.file content))
    (hp : ∀ n < place.length, directory.lookup? (place.take n) = some .directory) :
    ∀ n < (placeFrom place parts).length, directory.lookup? ((placeFrom place parts).take n) = some .directory := by
  induction parts generalizing place with
  | nil => exact hp
  | cons part rest ih =>
    obtain ⟨hplace, hrest⟩ := walk_cons_file h
    have hall : ∀ k ≤ place.length, directory.lookup? (place.take k) = some .directory := by
      intro k hk
      rcases Nat.lt_or_eq_of_le hk with hlt | rfl
      · exact hp k hlt
      · rwa [List.take_length]
    refine ih hrest fun n hn => ?_
    unfold stepFrom at hn ⊢
    split at hn
    · next hup =>
      rw [List.length_dropLast] at hn
      rw [if_pos hup, List.dropLast_eq_take, List.take_take, Nat.min_eq_left (by omega)]
      exact hall n (by omega)
    · next hup =>
      rw [List.length_append, List.length_singleton] at hn
      rw [if_neg hup, List.take_append_of_le_length (by omega)]
      exact hall n (by omega)

/-! ## Writing -/

section
variable {path : Path} (h : directory.view path = .ok (.file old))
include h

theorem walk_of_view : directory.walk (some []) path.parts = .ok (.file old) := by
  unfold view at h
  split at h
  · cases h
  split at h
  · cases h
  split at h
  · exact h
  · exact absurd h walk_outside_ne_file

theorem lookup?_placeOf : directory.lookup? (placeOf path.parts) = some (.file old) :=
  lookup?_of_walk (walk_of_view h)

/-- Only the file that the path leads to is written to. -/
theorem lookup?_write (place : List Text) :
    (directory.write path content).lookup? place =
      if place = placeOf path.parts then some (.file content) else directory.lookup? place := by
  have hplace := lookup?_placeOf h
  have hne : placeOf path.parts ≠ [] := by
    intro hnil
    rw [hnil] at hplace
    simp [lookup?] at hplace
  unfold write put
  rw [if_neg (by simpa using hne), makeParents_eq_self, lookup?_insert hne]
  exact isDirectory_of_walk (walk_of_view h) (by simp)

end

/-! ## What is seen after writing -/

def renew (content : Bytes) (here : Prop) [Decidable here] : Except FileError Entry → Except FileError Entry
  | .ok (.file shown) => .ok (.file (if here then content else shown))
  | result => result

theorem walk_outside (other : Directory) (parts : List Text) : directory.walk none parts = other.walk none parts := by
  induction parts with
  | nil => rfl
  | cons part rest ih => rw [walk, walk, ih]

theorem renew_walk_outside (here : Prop) [Decidable here] (parts : List Text) :
    renew content here (directory.walk none parts) = directory.walk none parts := by
  cases hw : directory.walk none parts with
  | error error => rfl
  | ok entry =>
    cases entry with
    | directory => rfl
    | file shown => exact absurd hw walk_outside_ne_file

theorem walk_of_lookup? {written : Directory} {target : List Text}
    (hold : directory.lookup? target = some (.file old))
    (hnew : ∀ place, written.lookup? place = if place = target then some (.file content) else directory.lookup? place)
    (place parts : List Text) :
    written.walk (some place) parts =
      renew content (placeFrom place parts = target) (directory.walk (some place) parts) := by
  induction parts generalizing place with
  | nil =>
    rw [walk, walk, hnew]
    by_cases hp : place = target
    · rw [if_pos hp, hp, hold]
      exact congrArg (fun b => Except.ok (Entry.file b)) (if_pos rfl).symm
    · rw [if_neg hp]
      rcases directory.lookup? place with - | ⟨shown⟩ | -
      · rfl
      · exact congrArg (fun b => Except.ok (Entry.file b)) (if_neg hp).symm
      · rfl
  | cons part rest ih =>
    rw [walk, walk, hnew]
    by_cases hp : place = target
    · rw [if_pos hp, hp, hold]
      rfl
    · rw [if_neg hp]
      rcases directory.lookup? place with - | ⟨shown⟩ | -
      · rfl
      · rfl
      · have hplace : placeFrom place (part :: rest) = placeFrom (stepFrom place part) rest := rfl
        unfold stepFrom at hplace
        dsimp only
        by_cases hup : part = ['.', '.']
        · rw [if_pos hup, if_pos hup]
          rw [if_pos hup] at hplace
          by_cases hroot : place.isEmpty = true
          · rw [if_pos hroot, walk_outside directory, renew_walk_outside]
          · rw [if_neg hroot, ih, hplace]
        · rw [if_neg hup, if_neg hup]
          rw [if_neg hup] at hplace
          split
          · rfl
          · rw [ih, hplace]

/-- What was written is seen under every path that leads to the file; all other paths show what they showed. -/
theorem view_write {path : Path} (h : directory.view path = .ok (.file old)) (other : Path) :
    (directory.write path content).view other =
      renew content (placeOf other.parts = placeOf path.parts) (directory.view other) := by
  unfold view
  split
  · rfl
  split
  · rfl
  split
  · exact walk_of_lookup? (lookup?_placeOf h) (lookup?_write h) [] other.parts
  · rw [walk_outside directory, renew_walk_outside]

end CursorDoc.Directory
