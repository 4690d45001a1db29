import CursorDoc.Proofs.Text.Lines

/-!
# Newlines behind carriage returns

Texts whose lines end in a carriage return and a newline. Putting a carriage
return in front of every newline moves no cut between lines and changes no
line but for its terminator. Whether every newline of a text has one can be
told line by line.
-/

namespace CursorDoc.Text

def crlf (t : Text) : Text := t.flatMap fun c => if c = '\n' then ['\r', '\n'] else [c]

def IsCrlf (t : Text) : Prop := ∀ front back : Text, t = front ++ '\n' :: back → front.getLast? = some '\r'

/-! ## Carriage returns put in -/

theorem crlf_append (t u : Text) : crlf (t ++ u) = crlf t ++ crlf u := List.flatMap_append

theorem crlf_flatten (lines : List Text) : crlf lines.flatten = (lines.map crlf).flatten := by
  induction lines with
  | nil => rfl
  | cons line lines ih => rw [List.flatten_cons, crlf_append, ih, List.map_cons, List.flatten_cons]

theorem crlf_of_not_mem : ∀ {t : Text}, '\n' ∉ t → crlf t = t
  | [], _ => rfl
  | c :: t, hn => by
    have hc : c ≠ '\n' := fun e => hn (by simp [e])
    have ht : '\n' ∉ t := fun m => hn (List.mem_cons_of_mem c m)
    have ih : crlf t = t := crlf_of_not_mem ht
    rw [← List.singleton_append, crlf_append, ih]
    simp [crlf, hc]

theorem crlf_newline {t : Text} (hn : '\n' ∉ t) : crlf (t ++ ['\n']) = t ++ ['\r', '\n'] := by
  rw [crlf_append, crlf_of_not_mem hn]
  rfl

theorem IsTerminated.crlf {line : Text} (h : IsTerminated line) : IsTerminated (crlf line) := by
  obtain ⟨t, ht, rfl⟩ := h
  exact ⟨t ++ ['\r'], by simpa using ht, by rw [crlf_newline ht]; simp⟩

theorem IsSplit.crlf {lines : List Text} (h : IsSplit lines) : IsSplit (lines.map Text.crlf) := by
  induction h with
  | nil => exact .nil
  | last hne hn =>
    rw [List.map_singleton, crlf_of_not_mem hn]
    exact .last hne hn
  | cons hl _ ih => exact .cons hl.crlf ih

theorem splitLines_crlf (t : Text) : splitLines (crlf t) = (splitLines t).map crlf := by
  rw [← splitLines_flatten (isSplit_splitLines t).crlf, ← crlf_flatten, flatten_splitLines]

section
variable {line : Text} (h : IsTerminated line ∨ '\n' ∉ line)
include h

theorem stripLineEnd_crlf : stripLineEnd (crlf line) = stripLineEnd line := by
  cases h with
  | inl h =>
    obtain ⟨t, ht, rfl⟩ := h
    rw [crlf_newline ht, stripLineEnd_append (by simp [isLineEnd]), stripLineEnd_append (by simp [isLineEnd])]
  | inr hn => rw [crlf_of_not_mem hn]

theorem lineEnd_crlf : lineEnd (crlf line) = crlf (lineEnd line) := by
  have hlines : stripLineEnd line ++ lineEnd (crlf line) = stripLineEnd line ++ crlf (lineEnd line) := calc
    _ = crlf line := by rw [← stripLineEnd_crlf h, stripLineEnd_append_lineEnd]
    _ = crlf (stripLineEnd line) ++ crlf (lineEnd line) := by rw [← crlf_append, stripLineEnd_append_lineEnd]
    _ = stripLineEnd line ++ crlf (lineEnd line) := by rw [crlf_of_not_mem (newline_not_mem_stripLineEnd h)]
  exact List.append_cancel_left hlines

end

theorem map_stripLineEnd_crlf {lines : List Text} (h : IsSplit lines) :
    (lines.map crlf).map stripLineEnd = lines.map stripLineEnd := by
  rw [List.map_map]
  apply List.map_congr_left
  intro line hm
  exact stripLineEnd_crlf (h.terminated_or line hm)

/-! ## Carriage returns that are there -/

theorem isCrlf_append_iff {t u : Text} : IsCrlf (t ++ u) ↔
    IsCrlf t ∧ ∀ front back : Text, u = front ++ '\n' :: back → (t ++ front).getLast? = some '\r' := by
  constructor
  · intro h
    constructor
    · rintro front back rfl
      exact h front (back ++ u) (by simp)
    · rintro front back rfl
      exact h (t ++ front) back (by simp)
  · rintro ⟨ht, hu⟩ front back heq
    obtain ⟨rest, rfl, hrest⟩ | ⟨rest, hfront, hrest⟩ := List.append_eq_append_iff.mp heq
    · exact hu rest back hrest
    · cases rest with
      | nil =>
        rw [List.append_nil] at hfront
        have hlast := hu [] back hrest.symm
        rwa [hfront, List.append_nil] at hlast
      | cons c rest =>
        obtain ⟨rfl, -⟩ := List.cons.inj hrest
        exact ht front rest hfront

theorem IsCrlf.append {t u : Text} (ht : IsCrlf t) (hu : IsCrlf u) : IsCrlf (t ++ u) := by
  refine isCrlf_append_iff.mpr ⟨ht, fun front back heq => ?_⟩
  rw [List.getLast?_append, hu front back heq]
  rfl

theorem IsCrlf.of_append {t u : Text} (h : IsCrlf (t ++ u)) (ht : t.getLast? ≠ some '\r') : IsCrlf u := by
  intro front back heq
  have hlast := (isCrlf_append_iff.mp h).2 front back heq
  cases hf : front.getLast? with
  | none =>
    rw [List.getLast?_eq_none_iff.mp hf, List.append_nil] at hlast
    exact absurd hlast ht
  | some c =>
    rw [List.getLast?_append, hf] at hlast
    exact hlast

theorem isCrlf_of_not_mem {t : Text} (hn : '\n' ∉ t) : IsCrlf t := by
  rintro front back rfl
  exact absurd (by simp) hn

theorem isCrlf_newline_iff {t : Text} (hn : '\n' ∉ t) : IsCrlf (t ++ ['\n']) ↔ t.getLast? = some '\r' := by
  constructor
  · intro h
    exact h t [] rfl
  · intro h
    refine isCrlf_append_iff.mpr ⟨isCrlf_of_not_mem hn, fun front back heq => ?_⟩
    cases front with
    | nil => rwa [List.append_nil]
    | cons c front => simp at heq

theorem isCrlf_flatten {lines : List Text} (h : ∀ line ∈ lines, IsCrlf line) : IsCrlf lines.flatten := by
  induction lines with
  | nil => exact isCrlf_of_not_mem (by simp)
  | cons line lines ih =>
    rw [List.flatten_cons]
    exact (h line (by simp)).append (ih fun l hl => h l (List.mem_cons_of_mem _ hl))

theorem IsSplit.isCrlf_iff {lines : List Text} (hs : IsSplit lines) :
    IsCrlf lines.flatten ↔ ∀ line ∈ lines, IsCrlf line := by
  constructor
  · intro h
    induction hs with
    | nil => simp
    | last _ _ => simpa using h
    | cons hl _ ih =>
      rw [List.flatten_cons] at h
      have hbelow := ih (h.of_append (getLast?_ne_return hl))
      intro line hm
      cases hm with
      | head => exact (isCrlf_append_iff.mp h).1
      | tail _ hm => exact hbelow line hm
  · exact isCrlf_flatten

theorem isCrlf_iff_splitLines {t : Text} : IsCrlf t ↔ ∀ line ∈ splitLines t, IsCrlf line := by
  rw [← (isSplit_splitLines t).isCrlf_iff, flatten_splitLines]

theorem isCrlf_line_iff {line : Text} (h : IsTerminated line ∨ '\n' ∉ line) :
    IsCrlf line ↔ '\n' ∈ line → line.dropLast.getLast? = some '\r' := by
  cases h with
  | inl h =>
    obtain ⟨t, ht, rfl⟩ := h
    simp [isCrlf_newline_iff ht]
  | inr hn => simp [isCrlf_of_not_mem hn, hn]

instance (t : Text) : Decidable (IsCrlf t) :=
  decidable_of_iff (∀ line ∈ splitLines t, '\n' ∈ line → line.dropLast.getLast? = some '\r') <| by
    rw [isCrlf_iff_splitLines]
    exact forall₂_congr fun line hm => (isCrlf_line_iff ((isSplit_splitLines t).terminated_or line hm)).symm

end CursorDoc.Text
