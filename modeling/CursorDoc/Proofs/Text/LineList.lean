import CursorDoc.Proofs.Text.Lines

/-!
# Lists of lines

Which lists are the lines of a text can be told from their elements, without
cutting a text. On these lists cutting and joining undo each other, so a text
and its lines are the same data, whatever else than newlines the lines hold.
-/

namespace CursorDoc.Text

structure AreLines (lines : List Text) : Prop where
  ne_nil : ∀ line ∈ lines, line ≠ []
  ended : ∀ line ∈ lines.dropLast, line.getLast? = some '\n'
  single : ∀ line ∈ lines, '\n' ∉ line.dropLast

theorem isTerminated_iff {line : Text} : IsTerminated line ↔ line.getLast? = some '\n' ∧ '\n' ∉ line.dropLast := by
  constructor
  · rintro ⟨t, ht, rfl⟩
    rw [List.getLast?_concat, List.dropLast_concat]
    exact ⟨rfl, ht⟩
  · rintro ⟨hlast, hn⟩
    obtain ⟨t, rfl⟩ := List.getLast?_eq_some_iff.mp hlast
    rw [List.dropLast_concat] at hn
    exact ⟨t, hn, rfl⟩

theorem areLines_nil : AreLines [] := ⟨nofun, nofun, nofun⟩

theorem areLines_cons_iff {line : Text} {lines : List Text} (h : lines ≠ []) :
    AreLines (line :: lines) ↔ IsTerminated line ∧ AreLines lines := by
  have hdrop : (line :: lines).dropLast = line :: lines.dropLast := List.dropLast_cons_of_ne_nil h
  constructor
  · rintro ⟨hne, hended, hsingle⟩
    rw [hdrop, List.forall_mem_cons] at hended
    rw [List.forall_mem_cons] at hne hsingle
    exact ⟨isTerminated_iff.mpr ⟨hended.1, hsingle.1⟩, hne.2, hended.2, hsingle.2⟩
  · rintro ⟨hline, hne, hended, hsingle⟩
    obtain ⟨hlast, hn⟩ := isTerminated_iff.mp hline
    refine ⟨List.forall_mem_cons.mpr ⟨?_, hne⟩, ?_, List.forall_mem_cons.mpr ⟨hn, hsingle⟩⟩
    · rintro rfl
      cases hlast
    · rw [hdrop]
      exact List.forall_mem_cons.mpr ⟨hlast, hended⟩

/-- The last line of a text ends in its only newline or has none. -/
theorem areLines_singleton_iff {line : Text} :
    AreLines [line] ↔ IsTerminated line ∨ (line ≠ [] ∧ '\n' ∉ line) := by
  constructor
  · rintro ⟨hne, -, hsingle⟩
    have hne := hne line (List.mem_singleton_self line)
    have hsingle := hsingle line (List.mem_singleton_self line)
    obtain ⟨init, last, rfl⟩ : ∃ init last, line = init ++ [last] :=
      ⟨_, _, (List.dropLast_concat_getLast hne).symm⟩
    rw [List.dropLast_concat] at hsingle
    by_cases hlast : last = '\n'
    · exact .inl ⟨init, hsingle, by rw [hlast]⟩
    · exact .inr ⟨hne, by simp [hsingle, Ne.symm hlast]⟩
  · rintro (⟨t, ht, rfl⟩ | ⟨hne, hn⟩)
    · exact ⟨by simp, nofun, by simpa using ht⟩
    · refine ⟨by simpa using hne, nofun, ?_⟩
      rw [List.forall_mem_singleton]
      exact fun hm => hn ((List.dropLast_sublist line).subset hm)

theorem isSplit_iff_areLines : ∀ {lines : List Text}, IsSplit lines ↔ AreLines lines
  | [] => iff_of_true .nil areLines_nil
  | [line] => by
    rw [isSplit_cons_iff, areLines_singleton_iff, or_comm]
    simp [IsSplit.nil]
  | line :: next :: lines => by
    rw [isSplit_cons_iff, areLines_cons_iff (List.cons_ne_nil next lines), @isSplit_iff_areLines (next :: lines)]
    simp

/-- **A text and its lines are the same data.** The lines of a text joined give the text, and every list of lines is
that of its text. Plain lines are read back from a body, and lines that were read stay as they are. -/
theorem splitLines_inverse :
    (∀ t : Text, (splitLines t).flatten = t ∧ AreLines (splitLines t)) ∧
      (∀ lines : List Text, AreLines lines → splitLines lines.flatten = lines) ∧
      (∀ lines : List Text, (∀ line ∈ lines, '\n' ∉ line ∧ line.getLast? ≠ some '\r') →
        (Buffer.text (joinBody lines)).asLines = lines) ∧
      ∀ lines : List Text, (Buffer.lines (Buffer.lines lines).asLines).asLines = (Buffer.lines lines).asLines := by
  refine ⟨fun t => ⟨flatten_splitLines t, isSplit_iff_areLines.mp (isSplit_splitLines t)⟩,
    fun lines h => splitLines_flatten (isSplit_iff_areLines.mpr h), fun lines h => ?_, fun lines => ?_⟩
  · apply asLines_joinBody fun line hm => (h line hm).1
    intro line hm
    exact stripLineEnd_of_lineEnd_eq_nil (lineEnd_eq_nil_of_not_mem (h line hm).1 (h line hm).2)
  · apply map_stripLineEnd_of_plain
    intro plain hm
    obtain ⟨line, -, rfl⟩ := List.mem_map.mp hm
    exact stripLineEnd_stripLineEnd line

/-- Carriage returns, form feeds and line separators stay inside their lines. -/
theorem splitLines_inverse_open_line :
    let lines : List Text := [['a', '\r', '\n'], ['\n'], ['\x0c', '\u2028', 'b', '\r']]
    let plain : List Text := [['\r', 'a'], [], ['\x0c', '\u2028', 'b']]
    AreLines lines ∧ splitLines lines.flatten = lines ∧
      (∀ line ∈ plain, '\n' ∉ line ∧ line.getLast? ≠ some '\r') ∧ (Buffer.text (joinBody plain)).asLines = plain := by
  intro lines plain
  obtain ⟨-, hsplit, hbody, -⟩ := splitLines_inverse
  have hlines : AreLines lines := ⟨by decide, by decide, by decide⟩
  have hplain : ∀ line ∈ plain, '\n' ∉ line ∧ line.getLast? ≠ some '\r' := by decide
  exact ⟨hlines, hsplit lines hlines, hplain, hbody plain hplain⟩

end CursorDoc.Text
