import CursorDoc.Proofs.DocBlock
import CursorDoc.Proofs.Text.Lines
import CursorDoc.Splice

/-!
# Written blocks

What a documentation text becomes once it stands in a source: its normalised
lines, each behind the indentation of its place, each on a line of its own.
Trimmed, these lines are those of the documentation text, so a block keeps the
shape of a comment or of a documentation string at every place.
-/

namespace CursorDoc

open Text

/-- The lines of a documentation text without their margin; blank lines are empty. -/
def normalLines (doc : Text) : List Text := (blockLines doc).map fun line => if line.isBlank then [] else line

def behind (indent line : Text) : Text := if line.isBlank then [] else indent ++ line

def Family.isBlock (family : Family) (lines : List Text) : Bool :=
  if family.isIndented then isDocstring lines else isComment lines

/-! ## Terminators next to a header -/

theorem isLineEnd_of_mem_newlineOf {line : Text} : ∀ c ∈ newlineOf line, isLineEnd c = true := by
  unfold newlineOf
  split
  · simp [isLineEnd]
  · intro c hc
    exact isLineEnd_of_mem_lineEnd hc

theorem newlineOf_ne_nil (line : Text) : newlineOf line ≠ [] := by
  unfold newlineOf
  split
  · exact List.cons_ne_nil _ _
  · rename_i h
    exact h

theorem newlineOf_eq_newline {line : Text} (h : lineEnd line = []) : newlineOf line = ['\n'] := by
  unfold newlineOf
  rw [h]

theorem lineEnd_of_isTerminated {line : Text} (h : IsTerminated line) : IsTerminated (lineEnd line) := by
  obtain ⟨t, ht, rfl⟩ := h
  rw [lineEnd_append (by simp [isLineEnd])]
  refine ⟨lineEnd t, fun hm => ht ?_, rfl⟩
  rw [← stripLineEnd_append_lineEnd t]
  exact List.mem_append_right _ hm

theorem newlineOf_of_isTerminated {line : Text} (h : IsTerminated line) : newlineOf line = lineEnd line := by
  obtain ⟨t, -, ht⟩ := lineEnd_of_isTerminated h
  unfold newlineOf
  rw [ht]
  cases t <;> rfl

theorem isTerminated_or_lineEnd_eq_nil {line : Text} (h : IsTerminated line ∨ '\n' ∉ line)
    (hr : line.getLast? ≠ some '\r') : IsTerminated line ∨ lineEnd line = [] := by
  rcases h with h | hn
  · exact .inl h
  · exact .inr (lineEnd_eq_nil_of_not_mem hn hr)

section
variable {line : Text}

theorem isTerminated_newlineOf (h : IsTerminated line ∨ lineEnd line = []) : IsTerminated (newlineOf line) := by
  rcases h with h | h
  · rw [newlineOf_of_isTerminated h]
    exact lineEnd_of_isTerminated h
  · rw [newlineOf_eq_newline h]
    exact ⟨[], by simp, rfl⟩

theorem terminated_of_isTerminated (h : IsTerminated line) : terminated line = line := by
  obtain ⟨t, -, ht⟩ := lineEnd_of_isTerminated h
  unfold terminated
  rw [ht]
  simp

theorem stripLineEnd_terminated : stripLineEnd (terminated line) = stripLineEnd line := by
  unfold terminated
  split
  · exact stripLineEnd_append (by simp [isLineEnd]) line
  · rfl

theorem terminated_terminated : terminated (terminated line) = terminated line := by
  have hend : lineEnd (terminated line) = newlineOf line := by
    unfold terminated newlineOf
    split
    · rename_i h
      rw [lineEnd_append (by simp [isLineEnd]), List.isEmpty_iff.mp h]
      rfl
    · rename_i h
      cases hl : lineEnd line with
      | nil => exact absurd (by rw [hl]; rfl) h
      | cons c e => rfl
  have hne : (newlineOf line).isEmpty = false := List.isEmpty_eq_false_iff.mpr (newlineOf_ne_nil line)
  rw [terminated, hend, hne]
  rfl

theorem isTerminated_terminated (hn : IsTerminated line ∨ '\n' ∉ line) (h : IsTerminated line ∨ lineEnd line = []) :
    IsTerminated (terminated line) := by
  rcases h with h | h
  · rw [terminated_of_isTerminated h]
    exact h
  · rcases hn with hn | hn
    · rw [terminated_of_isTerminated hn]
      exact hn
    · unfold terminated
      rw [h]
      exact ⟨line, hn, rfl⟩

theorem newlineOf_terminated : newlineOf (terminated line) = newlineOf line := by
  unfold terminated
  split
  · rename_i h
    have hnil : lineEnd line = [] := List.isEmpty_iff.mp h
    unfold newlineOf
    rw [lineEnd_append (by simp [isLineEnd]), hnil]
    rfl
  · rfl

end

/-! ## The indentation of a body -/

theorem bodyIndent_cases (lines : List Text) (startLine endLine : Nat) :
    (∃ line ∈ lines, (lines.getD startLine []).indentWidth < line.indentWidth ∧
      bodyIndent lines startLine endLine = line.indentation) ∨
    bodyIndent lines startLine endLine = (lines.getD startLine []).indentation ++ defaultIndent := by
  unfold bodyIndent
  simp only
  split
  · rename_i line hfind
    have hmem := List.mem_of_mem_take (List.mem_of_mem_drop (List.mem_of_find?_eq_some hfind))
    have hdeep := List.find?_some hfind
    rw [Bool.and_eq_true, decide_eq_true_eq] at hdeep
    exact .inl ⟨line, hmem, hdeep.2, rfl⟩
  · exact .inr rfl

theorem isBlank_bodyIndent (lines : List Text) (startLine endLine : Nat) :
    isBlank (bodyIndent lines startLine endLine) = true := by
  rcases bodyIndent_cases lines startLine endLine with ⟨line, -, -, h⟩ | h
  · rw [h]
    exact isBlank_indentation line
  · rw [h, isBlank_append (isBlank_indentation _)]
    rfl

theorem lt_length_bodyIndent (lines : List Text) (startLine endLine : Nat) :
    (lines.getD startLine []).indentWidth < (bodyIndent lines startLine endLine).length := by
  rcases bodyIndent_cases lines startLine endLine with ⟨line, -, hdeep, h⟩ | h
  · rw [h]
    exact hdeep
  · rw [h, List.length_append]
    exact Nat.lt_add_of_pos_right (by decide)

theorem newline_not_mem_bodyIndent {lines : List Text} (hl : ∀ line ∈ lines, '\n' ∉ line) (startLine endLine : Nat) :
    '\n' ∉ bodyIndent lines startLine endLine := by
  rcases bodyIndent_cases lines startLine endLine with ⟨line, hm, -, h⟩ | h
  · rw [h]
    exact newline_not_mem_indentation (hl line hm)
  · rw [h, List.mem_append, not_or]
    refine ⟨newline_not_mem_indentation ?_, by decide⟩
    rw [List.getD_eq_getElem?_getD]
    cases hget : lines[startLine]? with
    | none => simp
    | some line => exact hl line (List.mem_of_getElem? hget)

/-! ## The lines of a block -/

theorem stripLineEnd_of_mem_blockLines {doc line : Text} (h : line ∈ blockLines doc) : stripLineEnd line = line := by
  obtain ⟨raw, -, rfl⟩ := List.mem_map.mp h
  exact stripLineEnd_stripLineEnd raw

theorem newline_not_mem_behind {indent line : Text} (hi : '\n' ∉ indent) (hn : '\n' ∉ line) :
    '\n' ∉ behind indent line := by
  unfold behind
  split
  · simp
  · rw [List.mem_append, not_or]
    exact ⟨hi, hn⟩

theorem behind_normal (indent line : Text) : behind indent (if line.isBlank then [] else line) = behind indent line := by
  unfold behind
  by_cases h : line.isBlank = true
  · simp [h]
  · simp [h]

theorem stripLineEnd_behind {doc line : Text} (hm : line ∈ blockLines doc) (indent : Text) :
    stripLineEnd (behind indent line) = behind indent line := by
  unfold behind
  split
  · rfl
  · rename_i hb
    apply stripLineEnd_append_plain (stripLineEnd_of_mem_blockLines hm)
    intro hnil
    exact hb (by rw [hnil]; rfl)

theorem plain_indentBlock (doc indent newline : Text) (hn : ∀ c ∈ newline, isLineEnd c = true) :
    (indentBlock doc indent newline).map stripLineEnd = (normalLines doc).map (behind indent) := by
  unfold indentBlock normalLines
  rw [List.map_map, List.map_map]
  apply List.map_congr_left
  intro line hm
  simp only [Function.comp_apply]
  rw [behind_normal, stripLineEnd_append hn]
  exact stripLineEnd_behind hm indent

theorem indentBlock_eq (doc indent newline : Text) :
    indentBlock doc indent newline = ((normalLines doc).map (behind indent)).map (· ++ newline) := by
  unfold indentBlock normalLines
  rw [List.map_map, List.map_map]
  apply List.map_congr_left
  intro line _
  rw [Function.comp_apply, Function.comp_apply, behind_normal]
  rfl

theorem indentBlock_eq_iff {doc doc' indent indent' newline : Text} :
    indentBlock doc indent newline = indentBlock doc' indent' newline ↔
      (normalLines doc).map (behind indent) = (normalLines doc').map (behind indent') := by
  rw [indentBlock_eq, indentBlock_eq]
  exact List.map_inj_right fun _ _ h => List.append_cancel_right h

theorem isTerminated_of_mem_indentBlock {doc indent newline : Text} (hi : '\n' ∉ indent)
    (hn : IsTerminated newline) : ∀ line ∈ indentBlock doc indent newline, IsTerminated line := by
  intro line hm
  obtain ⟨t, ht, rfl⟩ := hn
  obtain ⟨body, hb, rfl⟩ := List.mem_map.mp hm
  have hbody : '\n' ∉ behind indent body := newline_not_mem_behind hi (newline_not_mem_asLines _ body hb)
  refine ⟨behind indent body ++ t, ?_, by simp [behind]⟩
  rw [List.mem_append, not_or]
  exact ⟨hbody, ht⟩

/-! ## The shape of a written block -/

theorem trim_behind {indent : Text} (hi : isBlank indent = true) (line : Text) :
    (behind indent line).trim = line.trim := by
  unfold behind
  split
  · rename_i hb
    rw [trim_eq_nil_of_isBlank hb]
    rfl
  · exact trim_append hi line

section
variable {f : Text → Text} (hf : ∀ line, (f line).trim = line.trim)
include hf

theorem isComment_map (lines : List Text) : isComment (lines.map f) = isComment lines := by
  have ho (line : Text) : opensComment (f line) = opensComment line := by simp [opensComment, hf]
  have hc (line : Text) : closesComment (f line) = closesComment line := by simp [closesComment, hf]
  unfold isComment
  simp only [List.head?_map, List.getLast?_map, Option.any_map, ← List.map_tail, List.all_map, Function.comp_def,
    ho, hc]

theorem isOpenDocstring_map (lines : List Text) : isOpenDocstring (lines.map f) = isOpenDocstring lines := by
  cases lines with
  | nil => rfl
  | cons first rest =>
    unfold isOpenDocstring
    simp only [List.map_cons, hf, List.all_map, Function.comp_def]

theorem isDocstring_map (lines : List Text) : isDocstring (lines.map f) = isDocstring lines := by
  cases lines with
  | nil => rfl
  | cons first rest =>
    unfold isDocstring
    simp only [List.map_cons, hf, List.getLast?_map, Option.any_map, ← List.map_dropLast, List.all_map,
      Function.comp_def, List.isEmpty_map]

end

end CursorDoc
