import CursorDoc.Locate

/-!
# Spans and the lines above them

A span is taken from the header on, so the lines above the header only count
into its line numbers. Both kinds of span start on their header and end inside
the lines.
-/

namespace CursorDoc

open Text

/-! ## Braces -/

theorem closingLine?_lt : ∀ {depth : Nat} {lines : List Text} {k : Nat},
    closingLine? depth lines = some k → k < lines.length
  | _, [], _, h => by cases h
  | depth, line :: lines, k, h => by
    rw [closingLine?] at h
    split at h
    · cases h; simp
    · obtain ⟨k', hk', rfl⟩ := Option.map_eq_some_iff.mp h
      have := closingLine?_lt hk'
      simpa using this

theorem Span.ofLines_append (above below : List Text) (k : Nat) :
    Span.ofLines (above ++ below) above.length (above.length + k) =
      { body := joinBody (below.take (k + 1)), startLine := above.length, endLine := above.length + k } := by
  have hm : max above.length (above.length + k) = above.length + k := Nat.max_eq_right (Nat.le_add_right _ _)
  have hs : above.length + k + 1 - above.length = k + 1 := by omega
  simp only [Span.ofLines, hm, hs, List.drop_left]

def braceReach (lines : List Text) (skipLiterals : Bool) : Nat :=
  (closingLine? 0 (if skipLiterals then stripLiterals lines else lines)).getD (lines.length - 1)

theorem braceReach_lt {lines : List Text} (h : lines ≠ []) (skipLiterals : Bool) :
    braceReach lines skipLiterals < lines.length := by
  have hpos : 0 < lines.length := List.length_pos_iff.mpr h
  have hlen : (if skipLiterals then stripLiterals lines else lines).length = lines.length := by
    split
    · exact length_stripLinesFrom .code lines
    · rfl
  unfold braceReach
  cases hk : closingLine? 0 (if skipLiterals then stripLiterals lines else lines) with
  | none => simp only [Option.getD_none]; omega
  | some k => exact hlen ▸ closingLine?_lt hk

theorem Span.ofBraces_append (above : List Text) {below : List Text} (h : below ≠ []) (skipLiterals : Bool) :
    Span.ofBraces (above ++ below) above.length skipLiterals =
      { body := joinBody (below.take (braceReach below skipLiterals + 1))
        startLine := above.length
        endLine := above.length + braceReach below skipLiterals } := by
  have hpos : 0 < below.length := List.length_pos_iff.mpr h
  have hlast : (above ++ below).length - 1 = above.length + (below.length - 1) := by
    rw [List.length_append]; omega
  unfold Span.ofBraces braceReach
  simp only [List.drop_left, hlast]
  cases closingLine? 0 (if skipLiterals then stripLiterals below else below) with
  | none => exact Span.ofLines_append above below _
  | some k => exact Span.ofLines_append above below k

/-! ## Indentation -/

theorem Span.ofIndentation_append (above : List Text) (header : Text) (below : List Text) :
    Span.ofIndentation (above ++ header :: below) above.length =
      { body := joinBody (header :: below.takeWhile (continuesBody header.indentWidth))
        startLine := above.length
        endLine := above.length + (below.takeWhile (continuesBody header.indentWidth)).length } := by
  have hget : (above ++ header :: below).getD above.length [] = header := by simp
  have hdrop : (above ++ header :: below).drop (above.length + 1) = below := by simp
  have htake : (header :: below).take ((below.takeWhile (continuesBody header.indentWidth)).length + 1) =
      header :: below.takeWhile (continuesBody header.indentWidth) := by
    rw [List.take_succ_cons]
    exact congrArg (header :: ·) (List.prefix_iff_eq_take.mp (List.takeWhile_prefix _)).symm
  unfold Span.ofIndentation
  simp only [hget, hdrop]
  rw [Span.ofLines_append, htake]

/-! ## Either kind -/

theorem Family.span_bounds (family : Family) (skipLiterals : Bool) {lines : List Text} {header : Nat}
    (h : header < lines.length) :
    (family.span skipLiterals lines header).startLine = header ∧
      header ≤ (family.span skipLiterals lines header).endLine ∧
      (family.span skipLiterals lines header).endLine < lines.length := by
  obtain ⟨above, line, below, rfl, rfl⟩ : ∃ above line below, lines = above ++ line :: below ∧ above.length = header :=
    ⟨lines.take header, lines[header], lines.drop (header + 1), by simp, by simp; omega⟩
  unfold Family.span
  split
  · rw [Span.ofIndentation_append]
    have hle := (List.takeWhile_prefix (l := below) (continuesBody line.indentWidth)).length_le
    refine ⟨rfl, Nat.le_add_right _ _, ?_⟩
    rw [List.length_append, List.length_cons]
    exact Nat.add_lt_add_left (Nat.lt_succ_of_le hle) _
  · have hlt : braceReach (line :: below) skipLiterals < (line :: below).length := braceReach_lt (by simp) skipLiterals
    rw [Span.ofBraces_append _ (by simp)]
    refine ⟨rfl, Nat.le_add_right _ _, ?_⟩
    rw [List.length_append]
    exact Nat.add_lt_add_left hlt _

theorem Family.span_body (family : Family) (skipLiterals : Bool) (lines : List Text) (header : Nat) :
    (family.span skipLiterals lines header).body =
      joinBody ((lines.drop header).take ((family.span skipLiterals lines header).endLine + 1 - header)) := by
  unfold Family.span
  split
  · rfl
  · unfold Span.ofBraces
    dsimp only
    split <;> rfl

end CursorDoc
