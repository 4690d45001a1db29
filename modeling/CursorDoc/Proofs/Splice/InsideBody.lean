import CursorDoc.Proofs.Splice.ReadBack
import CursorDoc.Proofs.Splice.Run
import Mathlib.Order.Bounds.Basic

/-!
# Documentation inside a body

The body of an indented function goes as far as lines are blank or deeper than
the header. What is written below a header is deeper than the header whatever
white space either is indented with, so it is a part of the body.
-/

namespace CursorDoc

open Text

/-! ## Where a body ends -/

/-- The lines that the body of line `header` can end at: all lines below the header down to such a line are blank or
deeper than the header. -/
def bodyEnds (lines : List Text) (header : Nat) : Set Nat :=
  {e | header ≤ e ∧ e < lines.length ∧ ∀ k, header < k → k ≤ e →
    (lines.getD k []).isBlank = true ∨ (lines.getD header []).indentWidth < (lines.getD k []).indentWidth}

theorem continuesBody_iff {width : Nat} {line : Text} :
    continuesBody width line = true ↔ line.isBlank = true ∨ width < line.indentWidth := by
  rw [continuesBody, Bool.or_eq_true, decide_eq_true_eq]

theorem le_length_takeWhile_iff (p : Text → Bool) : ∀ {lines : List Text} {n : Nat},
    n ≤ (lines.takeWhile p).length ↔ n ≤ lines.length ∧ ∀ k < n, p (lines.getD k []) = true
  | [], n => by
    rw [List.takeWhile_nil, List.length_nil, Nat.le_zero]
    exact ⟨fun h => by simp [h], And.left⟩
  | line :: lines, 0 => by simp
  | line :: lines, n + 1 => by
    rw [List.length_cons, Nat.add_le_add_iff_right, Nat.forall_lt_succ_left]
    by_cases h : p line = true
    · rw [List.takeWhile_cons_of_pos h, List.length_cons, Nat.add_le_add_iff_right, le_length_takeWhile_iff p]
      simp [h]
    · rw [List.takeWhile_cons_of_neg h]
      simp [h]

theorem mem_bodyEnds_iff {above : List Text} {header : Text} {below : List Text} {e : Nat} :
    e ∈ bodyEnds (above ++ header :: below) above.length ↔ above.length ≤ e ∧
      e - above.length ≤ (below.takeWhile (continuesBody header.indentWidth)).length := by
  have hheader : (above ++ header :: below).getD above.length [] = header := by simp
  have hbelow (k : Nat) : (above ++ header :: below).getD (above.length + 1 + k) [] = below.getD k [] := by
    have hk : above.length + 1 + k - above.length = k + 1 := by omega
    rw [List.getD_eq_getElem?_getD, List.getElem?_append_right (by omega), hk, List.getElem?_cons_succ,
      ← List.getD_eq_getElem?_getD]
  unfold bodyEnds
  rw [Set.mem_ofPred_eq, le_length_takeWhile_iff, hheader, List.length_append, List.length_cons]
  refine and_congr_right fun hle => and_congr (by omega) ⟨fun h k hk => ?_, fun h k hk hke => ?_⟩
  · have hline := h (above.length + 1 + k) (by omega) (by omega)
    rw [hbelow] at hline
    exact continuesBody_iff.mpr hline
  · obtain ⟨k, rfl⟩ := Nat.exists_eq_add_of_lt hk
    have hline := h k (by omega)
    rw [show above.length + k + 1 = above.length + 1 + k by omega, hbelow]
    exact continuesBody_iff.mp hline

theorem isGreatest_bodyEnds {lines : List Text} {header : Nat} (h : header < lines.length) :
    (Span.ofIndentation lines header).startLine = header ∧
      IsGreatest (bodyEnds lines header) (Span.ofIndentation lines header).endLine := by
  obtain ⟨above, line, below, rfl, rfl⟩ : ∃ above line below, lines = above ++ line :: below ∧ above.length = header :=
    ⟨lines.take header, lines[header], lines.drop (header + 1), by simp, by simp; omega⟩
  rw [Span.ofIndentation_append]
  refine ⟨rfl, mem_bodyEnds_iff.mpr (by simp), fun e he => ?_⟩
  obtain ⟨hle, hreach⟩ := mem_bodyEnds_iff.mp he
  simp only
  omega

/-- Lines that continue the body and come right below the header are in it. -/
theorem length_le_endLine (front : List Text) (header : Text) {block : List Text} (below : List Text)
    (h : ∀ line ∈ block, continuesBody header.indentWidth line = true) :
    front.length + block.length ≤ (Span.ofIndentation (front ++ header :: (block ++ below)) front.length).endLine := by
  rw [Span.ofIndentation_append, List.takeWhile_append_of_pos h, List.length_append]
  simp only
  omega

/-! ## What a splice adds to a body -/

section
variable {s : Text} {above : List Text} {header : Text} {old below : List Text} {language name : Text}
  {settings : Settings} {r : Record} (hf : (Family.ofTag language).isIndented = true)
  (site : DocstringSite s.splitLines above header old below)
  (hrec : r = recordAt (.ofTag language) settings language (s.splitLines.map stripLineEnd) above.length name)
include hf site hrec

theorem DocstringSite.indent_eq :
    r.indent s = bodyIndent (s.splitLines.map stripLineEnd) above.length r.endLine.toNat := by
  have hlang : r.language = language := by
    rw [hrec]
    rfl
  rw [Record.indent_of_isIndented (by rw [hlang]; exact hf), (site.startLine_eq hf hrec).1, Int.toNat_natCast]

theorem DocstringSite.asLines_splice (hr : header.getLast? ≠ some '\r') (doc : Text) : ∃ t, splice s r doc = .ok t ∧
    (Buffer.text t).asLines = above.map stripLineEnd ++ stripLineEnd header ::
      ((normalLines doc).map (behind (r.indent s)) ++ below.map stripLineEnd) := by
  refine ⟨_, site.splice_eq hf doc hrec, ?_⟩
  have hlines := site.splitLines_write hr r.endLine.toNat doc
  have hblock := plain_indentBlock doc (r.indent s) (newlineOf header) isLineEnd_of_mem_newlineOf
  rw [← site.indent_eq hf hrec] at hlines ⊢
  rw [Buffer.asLines, hlines, List.map_append, List.map_cons, List.map_append, hblock, stripLineEnd_terminated]

end

/-- **Documentation lies inside the body.** The body of an indented function goes as far as it can, through blank and
deeper lines only. After a splice at a located header, the lines of the documentation come right below that header, and
the body goes through all of them. -/
theorem ofIndentation_endLine :
    (∀ (lines : List Text) (header : Nat), header < lines.length → ∃ span,
      Span.ofIndentation? lines header = .ok span ∧ span.startLine = header ∧
        IsGreatest (bodyEnds lines header) span.endLine) ∧
    ∀ {s language : Text} {cursor : Int} {settings : Settings} {r : Record},
      locate? (.text s) cursor language settings = some r → (Family.ofTag language).isIndented = true →
      (r.header s).getLast? ≠ some '\r' → ∀ doc : Text, ∃ t span, splice s r doc = .ok t ∧
        (∃ rest, (Buffer.text t).asLines.drop (r.startLine.toNat + 1) =
          (normalLines doc).map (behind (r.indent s)) ++ rest) ∧
        Span.ofIndentation? (Buffer.text t).asLines r.startLine.toNat = .ok span ∧ span.startLine = r.startLine ∧
        r.startLine + (normalLines doc).length ≤ span.endLine := by
  constructor
  · intro lines header h
    obtain ⟨hstart, hgreatest⟩ := isGreatest_bodyEnds h
    exact ⟨_, if_pos h, hstart, hgreatest⟩
  · intro s language cursor settings r hr hf hend doc
    obtain ⟨-, above, header, old, below, name, site, -, hrec⟩ := exists_docstringSite_of_locate? hr
    obtain ⟨hstart, hheader⟩ := site.startLine_eq hf hrec
    have hindent := site.indent_eq hf hrec
    unfold Record.header at hend
    rw [hheader] at hend
    obtain ⟨t, hsplice, hlines⟩ := site.asLines_splice hf hrec hend doc
    have hdeep := @DocstringSite.continuesBody_written s above header old below doc site r.endLine.toNat
    rw [← hindent] at hdeep
    rw [← List.length_map stripLineEnd] at hstart
    generalize above.map stripLineEnd = front at hstart hlines
    have hle := length_le_endLine front (stripLineEnd header) (below.map stripLineEnd) hdeep
    have hlt : front.length < (Buffer.text t).asLines.length := by simp [hlines]
    rw [← hlines, List.length_map] at hle
    rw [hstart, Int.toNat_natCast]
    refine ⟨t, _, hsplice, ⟨below.map stripLineEnd, ?_⟩, if_pos hlt, ?_, by omega⟩
    · rw [hlines]
      simp
    · rw [(isGreatest_bodyEnds hlt).1]

/-- A header behind a form feed and a tab, a body behind a wide space, and documentation with a blank line and lines that
are indented on their own. -/
theorem ofIndentation_endLine_wide_spaces :
    let s : Text := "class A:\n\x0c\tdef f():\n\n\x0c\t\u3000return 1\n\tx = 2\n".toList
    let r : Record :=
      { name := "f".toList, signature := "def f():".toList, body := "\x0c\tdef f():\n\n\x0c\t\u3000return 1\n".toList
        startLine := 1, endLine := 3, language := "python".toList, documentation := none }
    let doc : Text := "\n  \"\"\"A\n\n\t    b\n  \"\"\"".toList
    locate? (.text s) 1 r.language {} = some r ∧ (Family.ofTag r.language).isIndented = true ∧
      (r.header s).getLast? ≠ some '\r' ∧ ∃ t span, splice s r doc = .ok t ∧
        Span.ofIndentation? (Buffer.text t).asLines 1 = .ok span ∧ span.startLine = (1 : Int) ∧ (5 : Int) ≤ span.endLine := by
  repeat rw [String.toList_ofList]
  intro s r doc
  have hr : locate? (.text s) 1 r.language {} = some r := by decide +kernel
  have hf : (Family.ofTag r.language).isIndented = true := by decide +kernel
  have hend : (r.header s).getLast? ≠ some '\r' := by decide +kernel
  have hlen : (normalLines doc).length = 4 := by decide +kernel
  obtain ⟨t, span, hsplice, -, hspan, hstart, hle⟩ := ofIndentation_endLine.2 hr hf hend doc
  rw [hlen] at hle
  exact ⟨hr, hf, hend, t, span, hsplice, hspan, hstart, hle⟩

end CursorDoc
