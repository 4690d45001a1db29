import CursorDoc.Proofs.Splice.Range
import CursorDoc.Proofs.Splice.Trimmed

/-!
# Documentation behind a common indentation

Of the indentation of a documentation text only what its lines do not share is
written. A run of spaces and tabs put in front of all lines that hold something
else goes into the margin, and the margin is removed. So a splice does the same
wherever the text was indented to.
-/

namespace CursorDoc

open Text

def shiftLine (m line : Text) : Text := if line.all isMarginChar then line else m ++ line

/-- The text with `m` in front of each line that holds something else than spaces and tabs. -/
def shift (m doc : Text) : Text := joinLines ((pieces doc).map (shiftLine m))

/-- The longest run of spaces and tabs that all lines with something else on them start with. -/
structure IsMargin (lines : List Text) (w : Text) : Prop where
  run : w.all isMarginChar = true
  shared : ∀ line ∈ lines, line.all isMarginChar = false → w <+: line
  longest : (∃ line ∈ lines, line.all isMarginChar = false) → ∀ v : Text, v.all isMarginChar = true →
    (∀ line ∈ lines, line.all isMarginChar = false → v <+: line) → v <+: w

theorem isMargin_margin (lines : List Text) : IsMargin lines (margin lines) where
  run := all_isMarginChar_margin lines
  shared line hm hl := (margin_isPrefix hm hl).trans (List.takeWhile_prefix _)
  longest hfilled v hv hshared := by
    refine (isPrefix_margin_iff hfilled).mpr fun line hm hl => ?_
    obtain ⟨rest, rfl⟩ := hshared line hm hl
    rw [List.takeWhile_append_of_pos (List.all_eq_true.mp hv)]
    exact List.prefix_append v _

/-! ## Shifted lines -/

section
variable {m : Text} (hm : m.all isMarginChar = true)

theorem shiftLine_of_all {line : Text} (h : line.all isMarginChar = true) : shiftLine m line = line := if_pos h

theorem shiftLine_of_not_all {line : Text} (h : line.all isMarginChar = false) : shiftLine m line = m ++ line := by
  rw [shiftLine, h]
  rfl

theorem shiftLine_eq_nil_iff {line : Text} : shiftLine m line = [] ↔ line = [] := by
  cases h : line.all isMarginChar with
  | true => rw [shiftLine_of_all h]
  | false =>
    have hne : line ≠ [] := by
      rintro rfl
      cases h
    simp [shiftLine_of_not_all h, hne]

theorem all_isMarginChar_shiftLine (m line : Text) : (shiftLine m line).all isMarginChar = line.all isMarginChar := by
  cases h : line.all isMarginChar with
  | true => rw [shiftLine_of_all h, h]
  | false => rw [shiftLine_of_not_all h, List.all_append, h, Bool.and_false]

theorem head?_map_shiftLine {lines : List Text} (h : lines.head? ≠ some []) :
    (lines.map (shiftLine m)).head? ≠ some [] := by
  intro hnil
  rw [List.head?_map] at hnil
  obtain ⟨line, hline, hshift⟩ := Option.map_eq_some_iff.mp hnil
  exact h (shiftLine_eq_nil_iff.mp hshift ▸ hline)

theorem filter_map_shiftLine (m : Text) (lines : List Text) :
    (lines.map (shiftLine m)).filter (!·.all isMarginChar) = (lines.filter (!·.all isMarginChar)).map (m ++ ·) := by
  have hsame : (!·.all isMarginChar) ∘ shiftLine m = (!·.all isMarginChar) :=
    funext fun line => congrArg not (all_isMarginChar_shiftLine m line)
  rw [List.filter_map, hsame]
  apply List.map_congr_left
  intro line hl
  exact shiftLine_of_not_all (by simpa using (List.mem_filter.mp hl).2)

include hm

theorem newline_not_mem_shiftLine {line : Text} (hn : '\n' ∉ line) : '\n' ∉ shiftLine m line := by
  have hrun : '\n' ∉ m := fun h => absurd (List.all_eq_true.mp hm _ h) (by decide)
  unfold shiftLine
  split
  · exact hn
  · rw [List.mem_append, not_or]
    exact ⟨hrun, hn⟩

theorem dedentLines_map_shiftLine (lines : List Text) : dedentLines (lines.map (shiftLine m)) = dedentLines lines := by
  unfold dedentLines
  rw [List.map_map]
  apply List.map_congr_left
  intro line hl
  rw [Function.comp_apply, all_isMarginChar_shiftLine]
  cases h : line.all isMarginChar with
  | true => rfl
  | false =>
    have hmem : line ∈ lines.filter (!·.all isMarginChar) := List.mem_filter.mpr ⟨hl, by rw [h]; rfl⟩
    have hmargin := margin_of_filter hm (filter_map_shiftLine m lines) (List.ne_nil_of_mem hmem)
    rw [hmargin, shiftLine_of_not_all h, List.length_append, List.drop_append]
    simp

/-! ## Shifted texts -/

theorem blockLines_shift (doc : Text) : blockLines (shift m doc) = blockLines doc := by
  have hdoc : joinLines (pieces doc) = doc := joinWith_splitOn '\n' doc
  have hnewline : ∀ line ∈ pieces doc, '\n' ∉ line := fun line hl hc => (mem_of_mem_splitOn hl hc).2 rfl
  have hnil : shiftLine m [] = [] := rfl
  unfold shift
  obtain ⟨n, hlines⟩ | ⟨a, inner, last, b, hlines, hfirst, hlast⟩ := exists_empty_around (pieces doc)
  · rw [hlines, List.map_replicate, hnil, ← hlines, hdoc]
  · -- what is trimmed are empty lines, and these are not shifted
    rw [hlines] at hdoc hnewline
    simp only [List.forall_mem_append] at hnewline
    have hcore : ∀ line ∈ inner ++ [last], '\n' ∉ line := List.forall_mem_append.mpr hnewline.2.1
    have hshifted : ∀ line ∈ (inner ++ [last]).map (shiftLine m), '\n' ∉ line :=
      List.forall_mem_map.mpr fun line hl => newline_not_mem_shiftLine hm (hcore line hl)
    have hlast' : ((inner ++ [last]).map (shiftLine m)).getLast? ≠ some [] := by
      simpa [shiftLine_eq_nil_iff] using hlast
    have htrim := trimWhile_joinLines_between (by simp) hfirst (by simpa using hlast) hcore a b
    have htrim' := trimWhile_joinLines_between (by simp) (head?_map_shiftLine hfirst) hlast' hshifted a b
    have hmap : (pieces doc).map (shiftLine m) =
        List.replicate a [] ++ ((inner ++ [last]).map (shiftLine m) ++ List.replicate b []) := by
      rw [hlines, List.map_append, List.map_append, List.map_replicate, List.map_replicate, hnil]
    rw [hdoc] at htrim
    unfold blockLines dedent
    rw [hmap, htrim, htrim', pieces_joinLines (by simp) hcore, pieces_joinLines (by simp) hshifted,
      dedentLines_map_shiftLine hm]

end

/-! ## Written lines -/

/-- What is written of a text without carriage returns is its lines without their margin; some lines of spaces and tabs
at the ends are left out. -/
theorem exists_kept {doc : Text} (hd : '\r' ∉ doc) : ∃ front kept back, pieces doc = front ++ (kept ++ back) ∧
    (∀ line ∈ front ++ back, line.all isMarginChar = true) ∧
    normalLines doc = kept.map (without (margin (pieces doc))) := by
  obtain ⟨lines, last, hpieces⟩ : ∃ lines last, pieces doc = lines ++ [last] :=
    ⟨_, _, (List.dropLast_concat_getLast (splitOn_ne_nil '\n' doc)).symm⟩
  have hdoc : joinLines (lines ++ [last]) = doc := by
    rw [← hpieces]
    exact joinWith_splitOn '\n' doc
  obtain ⟨a, kept, lost, htrimmed⟩ := exists_isTrimmed fun line hm => isPlain_of_mem_pieces hd (hpieces ▸ hm)
  have hnormal := htrimmed.normalLines_eq
  rw [hdoc] at hnormal
  have hsplit : lines ++ [last] =
      List.replicate a [] ++ (kept ++ (lost ++ if last.all isMarginChar then [last] else [])) := by
    have huntrimmed := htrimmed.untrimmed_eq
    unfold untrimmed at huntrimmed
    split
    · rename_i hall
      rw [if_pos hall, List.append_nil] at huntrimmed
      simp [huntrimmed]
    · rename_i hfilled
      rw [if_neg hfilled] at huntrimmed
      simp [huntrimmed]
  rw [hpieces]
  refine ⟨_, _, _, hsplit, ?_, hnormal⟩
  rw [List.forall_mem_append, List.forall_mem_append]
  refine ⟨all_isMarginChar_of_mem_replicate a, htrimmed.blank, ?_⟩
  split
  · rename_i hall
    exact List.forall_mem_singleton.mpr hall
  · exact nofun

theorem behind_without {lines : List Text} {line : Text} (hm : line ∈ lines) (indent : Text) :
    behind indent (without (margin lines) line) =
      if line.isBlank then [] else indent ++ line.drop (margin lines).length := by
  cases hb : line.isBlank with
  | true =>
    rw [without, if_pos hb, if_pos rfl]
    rfl
  | false =>
    obtain ⟨rest, hline, hrest⟩ := exists_append_of_isPrefix (margin_isPrefix hm (all_isMarginChar_of_not_isBlank hb))
    have hdrop : line.drop (margin lines).length = rest := by
      conv => lhs; rw [hline]
      exact List.drop_left
    rw [without, if_neg (by simp [hb]), hdrop, behind_of_not_isBlank (hrest.trans hb), if_neg Bool.false_ne_true]

/-- **Only the relative indentation of documentation counts.** A splice does the same, or fails the same, if a run of
spaces and tabs is put in front of all lines that hold something else. Every line that it writes and that is not blank
is the indentation of the place and what is left of a line of the documentation without the margin. -/
theorem splice_shift (s : Text) (r : Record) (doc : Text) {m : Text} (hm : m.all isMarginChar = true) :
    splice s r (shift m doc) = splice s r doc ∧
      ('\r' ∉ doc → ∀ t, splice s r doc = .ok t → ∃ front kept back w,
        pieces doc = front ++ (kept ++ back) ∧ (∀ line ∈ front ++ back, line.all isMarginChar = true) ∧
        IsMargin (pieces doc) w ∧
        t = (r.replacing s (kept.map fun line =>
          (if line.isBlank then [] else r.indent s ++ line.drop w.length) ++ newlineOf (r.header s))).flatten) := by
  constructor
  · have hwritten : r.written s (shift m doc) = r.written s doc := by
      unfold Record.written indentBlock
      rw [blockLines_shift hm]
    rw [Record.splice_eq, Record.splice_eq, hwritten]
  · intro hd t ht
    obtain ⟨-, -, rfl⟩ := splice_eq_ok_iff.mp ht
    obtain ⟨front, kept, back, hpieces, hout, hnormal⟩ := exists_kept hd
    refine ⟨front, kept, back, margin (pieces doc), hpieces, hout, isMargin_margin _, ?_⟩
    have hwritten : r.written s doc = kept.map fun line =>
        (if line.isBlank then [] else r.indent s ++ line.drop (margin (pieces doc)).length) ++
          newlineOf (r.header s) := by
      rw [Record.written, indentBlock_eq, hnormal, List.map_map, List.map_map]
      apply List.map_congr_left
      intro line hl
      rw [Function.comp_apply, Function.comp_apply, behind_without (by simp [hpieces, hl])]
    rw [hwritten]

theorem splice_shift_comment :
    let s : Text := "\tint f() \x7b\n\t\x7d\n".toList
    let r : Record :=
      { name := "f".toList, signature := [], body := [], startLine := 0, endLine := 1, language := "c".toList
        documentation := none }
    let doc : Text := "\n \t/*\n \t  A\n   \n \t*/\n\t".toList
    let m : Text := ['\t', ' ']
    m.all isMarginChar = true ∧ shift m doc = "\n\t  \t/*\n\t  \t  A\n   \n\t  \t*/\n\t".toList ∧ '\r' ∉ doc ∧
      splice s r (shift m doc) = .ok "\t/*\n\t  A\n\n\t*/\n\tint f() \x7b\n\t\x7d\n".toList ∧
      ∃ (kept : List Text) (w : Text), IsMargin (pieces doc) w ∧ "\t/*\n\t  A\n\n\t*/\n\tint f() \x7b\n\t\x7d\n".toList =
        (r.replacing s (kept.map fun line =>
          (if line.isBlank then [] else r.indent s ++ line.drop w.length) ++ newlineOf (r.header s))).flatten := by
  repeat rw [String.toList_ofList]
  intro s r doc m
  have hm : m.all isMarginChar = true := by decide
  have hd : '\r' ∉ doc := by decide
  have hsplice : splice s r doc = .ok "\t/*\n\t  A\n\n\t*/\n\tint f() \x7b\n\t\x7d\n".toList := by rfl
  obtain ⟨hsame, hwritten⟩ := splice_shift s r doc hm
  obtain ⟨-, kept, -, w, -, -, hmargin, ht⟩ := hwritten hd _ hsplice
  exact ⟨hm, by rfl, hd, hsame.trans hsplice, kept, w, hmargin, ht⟩

end CursorDoc
