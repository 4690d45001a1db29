import CursorDoc.Proofs.Splice.Block
import CursorDoc.Proofs.Text.Margin

/-!
# Normal lines of a block that was read

The lines of a block that stands in a source, joined and normalised, are the
lines without their margin, less some blank lines at the end. Putting them
behind an indentation and normalising again gives the same lines, less the
blank ones that were left.
-/

namespace CursorDoc

open Text

/-! ## Lines behind an indentation -/

theorem behind_of_isBlank {line : Text} (h : line.isBlank = true) (w : Text) : behind w line = [] := by
  rw [behind, if_pos h]

theorem behind_of_not_isBlank {line : Text} (h : line.isBlank = false) (w : Text) : behind w line = w ++ line := by
  rw [behind, h]
  rfl

theorem isBlank_behind {w : Text} (hw : isBlank w = true) (line : Text) : (behind w line).isBlank = line.isBlank := by
  cases h : line.isBlank with
  | true => rw [behind_of_isBlank h]; rfl
  | false => rw [behind_of_not_isBlank h, isBlank_append hw, h]

theorem isTidy_behind {w line : Text} (hw : isTidy w = true) (hl : isTidy line = true) : isTidy (behind w line) = true := by
  cases h : line.isBlank with
  | true => rw [behind_of_isBlank h]; rfl
  | false => rw [behind_of_not_isBlank h, isTidy_append, hw, hl]; rfl

section
variable {w : Text} (hw : w.all isMarginChar = true)
include hw

theorem isBlank_of_all_isMarginChar : isBlank w = true :=
  List.all_eq_true.mpr fun c hc => isSpace_of_isMarginChar (List.all_eq_true.mp hw c hc)

theorem isTidy_of_all_isMarginChar : isTidy w = true :=
  List.all_eq_true.mpr fun c hc => by rw [List.all_eq_true.mp hw c hc, Bool.or_true]

theorem filter_map_behind {lines : List Text} (ht : ∀ line ∈ lines, isTidy line = true) :
    (lines.map (behind w)).filter (!·.all isMarginChar) = (lines.filter (!·.all isMarginChar)).map (w ++ ·) := by
  have htidy := isTidy_of_all_isMarginChar hw
  have hfilter : lines.filter ((!·.all isMarginChar) ∘ behind w) = lines.filter (!·.all isMarginChar) := by
    apply List.filter_congr
    intro line hm
    rw [Function.comp_apply, all_isMarginChar_of_isTidy (isTidy_behind htidy (ht line hm)),
      all_isMarginChar_of_isTidy (ht line hm), isBlank_behind (isBlank_of_all_isMarginChar hw)]
  rw [List.filter_map, hfilter]
  apply List.map_congr_left
  intro line hm
  obtain ⟨hmem, hfilled⟩ := List.mem_filter.mp hm
  rw [all_isMarginChar_of_isTidy (ht line hmem), Bool.not_eq_true'] at hfilled
  exact behind_of_not_isBlank hfilled w

theorem margin_map_behind {lines : List Text} (ht : ∀ line ∈ lines, isTidy line = true) {line : Text}
    (hm : line ∈ lines) (hb : line.isBlank = false) : margin (lines.map (behind w)) = w ++ margin lines := by
  have hmem : line ∈ lines.filter (!·.all isMarginChar) := by
    rw [List.mem_filter, all_isMarginChar_of_isTidy (ht line hm), hb]
    exact ⟨hm, rfl⟩
  exact margin_of_filter hw (filter_map_behind hw ht) (List.ne_nil_of_mem hmem)

end

/-! ## Margins taken off and put back -/

section
variable {lines : List Text} (ht : ∀ line ∈ lines, isTidy line = true)
include ht

theorem dedentLines_eq :
    dedentLines lines = lines.map fun line => if line.isBlank then [] else line.drop (margin lines).length := by
  unfold dedentLines
  apply List.map_congr_left
  intro line hm
  rw [all_isMarginChar_of_isTidy (ht line hm)]

theorem isTidy_of_mem_dedentLines : ∀ line ∈ dedentLines lines, isTidy line = true := by
  intro line hm
  obtain ⟨raw, hraw, rfl⟩ := List.mem_map.mp hm
  split
  · rfl
  · exact isTidy_of_subset (ht raw hraw) (List.drop_subset _ _)

theorem isBlank_drop_margin {line : Text} (hm : line ∈ lines) (hb : line.isBlank = false) :
    margin lines ++ line.drop (margin lines).length = line ∧
      isBlank (line.drop (margin lines).length) = false := by
  have hl : line.all isMarginChar = false := by rw [all_isMarginChar_of_isTidy (ht line hm), hb]
  obtain ⟨rest, hrest⟩ := (margin_isPrefix hm hl).trans (List.takeWhile_prefix _)
  have hdrop : line.drop (margin lines).length = rest := by rw [← hrest, List.drop_left]
  have hblank := isBlank_of_all_isMarginChar (all_isMarginChar_margin lines)
  rw [← hrest, isBlank_append hblank] at hb
  rw [hdrop]
  exact ⟨hrest, hb⟩

theorem map_behind_dedentLines : (dedentLines lines).map (behind (margin lines)) = lines.map (behind []) := by
  rw [dedentLines_eq ht, List.map_map]
  apply List.map_congr_left
  intro line hm
  rw [Function.comp_apply]
  cases hb : line.isBlank with
  | true => rw [if_pos rfl, behind_of_isBlank rfl, behind_of_isBlank hb]
  | false =>
    obtain ⟨hline, hfilled⟩ := isBlank_drop_margin ht hm hb
    rw [if_neg (by simp), behind_of_not_isBlank hfilled, behind_of_not_isBlank hb, hline, List.nil_append]

theorem map_behind_nil_dedentLines : (dedentLines lines).map (behind []) = dedentLines lines := by
  rw [dedentLines_eq ht, List.map_map]
  apply List.map_congr_left
  intro line hm
  rw [Function.comp_apply]
  cases hb : line.isBlank with
  | true => rw [if_pos rfl, behind_of_isBlank rfl]
  | false =>
    rw [if_neg (by simp), behind_of_not_isBlank (isBlank_drop_margin ht hm hb).2, List.nil_append]

theorem map_isBlank_dedentLines : (dedentLines lines).map isBlank = lines.map isBlank := by
  rw [dedentLines_eq ht, List.map_map]
  apply List.map_congr_left
  intro line hm
  rw [Function.comp_apply]
  cases hb : line.isBlank with
  | true => rfl
  | false =>
    rw [if_neg (by simp)]
    exact (isBlank_drop_margin ht hm hb).2

end

/-! ## Blocks -/

structure IsFilled (lines : List Text) : Prop where
  tidy : ∀ line ∈ lines, isTidy line = true
  first : (lines.map isBlank).head? = some false
  last : (lines.map isBlank).getLast? = some false

namespace IsFilled

variable {lines : List Text} (h : IsFilled lines)
include h

theorem ne_nil : lines ≠ [] := by
  rintro rfl
  cases h.first

theorem getLast?_ne : lines.getLast? ≠ some [] := by
  intro hnil
  have hlast := h.last
  rw [List.getLast?_map, hnil] at hlast
  cases hlast

theorem head?_append_ne (below : List Text) : (lines ++ below).head? ≠ some [] := by
  have hfirst := h.first
  cases lines with
  | nil => cases hfirst
  | cons first rest =>
    intro hnil
    obtain rfl := Option.some.inj hnil
    cases hfirst

theorem exists_mem : ∃ line ∈ lines, line.isBlank = false := by
  obtain ⟨line, hm, hb⟩ := List.mem_map.mp (List.mem_of_mem_head? h.first)
  exact ⟨line, hm, hb⟩

theorem without_margin : IsFilled (dedentLines lines) where
  tidy := isTidy_of_mem_dedentLines h.tidy
  first := by rw [map_isBlank_dedentLines h.tidy, h.first]
  last := by rw [map_isBlank_dedentLines h.tidy, h.last]

theorem indent {w : Text} (hw : w.all isMarginChar = true) : IsFilled (lines.map (behind w)) := by
  have hblank : (lines.map (behind w)).map isBlank = lines.map isBlank := by
    rw [List.map_map]
    exact List.map_congr_left fun line _ => isBlank_behind (isBlank_of_all_isMarginChar hw) line
  refine ⟨?_, by rw [hblank, h.first], by rw [hblank, h.last]⟩
  intro line hm
  obtain ⟨raw, hraw, rfl⟩ := List.mem_map.mp hm
  exact isTidy_behind (isTidy_of_all_isMarginChar hw) (h.tidy raw hraw)

theorem margin_dedentLines : margin (dedentLines lines) = [] := by
  obtain ⟨line, hm, hb⟩ := h.exists_mem
  obtain ⟨found, hfound, hfilled⟩ := h.without_margin.exists_mem
  have hput := margin_map_behind (all_isMarginChar_margin lines) h.without_margin.tidy hfound hfilled
  have hkept : margin (lines.map (behind [])) = [] ++ margin lines := margin_map_behind (w := []) rfl h.tidy hm hb
  rw [map_behind_dedentLines h.tidy, hkept, List.nil_append] at hput
  exact List.self_eq_append_right.mp hput

theorem dedentLines_map_behind {w : Text} (hw : w.all isMarginChar = true) :
    dedentLines ((dedentLines lines).map (behind w)) = dedentLines lines := by
  obtain ⟨found, hfound, hfilled⟩ := h.without_margin.exists_mem
  have hmargin := margin_map_behind hw h.without_margin.tidy hfound hfilled
  rw [h.margin_dedentLines, List.append_nil] at hmargin
  rw [dedentLines_eq (h.without_margin.indent hw).tidy, hmargin, List.map_map]
  conv => rhs; rw [← map_behind_nil_dedentLines h.tidy]
  apply List.map_congr_left
  intro line _
  rw [Function.comp_apply, isBlank_behind (isBlank_of_all_isMarginChar hw)]
  cases hb : line.isBlank with
  | true => rw [if_pos rfl, behind_of_isBlank hb]
  | false =>
    rw [if_neg (by simp), behind_of_not_isBlank hb, behind_of_not_isBlank hb, List.drop_left, List.nil_append]

end IsFilled

/-! ## Normalised blocks -/

theorem newline_not_mem_of_isTidy {line : Text} (h : isTidy line = true) : '\n' ∉ line :=
  not_mem_of_isTidy h rfl rfl

theorem stripLineEnd_of_isTidy {line : Text} (h : isTidy line = true) : stripLineEnd line = line := by
  apply dropEndWhile_of_all_not
  intro c hc
  have hreturn : c ≠ '\r' := fun e => not_mem_of_isTidy h rfl rfl (e ▸ hc)
  have hnewline : c ≠ '\n' := fun e => not_mem_of_isTidy h rfl rfl (e ▸ hc)
  simp [isLineEnd, hreturn, hnewline]

theorem asLines_joinLines_concat {lines : List Text} (ht : ∀ line ∈ lines, isTidy line = true) {last : Text}
    (hlast : isTidy last = true) :
    (Buffer.text (joinLines (lines ++ [last]))).asLines = lines ++ if last = [] then [] else [last] := by
  have hcut := asLines_joinLines (fun line hm => newline_not_mem_of_isTidy (ht line hm))
    (newline_not_mem_of_isTidy hlast)
  rw [hcut, map_stripLineEnd_of_plain fun line hm => stripLineEnd_of_isTidy (ht line hm), stripLineEnd_of_isTidy hlast]

theorem dedentLines_append_blanks {lines blanks : List Text} (hb : ∀ line ∈ blanks, line.isBlank = true)
    (ht : ∀ line ∈ blanks, isTidy line = true) :
    dedentLines (lines ++ blanks) = dedentLines lines ++ List.replicate blanks.length [] := by
  have hall : ∀ line ∈ blanks, line.all isMarginChar = true := fun line hm => by
    rw [all_isMarginChar_of_isTidy (ht line hm), hb line hm]
  have hnil : blanks.map (fun line => if line.all isMarginChar then [] else line.drop (margin lines).length) =
      List.replicate blanks.length [] := by
    rw [List.eq_replicate_iff, List.length_map]
    refine ⟨rfl, ?_⟩
    intro line hm
    obtain ⟨raw, hraw, rfl⟩ := List.mem_map.mp hm
    rw [if_pos (hall raw hraw)]
  unfold dedentLines
  rw [margin_append_of_all hall, List.map_append, hnil]

theorem IsFilled.asLines_joinLines {lines : List Text} (h : IsFilled lines) (n : Nat) :
    (Buffer.text (joinLines (lines ++ List.replicate n []))).asLines = lines ++ List.replicate (n - 1) [] := by
  cases n with
  | zero =>
    obtain ⟨init, last, rfl⟩ : ∃ init last, lines = init ++ [last] :=
      ⟨_, _, (List.dropLast_concat_getLast h.ne_nil).symm⟩
    have hne : last ≠ [] := fun hnil => h.getLast?_ne (by simp [hnil])
    have ht := h.tidy
    simp only [List.mem_append, List.mem_singleton] at ht
    have hcut := asLines_joinLines_concat (fun line hm => ht line (.inl hm)) (ht last (.inr rfl))
    rw [if_neg hne] at hcut
    simpa using hcut
  | succ n =>
    have ht : ∀ line ∈ lines ++ List.replicate n [], isTidy line = true := by
      intro line hm
      obtain hm | hm := List.mem_append.mp hm
      · exact h.tidy line hm
      · rw [(List.mem_replicate.mp hm).2]
        rfl
    have hcut := @asLines_joinLines_concat _ ht [] rfl
    rw [if_pos rfl, List.append_nil, List.append_assoc, ← List.replicate_succ'] at hcut
    exact hcut

/-- The normal lines of joined lines are the lines without their margin. Of the blank lines at the end there are
fewer or none. -/
theorem IsFilled.exists_normalLines {lines blanks : List Text} (h : IsFilled lines)
    (hb : ∀ line ∈ blanks, line.isBlank = true) (ht : ∀ line ∈ blanks, isTidy line = true) :
    ∃ n, normalLines (joinLines (lines ++ blanks)) = dedentLines lines ++ List.replicate n [] ∧
      ((∀ line ∈ blanks, line = []) → n = 0) := by
  -- empty lines at the end go with the newlines that are trimmed; of lines of spaces the last one becomes empty and
  -- is no line of the joined text any more
  obtain ⟨gap, run, rfl, hrun, hgap⟩ := @exists_last_run Text List.isEmpty blanks
  have hrun : run = List.replicate run.length [] :=
    List.eq_replicate_of_mem fun line hm => List.isEmpty_iff.mp (hrun line hm)
  have hbgap : ∀ line ∈ gap, line.isBlank = true := fun line hm => hb line (List.mem_append_left _ hm)
  have htgap : ∀ line ∈ gap, isTidy line = true := fun line hm => ht line (List.mem_append_left _ hm)
  have hn : ∀ line ∈ lines ++ gap, '\n' ∉ line := by
    intro line hm
    obtain hm | hm := List.mem_append.mp hm
    · exact newline_not_mem_of_isTidy (h.tidy line hm)
    · exact newline_not_mem_of_isTidy (htgap line hm)
  have hne : lines ++ gap ≠ [] := List.append_ne_nil_of_left_ne_nil h.ne_nil gap
  have hlast : (lines ++ gap).getLast? ≠ some [] := by
    rw [List.getLast?_append]
    cases hl : gap.getLast? with
    | none => exact h.getLast?_ne
    | some last =>
      intro hnil
      obtain rfl := Option.some.inj hnil
      cases hgap [] hl
  have htrim := trimWhile_joinLines hne (h.head?_append_ne gap) hlast hn run.length
  rw [← hrun, List.append_assoc] at htrim
  have hblock : blockLines (joinLines (lines ++ (gap ++ run))) =
      dedentLines lines ++ List.replicate (gap.length - 1) [] := by
    rw [blockLines, htrim, dedent, pieces_joinLines hne hn, dedentLines_append_blanks hbgap htgap,
      h.without_margin.asLines_joinLines]
  refine ⟨gap.length - 1, ?_, ?_⟩
  · have hnormal : normalLines (joinLines (lines ++ (gap ++ run))) =
        (blockLines (joinLines (lines ++ (gap ++ run)))).map (behind []) := rfl
    rw [hnormal, hblock, List.map_append, map_behind_nil_dedentLines h.tidy, List.map_replicate]
    rfl
  · intro hnil
    cases hl : gap.getLast? with
    | none => rw [List.getLast?_eq_none_iff.mp hl]; rfl
    | some last =>
      have hempty := hgap last hl
      rw [hnil last (List.mem_append_left _ (List.mem_of_getLast? hl))] at hempty
      cases hempty

theorem IsFilled.normalLines_joinLines {lines : List Text} (h : IsFilled lines) :
    normalLines (joinLines lines) = dedentLines lines := by
  obtain ⟨n, hnormal, hn⟩ := @exists_normalLines lines [] h (by simp) (by simp)
  rw [hn (by simp), List.append_nil] at hnormal
  simpa using hnormal

theorem IsFilled.normalLines_behind {lines : List Text} (h : IsFilled lines) {w : Text}
    (hw : w.all isMarginChar = true) (n : Nat) :
    normalLines (joinLines ((dedentLines lines).map (behind w) ++ List.replicate n [])) =
      dedentLines lines := by
  have hblank : ∀ line ∈ List.replicate n ([] : Text), line = [] := fun line hm => (List.mem_replicate.mp hm).2
  obtain ⟨m, hnormal, hm⟩ := @exists_normalLines _ (List.replicate n []) (h.without_margin.indent hw)
    (fun line hm => by rw [hblank line hm]; rfl) (fun line hm => by rw [hblank line hm]; rfl)
  rw [hm hblank] at hnormal
  rw [hnormal, h.dedentLines_map_behind hw]
  simp

end CursorDoc
