import CursorDoc.Proofs.Script
import CursorDoc.Proofs.Signature
import CursorDoc.Proofs.Splice.Edit
import Mathlib.Data.List.TakeWhile

/-!
# Nested functions

The extents of two functions are found by scans that start on their own
headers and know nothing of each other. They nest all the same. Where the
lower scan for braces starts, the upper one has braces open, and from there on
it stays that many braces ahead. A body by indentation that starts in another
one is deeper than it, so the other one goes on for as long.
-/

namespace CursorDoc

open Text

/-! ## Two lines of one buffer -/

theorem exists_of_two_lines {lines : List Text} {i j : Nat} (hij : i < j) {upper lower : Text}
    (hi : lines[i]? = some upper) (hj : lines[j]? = some lower) :
    ∃ front mid below, lines = front ++ upper :: (mid ++ lower :: below) ∧ front.length = i ∧
      (front ++ upper :: mid).length = j := by
  obtain ⟨hilt, rfl⟩ := List.getElem?_eq_some_iff.mp hi
  obtain ⟨hjlt, rfl⟩ := List.getElem?_eq_some_iff.mp hj
  have hlower : (lines.drop (i + 1)).drop (j - (i + 1)) = lines[j] :: lines.drop (j + 1) := by
    rw [List.drop_drop, Nat.add_sub_cancel' hij, List.drop_eq_getElem_cons]
  refine ⟨lines.take i, (lines.drop (i + 1)).take (j - (i + 1)), lines.drop (j + 1), ?_, ?_, ?_⟩
  · rw [← hlower, List.take_append_drop, List.getElem_cons_drop, List.take_append_drop]
  · rw [List.length_take]; omega
  · simp only [List.length_append, List.length_cons, List.length_take, List.length_drop]; omega

theorem exists_of_two_headers {family : Family} {lines : List Text} {i j : Nat} (hij : i < j)
    (hi : family.isHeader lines i = true) (hj : family.isHeader lines j = true) :
    ∃ front upper mid lower below nameᵢ nameⱼ, lines = front ++ upper :: (mid ++ lower :: below) ∧
      front.length = i ∧ (front ++ upper :: mid).length = j ∧
      family.signatureName? upper = some nameᵢ ∧ family.signatureName? lower = some nameⱼ := by
  obtain ⟨nameᵢ, hnameᵢ⟩ := Option.isSome_iff_exists.mp hi
  obtain ⟨nameⱼ, hnameⱼ⟩ := Option.isSome_iff_exists.mp hj
  obtain ⟨upper, hupper, hnᵢ⟩ := Option.bind_eq_some_iff.mp hnameᵢ
  obtain ⟨lower, hlower, hnⱼ⟩ := Option.bind_eq_some_iff.mp hnameⱼ
  obtain ⟨front, mid, below, hlines, hfront, hmid⟩ := exists_of_two_lines hij hupper hlower
  exact ⟨front, upper, mid, lower, below, nameᵢ, nameⱼ, hlines, hfront, hmid, hnᵢ, hnⱼ⟩

/-! ## Braces -/

theorem exists_first_brace {line name : Text} (h : Family.script.signatureName? line = some name) :
    ∃ before after, line = before ++ '{' :: after ∧ '{' ∉ before := by
  obtain ⟨reading, hreading, -⟩ := Option.map_eq_some_iff.mp h
  obtain ⟨before, after, rfl, -⟩ := exists_brace_of_reading? hreading
  exact List.eq_append_cons_of_mem (by simp)

theorem braceReach_of_first {before : Text} (h : '{' ∉ before) (after : Text) (below : List Text) :
    braceReach ((before ++ '{' :: after) :: below) false = (closingLine? 1 (after :: below)).getD below.length := by
  unfold braceReach
  rw [if_neg Bool.false_ne_true, closingLine?_of_first h]
  rfl

/-- A scan that comes to a line and goes on below it ends no sooner than the first brace of that line is closed. -/
theorem closingLine?_le_of_open {depth k : Nat} {before after : Text} {below : List Text}
    (hk : closingLine? depth ((before ++ '{' :: after) :: below) = some k) (hpos : 0 < k) :
    ∃ j ≤ k, closingLine? 1 (after :: below) = some j := by
  rw [closingLine?_append] at hk
  cases hbefore : followBraces depth before with
  | none =>
    rw [hbefore] at hk
    cases hk
    exact absurd hpos (Nat.lt_irrefl 0)
  | some depth' =>
    simp only [hbefore, closingLine?_brace, Nat.add_comm depth' 1] at hk
    exact closingLine?_le_of_add Nat.one_pos depth' hk

theorem braceReach_nested {upper lower : Text} {mid below : List Text} {nameᵢ nameⱼ : Text}
    (hnᵢ : Family.script.signatureName? upper = some nameᵢ) (hnⱼ : Family.script.signatureName? lower = some nameⱼ)
    (h : (upper :: mid).length < braceReach (upper :: (mid ++ lower :: below)) false) :
    (upper :: mid).length + braceReach (lower :: below) false ≤ braceReach (upper :: (mid ++ lower :: below)) false := by
  obtain ⟨beforeᵢ, afterᵢ, rfl, hfirstᵢ⟩ := exists_first_brace hnᵢ
  obtain ⟨beforeⱼ, afterⱼ, rfl, hfirstⱼ⟩ := exists_first_brace hnⱼ
  rw [braceReach_of_first hfirstⱼ]
  rw [braceReach_of_first hfirstᵢ] at h ⊢
  have hlen : (mid ++ (beforeⱼ ++ '{' :: afterⱼ) :: below).length = (afterᵢ :: mid).length + below.length := by
    simp only [List.length_append, List.length_cons]
    omega
  cases hk : closingLine? 1 (afterᵢ :: (mid ++ (beforeⱼ ++ '{' :: afterⱼ) :: below)) with
  | none =>
    -- the upper span is cut off by the end of the lines, where the lower one ends at the latest
    have hle : (closingLine? 1 (afterⱼ :: below)).getD below.length ≤ below.length := by
      cases hj : closingLine? 1 (afterⱼ :: below) with
      | none => exact Nat.le_refl _
      | some j => exact Nat.le_of_lt_succ (closingLine?_lt hj)
    rw [Option.getD_none, hlen]
    exact Nat.add_le_add_left hle _
  | some k =>
    rw [hk, Option.getD_some] at h
    rw [Option.getD_some]
    rw [← List.cons_append, closingLine?_append_lines] at hk
    cases hopen : followBraces 1 (afterᵢ :: mid).flatten with
    | none =>
      rw [hopen] at hk
      have hlt : k < (afterᵢ :: mid).length := closingLine?_lt hk
      exact absurd h (Nat.not_lt_of_lt hlt)
    | some depth =>
      rw [hopen] at hk
      obtain ⟨k, hbelow, rfl⟩ := Option.map_eq_some_iff.mp hk
      have hpos : 0 < k := Nat.pos_of_lt_add_left h
      obtain ⟨j, hj, hclose⟩ := closingLine?_le_of_open hbelow hpos
      rw [hclose, Option.getD_some, Nat.add_comm]
      exact Nat.add_le_add_right hj _

/-! ## Indentation -/

theorem continuesBody_of_le {width width' : Nat} (h : width ≤ width') {line : Text}
    (hl : continuesBody width' line = true) : continuesBody width line = true := by
  unfold continuesBody at hl ⊢
  rw [Bool.or_eq_true, decide_eq_true_eq] at hl ⊢
  exact hl.imp_right (Nat.lt_of_le_of_lt h)

theorem takeWhile_continuesBody_isPrefix {width width' : Nat} (h : width ≤ width') (lines : List Text) :
    lines.takeWhile (continuesBody width') <+: lines.takeWhile (continuesBody width) := by
  have hboth : lines.takeWhile (continuesBody width') =
      (lines.takeWhile (continuesBody width)).takeWhile (continuesBody width') := by
    rw [List.takeWhile_takeWhile]
    congr 1
    funext line
    by_cases hl : continuesBody width' line = true
    · simp [hl, continuesBody_of_le h hl]
    · simp [hl]
  rw [hboth]
  exact List.takeWhile_prefix _

/-- A line that is reached by a scan, and is not blank, is deeper than the header; and the scan goes on below it. -/
theorem takeWhile_continuesBody_of_lt {width : Nat} {mid : List Text} {line : Text} {below : List Text}
    (hb : line.isBlank = false) (h : mid.length < ((mid ++ line :: below).takeWhile (continuesBody width)).length) :
    width < line.indentWidth ∧
      (mid ++ line :: below).takeWhile (continuesBody width) = mid ++ line :: below.takeWhile (continuesBody width) := by
  have hmid : mid.takeWhile (continuesBody width) = mid := by
    by_cases hall : (mid.takeWhile (continuesBody width)).length = mid.length
    · exact (List.takeWhile_prefix _).eq_of_length hall
    · rw [List.takeWhile_append, if_neg hall] at h
      exact absurd (List.takeWhile_prefix _).length_le (Nat.not_le_of_lt h)
  rw [List.takeWhile_append, hmid, if_pos rfl] at h ⊢
  by_cases hl : continuesBody width line = true
  · refine ⟨?_, by rw [List.takeWhile_cons_of_pos hl]⟩
    simpa [continuesBody, hb] using hl
  · rw [List.takeWhile_cons_of_neg hl, List.append_nil] at h
    exact absurd h (Nat.lt_irrefl _)

/-! ## Either kind -/

/-- **Spans nest.** A script function whose header is in the body of another one, above its last line, ends no later
than that one. A Python function whose header is in the body of another one ends no later than that one, and all
others start below it. -/
theorem span_endLine_nested (lines : List Text) {i j : Nat} (hij : i < j) :
    (Family.script.isHeader lines i = true → Family.script.isHeader lines j = true →
      j < (Span.ofBraces lines i false).endLine →
        (Span.ofBraces lines j false).endLine ≤ (Span.ofBraces lines i false).endLine) ∧
    (Family.python.isHeader lines i = true → Family.python.isHeader lines j = true →
      (j ≤ (Span.ofIndentation lines i).endLine →
        (Span.ofIndentation lines j).endLine ≤ (Span.ofIndentation lines i).endLine) ∧
      (¬ j ≤ (Span.ofIndentation lines i).endLine → (Span.ofIndentation lines i).endLine < j)) := by
  constructor
  · intro hi hj h
    obtain ⟨front, upper, mid, lower, below, nameᵢ, nameⱼ, rfl, rfl, rfl, hnᵢ, hnⱼ⟩ := exists_of_two_headers hij hi hj
    have hlines : front ++ upper :: (mid ++ lower :: below) = (front ++ upper :: mid) ++ lower :: below := by simp
    have hendⱼ := Span.ofBraces_append (front ++ upper :: mid) (List.cons_ne_nil lower below) false
    rw [← hlines] at hendⱼ
    rw [Span.ofBraces_append front (List.cons_ne_nil _ _), List.length_append] at h
    rw [hendⱼ, Span.ofBraces_append front (List.cons_ne_nil _ _), List.length_append, Nat.add_assoc]
    exact Nat.add_le_add_left (braceReach_nested hnᵢ hnⱼ (Nat.lt_of_add_lt_add_left h)) _
  · intro hi hj
    refine ⟨fun h => ?_, Nat.lt_of_not_le⟩
    obtain ⟨front, upper, mid, lower, below, nameᵢ, nameⱼ, rfl, rfl, rfl, hnᵢ, hnⱼ⟩ := exists_of_two_headers hij hi hj
    have hlines : front ++ upper :: (mid ++ lower :: below) = (front ++ upper :: mid) ++ lower :: below := by simp
    have hendⱼ := Span.ofIndentation_append (front ++ upper :: mid) lower below
    rw [← hlines] at hendⱼ
    rw [Span.ofIndentation_append, List.length_append] at h
    obtain ⟨hdeep, hbody⟩ := takeWhile_continuesBody_of_lt (isBlank_of_signatureName? hnⱼ) (Nat.le_of_add_le_add_left h)
    have hle := (takeWhile_continuesBody_isPrefix (Nat.le_of_lt hdeep) below).length_le
    rw [hendⱼ, Span.ofIndentation_append, hbody]
    simp only [List.length_append, List.length_cons]
    omega

theorem span_endLine_nested_shared_last_line :
    let script : List Text :=
      ["function f() \x7b if (a) \x7b".toList, "\x7d function g() \x7b".toList, "\x7d \x7d".toList, "f();".toList]
    let python : List Text := ["def f():".toList, "\tdef g():".toList, "\t\tpass".toList, " ".toList, "f()".toList]
    Family.script.isHeader script 0 = true ∧ Family.script.isHeader script 1 = true ∧
      1 < (Span.ofBraces script 0 false).endLine ∧
      (Span.ofBraces script 1 false).endLine ≤ (Span.ofBraces script 0 false).endLine ∧
      Family.python.isHeader python 0 = true ∧ Family.python.isHeader python 1 = true ∧
      1 ≤ (Span.ofIndentation python 0).endLine ∧
      (Span.ofIndentation python 1).endLine ≤ (Span.ofIndentation python 0).endLine := by
  intro script python
  have hf : Family.script.isHeader script 0 = true := by decide +kernel
  have hg : Family.script.isHeader script 1 = true := by decide +kernel
  have hinside : 1 < (Span.ofBraces script 0 false).endLine := by decide +kernel
  have hf' : Family.python.isHeader python 0 = true := by decide +kernel
  have hg' : Family.python.isHeader python 1 = true := by decide +kernel
  have hinside' : 1 ≤ (Span.ofIndentation python 0).endLine := by decide +kernel
  obtain ⟨hbraces, -⟩ := span_endLine_nested script Nat.zero_lt_one
  obtain ⟨-, hindentation⟩ := span_endLine_nested python Nat.zero_lt_one
  exact ⟨hf, hg, hinside, hbraces hf hg hinside, hf', hg', hinside', (hindentation hf' hg').1 hinside'⟩

end CursorDoc
