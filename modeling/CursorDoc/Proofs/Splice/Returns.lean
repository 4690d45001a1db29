import CursorDoc.Proofs.Splice.Run
import CursorDoc.Proofs.Splice.Trimmed
import Mathlib.Algebra.Order.BigOperators.Group.List
import Mathlib.Algebra.Order.Ring.Nat
import Mathlib.Data.List.TakeWhile

/-!
# Documentation with carriage returns

A splice trims the newlines around a documentation text and removes its margin
before it drops carriage returns. An empty line that ends in one is not
trimmed, and a line of spaces has a say in the margin then. So documentation
with carriage returns can be written with more blank lines around it and at a
deeper place than the same documentation without, but never the other way.
-/

namespace CursorDoc

open Text

def terminatedLines (t : Text) : List Text := (pieces t).dropLast

/-- A text in which carriage returns cannot get in the way: no empty line is in front, no line of spaces and tabs with a
newline after it is at the end, and if something is to be indented, no such line is short of the margin. -/
structure IsTight (t : Text) : Prop where
  first : (terminatedLines t).head? ≠ some []
  last : (pieces t).getLast? = some [] → ∀ line ∈ (terminatedLines t).getLast?, line.all isMarginChar = false
  deep : (∃ line ∈ pieces t, line.isBlank = false) →
    ∀ line ∈ terminatedLines t, line.all isMarginChar = true → margin (pieces t) <+: line

/-! ## Margins -/

section
variable {lines : List Text} {last : Text} (hfilled : ∃ line ∈ lines ++ [last], line.all isMarginChar = false)
include hfilled

theorem isPrefix_margin_returns_iff {w : Text} : w <+: margin (lines.map (· ++ ['\r']) ++ [last]) ↔
    (∀ line ∈ lines, w <+: line.takeWhile isMarginChar) ∧
      (last.all isMarginChar = false → w <+: last.takeWhile isMarginChar) := by
  have hreturn (line : Text) : (line ++ ['\r']).all isMarginChar = false := by simp [isMarginChar]
  have hexists : ∃ line ∈ lines.map (· ++ ['\r']) ++ [last], line.all isMarginChar = false := by
    obtain ⟨line, hm, hl⟩ := hfilled
    simp only [List.mem_append, List.mem_singleton] at hm
    obtain hm | rfl := hm
    · exact ⟨line ++ ['\r'], by simp [hm], hreturn line⟩
    · exact ⟨line, by simp, hl⟩
  rw [isPrefix_margin_iff hexists]
  simp only [List.forall_mem_append, List.forall_mem_map, List.forall_mem_singleton, hreturn, true_imp_iff,
    takeWhile_isMarginChar_append (e := ['\r']) (by simp)]

theorem margin_returns_isPrefix : margin (lines.map (· ++ ['\r']) ++ [last]) <+: margin (lines ++ [last]) := by
  have hself := (isPrefix_margin_returns_iff hfilled).mp List.prefix_rfl
  rw [isPrefix_margin_iff hfilled]
  simp only [List.forall_mem_append, List.forall_mem_singleton]
  exact ⟨fun line hm _ => hself.1 line hm, hself.2⟩

/-- A line of spaces and tabs takes part in the margin once a carriage return is on it. -/
theorem margin_returns_eq_iff : margin (lines.map (· ++ ['\r']) ++ [last]) = margin (lines ++ [last]) ↔
    ∀ line ∈ lines, line.all isMarginChar = true → margin (lines ++ [last]) <+: line := by
  have hall {line : Text} (hl : line.all isMarginChar = true) : line.takeWhile isMarginChar = line :=
    List.takeWhile_eq_self_iff.mpr (List.all_eq_true.mp hl)
  constructor
  · intro h line hm hl
    rw [← hall hl, ← h]
    exact ((isPrefix_margin_returns_iff hfilled).mp List.prefix_rfl).1 line hm
  · intro h
    have hback : margin (lines ++ [last]) <+: margin (lines.map (· ++ ['\r']) ++ [last]) := by
      refine (isPrefix_margin_returns_iff hfilled).mpr ⟨fun line hm => ?_, margin_isPrefix (by simp)⟩
      cases hl : line.all isMarginChar with
      | true =>
        rw [hall hl]
        exact h line hm hl
      | false => exact margin_isPrefix (List.mem_append_left _ hm) hl
    exact (margin_returns_isPrefix hfilled).eq_of_length_le hback.length_le

end

/-! ## Written lengths -/

def writtenLength (indent newline : Text) (lines : List Text) : Nat :=
  (lines.map fun line => (behind indent line).length + newline.length).sum

section
variable (indent newline : Text)

theorem length_flatten_indentBlock (doc : Text) :
    (indentBlock doc indent newline).flatten.length = writtenLength indent newline (normalLines doc) := by
  rw [indentBlock_eq, List.length_flatten, List.map_map, List.map_map]
  unfold writtenLength
  congr 1
  apply List.map_congr_left
  intro line _
  exact List.length_append

theorem writtenLength_append (above below : List Text) : writtenLength indent newline (above ++ below) =
    writtenLength indent newline above + writtenLength indent newline below := by
  unfold writtenLength
  rw [List.map_append, List.sum_append]

variable {newline} in
theorem length_le_writtenLength (hne : newline ≠ []) (lines : List Text) :
    lines.length ≤ writtenLength indent newline lines := by
  have hpos := List.length_pos_of_ne_nil hne
  induction lines with
  | nil => exact Nat.le_refl 0
  | cons line lines ih =>
    unfold writtenLength at ih ⊢
    rw [List.map_cons, List.sum_cons, List.length_cons]
    omega

theorem length_behind_without {w line : Text} (hb : line.isBlank = false) (hw : w <+: line.takeWhile isMarginChar) :
    (behind indent (without w line)).length + w.length = indent.length + line.length := by
  obtain ⟨rest, rfl, hrest⟩ := exists_append_of_isPrefix hw
  rw [hb] at hrest
  rw [without, hb, if_neg Bool.false_ne_true, List.drop_left, behind_of_not_isBlank hrest, List.length_append,
    List.length_append]
  omega

/-- The more of the margin is removed, the less is written. -/
theorem writtenLength_lt {kept : List Text} {w w' : Text}
    (hkept : ∀ line ∈ kept, line.isBlank = false → w <+: line.takeWhile isMarginChar) (hw : w' <+: w) (hne : w' ≠ w)
    (hb : ∃ line ∈ kept, line.isBlank = false) :
    writtenLength indent newline (kept.map (without w)) < writtenLength indent newline (kept.map (without w')) := by
  have hlt : w'.length < w.length := Nat.lt_of_le_of_ne hw.length_le fun h => hne (hw.eq_of_length h)
  have hless {line : Text} (hm : line ∈ kept) (hl : line.isBlank = false) :
      (behind indent (without w line)).length < (behind indent (without w' line)).length := by
    have hline := hkept line hm hl
    have hlen := length_behind_without indent hl hline
    have hlen' := length_behind_without indent hl (hw.trans hline)
    omega
  unfold writtenLength
  rw [List.map_map, List.map_map]
  apply List.sum_lt_sum
  · intro line hm
    cases hl : line.isBlank with
    | true =>
      have hnil (w : Text) : without w line = [] := by rw [without, hl, if_pos rfl]
      simp only [Function.comp_apply, hnil, le_refl]
    | false => exact Nat.add_le_add_right (Nat.le_of_lt (hless hm hl)) _
  · obtain ⟨line, hm, hl⟩ := hb
    exact ⟨line, hm, Nat.add_lt_add_right (hless hm hl) _⟩

end

/-! ## The same block -/

theorem isTight_iff {doc last : Text} {lines : List Text} (hpieces : pieces doc = lines ++ [last]) : IsTight doc ↔
    (lines.head? ≠ some [] ∧ (last = [] → ∀ line ∈ lines.getLast?, line.all isMarginChar = false)) ∧
      ((∃ line ∈ lines ++ [last], line.isBlank = false) →
        margin (lines.map (· ++ ['\r']) ++ [last]) = margin (lines ++ [last])) := by
  have hterminated : terminatedLines doc = lines := by
    rw [terminatedLines, hpieces, List.dropLast_concat]
  have hmargin (h : ∃ line ∈ lines ++ [last], line.isBlank = false) :
      margin (lines.map (· ++ ['\r']) ++ [last]) = margin (lines ++ [last]) ↔
        ∀ line ∈ lines, line.all isMarginChar = true → margin (lines ++ [last]) <+: line := by
    obtain ⟨line, hm, hl⟩ := h
    exact margin_returns_eq_iff ⟨line, hm, all_isMarginChar_of_not_isBlank hl⟩
  constructor
  · intro h
    refine ⟨⟨?_, fun hnil => ?_⟩, fun hb => (hmargin hb).mpr ?_⟩
    · rw [← hterminated]
      exact h.first
    · rw [← hterminated]
      exact h.last (by rw [hpieces, List.getLast?_concat, hnil])
    · have hdeep := h.deep
      rw [hpieces, hterminated] at hdeep
      exact hdeep hb
  · rintro ⟨⟨hfirst, hlast⟩, hdeep⟩
    refine ⟨?_, fun hnil => ?_, ?_⟩
    · rw [hterminated]
      exact hfirst
    · rw [hpieces, List.getLast?_concat] at hnil
      rw [hterminated]
      exact hlast (Option.some.inj hnil)
    · rw [hpieces, hterminated]
      exact fun hb => (hmargin hb).mp (hdeep hb)

theorem map_without_congr {kept : List Text} {w w' : Text} (h : (∃ line ∈ kept, line.isBlank = false) → w' = w) :
    kept.map (without w') = kept.map (without w) := by
  apply List.map_congr_left
  intro line hm
  cases hl : line.isBlank with
  | true => rw [without, without, hl, if_pos rfl, if_pos rfl]
  | false => rw [h ⟨line, hm, hl⟩]

section
variable {doc : Text} (hd : '\r' ∉ doc)
include hd

/-- With carriage returns the same lines are written, less of the margin removed, and with blank lines around them. -/
theorem exists_written : ∃ (a : Nat) (kept lost : List Text) (w w' : Text), normalLines doc = kept.map (without w) ∧
    normalLines (crlf doc) = (List.replicate a [] ++ (kept ++ lost)).map (without w') ∧
    (∀ line ∈ kept, line.isBlank = false → w' <+: w ∧ w <+: line.takeWhile isMarginChar) ∧
    (IsTight doc ↔ (a = 0 ∧ lost = []) ∧ ((∃ line ∈ kept, line.isBlank = false) → w' = w)) := by
  obtain ⟨lines, last, hpieces⟩ : ∃ lines last, pieces doc = lines ++ [last] :=
    ⟨_, _, (List.dropLast_concat_getLast (splitOn_ne_nil '\n' doc)).symm⟩
  have hdoc : joinLines (lines ++ [last]) = doc := by
    rw [← hpieces]
    exact joinWith_splitOn '\n' doc
  have hplain : ∀ line ∈ lines ++ [last], IsPlain line := fun line hm => isPlain_of_mem_pieces hd (hpieces ▸ hm)
  simp only [List.forall_mem_append, List.forall_mem_singleton] at hplain
  have hcrlf := normalLines_crlf hplain.1 hplain.2
  rw [← List.forall_mem_singleton (p := IsPlain), ← List.forall_mem_append] at hplain
  obtain ⟨a, kept, lost, htrimmed⟩ := exists_isTrimmed hplain
  have hnormal := htrimmed.normalLines_eq
  rw [hdoc] at hcrlf hnormal
  rw [htrimmed.untrimmed_eq] at hcrlf
  refine ⟨a, kept, lost, _, _, hnormal, hcrlf, fun line hm hl => ?_, ?_⟩
  · have hm := (htrimmed.mem_iff hl).mpr hm
    have hfilled := all_isMarginChar_of_not_isBlank hl
    exact ⟨margin_returns_isPrefix ⟨line, hm, hfilled⟩, margin_isPrefix hm hfilled⟩
  · rw [isTight_iff hpieces, htrimmed.complete_iff]
    exact and_congr_right fun _ => imp_congr_left (exists_congr fun line => and_congr_left htrimmed.mem_iff)

theorem flatten_indentBlock_crlf (h : IsTight doc) (indent newline : Text) :
    (indentBlock (crlf doc) indent newline).flatten = (indentBlock doc indent newline).flatten := by
  obtain ⟨a, kept, lost, w, w', hnormal, hcrlf, -, htight⟩ := exists_written hd
  obtain ⟨⟨rfl, rfl⟩, hmargin⟩ := htight.mp h
  rw [List.replicate_zero, List.nil_append, List.append_nil, map_without_congr hmargin, ← hnormal] at hcrlf
  rw [indentBlock_eq, indentBlock_eq, hcrlf]

theorem length_flatten_indentBlock_lt (h : ¬ IsTight doc) (indent : Text) {newline : Text} (hne : newline ≠ []) :
    (indentBlock doc indent newline).flatten.length < (indentBlock (crlf doc) indent newline).flatten.length := by
  obtain ⟨a, kept, lost, w, w', hnormal, hcrlf, hkept, htight⟩ := exists_written hd
  have hlead := length_le_writtenLength indent hne ((List.replicate a []).map (without w'))
  have hend := length_le_writtenLength indent hne (lost.map (without w'))
  rw [List.length_map, List.length_replicate] at hlead
  rw [List.length_map] at hend
  rw [length_flatten_indentBlock, length_flatten_indentBlock, hnormal, hcrlf, List.map_append, List.map_append,
    writtenLength_append, writtenLength_append]
  by_cases hsame : (∃ line ∈ kept, line.isBlank = false) → w' = w
  · have haround : ¬ (a = 0 ∧ lost = []) := fun haround => h (htight.mpr ⟨haround, hsame⟩)
    rw [← List.length_eq_zero_iff] at haround
    rw [map_without_congr hsame]
    omega
  · obtain ⟨⟨line, hm, hl⟩, hmargin⟩ := Classical.not_imp.mp hsame
    have hlt := writtenLength_lt indent newline (fun line hm hl => (hkept line hm hl).2) (hkept line hm hl).1 hmargin
      ⟨line, hm, hl⟩
    omega

end

/-- **Carriage returns in documentation.** They make no difference if they are on no empty line at an end and on no
line of spaces and tabs that is short of the margin. Otherwise more is written than without them. -/
theorem splice_crlf_documentation {s doc language : Text} {cursor : Int} {settings : Settings} {r : Record}
    (hr : locate? (.text s) cursor language settings = some r) (hd : '\r' ∉ doc) :
    ∃ t t', splice s r doc = .ok t ∧ splice s r (crlf doc) = .ok t' ∧
      (IsTight doc → t' = t) ∧ (¬ IsTight doc → t.length < t'.length) := by
  obtain ⟨indent, hsplice⟩ := Record.exists_indent_of_locate? hr
  refine ⟨_, _, hsplice doc, hsplice (crlf doc), fun h => ?_, fun h => ?_⟩
  · unfold Record.replacing replaceLines
    simp only [List.flatten_append, flatten_indentBlock_crlf hd h]
  · have hlt := length_flatten_indentBlock_lt hd h indent (newlineOf_ne_nil (r.header s))
    unfold Record.replacing replaceLines
    simp only [List.flatten_append, List.length_append]
    omega

theorem splice_crlf_documentation_tight :
    let s : Text := "def f():\n  return 1\n".toList
    let r : Record :=
      { name := "f".toList, signature := "def f():".toList, body := "def f():\n  return 1\n".toList
        startLine := 0, endLine := 1, language := "python".toList, documentation := none }
    let doc : Text := "\t\"\"\"A\n\t\n\t\tB\n\t\"\"\"\n".toList
    locate? (.text s) 1 r.language {} = some r ∧ '\r' ∉ doc ∧ IsTight doc ∧
      splice s r (crlf doc) = .ok "def f():\n  \"\"\"A\n\n  \tB\n  \"\"\"\n  return 1\n".toList := by
  intro s r doc
  have hr : locate? (.text s) 1 r.language {} = some r := by decide +kernel
  have hd : '\r' ∉ doc := by decide +kernel
  have htight : IsTight doc := ⟨by decide +kernel, by decide +kernel, by decide +kernel⟩
  have hplain : (splice s r doc).toOption =
      some "def f():\n  \"\"\"A\n\n  \tB\n  \"\"\"\n  return 1\n".toList := by decide +kernel
  obtain ⟨t, t', ht, ht', hsame, -⟩ := splice_crlf_documentation hr hd
  obtain rfl := hsame htight
  rw [ht] at hplain
  obtain rfl := Option.some.inj hplain
  exact ⟨hr, hd, htight, ht'⟩

/-- A string that is put two lines below the header and two levels deeper than it. -/
theorem splice_crlf_documentation_moves :
    let s : Text := "def f():\n    return 1\n".toList
    let r : Record :=
      { name := "f".toList, signature := "def f():".toList, body := "def f():\n    return 1\n".toList
        startLine := 0, endLine := 1, language := "python".toList, documentation := none }
    let doc : Text := "\n    \"\"\"A\n\n    B\"\"\"".toList
    locate? (.text s) 0 r.language {} = some r ∧ '\r' ∉ doc ∧
      (splice s r doc).toOption = some "def f():\n    \"\"\"A\n\n    B\"\"\"\n    return 1\n".toList ∧
      (splice s r (crlf doc)).toOption =
        some "def f():\n\n        \"\"\"A\n\n        B\"\"\"\n    return 1\n".toList ∧
      splice s r (crlf doc) ≠ splice s r doc := by
  decide +kernel

end CursorDoc
