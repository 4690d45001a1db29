import CursorDoc.Proofs.Splice.Normal
import CursorDoc.Proofs.Text.Crlf
import Mathlib.Data.List.Basic

/-!
# Normal lines of a documentation text

The normal lines of a text are what is left of its lines without the margin.
Empty lines in front are trimmed first, and lines of spaces and tabs at the
end are lost. Where carriage returns stand in front of the newlines, hardly
anything is trimmed or lost, and the margin is another one.
-/

namespace CursorDoc

open Text

/-! ## Lines without a margin -/

def without (w line : Text) : Text := if line.isBlank then [] else line.drop w.length

def IsPlain (line : Text) : Prop := ∀ c ∈ line, isLineEnd c = false

theorem isPlain_of_mem_pieces {doc line : Text} (hd : '\r' ∉ doc) (hm : line ∈ pieces doc) : IsPlain line := by
  intro c hc
  obtain ⟨hdoc, hnewline⟩ := mem_of_mem_splitOn hm hc
  have hreturn : c ≠ '\r' := fun e => hd (e ▸ hdoc)
  simp [isLineEnd, hreturn, hnewline]

section
variable {line : Text} (h : IsPlain line)
include h

theorem IsPlain.newline_not_mem : '\n' ∉ line := by
  intro hm
  cases h '\n' hm

theorem IsPlain.newline_not_mem_append {e : Text} (he : ∀ c ∈ e, c = '\r') : '\n' ∉ line ++ e := by
  intro hm
  obtain hm | hm := List.mem_append.mp hm
  · exact h.newline_not_mem hm
  · cases he '\n' hm

theorem IsPlain.stripLineEnd_append {e : Text} (he : ∀ c ∈ e, c = '\r') : stripLineEnd (line ++ e) = line := by
  have hend : ∀ c ∈ e, isLineEnd c = true := fun c hc => by rw [he c hc]; rfl
  rw [Text.stripLineEnd_append hend]
  exact dropEndWhile_of_all_not h

theorem IsPlain.drop (n : Nat) : IsPlain (line.drop n) := fun c hc => h c (List.mem_of_mem_drop hc)

end

theorem takeWhile_isMarginChar_append {e : Text} (he : ∀ c ∈ e, c = '\r') (line : Text) :
    (line ++ e).takeWhile isMarginChar = line.takeWhile isMarginChar := by
  have hnil : e.takeWhile isMarginChar = [] := by
    cases e with
    | nil => rfl
    | cons c e =>
      obtain rfl := he c (List.mem_cons_self ..)
      rfl
  rw [List.takeWhile_append, hnil, List.append_nil]
  split
  · rename_i h
    exact ((List.takeWhile_prefix _).eq_of_length h).symm
  · rfl

theorem all_isMarginChar_of_not_isBlank {line : Text} (h : line.isBlank = false) : line.all isMarginChar = false := by
  rw [← Bool.not_eq_true] at h ⊢
  exact fun hall => h (isBlank_of_all_isMarginChar hall)

theorem exists_append_of_isPrefix {w line : Text} (hw : w <+: line.takeWhile isMarginChar) :
    ∃ rest, line = w ++ rest ∧ isBlank rest = isBlank line := by
  have hblank : w.isBlank = true :=
    isBlank_of_all_isMarginChar (List.all_eq_true.mpr fun c hc => List.all_eq_true.mp List.all_takeWhile c (hw.subset hc))
  obtain ⟨rest, rfl⟩ := hw.trans (List.takeWhile_prefix _)
  exact ⟨rest, rfl, (isBlank_append hblank rest).symm⟩

theorem behind_nil_drop {w line : Text} (hw : w <+: line.takeWhile isMarginChar) :
    behind [] (line.drop w.length) = without w line := by
  obtain ⟨rest, rfl, hb⟩ := exists_append_of_isPrefix hw
  rw [List.drop_left, without, ← hb, List.drop_left]
  rfl

section
variable {w line e : Text} (he : ∀ c ∈ e, c = '\r')
  (hw : (line ++ e).all isMarginChar = false → w <+: (line ++ e).takeWhile isMarginChar)
include he hw

theorem behind_nil_cut (h : IsPlain line) :
    behind [] (stripLineEnd (if (line ++ e).all isMarginChar then [] else (line ++ e).drop w.length)) =
      without w line := by
  cases hall : (line ++ e).all isMarginChar with
  | true =>
    rw [List.all_append, Bool.and_eq_true] at hall
    rw [if_pos rfl, without, if_pos (isBlank_of_all_isMarginChar hall.1)]
    rfl
  | false =>
    have hw := hw hall
    rw [takeWhile_isMarginChar_append he] at hw
    have hle := (hw.trans (List.takeWhile_prefix _)).length_le
    rw [if_neg Bool.false_ne_true, List.drop_append_of_le_length hle, (h.drop _).stripLineEnd_append he,
      behind_nil_drop hw]

end

theorem cut_eq_nil_iff {w piece : Text} (hw : piece.all isMarginChar = false → w <+: piece.takeWhile isMarginChar) :
    (if piece.all isMarginChar then [] else piece.drop w.length) = [] ↔ piece.all isMarginChar = true := by
  cases hall : piece.all isMarginChar with
  | true => exact iff_of_true rfl rfl
  | false =>
    refine iff_of_false (fun hnil => ?_) Bool.false_ne_true
    have hlen := List.drop_eq_nil_iff.mp hnil
    have hself := (List.takeWhile_prefix isMarginChar).eq_of_length_le (Nat.le_trans hlen (hw hall).length_le)
    rw [← hself, List.all_takeWhile] at hall
    cases hall

section
variable {lines : List Text} {last e e' : Text} (hp : ∀ line ∈ lines, IsPlain line) (hlast : IsPlain last)
  (he : ∀ c ∈ e, c = '\r') (he' : ∀ c ∈ e', c = '\r')
include hp hlast he he'

theorem newline_not_mem_of_isPlain : ∀ piece ∈ lines.map (· ++ e) ++ [last ++ e'], '\n' ∉ piece := by
  simp only [List.forall_mem_append, List.forall_mem_map, List.forall_mem_singleton]
  exact ⟨fun line hm => (hp line hm).newline_not_mem_append he, hlast.newline_not_mem_append he'⟩

theorem map_behind_asLines_dedentLines :
    (Buffer.text (joinLines (dedentLines (lines.map (· ++ e) ++ [last ++ e'])))).asLines.map (behind []) =
      (lines ++ if (last ++ e').all isMarginChar then [] else [last]).map
        (without (margin (lines.map (· ++ e) ++ [last ++ e']))) := by
  have hw : ∀ piece ∈ lines.map (· ++ e) ++ [last ++ e'], piece.all isMarginChar = false →
      margin (lines.map (· ++ e) ++ [last ++ e']) <+: piece.takeWhile isMarginChar := fun _ hm hl => margin_isPrefix hm hl
  have hcut {w : Text} : ∀ piece ∈ lines.map (· ++ e) ++ [last ++ e'],
      '\n' ∉ if piece.all isMarginChar then [] else piece.drop w.length := by
    intro piece hm
    split
    · exact List.not_mem_nil
    · exact fun hc => newline_not_mem_of_isPlain hp hlast he he' piece hm (List.mem_of_mem_drop hc)
  unfold dedentLines
  generalize margin (lines.map (· ++ e) ++ [last ++ e']) = w at hw ⊢
  simp only [List.forall_mem_append, List.forall_mem_map, List.forall_mem_singleton] at hw hcut
  rw [List.map_append, List.map_singleton,
    asLines_joinLines (List.forall_mem_map.mpr (List.forall_mem_map.mpr hcut.1)) hcut.2]
  simp only [List.map_append, List.map_map, cut_eq_nil_iff hw.2]
  congr 1
  · apply List.map_congr_left
    intro line hm
    exact behind_nil_cut he (hw.1 line hm) (hp line hm)
  · split
    · rfl
    · rename_i hfilled
      have hline := behind_nil_cut he' hw.2 hlast
      rw [if_neg hfilled] at hline
      rw [List.map_singleton, List.map_singleton, hline]

/-- What is written of lines whose terminators may hold carriage returns. A line of spaces and tabs at the end that no
terminator comes after is lost. -/
theorem normalLines_of_trimWhile {doc : Text}
    (htrim : trimWhile (· == '\n') doc = joinLines (lines.map (· ++ e) ++ [last ++ e'])) :
    normalLines doc = (lines ++ if (last ++ e').all isMarginChar then [] else [last]).map
      (without (margin (lines.map (· ++ e) ++ [last ++ e']))) := by
  unfold normalLines blockLines dedent
  rw [htrim, pieces_joinLines (by simp) (newline_not_mem_of_isPlain hp hlast he he')]
  exact map_behind_asLines_dedentLines hp hlast he he'

end

/-! ## Trimmed newlines -/

/-- The lines that are written of joined lines if none of them is trimmed. A line of spaces and tabs at the end that no
newline comes after is lost. -/
def untrimmed (lines : List Text) (last : Text) : List Text := lines ++ if last.all isMarginChar then [] else [last]

/-- Lines are all empty, or they are lines that are not empty at both ends, with empty lines around. -/
theorem exists_empty_around (lines : List Text) : (∃ n, lines = List.replicate n []) ∨
    ∃ a inner last b, lines = List.replicate a [] ++ (inner ++ [last] ++ List.replicate b []) ∧
      (inner ++ [last]).head? ≠ some [] ∧ last ≠ [] := by
  have hempty {run : List Text} (h : ∀ line ∈ run, line.isEmpty = true) : run = List.replicate run.length [] :=
    List.eq_replicate_of_mem fun line hm => List.isEmpty_iff.mp (h line hm)
  obtain ⟨front, run, rfl, hrun, hfront⟩ := exists_last_run List.isEmpty lines
  have hlead := hempty (List.all_eq_true.mp (List.all_takeWhile (p := List.isEmpty) (l := front)))
  have hsplit := List.takeWhile_append_dropWhile (p := List.isEmpty) (l := front)
  have hfirst := List.head?_dropWhile_not List.isEmpty front
  rw [hlead] at hsplit
  rw [hempty hrun]
  obtain hnil | ⟨inner, last, hinner⟩ := List.eq_nil_or_concat' (front.dropWhile List.isEmpty)
  · rw [hnil, List.append_nil] at hsplit
    exact .inl ⟨_, by rw [← hsplit, List.replicate_append_replicate]⟩
  · rw [hinner] at hsplit hfirst
    refine .inr ⟨_, inner, last, _, by rw [← hsplit, List.append_assoc], fun hhead => ?_, fun hnil => ?_⟩
    · rw [hhead] at hfirst
      cases hfirst
    · have hlast := hfront last (by rw [← hsplit, ← List.append_assoc, List.getLast?_concat]; rfl)
      rw [hnil] at hlast
      cases hlast

theorem all_isMarginChar_of_mem_replicate (n : Nat) :
    ∀ line ∈ List.replicate n ([] : Text), line.all isMarginChar = true := by
  intro line hm
  rw [(List.mem_replicate.mp hm).2]
  rfl

theorem head?_replicate_append_iff {lines : List Text} (h : lines.head? ≠ some []) (a : Nat) :
    (List.replicate a [] ++ lines).head? ≠ some [] ↔ a = 0 := by
  cases a with
  | zero => exact iff_of_true h rfl
  | succ a => exact iff_of_false (fun hne => hne rfl) (Nat.succ_ne_zero a)

theorem mem_untrimmed_iff {lines : List Text} {last line : Text} (hl : line.isBlank = false) :
    line ∈ untrimmed lines last ↔ line ∈ lines ++ [last] := by
  unfold untrimmed
  split
  · rename_i hall
    rw [List.append_nil, List.mem_append, List.mem_singleton]
    refine ⟨.inl, fun hm => hm.resolve_right ?_⟩
    rintro rfl
    rw [isBlank_of_all_isMarginChar hall] at hl
    cases hl
  · exact Iff.rfl

theorem crlf_joinLines {lines : List Text} (hn : ∀ line ∈ lines, '\n' ∉ line) {last : Text} (hlast : '\n' ∉ last) :
    crlf (joinLines (lines ++ [last])) = joinLines (lines.map (· ++ ['\r']) ++ [last]) := by
  rw [joinLines_concat, joinLines_concat, crlf_append, crlf_flatten, crlf_of_not_mem hlast, List.map_map, List.map_map]
  congr 2
  apply List.map_congr_left
  intro line hm
  rw [Function.comp_apply, crlf_newline (hn line hm), Function.comp_apply, List.append_assoc]
  rfl

section
variable {lines : List Text} {last : Text} (hp : ∀ line ∈ lines, IsPlain line) (hlast : IsPlain last)
include hp hlast

/-- Of lines that are not empty at both ends only the empty lines put around them are trimmed. -/
theorem normalLines_joinLines (hfirst : (lines ++ [last]).head? ≠ some []) (hne : last ≠ []) (a b : Nat) :
    normalLines (joinLines (List.replicate a [] ++ (lines ++ [last] ++ List.replicate b []))) =
      (untrimmed lines last).map
        (without (margin (List.replicate a [] ++ (lines ++ [last] ++ List.replicate b [])))) := by
  have hn : ∀ line ∈ lines ++ [last], '\n' ∉ line := by
    simpa using @newline_not_mem_of_isPlain lines last [] [] hp hlast (by simp) (by simp)
  have htrim := trimWhile_joinLines_between (by simp) hfirst (by simpa using hne) hn a b
  have hwritten := @normalLines_of_trimWhile lines last [] [] hp hlast (by simp) (by simp)
  simp only [List.append_nil, List.map_id'] at hwritten
  rw [margin_of_all_append (all_isMarginChar_of_mem_replicate a),
    margin_append_of_all (all_isMarginChar_of_mem_replicate b)]
  exact hwritten htrim

/-- With carriage returns nothing is trimmed but one newline at the end. -/
theorem normalLines_crlf : normalLines (crlf (joinLines (lines ++ [last]))) =
    (untrimmed lines last).map (without (margin (lines.map (· ++ ['\r']) ++ [last]))) := by
  have hreturn : ∀ c ∈ ['\r'], c = '\r' := by simp
  have hfilled (line : Text) : (line ++ ['\r']).all isMarginChar = false := by simp [isMarginChar]
  rw [crlf_joinLines (fun line hm => (hp line hm).newline_not_mem) hlast.newline_not_mem]
  by_cases hne : last = []
  · subst hne
    obtain rfl | ⟨init, final, rfl⟩ := List.eq_nil_or_concat' lines
    · rfl
    · simp only [List.forall_mem_append, List.forall_mem_singleton] at hp
      have hfirst : ((init ++ [final]).map (· ++ ['\r'])).head? ≠ some [] := by
        cases init <;> simp
      have hn := newline_not_mem_of_isPlain hp.1 hp.2 hreturn hreturn
      have htrim := trimWhile_joinLines (by simp) hfirst (by simp) (by simpa using hn) 1
      rw [List.map_append, List.map_singleton] at htrim
      have hwritten := normalLines_of_trimWhile hp.1 hp.2 hreturn hreturn htrim
      rw [hfilled] at hwritten
      rw [margin_append_of_all (by simp), List.map_append, List.map_singleton]
      simpa [untrimmed] using hwritten
  · have hfirst : (lines.map (· ++ ['\r']) ++ [last]).head? ≠ some [] := by
      cases lines <;> simp [hne]
    have hn := @newline_not_mem_of_isPlain lines last ['\r'] [] hp hlast hreturn (by simp)
    rw [List.append_nil] at hn
    have htrim := trimWhile_joinLines (by simp) hfirst (by simpa using hne) hn 0
    have hwritten := @normalLines_of_trimWhile lines last ['\r'] [] hp hlast hreturn (by simp)
    rw [List.append_nil] at hwritten
    rw [List.replicate_zero, List.append_nil] at htrim
    exact hwritten htrim

end

/-- How the lines that are written of joined lines lie in those that are written if none is trimmed: `a` empty lines
are trimmed in front of them, and some lines of spaces and tabs are lost behind them. -/
structure IsTrimmed (lines : List Text) (last : Text) (a : Nat) (kept lost : List Text) : Prop where
  untrimmed_eq : untrimmed lines last = List.replicate a [] ++ (kept ++ lost)
  blank : ∀ line ∈ lost, line.all isMarginChar = true
  normalLines_eq : normalLines (joinLines (lines ++ [last])) = kept.map (without (margin (lines ++ [last])))
  complete_iff : a = 0 ∧ lost = [] ↔ lines.head? ≠ some [] ∧
    (last = [] → ∀ line ∈ lines.getLast?, line.all isMarginChar = false)

theorem IsTrimmed.mem_iff {lines kept lost : List Text} {last line : Text} {a : Nat}
    (h : IsTrimmed lines last a kept lost) (hl : line.isBlank = false) : line ∈ lines ++ [last] ↔ line ∈ kept := by
  rw [← mem_untrimmed_iff hl, h.untrimmed_eq, List.mem_append, List.mem_append]
  constructor
  · rintro (hm | hm | hm)
    · rw [(List.mem_replicate.mp hm).2] at hl
      cases hl
    · exact hm
    · rw [isBlank_of_all_isMarginChar (h.blank line hm)] at hl
      cases hl
  · exact fun hm => .inr (.inl hm)

theorem isTrimmed_of_empty (n : Nat) : IsTrimmed (List.replicate n []) [] n [] [] where
  untrimmed_eq := by simp [untrimmed]
  blank := by simp
  normalLines_eq := by
    have htrim : trimWhile (· == '\n') (joinLines (List.replicate n [] ++ [[]])) = [] := by
      rw [joinLines_replicate_append (by simp), trimWhile, List.dropWhile_append_of_pos (by simp)]
      rfl
    unfold normalLines blockLines
    rw [htrim]
    rfl
  complete_iff := by
    cases n with
    | zero => simp
    | succ n => simp [List.replicate_succ]

section
variable {inner : List Text} {filled : Text} (hp : ∀ line ∈ inner, IsPlain line) (hfilled : IsPlain filled)
  (hfirst : (inner ++ [filled]).head? ≠ some []) (hne : filled ≠ [])
include hp hfilled hfirst hne

theorem isTrimmed_of_ne_nil (a : Nat) :
    IsTrimmed (List.replicate a [] ++ inner) filled a (untrimmed inner filled) [] where
  untrimmed_eq := by simp [untrimmed]
  blank := by simp
  normalLines_eq := by
    have hwritten := normalLines_joinLines hp hfilled hfirst hne a 0
    rw [List.replicate_zero, List.append_nil, ← List.append_assoc] at hwritten
    exact hwritten
  complete_iff := by
    have hhead : inner.head? ≠ some [] := by
      intro hnil
      rw [List.head?_append, hnil] at hfirst
      exact hfirst rfl
    rw [head?_replicate_append_iff hhead, and_iff_left rfl, and_iff_left fun h => absurd h hne]

theorem isTrimmed_of_newline (a b : Nat) :
    IsTrimmed (List.replicate a [] ++ (inner ++ [filled]) ++ List.replicate b []) [] a (untrimmed inner filled)
      ((if filled.all isMarginChar then [filled] else []) ++ List.replicate b []) where
  untrimmed_eq := by
    unfold untrimmed
    cases filled.all isMarginChar <;> simp
  blank := by
    rw [List.forall_mem_append]
    refine ⟨?_, all_isMarginChar_of_mem_replicate b⟩
    split
    · rename_i hall
      exact List.forall_mem_singleton.mpr hall
    · exact nofun
  normalLines_eq := by
    have hwritten := normalLines_joinLines hp hfilled hfirst hne a (b + 1)
    rw [List.replicate_succ', ← List.append_assoc, ← List.append_assoc] at hwritten
    exact hwritten
  complete_iff := by
    have hhead : (inner ++ [filled] ++ List.replicate b []).head? ≠ some [] := by
      rw [List.head?_append_of_ne_nil _ (by simp)]
      exact hfirst
    rw [List.append_assoc, head?_replicate_append_iff hhead]
    cases b with
    | zero => simp
    | succ b =>
      refine iff_of_false (by simp) fun ⟨_, hend⟩ => ?_
      rw [List.replicate_succ', ← List.append_assoc, ← List.append_assoc, List.getLast?_concat] at hend
      cases hend rfl [] rfl

end

theorem exists_isTrimmed {lines : List Text} {last : Text} (hp : ∀ line ∈ lines ++ [last], IsPlain line) :
    ∃ a kept lost, IsTrimmed lines last a kept lost := by
  obtain ⟨n, hlines⟩ | ⟨a, inner, filled, b, hlines, hfirst, hne⟩ := exists_empty_around (lines ++ [last])
  · have hempty := (List.eq_replicate_iff.mp hlines).2
    simp only [List.forall_mem_append, List.forall_mem_singleton] at hempty
    obtain ⟨hlead, rfl⟩ := hempty
    rw [List.eq_replicate_of_mem hlead]
    exact ⟨_, _, _, isTrimmed_of_empty lines.length⟩
  · rw [hlines] at hp
    simp only [List.forall_mem_append, List.forall_mem_singleton] at hp
    obtain ⟨-, ⟨hinner, hfilled⟩, -⟩ := hp
    cases b with
    | zero =>
      rw [List.replicate_zero, List.append_nil, ← List.append_assoc, List.append_singleton_inj] at hlines
      obtain ⟨rfl, rfl⟩ := hlines
      exact ⟨_, _, _, isTrimmed_of_ne_nil hinner hfilled hfirst hne a⟩
    | succ b =>
      rw [List.replicate_succ', ← List.append_assoc, ← List.append_assoc, List.append_singleton_inj] at hlines
      obtain ⟨rfl, rfl⟩ := hlines
      exact ⟨_, _, _, isTrimmed_of_newline hinner hfilled hfirst hne a b⟩

end CursorDoc
