import CursorDoc.Proofs.Splice.Range
import CursorDoc.Proofs.Text.Message
import Mathlib.Data.List.GetD

/-!
# Splices that look lines up by number

A splice can be written with loops over line numbers, where every line that is
looked up has to exist: the finders walk up or down from the header, and the
place of an old comment comes from a second walk over blank lines that has no
bound of its own. No such access fails. The walk is made only when a comment was
found, and it stops on the last line of the comment.
-/

namespace CursorDoc

open Text

/-! ## Lines by number -/

/-- A line by its number. A negative number is out of range here and does not count from the end. -/
def lineAt (lines : List Text) (index : Int) : Except LineError Text :=
  if 0 ≤ index ∧ index < lines.length then .ok (lines.getD index.toNat []) else .error .outOfRange

def setLineAt (lines : List Text) (index : Int) (line : Text) : Except LineError (List Text) :=
  if 0 ≤ index ∧ index < lines.length then .ok (lines.set index.toNat line) else .error .outOfRange

def replaceAt (lines : List Text) (start stop : Int) (block : List Text) : Except LineError (List Text) :=
  if 0 ≤ start ∧ start ≤ stop ∧ stop ≤ lines.length then .ok (replaceLines lines start.toNat stop.toNat block)
  else .error .outOfRange

def walkUp (skip : Text → Bool) (lines : List Text) (top : Except LineError Int) : Nat → Except LineError Int
  | 0 => top
  | count + 1 => do
    let line ← lineAt lines count
    if skip line then walkUp skip lines top count else .ok count

def walkDown (skip : Text → Bool) (lines : List Text) : Nat → Nat → Except LineError (Option Nat)
  | _, 0 => .ok none
  | index, count + 1 => do
    let line ← lineAt lines index
    if skip line then walkDown skip lines (index + 1) count else .ok (some index)

def commentEndingAt (lines : List Text) (last : Nat) : Except LineError (Option Text) := do
  let first ← walkUp (!opensComment ·) lines (.ok (-1)) (last + 1)
  if first < 0 then return none else return some (joinLines (linesBetween lines first.toNat (last + 1)))

def commentAbove (lines : List Text) (start : Nat) : Except LineError (Option Text) := do
  let index ← walkUp isBlank lines (.ok (-1)) start
  if index < 0 then return none
  else
    let last ← lineAt lines index
    if closesComment last then commentEndingAt lines index.toNat else return none

def stringFrom (lines : List Text) (first : Nat) (delimiter : Text) : Except LineError Text := do
  match ← walkDown (!·.trim.endsWith delimiter) lines (first + 1) (lines.length - (first + 1)) with
  | some last => return joinLines (linesBetween lines first (last + 1))
  | none => return joinLines (lines.drop first)

def stringBelow (lines : List Text) (header : Nat) : Except LineError (Option Text) := do
  if lines.length ≤ header + 1 then return none
  else
    let first ← lineAt lines (header + 1 : Nat)
    match docstringOpening? first.trim with
    | none => return none
    | some (delimiter, content) =>
      if content < first.trim.length && first.trim.endsWith delimiter then return some first
      else return some (← stringFrom lines (header + 1) delimiter)

def bodyIndentAt (lines : List Text) (startLine endLine : Nat) : Except LineError Text := do
  let header := (← lineAt lines startLine).indentation
  let body := linesBetween lines (startLine + 1) (endLine + 1)
  return match body.find? fun line => !line.isBlank && decide (header.length < line.indentWidth) with
    | some line => line.indentation
    | none => header ++ defaultIndent

/-! ## Splices -/

structure Placement where
  lines : List Text
  existing : Option Text
  start : Int
  indent : Text
  newline : Text
deriving DecidableEq, Repr

def placeBelow (lines plain : List Text) (header : Text) (r : Record) : Except LineError Placement := do
  let lines ← setLineAt lines r.startLine (terminated header)
  let existing ← stringBelow plain r.startLine.toNat
  let indent ← bodyIndentAt plain r.startLine.toNat r.endLine.toNat
  return { lines, existing, start := r.startLine + 1, indent, newline := newlineOf header }

/-- The place above a header. The old comment is known by its text alone, so its last line is looked for again. Nothing
but a line that is not blank ends that walk. -/
def placeAbove (lines plain : List Text) (header : Text) (r : Record) : Except LineError Placement := do
  let existing ← commentAbove plain r.startLine.toNat
  let indent := (← lineAt plain r.startLine).indentation
  let start : Int ← match existing with
    | none => .ok r.startLine
    | some block => do
      let last ← walkUp isBlank plain (.error .outOfRange) r.startLine.toNat
      .ok (last - block.count '\n')
  return { lines, existing, start, indent, newline := newlineOf header }

def placeOf (lines : List Text) (r : Record) : Except LineError Placement := do
  let header ← lineAt lines r.startLine
  let plain := lines.map stripLineEnd
  if (Family.ofTag r.language).isIndented then placeBelow lines plain header r else placeAbove lines plain header r

def linesTaken : Option Text → Int
  | none => 0
  | some block => block.count '\n' + 1

inductive SpliceFault where
  | unfit (fault : SpliceError)
  | noLine (fault : LineError)
deriving DecidableEq, Repr

/-- The splice of `doc` at a record, with all lines looked up by number. -/
def spliceAtLines (source : Text) (r : Record) (doc : Text) : Except SpliceFault Text := do
  let lines := source.splitLines
  if r.IsInside source then
    let place ← (placeOf lines r).mapError .noLine
    if r.documentation.isSome && place.existing.isNone then
      throw (.unfit (.documentationGone r.name r.startLine))
    else
      let edited ← (replaceAt place.lines place.start (place.start + linesTaken place.existing)
        (indentBlock doc place.indent place.newline)).mapError .noLine
      return edited.flatten
  else throw (.unfit (.outside r.startLine r.endLine lines.length))

/-! ## Walks -/

theorem ok_bind {ε α β : Type} (a : α) (f : α → Except ε β) : Except.ok a >>= f = f a := rfl

theorem lineAt_of_lt {lines : List Text} {index : Nat} (h : index < lines.length) :
    lineAt lines index = .ok (lines.getD index []) := by
  unfold lineAt
  rw [if_pos (by omega), Int.toNat_natCast]

theorem reverse_take_succ {lines : List Text} {n : Nat} (h : n < lines.length) :
    (lines.take (n + 1)).reverse = lines.getD n [] :: (lines.take n).reverse := by
  rw [List.take_add_one, List.getElem?_eq_getElem h, List.getD_eq_getElem _ _ h]
  simp

theorem takeThrough_eq {α : Type} (p : α → Bool) : ∀ l : List α, takeThrough p l =
    if (l.takeWhile (!p ·)).length = l.length then none else some (l.take ((l.takeWhile (!p ·)).length + 1))
  | [] => rfl
  | a :: l => by
    rw [takeThrough, takeThrough_eq p l]
    cases ha : p a with
    | true => simp [ha]
    | false =>
      rw [List.takeWhile_cons_of_pos (by simp [ha]), List.length_cons, List.length_cons, if_neg Bool.false_ne_true]
      simp only [Nat.add_right_cancel_iff, List.take_succ_cons]
      split <;> rfl

section
variable {skip : Text → Bool} {lines : List Text}

theorem walkUp_eq (top : Except LineError Int) {n : Nat} (hn : n ≤ lines.length) : walkUp skip lines top n =
    if ((lines.take n).reverse.takeWhile skip).length = n then top
    else .ok (n - 1 - ((lines.take n).reverse.takeWhile skip).length) := by
  induction n with
  | zero => rfl
  | succ n ih =>
    rw [walkUp, lineAt_of_lt hn, ok_bind, reverse_take_succ hn, List.takeWhile_cons]
    cases skip (lines.getD n []) with
    | true =>
      rw [if_pos rfl, if_pos rfl, ih (Nat.le_of_succ_le hn), List.length_cons]
      simp only [Nat.add_right_cancel_iff]
      congr 2
      omega
    | false => simp

theorem walkDown_eq {index n : Nat} (h : lines.length = index + n) : walkDown skip lines index n =
    .ok (if ((lines.drop index).takeWhile skip).length = n then none
      else some (index + ((lines.drop index).takeWhile skip).length)) := by
  induction n generalizing index with
  | zero =>
    have hdrop : lines.drop index = [] := List.drop_eq_nil_of_le (Nat.le_of_eq h)
    rw [hdrop]
    rfl
  | succ n ih =>
    have hlt : index < lines.length := by omega
    have hdrop : lines.drop index = lines.getD index [] :: lines.drop (index + 1) := by
      rw [List.getD_eq_getElem _ _ hlt, List.drop_eq_getElem_cons hlt]
    rw [walkDown, lineAt_of_lt hlt, ok_bind, hdrop, List.takeWhile_cons]
    cases skip (lines.getD index []) with
    | true =>
      rw [if_pos rfl, if_pos rfl, ih (by omega), List.length_cons]
      simp only [Nat.add_right_cancel_iff]
      congr 3
      omega
    | false => simp

end

/-! ## Documentation found by number -/

section
variable {lines : List Text}

theorem drop_length_takeWhile {α : Type} (p : α → Bool) (l : List α) :
    l.drop (l.takeWhile p).length = l.dropWhile p := by
  calc l.drop (l.takeWhile p).length = (l.takeWhile p ++ l.dropWhile p).drop (l.takeWhile p).length := by
        rw [List.takeWhile_append_dropWhile]
    _ = l.dropWhile p := List.drop_left

theorem commentEndingAt_eq {last : Nat} (hlt : last < lines.length) : commentEndingAt lines last =
    .ok ((takeThrough opensComment (lines.take (last + 1)).reverse).map fun block => joinLines block.reverse) := by
  have hlen : (lines.take (last + 1)).length = last + 1 := by
    rw [List.length_take, Nat.min_eq_left hlt]
  have hle := (@List.takeWhile_sublist _ (lines.take (last + 1)).reverse (!opensComment ·)).length_le
  unfold commentEndingAt
  rw [walkUp_eq _ hlt, takeThrough_eq]
  rw [List.length_reverse, hlen] at hle ⊢
  generalize ((lines.take (last + 1)).reverse.takeWhile (!opensComment ·)).length = passed at hle ⊢
  by_cases hall : passed = last + 1
  · rw [if_pos hall, if_pos hall]
    rfl
  · have hfirst : ((last + 1 : Nat) - 1 - passed : Int) = (last - passed : Nat) := by omega
    have hblock : (lines.take (last + 1)).drop (last + 1 - (passed + 1)) =
        linesBetween lines (last - passed) (last + 1) := by
      rw [Nat.add_sub_add_right]
      rfl
    rw [if_neg hall, if_neg hall, hfirst, ok_bind, if_neg (by omega), Option.map_some, List.take_reverse,
      List.reverse_reverse, hlen, hblock]
    rfl

theorem commentAbove_eq {start : Nat} (hle : start ≤ lines.length) :
    commentAbove lines start = .ok ((commentBlock? lines start).map DocBlock.text) := by
  have hpassed := (@List.takeWhile_sublist _ (lines.take start).reverse isBlank).length_le
  have hrun := drop_length_takeWhile isBlank (lines.take start).reverse
  unfold commentAbove commentBlock?
  rw [walkUp_eq _ hle, ← hrun]
  rw [List.length_reverse, List.length_take, Nat.min_eq_left hle] at hpassed
  -- the walk passes this many blank lines; the finder without numbers drops them from the reversed lines
  generalize ((lines.take start).reverse.takeWhile isBlank).length = passed at hpassed ⊢
  rw [List.drop_reverse, List.length_take, Nat.min_eq_left hle, List.take_take, Nat.min_eq_left (Nat.sub_le _ _)]
  cases hk : start - passed with
  | zero =>
    rw [if_pos (by omega)]
    rfl
  | succ last =>
    have hlt : last < lines.length := by omega
    have hindex : (start - 1 - passed : Int) = last := by omega
    rw [if_neg (by omega), hindex, ok_bind, if_neg (by omega), lineAt_of_lt hlt, ok_bind, Int.toNat_natCast,
      commentEndingAt_eq hlt, reverse_take_succ hlt]
    cases hcloses : closesComment (lines.getD last []) with
    | true =>
      simp only [hcloses, ite_true, Option.map_map]
      rfl
    | false =>
      simp only [hcloses]
      rfl

theorem stringFrom_eq {first : Nat} {line : Text} {below : List Text} (hcut : lines.drop first = line :: below)
    (delimiter : Text) : stringFrom lines first delimiter =
      .ok (joinLines (line :: (takeThrough (·.trim.endsWith delimiter) below).getD below)) := by
  have hbelow : lines.drop (first + 1) = below := by
    rw [← List.tail_drop, hcut, List.tail_cons]
  have hlen := congrArg List.length hcut
  rw [List.length_drop, List.length_cons] at hlen
  have hcount : lines.length - (first + 1) = below.length := by omega
  unfold stringFrom
  rw [walkDown_eq (by omega), ok_bind, hbelow, hcount, takeThrough_eq]
  generalize (below.takeWhile (!·.trim.endsWith delimiter)).length = passed
  by_cases hall : passed = below.length
  · rw [if_pos hall, if_pos hall, hcut]
    rfl
  · have hblock : linesBetween lines first (first + 1 + passed + 1) = line :: below.take (passed + 1) := by
      have hlong : first + 1 + passed + 1 - first = passed + 1 + 1 := by omega
      unfold linesBetween
      rw [List.drop_take, hcut, hlong, List.take_succ_cons]
    rw [if_neg hall, if_neg hall, Option.getD_some, ← hblock]
    rfl

theorem stringBelow_eq (header : Nat) : stringBelow lines header = .ok (docstringText? lines header) := by
  unfold stringBelow docstringText? docstring?
  by_cases hend : lines.length ≤ header + 1
  · rw [if_pos hend, List.drop_eq_nil_of_le hend]
    rfl
  have hlt : header + 1 < lines.length := by omega
  have hcut := List.drop_eq_getElem_cons hlt
  rw [if_neg hend, lineAt_of_lt hlt, ok_bind, List.getD_eq_getElem _ _ hlt, hcut]
  generalize lines[header + 1] = first at hcut ⊢
  cases ho : docstringOpening? first.trim with
  | none =>
    simp only [ho]
    rfl
  | some opening =>
    obtain ⟨delimiter, content⟩ := opening
    by_cases hin : (content < first.trim.length && first.trim.endsWith delimiter) = true
    · simp only [ho, Option.bind_eq_bind, Option.bind_some, if_pos hin, Option.pure_def, Option.map_some, DocBlock.text,
        joinLines_singleton]
      rfl
    · simp only [ho, Option.bind_eq_bind, Option.bind_some, if_neg hin, stringFrom_eq hcut]
      rfl

theorem walkUp_of_commentBlock? {header : Nat} {block : DocBlock} (hle : header ≤ lines.length)
    (h : commentBlock? lines header = some block) (top : Except LineError Int) : ∃ last : Nat, last < header ∧
      lastFilled lines header = last ∧ walkUp isBlank lines top header = .ok last := by
  have hpos := List.length_pos_iff.mpr (ne_nil_of_isComment (isComment_of_commentBlock? h))
  have hlast := lastFilled_eq hle h
  have hwalk := @walkUp_eq isBlank lines top header hle
  unfold lastFilled at hlast ⊢
  obtain ⟨last, hat⟩ := Int.eq_ofNat_of_zero_le
    (show 0 ≤ (header : Int) - 1 - ((lines.take header).reverse.takeWhile isBlank).length by omega)
  rw [if_neg (by omega), hat] at hwalk
  exact ⟨last, by omega, hat, hwalk⟩

theorem bodyIndentAt_eq {startLine : Nat} (hlt : startLine < lines.length) (endLine : Nat) :
    bodyIndentAt lines startLine endLine = .ok (bodyIndent lines startLine endLine) := by
  unfold bodyIndentAt bodyIndent linesBetween
  rw [lineAt_of_lt hlt]
  rfl

end

/-! ## Splices at records that fit -/

section
variable {s : Text} {r : Record}

theorem Record.stop_replaced :
    (r.replaced s).2 = (r.replaced s).1 + linesTaken ((r.block? s).map DocBlock.text) := by
  unfold Record.replaced
  cases (r.block? s).map DocBlock.text with
  | none =>
    rw [replacedRange]
    cases (Family.ofTag r.language).isIndented <;> exact (Int.add_zero _).symm
  | some block => exact Int.add_assoc _ _ _

def Record.placement (r : Record) (s : Text) : Placement :=
  { lines := r.openLines s
    existing := (r.block? s).map DocBlock.text
    start := (r.replaced s).1
    indent := r.indent s
    newline := newlineOf (r.header s) }

theorem Record.commentBlock?_eq (hf : (Family.ofTag r.language).isIndented = false) :
    commentBlock? (s.splitLines.map stripLineEnd) r.startLine.toNat = r.block? s := by
  unfold Record.block? Family.docBlock?
  rw [hf]
  rfl

variable (hinside : r.IsInside s)
include hinside

theorem Record.lineAt_startLine {lines : List Text} (hlen : lines.length = s.splitLines.length) :
    lineAt lines r.startLine = .ok (lines.getD r.startLine.toNat []) := by
  have hstart : r.startLine = r.startLine.toNat := (Int.toNat_of_nonneg hinside.1).symm
  rw [hstart]
  exact lineAt_of_lt (hlen ▸ hinside.startLine_lt)

theorem Record.IsInside.startLine_le : r.startLine.toNat ≤ (s.splitLines.map stripLineEnd).length := by
  rw [List.length_map]
  exact Nat.le_of_lt hinside.startLine_lt

theorem placeBelow_eq (hf : (Family.ofTag r.language).isIndented = true) :
    placeBelow s.splitLines (s.splitLines.map stripLineEnd) (r.header s) r = .ok (r.placement s) := by
  have hlt := hinside.startLine_lt
  have hset : setLineAt s.splitLines r.startLine (terminated (r.header s)) = .ok (r.openLines s) := by
    unfold setLineAt Record.openLines
    rw [if_pos ⟨hinside.1, by omega⟩, hf]
    rfl
  have hfound : docstringText? (s.splitLines.map stripLineEnd) r.startLine.toNat =
      (r.block? s).map DocBlock.text := by
    unfold Record.block? Family.docBlock?
    rw [hf]
    rfl
  have hstart : (r.replaced s).1 = r.startLine + 1 := by
    have hheader : r.startLine = r.startLine.toNat := (Int.toNat_of_nonneg hinside.1).symm
    unfold Record.replaced
    rw [hheader, Int.toNat_natCast]
    cases (r.block? s).map DocBlock.text with
    | none => rw [replacedRange, if_pos hf]
    | some block => simp only [replacedRange, if_pos hf]
  unfold placeBelow Record.placement
  rw [hset, ok_bind, stringBelow_eq, ok_bind, bodyIndentAt_eq (by rwa [List.length_map]), ok_bind, hfound, hstart,
    Record.indent_of_isIndented hf]
  rfl

theorem placeAbove_eq (hf : (Family.ofTag r.language).isIndented = false) :
    placeAbove s.splitLines (s.splitLines.map stripLineEnd) (r.header s) r = .ok (r.placement s) := by
  have hle := hinside.startLine_le
  have hblock := Record.commentBlock?_eq (s := s) hf
  unfold placeAbove Record.placement
  rw [commentAbove_eq hle, ok_bind, Record.lineAt_startLine hinside (List.length_map _), ok_bind, hblock,
    Record.indent_of_not_isIndented hf, Record.openLines_of_not_isIndented hf]
  cases hb : r.block? s with
  | none =>
    have hstart : (r.replaced s).1 = r.startLine := by
      rw [Record.replaced_of_none hb, hf]
      exact Int.toNat_of_nonneg hinside.1
    rw [hstart]
    rfl
  | some block =>
    have hstart : (r.replaced s).1 = lastFilled (s.splitLines.map stripLineEnd) r.startLine.toNat -
        block.text.count '\n' := by
      unfold Record.replaced
      rw [hb, Option.map_some, replacedRange, hf]
      rfl
    obtain ⟨last, -, hlast, hwalk⟩ := walkUp_of_commentBlock? hle (hblock.trans hb) (.error .outOfRange)
    rw [hstart, hlast, Option.map_some]
    simp only [hwalk]
    rfl

theorem placeOf_eq : placeOf s.splitLines r = .ok (r.placement s) := by
  unfold placeOf
  rw [Record.lineAt_startLine hinside rfl, ok_bind]
  cases hf : (Family.ofTag r.language).isIndented with
  | true => exact placeBelow_eq hinside hf
  | false => exact placeAbove_eq hinside hf

theorem replaceAt_placement (block : List Text) :
    replaceAt (r.placement s).lines (r.placement s).start
      ((r.placement s).start + linesTaken (r.placement s).existing) block = .ok (r.replacing s block) := by
  obtain ⟨⟨hnonneg, hle, hstop⟩, -⟩ := Record.removed_eq hinside.startLine_lt
  unfold replaceAt Record.placement
  rw [← Record.stop_replaced, Record.length_openLines, if_pos ⟨hnonneg, hle, hstop⟩]
  rfl

end

theorem spliceAtLines_eq (s : Text) (r : Record) (doc : Text) :
    spliceAtLines s r doc = (splice s r doc).mapError .unfit := by
  rw [Record.splice_eq]
  unfold spliceAtLines
  by_cases hinside : r.IsInside s
  · have hgone : (r.placement s).existing.isNone = (r.block? s).isNone := Option.isNone_map
    have hplace : (placeOf s.splitLines r).mapError SpliceFault.noLine = .ok (r.placement s) := by
      rw [placeOf_eq hinside]
      rfl
    rw [if_pos hinside, if_pos hinside, hplace, ok_bind, hgone, replaceAt_placement hinside]
    split <;> rfl
  · rw [if_neg hinside, if_neg hinside]
    rfl

theorem spliceAtLines_eq_ite (s : Text) (r : Record) (doc : Text) : spliceAtLines s r doc =
    if r.IsInside s then
      if r.documentation.isSome && (r.block? s).isNone then .error (.unfit (.documentationGone r.name r.startLine))
      else .ok (r.replacing s (r.written s doc)).flatten
    else .error (.unfit (.outside r.startLine r.endLine s.splitLines.length)) := by
  rw [spliceAtLines_eq, Record.splice_eq]
  split
  · split <;> rfl
  · rfl

/-! ## What is said about it -/

def outsideMessage (startLine endLine : Int) (lineCount : Nat) : Text :=
  "Function lines ".toList ++ decimalInt startLine ++ ['-'] ++ decimalInt endLine ++
    " are outside the source (".toList ++ decimalInt lineCount ++ " lines)".toList

theorem message_outside (startLine endLine : Int) (lineCount : Nat) :
    (SpliceError.outside startLine endLine lineCount).message =
      if IsLong startLine ∨ IsLong endLine ∨ IsLong lineCount then NumberFault.tooLong.message
      else outsideMessage startLine endLine lineCount := by
  unfold SpliceError.message
  split
  · next h =>
    obtain h | h | h := h <;> exact shown_of_long (by simp [SpliceError.pieces]) h
  · next h =>
    obtain ⟨hstart, hrest⟩ := not_or.mp h
    obtain ⟨hend, hcount⟩ := not_or.mp hrest
    refine (shown_of_written fun n hn => ?_).trans ?_
    · simp only [SpliceError.pieces, List.mem_cons, reduceCtorEq, List.not_mem_nil, or_false, false_or] at hn
      obtain hn | hn | hn := hn <;> rwa [Piece.number.inj hn]
    · unfold SpliceError.pieces outsideMessage
      -- the words are not taken apart
      generalize "Function lines ".toList = front
      generalize " are outside the source (".toList = middle
      generalize " lines)".toList = back
      simp [Piece.plain]

/-- **A splice fails exactly if the record does not fit.** With every line looked up by number a splice does what it
does without: no look-up fails. It fails if the lines of the record are not there, which is what it then says if its
numbers can be written, or if the record has documentation and none is found. Wherever a comment is found, the walk for
its last line stops above the header. -/
theorem spliceAtLines_eq_error_iff (s : Text) (r : Record) (doc : Text) :
    spliceAtLines s r doc = (splice s r doc).mapError .unfit ∧
      ((∃ fault, spliceAtLines s r doc = .error fault) ↔
        ¬ r.IsInside s ∨ (r.documentation ≠ none ∧ r.block? s = none)) ∧
      (∀ fault, spliceAtLines s r doc = .error fault → fault = .unfit (if r.IsInside s then
        .documentationGone r.name r.startLine else .outside r.startLine r.endLine s.splitLines.length)) ∧
      (SpliceError.outside r.startLine r.endLine s.splitLines.length).message =
        (if IsLong r.startLine ∨ IsLong r.endLine ∨ IsLong s.splitLines.length then NumberFault.tooLong.message
          else outsideMessage r.startLine r.endLine s.splitLines.length) ∧
      ((Family.ofTag r.language).isIndented = false → r.IsInside s → r.block? s ≠ none → ∃ last : Nat,
        walkUp isBlank (s.splitLines.map stripLineEnd) (.error .outOfRange) r.startLine.toNat = .ok last ∧
          last < r.startLine) := by
  refine ⟨spliceAtLines_eq s r doc, ?_, ?_, message_outside _ _ _, fun hf hinside hfound => ?_⟩
  · rw [spliceAtLines_eq_ite]
    by_cases hinside : r.IsInside s
    · rw [if_pos hinside]
      cases r.documentation <;> cases r.block? s <;> simp [hinside]
    · simp [hinside]
  · intro fault hfault
    rw [spliceAtLines_eq_ite] at hfault
    by_cases hinside : r.IsInside s
    · rw [if_pos hinside] at hfault ⊢
      split at hfault
      · exact (Except.error.inj hfault).symm
      · cases hfault
    · rw [if_neg hinside] at hfault ⊢
      exact (Except.error.inj hfault).symm
  · obtain ⟨block, hb⟩ := Option.ne_none_iff_exists'.mp hfound
    have hblock := (Record.commentBlock?_eq hf).trans hb
    obtain ⟨last, hlt, -, hwalk⟩ := walkUp_of_commentBlock? hinside.startLine_le hblock (.error .outOfRange)
    have hnonneg := hinside.1
    exact ⟨last, hwalk, by omega⟩

theorem spliceAtLines_eq_error_iff_made_record :
    let s : Text := "x();\n/* f\n */\n \n\r\nint f() \x7b\x7d".toList
    let r : Record :=
      { name := "f".toList, signature := [], body := [], startLine := 5, endLine := 5, language := "c".toList
        documentation := some "gone".toList }
    let far : Record := { r with startLine := -3 }
    let stale : Record := { r with startLine := 1 }
    (¬ ∃ fault, spliceAtLines s r [] = .error fault) ∧
      (∃ last : Nat, walkUp isBlank (s.splitLines.map stripLineEnd) (.error .outOfRange) 5 = .ok last ∧
        (last : Int) < 5) ∧
      spliceAtLines s far [] = .error (.unfit (.outside (-3) 5 6)) ∧
      spliceAtLines s stale [] = .error (.unfit (.documentationGone "f".toList 1)) := by
  repeat rw [String.toList_ofList]
  intro s r far stale
  have hinside : r.IsInside s := by decide +kernel
  have hfound : r.block? s ≠ none := by decide +kernel
  have hfar : ¬ far.IsInside s := by decide +kernel
  have hstale : stale.IsInside s := by decide +kernel
  have hgone : stale.block? s = none := by decide +kernel
  have hlen : s.splitLines.length = 6 := by decide +kernel
  obtain ⟨-, hfails, -, -, hwalks⟩ := spliceAtLines_eq_error_iff s r []
  obtain ⟨-, hfarFails, hfarFault, -⟩ := spliceAtLines_eq_error_iff s far []
  obtain ⟨-, hstaleFails, hstaleFault, -⟩ := spliceAtLines_eq_error_iff s stale []
  refine ⟨fun h => ?_, hwalks (by decide +kernel) hinside hfound, ?_, ?_⟩
  · obtain hout | ⟨-, hnone⟩ := hfails.mp h
    · exact hout hinside
    · exact hfound hnone
  · obtain ⟨fault, hfault⟩ := hfarFails.mpr (.inl hfar)
    rw [hfault, hfarFault fault hfault, if_neg hfar, hlen]
  · obtain ⟨fault, hfault⟩ := hstaleFails.mpr (.inr ⟨by decide, hgone⟩)
    rw [hfault, hstaleFault fault hfault, if_pos hstale]

end CursorDoc
