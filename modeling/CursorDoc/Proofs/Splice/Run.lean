import CursorDoc.Edit
import CursorDoc.Proofs.Splice.Located
import CursorDoc.Proofs.Window

/-!
# Runs of edits

A splice finds the old documentation a second time, in a text that it cuts
into lines itself, and counts the lines to take out from the newlines in what
it found. On a record that was located in the same text the count comes out
right: the lines taken out are those of the reported documentation. So no splice
of a run fails, whatever the steps before it have written, and no search but for
a number that is too long to be reported.
-/

namespace CursorDoc

open Text

/-! ## The lines that a splice takes out -/

def lastFilled (lines : List Text) (header : Nat) : Int :=
  header - 1 - ((lines.take header).reverse.takeWhile isBlank).length

/-- Where the lines that a splice takes out start and stop, counted from the header and from the newlines in the
text of the block that is there. -/
def replacedRange (family : Family) (lines : List Text) (header : Nat) : Option Text → Int × Int
  | none => if family.isIndented then (header + 1, header + 1) else (header, header)
  | some block =>
    let start : Int := if family.isIndented then header + 1 else lastFilled lines header - block.count '\n'
    (start, start + block.count '\n' + 1)

def Record.block? (r : Record) (s : Text) : Option DocBlock :=
  (Family.ofTag r.language).docBlock? (s.splitLines.map stripLineEnd) r.startLine.toNat

def Record.replaced (r : Record) (s : Text) : Int × Int :=
  replacedRange (.ofTag r.language) (s.splitLines.map stripLineEnd) r.startLine.toNat
    ((r.block? s).map DocBlock.text)

def Record.removed (r : Record) (s : Text) : List Text :=
  (s.splitLines.take (r.replaced s).2.toNat).drop (r.replaced s).1.toNat

section
variable {family : Family} {lines : List Text} {header : Nat} {block : DocBlock}

theorem lastFilled_eq (hlt : header ≤ lines.length) (h : commentBlock? lines header = some block) :
    lastFilled lines header = block.first + block.lines.length - 1 := by
  obtain ⟨above, gap, htake, hfirst, hgap, hcom⟩ := commentBlock?_eq_some_iff.mp h
  obtain ⟨init, last, hlines⟩ : ∃ init last, block.lines = init ++ [last] :=
    ⟨_, _, (List.dropLast_concat_getLast (ne_nil_of_isComment hcom)).symm⟩
  have hlast : last.isBlank = false := by
    unfold isComment at hcom
    rw [Bool.and_eq_true, Bool.and_eq_true, hlines, List.getLast?_concat] at hcom
    exact isBlank_of_closesComment hcom.1.2
  have hrun : (lines.take header).reverse.takeWhile isBlank = gap.reverse := by
    rw [htake, hlines]
    simp only [List.reverse_append, List.append_assoc]
    rw [List.takeWhile_append_of_pos fun line hm => hgap line (List.mem_reverse.mp hm)]
    simp [hlast]
  have hlen := congrArg List.length htake
  rw [List.length_take, Nat.min_eq_left hlt, List.length_append, List.length_append] at hlen
  unfold lastFilled
  rw [hrun, List.length_reverse, hfirst, hlen]
  omega

/-- The lines counted from the text of a block are the lines of the block. -/
theorem replacedRange_docBlock? (hn : ∀ line ∈ lines, '\n' ∉ line) (hlt : header ≤ lines.length)
    (h : family.docBlock? lines header = some block) :
    replacedRange family lines header (some block.text) = (↑block.first, ↑block.stop) := by
  obtain ⟨hne, above, below, hlines, -⟩ := exists_of_docBlock? h
  have hcount := count_joinLines hne fun line hm => hn line (by rw [hlines]; simp [hm])
  have hstart : (if family.isIndented then (header : Int) + 1 else lastFilled lines header - block.text.count '\n') =
      block.first := by
    unfold Family.docBlock? at h
    split at h
    · rename_i hf
      rw [if_pos hf, (docstring?_eq_some_iff.mp h).1]
      rfl
    · rename_i hf
      rw [if_neg hf, lastFilled_eq hlt h]
      unfold DocBlock.text
      omega
  simp only [replacedRange, hstart, Prod.mk.injEq, true_and]
  unfold DocBlock.stop DocBlock.text
  omega

end

/-! ## What a splice does at a located record -/

/-- The record is one of the text: its lines are there, and the documentation found again next to its header and
the lines counted out for it are its own. -/
structure Record.Fits (r : Record) (s : Text) : Prop where
  startLine_nonneg : 0 ≤ r.startLine
  startLine_le : r.startLine ≤ r.endLine
  endLine_lt : r.endLine < s.splitLines.length
  found : (r.block? s).map DocBlock.text = r.documentation
  start_nonneg : 0 ≤ (r.replaced s).1
  start_le : (r.replaced s).1 ≤ (r.replaced s).2
  stop_le : (r.replaced s).2 ≤ s.splitLines.length
  removed : (if r.removed s = [] then none else some (joinLines ((r.removed s).map stripLineEnd))) = r.documentation

def Record.header (r : Record) (s : Text) : Text := s.splitLines.getD r.startLine.toNat []

def Record.openLines (r : Record) (s : Text) : List Text :=
  if (Family.ofTag r.language).isIndented then s.splitLines.set r.startLine.toNat (terminated (r.header s))
  else s.splitLines

def Record.indent (r : Record) (s : Text) : Text :=
  let lines := s.splitLines.map stripLineEnd
  if (Family.ofTag r.language).isIndented then bodyIndent lines r.startLine.toNat r.endLine.toNat
  else (lines.getD r.startLine.toNat []).indentation

def Record.written (r : Record) (s doc : Text) : List Text :=
  indentBlock doc (r.indent s) (newlineOf (r.header s))

section
variable {s : Text} {r : Record}

theorem Record.length_openLines : (r.openLines s).length = s.splitLines.length := by
  unfold Record.openLines
  split
  · exact List.length_set
  · rfl

theorem Record.openLines_of_not_isIndented (hf : (Family.ofTag r.language).isIndented = false) :
    r.openLines s = s.splitLines := by
  unfold Record.openLines
  rw [hf]
  rfl

theorem Record.indent_of_isIndented (hf : (Family.ofTag r.language).isIndented = true) :
    r.indent s = bodyIndent (s.splitLines.map stripLineEnd) r.startLine.toNat r.endLine.toNat := by
  unfold Record.indent
  rw [hf]
  rfl

theorem Record.indent_of_not_isIndented (hf : (Family.ofTag r.language).isIndented = false) :
    r.indent s = ((s.splitLines.map stripLineEnd).getD r.startLine.toNat []).indentation := by
  unfold Record.indent
  rw [hf]
  rfl

end

def Record.IsInside (r : Record) (s : Text) : Prop :=
  0 ≤ r.startLine ∧ r.startLine ≤ r.endLine ∧ r.endLine < s.splitLines.length

instance (r : Record) (s : Text) : Decidable (r.IsInside s) :=
  inferInstanceAs (Decidable (0 ≤ r.startLine ∧ r.startLine ≤ r.endLine ∧ r.endLine < s.splitLines.length))

theorem Record.IsInside.startLine_lt {r : Record} {s : Text} (h : r.IsInside s) :
    r.startLine.toNat < s.splitLines.length := by
  obtain ⟨hnonneg, hle, hlt⟩ := h
  omega

/-- The lines of the text with a block in the place of the lines counted out. -/
def Record.replacing (r : Record) (s : Text) (block : List Text) : List Text :=
  replaceLines (r.openLines s) (r.replaced s).1.toNat (r.replaced s).2.toNat block

section
variable {s : Text} {r : Record}

theorem Record.replaced_of_none (h : r.block? s = none) :
    r.replaced s = (↑(if (Family.ofTag r.language).isIndented then r.startLine.toNat + 1 else r.startLine.toNat),
      ↑(if (Family.ofTag r.language).isIndented then r.startLine.toNat + 1 else r.startLine.toNat)) := by
  unfold Record.replaced
  rw [h, Option.map_none, replacedRange]
  cases (Family.ofTag r.language).isIndented <;> rfl

variable (hlt : r.startLine.toNat < s.splitLines.length)
include hlt

theorem Record.replaced_of_some {block : DocBlock} (h : r.block? s = some block) :
    r.replaced s = (↑block.first, ↑block.stop) := by
  have hplain : r.startLine.toNat ≤ (s.splitLines.map stripLineEnd).length := by
    rw [List.length_map]
    exact Nat.le_of_lt hlt
  unfold Record.replaced
  rw [h]
  exact replacedRange_docBlock? (newline_not_mem_asLines s) hplain h

/-- The count comes out right: the lines counted out are those of the block. -/
theorem Record.removed_eq :
    (0 ≤ (r.replaced s).1 ∧ (r.replaced s).1 ≤ (r.replaced s).2 ∧ (r.replaced s).2 ≤ s.splitLines.length) ∧
      (if r.removed s = [] then none else some (joinLines ((r.removed s).map stripLineEnd))) =
        (r.block? s).map DocBlock.text := by
  unfold Record.removed
  cases hb : r.block? s with
  | none =>
    rw [Record.replaced_of_none hb]
    generalize hk : (if (Family.ofTag r.language).isIndented then r.startLine.toNat + 1 else r.startLine.toNat) = k
    have hle : k ≤ s.splitLines.length := by
      rw [← hk]
      split <;> omega
    have hnil : (s.splitLines.take k).drop k = [] := List.drop_eq_nil_of_le (List.length_take_le k _)
    simp only [Int.toNat_natCast, hnil]
    exact ⟨by omega, rfl⟩
  | some block =>
    obtain ⟨hne, above, below, hlines, hfirst⟩ := exists_of_docBlock? hb
    have hslice : ((s.splitLines.take block.stop).drop block.first).map stripLineEnd = block.lines := by
      rw [List.map_drop, List.map_take, hlines, hfirst, DocBlock.stop, hfirst, ← List.append_assoc,
        ← List.length_append, List.take_left, List.drop_left]
    have hnil : (s.splitLines.take block.stop).drop block.first ≠ [] := by
      intro hnil
      rw [hnil] at hslice
      exact hne hslice.symm
    have hlen := congrArg List.length hlines
    rw [List.length_map, List.length_append, List.length_append] at hlen
    rw [Record.replaced_of_some hlt hb]
    simp only [Int.toNat_natCast, if_neg hnil, hslice]
    unfold DocBlock.stop
    exact ⟨by omega, rfl⟩

/-- The documentation, indented for its place, comes in the place of the lines counted out. -/
theorem Record.spliceAt_eq (doc : Text) :
    spliceAt s.splitLines (.ofTag r.language) r.startLine.toNat r.endLine.toNat (r.block? s) doc =
      r.replacing s (r.written s doc) := by
  cases hb : r.block? s with
  | none =>
    unfold spliceAt Record.replacing Record.written Record.openLines Record.header Record.indent
    rw [Record.replaced_of_none hb]
    cases hf : (Family.ofTag r.language).isIndented with
    | true => rfl
    | false => rfl
  | some old =>
    unfold spliceAt Record.replacing Record.written Record.openLines Record.header Record.indent
    rw [Record.replaced_of_some hlt hb]
    cases hf : (Family.ofTag r.language).isIndented with
    | true =>
      have hfirst : old.first = r.startLine.toNat + 1 := by
        unfold Record.block? Family.docBlock? at hb
        rw [if_pos hf] at hb
        exact (docstring?_eq_some_iff.mp hb).1
      rw [hfirst]
      rfl
    | false => rfl

omit hlt in
/-- What a splice does at any record, located or not. -/
theorem Record.splice_eq (s : Text) (r : Record) (doc : Text) : splice s r doc =
    if r.IsInside s then
      if r.documentation.isSome && (r.block? s).isNone then .error (.documentationGone r.name r.startLine)
      else .ok (r.replacing s (r.written s doc)).flatten
    else .error (.outside r.startLine r.endLine s.splitLines.length) := by
  unfold splice
  by_cases hinside : r.IsInside s
  · have hwritten := Record.spliceAt_eq hinside.startLine_lt doc
    unfold Record.block? at hwritten ⊢
    simp only [if_pos hinside, hwritten]
    exact if_pos hinside
  · rw [if_neg hinside]
    exact if_neg hinside

end

section
variable {s language : Text} {cursor : Int} {settings : Settings} {r : Record}
  (hr : locate? (.text s) cursor language settings = some r)
include hr

theorem Record.fits_of_locate? : r.Fits s := by
  obtain ⟨-, front, header, below, name, hs, -, hrec⟩ := exists_header_of_locate? hr
  have hlt : front.length < (s.splitLines.map stripLineEnd).length := by
    rw [hs]
    simp
  obtain ⟨hstart, hle, hend⟩ := Family.span_bounds (.ofTag language) settings.skipLiterals hlt
  have hstartLine : r.startLine = front.length := by
    rw [hrec]
    exact congrArg Int.ofNat hstart
  have hendLine : r.endLine =
      ((Family.ofTag language).span settings.skipLiterals (s.splitLines.map stripLineEnd) front.length).endLine := by
    rw [hrec]
    rfl
  have hfound : (r.block? s).map DocBlock.text = r.documentation := by
    unfold Record.block?
    rw [hstartLine, hrec]
    unfold recordAt
    simp only [hstart, Int.toNat_natCast]
  rw [List.length_map] at hlt hend
  obtain ⟨⟨hnonneg, hordered, hstop⟩, hremoved⟩ := @Record.removed_eq s r (by omega)
  exact
    { startLine_nonneg := by omega
      startLine_le := by omega
      endLine_lt := by omega
      found := hfound
      start_nonneg := hnonneg
      start_le := hordered
      stop_le := hstop
      removed := hremoved.trans hfound }

/-- A splice at a located record succeeds, and what it writes is the text with the lines counted out replaced. -/
theorem Record.splice_eq_of_locate? (doc : Text) : splice s r doc = .ok (r.replacing s (r.written s doc)).flatten := by
  have hfits := Record.fits_of_locate? hr
  have hinside : r.IsInside s := ⟨hfits.startLine_nonneg, hfits.startLine_le, hfits.endLine_lt⟩
  have hstay : ¬ (r.documentation.isSome && (r.block? s).isNone) = true := by
    rw [← hfits.found]
    cases r.block? s <;> simp
  rw [Record.splice_eq, if_pos hinside, if_neg hstay]

/-- The indentation of the lines that come in the place of those counted out is that of the place. -/
theorem Record.exists_indent_of_locate? : ∃ indent, ∀ doc,
    splice s r doc = .ok (r.replacing s (indentBlock doc indent (newlineOf (r.header s)))).flatten :=
  ⟨r.indent s, Record.splice_eq_of_locate? hr⟩

theorem Record.splice_of_locate? (doc : Text) : ∃ indent,
    splice s r doc = .ok (r.replacing s (indentBlock doc indent (newlineOf (r.header s)))).flatten := by
  obtain ⟨indent, hsplice⟩ := Record.exists_indent_of_locate? hr
  exact ⟨indent, hsplice doc⟩

end

/-! ## Runs -/

/-- The outcomes of a run of steps on a text. Each step works on the text that the steps before it have left, and
ends in one of four ways: it finds nothing, it only reports a record that fits the text, it puts the documentation in
the place of the lines counted out for such a record, or it fails because the search has to report a number that is
too long. -/
inductive EditRun (language : Text) (settings : Settings) : Text → List EditStep → List EditOutcome → Prop where
  | done {s : Text} : EditRun language settings s [] []
  | missed {s : Text} {step : EditStep} {steps : List EditStep} {outcomes : List EditOutcome} :
      locate (.text s) step.cursor language settings = .ok none →
      EditRun language settings s steps outcomes →
      EditRun language settings s (step :: steps) (.seen none :: outcomes)
  | seen {s : Text} {step : EditStep} {r : Record} {steps : List EditStep} {outcomes : List EditOutcome} :
      locate (.text s) step.cursor language settings = .ok (some r) → r.Fits s → step.doc = none →
      EditRun language settings s steps outcomes →
      EditRun language settings s (step :: steps) (.seen (some r) :: outcomes)
  | written {s t : Text} {step : EditStep} {r : Record} {doc indent : Text} {steps : List EditStep}
      {outcomes : List EditOutcome} :
      locate (.text s) step.cursor language settings = .ok (some r) → r.Fits s → step.doc = some doc →
      splice s r doc = .ok t → t = (r.replacing s (indentBlock doc indent (newlineOf (r.header s)))).flatten →
      EditRun language settings t steps outcomes →
      EditRun language settings s (step :: steps) (.written r t :: outcomes)
  | failed {s : Text} {step : EditStep} {steps : List EditStep} {outcomes : List EditOutcome} :
      locate (.text s) step.cursor language settings = .error .tooLong →
      ReportsLong (.text s) step.cursor language settings →
      EditRun language settings s steps outcomes →
      EditRun language settings s (step :: steps) (.failed (.number .tooLong) :: outcomes)

/-- **Only a number that is too long makes a step fail.** Every run of edits goes on to its end, and each record on
the way fits the text it was located in. -/
theorem editRun_edit (language : Text) (settings : Settings) (s : Text) (steps : List EditStep) :
    EditRun language settings s steps (edit language settings s steps) := by
  induction steps generalizing s with
  | nil => exact .done
  | cons step steps ih =>
    unfold edit editStep
    cases hfound : locate (.text s) step.cursor language settings with
    | error fault =>
      rw [fault.eq_tooLong] at hfound ⊢
      exact .failed hfound (locate_eq_error_iff.mp hfound) (ih s)
    | ok found =>
      cases found with
      | none => exact .missed hfound (ih s)
      | some r =>
        have hr := (locate_eq_ok_iff.mp hfound).2
        have hfits := Record.fits_of_locate? hr
        cases hdoc : step.doc with
        | none => exact .seen hfound hfits hdoc (ih s)
        | some doc =>
          obtain ⟨indent, hsplice⟩ := Record.splice_of_locate? hr doc
          simp only [hsplice]
          exact .written hfound hfits hdoc hsplice rfl (ih _)

/-- A step that finds nothing fails. -/
theorem edit_window_far_below : edit "javascript".toList { lookback := 1 - (10 ^ maxDigits : Nat) } "a\nb\n".toList
    [{ cursor := 1, doc := none }] = [.failed (.number .tooLong)] := by
  rw [edit, editStep, locate_eq_error_iff.mpr reportsLong_far_below, edit]

end CursorDoc
