import CursorDoc.Proofs.Literals
import CursorDoc.Proofs.Locate
import CursorDoc.Proofs.Margin.Signature
import CursorDoc.Proofs.Text.Lines

/-!
# Functions behind a margin

Putting the same spaces and tabs in front of all lines moves every function
with its lines: the same signatures are found on the same lines, bodies and
comments end where they did, and only their texts have the margin in front of
each line. A margin holds no brace, opens and closes no literal, and adds the
same width to every indentation.
-/

namespace CursorDoc

open Text

def Text.marginLines (w t : Text) : Text := ((splitLines t).map (w ++ ·)).flatten

def Text.marginJoined (w t : Text) : Text := joinLines ((pieces t).map (w ++ ·))

/-- The record with `w` in front of every line of its body and of its documentation. -/
def Record.margin (w : Text) (r : Record) : Record :=
  { r with
    body := marginLines w r.body
    documentation := r.documentation.map (marginJoined w) }

section
variable {w : Text} (hw : w.all isMarginChar = true)

/-! ## Lines -/

theorem marginLines_joinBody {lines : List Text} (hn : ∀ line ∈ lines, '\n' ∉ line) :
    marginLines w (joinBody lines) = joinBody (lines.map (w ++ ·)) := by
  unfold marginLines
  rw [splitLines_joinBody hn, joinBody, List.flatMap_def, List.map_map, List.map_map]
  simp [Function.comp_def]

theorem marginJoined_joinLines {lines : List Text} (hne : lines ≠ []) (hn : ∀ line ∈ lines, '\n' ∉ line) :
    marginJoined w (joinLines lines) = joinLines (lines.map (w ++ ·)) := by
  unfold marginJoined
  rw [pieces_joinLines hne hn]

include hw

theorem isBlank_margin : isBlank w = true :=
  List.all_eq_true.mpr fun c hc => isSpace_of_isMarginChar (List.all_eq_true.mp hw c hc)

theorem stripLineEnd_margin (line : Text) : stripLineEnd (w ++ line) = w ++ stripLineEnd line := by
  have hself : stripLineEnd w = w := by
    apply dropEndWhile_of_all_not
    intro c hc
    obtain rfl | rfl := isMarginChar_iff.mp (List.all_eq_true.mp hw c hc) <;> rfl
  by_cases h : stripLineEnd line = []
  · have hend : ∀ c ∈ line, isLineEnd c = true := by
      have hline := stripLineEnd_append_lineEnd line
      rw [h, List.nil_append] at hline
      rw [← hline]
      exact fun c hc => isLineEnd_of_mem_lineEnd hc
    rw [stripLineEnd_append hend, hself, h, List.append_nil]
  · exact dropEndWhile_append_of_ne_nil h w

/-! ## Braces -/

theorem followBraces_margin (depth : Nat) (t : Text) : followBraces depth (w ++ t) = followBraces depth t := by
  induction w with
  | nil => rfl
  | cons c w ih =>
    rw [List.all_cons, Bool.and_eq_true] at hw
    have hopen : c ≠ '{' := by obtain rfl | rfl := isMarginChar_iff.mp hw.1 <;> decide
    have hclose : c ≠ '}' := by obtain rfl | rfl := isMarginChar_iff.mp hw.1 <;> decide
    simp only [List.cons_append, followBraces, if_neg hopen, if_neg hclose]
    exact ih hw.2

theorem closingLine?_margin (depth : Nat) (lines : List Text) :
    closingLine? depth (lines.map (w ++ ·)) = closingLine? depth lines := by
  induction lines generalizing depth with
  | nil => rfl
  | cons line lines ih =>
    rw [List.map_cons, closingLine?, closingLine?, followBraces_margin hw]
    split
    · rfl
    · rw [ih]

end

/-! ## Literals -/

section
variable {w : Text} (hw : w.all isMarginChar = true)
include hw

theorem stripLine_margin {inside : Inside} (hi : ∀ q, inside = .quoted q → q = templateQuote) (line : Text) :
    stripLine inside (w ++ line) =
      ((if inside = .code then w else []) ++ (stripLine inside line).1, (stripLine inside line).2) := by
  induction w with
  | nil => simp
  | cons c w ih =>
    rw [List.all_cons, Bool.and_eq_true] at hw
    have ih := ih hw.2
    cases inside with
    | code =>
      have hstep : stripLine .code (c :: (w ++ line)) =
          (c :: (stripLine .code (w ++ line)).1, (stripLine .code (w ++ line)).2) := by
        obtain rfl | rfl := isMarginChar_iff.mp hw.1 <;> rfl
      rw [List.cons_append, hstep, ih]
      rfl
    | comment =>
      have hstep : stripLine .comment (c :: (w ++ line)) = stripLine .comment (w ++ line) := by
        obtain rfl | rfl := isMarginChar_iff.mp hw.1 <;> rfl
      rw [List.cons_append, hstep, ih]
      rfl
    | quoted q =>
      obtain rfl := hi q rfl
      have hstep : stripLine (.quoted templateQuote) (c :: (w ++ line)) = stripLine (.quoted templateQuote) (w ++ line) := by
        obtain rfl | rfl := isMarginChar_iff.mp hw.1 <;> rfl
      rw [List.cons_append, hstep, ih]
      rfl

theorem closingLine?_stripLinesFrom_margin {inside : Inside} (hi : ∀ q, inside = .quoted q → q = templateQuote)
    (depth : Nat) (lines : List Text) :
    closingLine? depth (stripLinesFrom inside (lines.map (w ++ ·))) = closingLine? depth (stripLinesFrom inside lines) := by
  induction lines generalizing inside depth with
  | nil => rfl
  | cons line lines ih =>
    have hmargin : (if inside = .code then w else []).all isMarginChar = true := by
      split
      · exact hw
      · rfl
    have hrest := @ih _ (eq_templateQuote_of_stripLine inside line)
    simp only [List.map_cons, stripLinesFrom, closingLine?, stripLine_margin hw hi, followBraces_margin hmargin, hrest]

theorem closingLine?_counted_margin (skipLiterals : Bool) (lines : List Text) :
    closingLine? 0 (if skipLiterals then stripLiterals (lines.map (w ++ ·)) else lines.map (w ++ ·)) =
      closingLine? 0 (if skipLiterals then stripLiterals lines else lines) := by
  cases skipLiterals with
  | false => exact closingLine?_margin hw 0 lines
  | true => exact closingLine?_stripLinesFrom_margin hw (fun q h => by cases h) 0 lines

/-! ## Spans -/

theorem continuesBody_margin (width : Nat) (line : Text) :
    continuesBody (w.length + width) (w ++ line) = continuesBody width line := by
  unfold continuesBody
  rw [isBlank_append (isBlank_margin hw), indentWidth_append (isBlank_margin hw)]
  simp

variable {lines : List Text} (hn : ∀ line ∈ lines, '\n' ∉ line)
include hn

omit hw in
theorem Span.ofLines_margin (start stop : Nat) :
    Span.ofLines (lines.map (w ++ ·)) start stop =
      { Span.ofLines lines start stop with body := marginLines w (Span.ofLines lines start stop).body } := by
  have hpart : ∀ line ∈ (lines.drop start).take (max start stop + 1 - start), '\n' ∉ line :=
    fun line hm => hn line (List.mem_of_mem_drop (List.mem_of_mem_take hm))
  unfold Span.ofLines
  simp only [marginLines_joinBody hpart, List.map_take, List.map_drop]

theorem Family.span_margin (family : Family) (skipLiterals : Bool) {header : Nat} (hlt : header < lines.length) :
    family.span skipLiterals (lines.map (w ++ ·)) header =
      { family.span skipLiterals lines header with
        body := marginLines w (family.span skipLiterals lines header).body } := by
  unfold Family.span
  split
  · have hwidth : ((lines.map (w ++ ·)).getD header []).indentWidth = w.length + (lines.getD header []).indentWidth := by
      simp only [List.getD_eq_getElem?_getD, List.getElem?_map, List.getElem?_eq_getElem hlt, Option.map_some,
        Option.getD_some, indentWidth_append (isBlank_margin hw)]
    have hbody : (((lines.map (w ++ ·)).drop (header + 1)).takeWhile
        (continuesBody (w.length + (lines.getD header []).indentWidth))).length =
          ((lines.drop (header + 1)).takeWhile (continuesBody (lines.getD header []).indentWidth)).length := by
      have hcomp : (continuesBody (w.length + (lines.getD header []).indentWidth)) ∘ (w ++ ·) =
          continuesBody (lines.getD header []).indentWidth := by
        funext line
        exact continuesBody_margin hw _ line
      rw [← List.map_drop, List.takeWhile_map, hcomp, List.length_map]
    unfold Span.ofIndentation
    simp only [hwidth, hbody]
    exact Span.ofLines_margin hn _ _
  · unfold Span.ofBraces
    simp only [← List.map_drop, closingLine?_counted_margin hw, List.length_map]
    cases closingLine? 0 (if skipLiterals then stripLiterals (lines.drop header) else lines.drop header) with
    | none => exact Span.ofLines_margin hn _ _
    | some offset => exact Span.ofLines_margin hn _ _

end

/-! ## Documentation -/

theorem takeThrough_map {α : Type} (f : α → α) (p : α → Bool) : ∀ l : List α,
    takeThrough p (l.map f) = (takeThrough (p ∘ f) l).map (List.map f)
  | [] => rfl
  | a :: l => by
    simp only [List.map_cons, takeThrough, Function.comp_apply]
    split
    · rfl
    · rw [takeThrough_map f p l, Option.map_map, Option.map_map]
      rfl

section
variable {f : Text → Text} (htrim : ∀ line, (f line).trim = line.trim)
include htrim

theorem docstring?_map (lines : List Text) (header : Nat) :
    docstring? (lines.map f) header =
      (docstring? lines header).map fun block => { block with lines := block.lines.map f } := by
  have hends (delimiter : Text) : (fun line : Text => line.trim.endsWith delimiter) ∘ f =
      fun line => line.trim.endsWith delimiter := by
    funext line
    simp [htrim]
  unfold docstring?
  rw [← List.map_drop]
  cases lines.drop (header + 1) with
  | nil => rfl
  | cons first below =>
    simp only [List.map_cons, htrim, takeThrough_map, hends]
    cases docstringOpening? first.trim with
    | none => rfl
    | some opening =>
      obtain ⟨delimiter, content⟩ := opening
      simp only [Option.bind_eq_bind, Option.bind_some, Option.pure_def, Option.map_some, List.map_cons]
      split
      · rfl
      · cases takeThrough (fun line : Text => line.trim.endsWith delimiter) below <;> rfl

theorem commentBlock?_map (hblank : ∀ line, (f line).isBlank = line.isBlank) (lines : List Text) (start : Nat) :
    commentBlock? (lines.map f) start =
      (commentBlock? lines start).map fun block => { block with lines := block.lines.map f } := by
  have hb : isBlank ∘ f = isBlank := by
    funext line
    exact hblank line
  have ho : opensComment ∘ f = opensComment := by
    funext line
    simp [opensComment, htrim]
  have hc (line : Text) : closesComment (f line) = closesComment line := by
    simp [closesComment, htrim]
  unfold commentBlock?
  rw [← List.map_take, ← List.map_reverse, List.dropWhile_map, hb]
  cases (lines.take start).reverse.dropWhile isBlank with
  | nil => rfl
  | cons last above =>
    simp only [List.map_cons, hc]
    split
    · rw [← List.map_cons, takeThrough_map, ho]
      cases takeThrough opensComment (last :: above) with
      | none => rfl
      | some block => simp
    · rfl

end

section
variable {w : Text} (hw : w.all isMarginChar = true) {lines : List Text} (hn : ∀ line ∈ lines, '\n' ∉ line)
include hw

theorem Family.docBlock?_margin (family : Family) (header : Nat) :
    family.docBlock? (lines.map (w ++ ·)) header =
      (family.docBlock? lines header).map fun block => { block with lines := block.lines.map (w ++ ·) } := by
  have htrim := trim_append (isBlank_margin hw)
  unfold Family.docBlock?
  split
  · exact docstring?_map htrim lines header
  · exact commentBlock?_map htrim (isBlank_append (isBlank_margin hw)) lines header

include hn

theorem Family.docText?_margin (family : Family) (header : Nat) :
    (family.docBlock? (lines.map (w ++ ·)) header).map DocBlock.text =
      ((family.docBlock? lines header).map DocBlock.text).map (marginJoined w) := by
  rw [Family.docBlock?_margin hw]
  cases hb : family.docBlock? lines header with
  | none => rfl
  | some block =>
    obtain ⟨hne, above, below, hlines, -⟩ := exists_of_docBlock? hb
    have hblock : ∀ line ∈ block.lines, '\n' ∉ line := fun line hm => hn line (by rw [hlines]; simp [hm])
    unfold DocBlock.text
    simp only [Option.map_some, marginJoined_joinLines hne hblock]

/-! ## Located functions -/

theorem recordAt_margin (family : Family) (settings : Settings) (language : Text) {header : Nat}
    (hlt : header < lines.length) (name : Text) :
    recordAt family settings language (lines.map (w ++ ·)) header name =
      (recordAt family settings language lines header name).margin w := by
  have hsignature : ((lines.map (w ++ ·)).getD header []).trim = (lines.getD header []).trim := by
    simp only [List.getD_eq_getElem?_getD, List.getElem?_map, List.getElem?_eq_getElem hlt, Option.map_some,
      Option.getD_some, trim_append (isBlank_margin hw)]
  unfold recordAt Record.margin
  simp only [hsignature, Family.span_margin hw hn family settings.skipLiterals hlt, Family.docText?_margin hw hn]

end

theorem nearestSignature?_map {family : Family} {f : Text → Text}
    (hf : ∀ line, family.signatureName? (f line) = family.signatureName? line) (lines : List Text) (start : Int)
    (line : Nat) : nearestSignature? family (lines.map f) start line = nearestSignature? family lines start line := by
  unfold nearestSignature?
  rw [List.zipIdx_map, ← List.map_take, ← List.map_drop, ← List.map_reverse, List.findSome?_map]
  congr 1
  funext ⟨text, index⟩
  exact congrArg (Option.map (index, ·)) (hf text)

/-- **A margin moves functions and does nothing else.** With the same spaces and tabs in front of every line, the
same function is found; the lines of its body and of its documentation have the margin in front of them, and
nothing else of the record changes. -/
theorem locate?_margin {w : Text} (hw : w.all isMarginChar = true) {lines : List Text}
    (hn : ∀ line ∈ lines, '\n' ∉ line) (cursor : Int) (language : Text) (settings : Settings) :
    locate? (.lines (lines.map (w ++ ·))) cursor language settings =
      (locate? (.lines lines) cursor language settings).map (Record.margin w) := by
  have hplain : (Buffer.lines (lines.map (w ++ ·))).asLines = (Buffer.lines lines).asLines.map (w ++ ·) := by
    simp only [Buffer.asLines, List.map_map]
    apply List.map_congr_left
    intro line _
    exact stripLineEnd_margin hw line
  have hn' : ∀ line ∈ (Buffer.lines lines).asLines, '\n' ∉ line := by
    intro line hm
    obtain ⟨raw, hraw, rfl⟩ := List.mem_map.mp hm
    exact newline_not_mem_stripLineEnd (.inr (hn raw hraw))
  unfold locate? search
  rw [hplain]
  generalize (Buffer.lines lines).asLines = lines at hn'
  unfold searchLines
  simp only [List.isEmpty_map, clampCursor, List.length_map, nearestSignature?_map (signatureName?_margin hw _)]
  split
  · rfl
  · cases hnear : nearestSignature? (.ofTag language) lines
        (windowStart (settings.lookbackOf (.ofTag language)) (min cursor.toNat (lines.length - 1)))
        (min cursor.toNat (lines.length - 1)) with
    | none => rfl
    | some found =>
      obtain ⟨header, name⟩ := found
      obtain ⟨-, text, htext, -⟩ := exists_of_nearestSignature? hnear
      have hlt := (List.getElem?_eq_some_iff.mp htext).1
      simp only [recordAt_margin hw hn' _ settings language hlt]
      rfl

theorem locate?_margin_template :
    let w : Text := " \t".toList
    let lines : List Text :=
      ["/* Adds\t*/".toList, [], "const add = (a) => \x7b".toList, "  return `\x7d".toList, "\x7b`; \x7d".toList]
    let r : Record :=
      { name := "add".toList, signature := "const add = (a) => \x7b".toList
        body := "const add = (a) => \x7b\n  return `\x7d\n\x7b`; \x7d\n".toList, startLine := 2, endLine := 4
        language := "javascript".toList, documentation := some "/* Adds\t*/".toList }
    locate? (.lines lines) 9 r.language { skipLiterals := true } = some r ∧
      locate? (.lines (lines.map (w ++ ·))) 9 r.language { skipLiterals := true } =
        some
          { r with
            body := " \tconst add = (a) => \x7b\n \t  return `\x7d\n \t\x7b`; \x7d\n".toList
            documentation := some " \t/* Adds\t*/".toList } := by
  intro w lines r
  have hw : w.all isMarginChar = true := by decide
  have hn : ∀ line ∈ lines, '\n' ∉ line := by decide +kernel
  have hr : locate? (.lines lines) 9 r.language { skipLiterals := true } = some r := by decide +kernel
  refine ⟨hr, ?_⟩
  rw [locate?_margin hw hn, hr]
  decide +kernel

end CursorDoc
