import CursorDoc.Proofs.Splice.Removed
import CursorDoc.Proofs.Splice.Run

/-!
# The lines that a splice replaces

Whatever record a splice is given, if it goes through it makes one edit: a run
of lines next to the header gives way to the lines of the documentation. The
run is the old documentation as it was found, and it is empty if none was.
-/

namespace CursorDoc

open Text

/-! ## Runs of lines -/

def linesBetween (lines : List Text) (start stop : Nat) : List Text := (lines.take stop).drop start

theorem linesBetween_append {lines above block below : List Text} (h : lines = above ++ (block ++ below)) :
    linesBetween lines above.length (above ++ block).length = block := by
  unfold linesBetween
  rw [h, ← List.append_assoc, List.take_left, List.drop_left]

theorem getD_of_append {lines above : List Text} {line : Text} {below : List Text} (h : lines = above ++ line :: below) :
    lines.getD above.length [] = line := by
  rw [h]
  simp

structure IsCommentRange (lines : List Text) (header start stop : Nat) : Prop where
  start_lt : start < stop
  stop_le : stop ≤ header
  blank : ∀ line ∈ linesBetween lines stop header, line.isBlank = true
  filled : (lines.getD (stop - 1) []).isBlank = false
  closes : closesComment (lines.getD (stop - 1) []) = true
  opens : opensComment (lines.getD start []) = true
  inner : ∀ line ∈ linesBetween lines (start + 1) stop, opensComment line = false
  found : commentText? lines header = .ok (some (joinLines (linesBetween lines start stop)))

/-- Lines `start` up to `stop` are the documentation of line `header`, and there is none if `start` is `stop`. -/
inductive DocRange (lines : List Text) (header : Nat) : Family → Nat → Nat → Prop where
  | noString {family : Family} : family.isIndented = true → docstringText? lines header = none →
      DocRange lines header family (header + 1) (header + 1)
  | string {family : Family} {stop : Nat} : family.isIndented = true → header + 1 < stop →
      docstringText? lines header = some (joinLines (linesBetween lines (header + 1) stop)) →
      DocRange lines header family (header + 1) stop
  | noComment {family : Family} : family.isIndented = false → commentText? lines header = .ok none →
      DocRange lines header family header header
  | comment {family : Family} {start stop : Nat} : family.isIndented = false →
      IsCommentRange lines header start stop → DocRange lines header family start stop

/-! ## Where documentation is found -/

section
variable {lines : List Text} {header : Nat}

theorem commentText?_of_le (hle : header ≤ lines.length) :
    commentText? lines header = .ok ((commentBlock? lines header).map DocBlock.text) := by
  unfold commentText?
  rw [if_neg (by omega), Int.toNat_natCast]

theorem linesBetween_docBlock? {family : Family} {block : DocBlock} (h : family.docBlock? lines header = some block) :
    linesBetween lines block.first block.stop = block.lines := by
  obtain ⟨-, above, below, hlines, hfirst⟩ := exists_of_docBlock? h
  rw [DocBlock.stop, hfirst, ← List.length_append]
  exact linesBetween_append hlines

end

theorem isCommentRange_of_isComment (above : List Text) {block gap : List Text} (below : List Text)
    (hcom : isComment block = true) (hgap : ∀ line ∈ gap, line.isBlank = true) :
    IsCommentRange (above ++ (block ++ (gap ++ below))) (above ++ (block ++ gap)).length above.length
      (above ++ block).length := by
  generalize hlines : above ++ (block ++ (gap ++ below)) = lines
  have hfound : commentText? lines (above ++ (block ++ gap)).length =
      .ok (some (joinLines (linesBetween lines above.length (above ++ block).length))) := by
    have htake : lines.take (above ++ (block ++ gap)).length = above ++ (block ++ gap) := by
      have hfront : lines = (above ++ (block ++ gap)) ++ below := by simp [← hlines]
      rw [hfront, List.take_left]
    have hblock : commentBlock? lines (above ++ (block ++ gap)).length = some ⟨above.length, block⟩ :=
      commentBlock?_eq_some_iff.mpr ⟨above, gap, htake, rfl, hgap, hcom⟩
    rw [commentText?_of_le (by simp [← hlines]), hblock, linesBetween_append hlines.symm]
    rfl
  have hblank : linesBetween lines (above ++ block).length (above ++ (block ++ gap)).length = gap := by
    rw [← List.append_assoc]
    exact @linesBetween_append _ _ _ below (by simp [← hlines])
  obtain ⟨init, last, hlast⟩ : ∃ init last, block = init ++ [last] :=
    ⟨_, _, (List.dropLast_concat_getLast (ne_nil_of_isComment hcom)).symm⟩
  obtain ⟨first, tail, hhead⟩ := List.exists_cons_of_ne_nil (ne_nil_of_isComment hcom)
  have hgetLast : lines.getD ((above ++ block).length - 1) [] = last := by
    have hat : (above ++ block).length - 1 = (above ++ init).length := by simp [hlast]
    rw [hat]
    exact @getD_of_append _ _ _ (gap ++ below) (by simp [← hlines, hlast])
  have hgetFirst : lines.getD above.length [] = first :=
    @getD_of_append _ _ _ (tail ++ (gap ++ below)) (by simp [← hlines, hhead])
  have hinner : linesBetween lines (above.length + 1) (above ++ block).length = tail := by
    have hat : above.length + 1 = (above ++ [first]).length := by simp
    have hat' : above ++ block = (above ++ [first]) ++ tail := by simp [hhead]
    rw [hat, hat']
    exact @linesBetween_append _ _ _ (gap ++ below) (by simp [← hlines, hhead])
  unfold isComment at hcom
  rw [Bool.and_eq_true, Bool.and_eq_true, List.all_eq_true] at hcom
  obtain ⟨⟨hopens, hcloses⟩, htail⟩ := hcom
  rw [hlast, List.getLast?_concat, Option.any_some] at hcloses
  rw [hhead, List.head?_cons, Option.any_some] at hopens
  rw [hhead, List.tail_cons] at htail
  exact
    { start_lt := by simp [hhead]
      stop_le := by simp
      blank := by rwa [hblank]
      filled := by
        rw [hgetLast]
        exact isBlank_of_closesComment hcloses
      closes := by rwa [hgetLast]
      opens := by rwa [hgetFirst]
      inner := by
        rw [hinner]
        intro line hm
        simpa using htail line hm
      found := hfound }

theorem isCommentRange_of_commentBlock? {lines : List Text} {header : Nat} (hle : header ≤ lines.length)
    {block : DocBlock} (h : commentBlock? lines header = some block) :
    IsCommentRange lines header block.first block.stop := by
  obtain ⟨above, gap, htake, hfirst, hgap, hcom⟩ := commentBlock?_eq_some_iff.mp h
  have hlines : above ++ (block.lines ++ (gap ++ lines.drop header)) = lines := by
    rw [← List.append_assoc block.lines, ← List.append_assoc, ← htake, List.take_append_drop]
  have hheader : (above ++ (block.lines ++ gap)).length = header := by
    rw [← htake, List.length_take, Nat.min_eq_left hle]
  have hrange := isCommentRange_of_isComment above (lines.drop header) hcom hgap
  rw [hlines, hheader, List.length_append, ← hfirst] at hrange
  exact hrange

/-! ## The edit -/

section
variable {s : Text} {r : Record}

theorem Record.docRange (hlt : r.startLine.toNat < s.splitLines.length) :
    DocRange (s.splitLines.map stripLineEnd) r.startLine.toNat (.ofTag r.language) (r.replaced s).1.toNat
      (r.replaced s).2.toNat := by
  have hle : r.startLine.toNat ≤ (s.splitLines.map stripLineEnd).length := by
    rw [List.length_map]
    exact Nat.le_of_lt hlt
  cases hb : r.block? s with
  | none =>
    rw [Record.replaced_of_none hb]
    unfold Record.block? Family.docBlock? at hb
    cases hf : (Family.ofTag r.language).isIndented with
    | true =>
      rw [if_pos hf] at hb
      exact .noString hf (by rw [docstringText?, hb]; rfl)
    | false =>
      rw [if_neg (Bool.eq_false_iff.mp hf)] at hb
      exact .noComment hf (by rw [commentText?_of_le hle, hb]; rfl)
  | some block =>
    rw [Record.replaced_of_some hlt hb]
    have hbetween := linesBetween_docBlock? hb
    obtain ⟨hne, -⟩ := exists_of_docBlock? hb
    unfold Record.block? Family.docBlock? at hb
    cases hf : (Family.ofTag r.language).isIndented with
    | true =>
      rw [if_pos hf] at hb
      have hfirst := (docstring?_eq_some_iff.mp hb).1
      have hpos := List.length_pos_iff.mpr hne
      rw [hfirst] at hbetween
      simp only [Int.toNat_natCast, hfirst]
      refine .string hf (by rw [DocBlock.stop, hfirst]; omega) ?_
      rw [hbetween, docstringText?, hb]
      rfl
    | false =>
      rw [if_neg (Bool.eq_false_iff.mp hf)] at hb
      exact .comment hf (isCommentRange_of_commentBlock? hle hb)

end

theorem splice_eq_ok_iff {s doc t : Text} {r : Record} : splice s r doc = .ok t ↔
    r.IsInside s ∧ (r.documentation.isSome = true → (r.block? s).isSome = true) ∧
      t = (r.replacing s (r.written s doc)).flatten := by
  rw [Record.splice_eq]
  by_cases hinside : r.IsInside s
  · rw [if_pos hinside]
    cases r.documentation <;> cases r.block? s <;> simp [hinside, eq_comm]
  · simp [hinside]

/-- **A splice is one edit.** If a splice at a record goes through, the header is a line of the text, and the result is
the text with the lines of the documentation that was found there replaced; a header without a terminator gets one if
its documentation goes below it. What is written is the documentation text at the indentation and with the terminator
of its place. Where that is above the header, both are those of the header. -/
theorem splice_replaces {s doc t : Text} {r : Record} (h : splice s r doc = .ok t) :
    ∃ header start stop : Nat, r.startLine = header ∧ header < s.splitLines.length ∧
      start ≤ stop ∧ stop ≤ s.splitLines.length ∧
      DocRange (s.splitLines.map stripLineEnd) header (.ofTag r.language) start stop ∧
      t = ((r.openLines s).take start ++ r.written s doc ++ (r.openLines s).drop stop).flatten ∧
      ((Family.ofTag r.language).isIndented = false → r.openLines s = s.splitLines ∧
        r.written s doc = indentBlock doc (stripLineEnd (r.header s)).indentation (newlineOf (r.header s))) := by
  obtain ⟨hinside, -, rfl⟩ := splice_eq_ok_iff.mp h
  have hlt := hinside.startLine_lt
  obtain ⟨⟨hnonneg, hle, hstop⟩, -⟩ := Record.removed_eq hlt
  have hheader : r.startLine = r.startLine.toNat := (Int.toNat_of_nonneg hinside.1).symm
  refine ⟨r.startLine.toNat, _, _, hheader, hlt, ?_, ?_, Record.docRange hlt, rfl, fun hf => ⟨?_, ?_⟩⟩
  · omega
  · omega
  · exact Record.openLines_of_not_isIndented hf
  · unfold Record.written
    rw [Record.indent_of_not_isIndented hf, getD_map_stripLineEnd]
    rfl

theorem splice_replaces_made_record :
    let s : Text := "/* f */ x();\n\t/* Old\n\t */\r\n \n\tint f() \x7b\r\n\x7d".toList
    let r : Record :=
      { name := "g".toList, signature := [], body := [], startLine := 4, endLine := 4, language := "c".toList
        documentation := none }
    let doc : Text := "\n  /* New\n   */".toList
    let t : Text := "/* f */ x();\n\t/* New\r\n\t */\r\n \n\tint f() \x7b\r\n\x7d".toList
    splice s r doc = .ok t ∧ ∃ start stop : Nat, start ≤ stop ∧ stop ≤ 6 ∧
      DocRange (s.splitLines.map stripLineEnd) 4 .cFamily start stop ∧
      t = (s.splitLines.take start ++ indentBlock doc ['\t'] ['\r', '\n'] ++ s.splitLines.drop stop).flatten := by
  repeat rw [String.toList_ofList]
  intro s r doc t
  have hsplice : splice s r doc = .ok t := by rfl
  have hfamily : Family.ofTag r.language = .cFamily := by decide +kernel
  have hlen : s.splitLines.length = 6 := by decide +kernel
  have hindent : (stripLineEnd (r.header s)).indentation = ['\t'] := by decide +kernel
  have hnewline : newlineOf (r.header s) = ['\r', '\n'] := by decide +kernel
  obtain ⟨header, start, stop, hheader, -, hle, hstop, hrange, ht, hwritten⟩ := splice_replaces hsplice
  obtain rfl : 4 = header := Int.ofNat.inj hheader
  rw [hfamily] at hrange hwritten
  obtain ⟨hopen, hblock⟩ := hwritten rfl
  rw [hopen, hblock, hindent, hnewline] at ht
  exact ⟨hsplice, start, stop, hle, hlen ▸ hstop, hrange, ht⟩

end CursorDoc
