import CursorDoc.Proofs.Braces
import CursorDoc.Proofs.Locate
import CursorDoc.Proofs.Text.Lines
import Mathlib.Data.List.TakeWhile

/-!
# Functions in excerpts

What is reported about a function depends on the lines from its header to its
last one, on the lines above as far as a comment stands there, and on the line
below its last one only in that it ends the body. So a function that ends
inside some lines is found in them wherever they stand in a file, and the body
of a function, taken for a file of its own, holds the same function.
-/

namespace CursorDoc

open Text

/-! ## Braces -/

theorem closingLine?_append_left {depth k : Nat} {lines : List Text} (h : closingLine? depth lines = some k)
    (below : List Text) : closingLine? depth (lines ++ below) = some k := by
  have hself := closingLine?_append_lines depth lines []
  rw [List.append_nil, h] at hself
  rw [closingLine?_append_lines]
  cases hopen : followBraces depth lines.flatten with
  | none => exact h
  | some depth' =>
    rw [hopen] at hself
    cases hself

theorem closingLine?_take {depth k : Nat} {lines : List Text} (h : closingLine? depth lines = some k) :
    closingLine? depth (lines.take (k + 1)) = some k := by
  have hlt := closingLine?_lt h
  have hsplit := closingLine?_append_lines depth (lines.take (k + 1)) (lines.drop (k + 1))
  rw [List.take_append_drop, h] at hsplit
  cases hopen : followBraces depth (lines.take (k + 1)).flatten with
  | none => rw [hopen] at hsplit; exact hsplit.symm
  | some depth' =>
    rw [hopen] at hsplit
    obtain ⟨j, -, hj⟩ := Option.map_eq_some_iff.mp hsplit.symm
    rw [List.length_take] at hj
    omega

/-- Literals are read downwards, so what is counted of the first lines does not depend on the others. -/
theorem counted_take (skipLiterals : Bool) (lines : List Text) (n : Nat) :
    (if skipLiterals then stripLiterals (lines.take n) else lines.take n) =
      (if skipLiterals then stripLiterals lines else lines).take n := by
  cases skipLiterals with
  | false => rfl
  | true => exact stripLinesFrom_take .code lines n

theorem braceReach_take (lines : List Text) (skipLiterals : Bool) :
    braceReach (lines.take (braceReach lines skipLiterals + 1)) skipLiterals = braceReach lines skipLiterals := by
  unfold braceReach
  rw [counted_take]
  cases hk : closingLine? 0 (if skipLiterals then stripLiterals lines else lines) with
  | some k => rw [Option.getD_some, closingLine?_take hk, Option.getD_some]
  | none =>
    have hall : lines.length ≤ lines.length - 1 + 1 := by omega
    have hcounted : (if skipLiterals then stripLiterals lines else lines).length ≤ lines.length - 1 + 1 := by
      split
      · exact (length_stripLinesFrom .code lines).symm ▸ hall
      · exact hall
    rw [Option.getD_none, List.take_of_length_le hcounted, hk, List.take_of_length_le hall, Option.getD_none]

theorem braceReach_append {lines : List Text} {skipLiterals : Bool}
    (h : braceReach lines skipLiterals + 1 < lines.length) (below : List Text) :
    braceReach (lines ++ below) skipLiterals = braceReach lines skipLiterals := by
  have hcounted := counted_take skipLiterals (lines ++ below) lines.length
  rw [List.take_left] at hcounted
  unfold braceReach at h ⊢
  cases hk : closingLine? 0 (if skipLiterals then stripLiterals lines else lines) with
  | none =>
    rw [hk, Option.getD_none] at h
    omega
  | some k =>
    have hmore := closingLine?_append_left hk
      ((if skipLiterals then stripLiterals (lines ++ below) else lines ++ below).drop lines.length)
    rw [hcounted, List.take_append_drop] at hmore
    rw [hmore, Option.getD_some, Option.getD_some]

/-! ## Either kind of body -/

def Family.reach (family : Family) (skipLiterals : Bool) (header : Text) (below : List Text) : Nat :=
  if family.isIndented then (below.takeWhile (continuesBody header.indentWidth)).length
  else braceReach (header :: below) skipLiterals

section
variable (family : Family) (skipLiterals : Bool) (header : Text) (below : List Text)

/-- Nothing below the last line of a body is needed to find its end. -/
theorem Family.reach_take : family.reach skipLiterals header (below.take (family.reach skipLiterals header below)) =
    family.reach skipLiterals header below := by
  unfold Family.reach
  split
  · have htake := List.prefix_iff_eq_take.mp (List.takeWhile_prefix (l := below) (continuesBody header.indentWidth))
    rw [← htake, List.takeWhile_idem]
  · rw [← List.take_succ_cons, braceReach_take]

variable {family skipLiterals header below}

/-- The first line below a body ends it, whatever comes then. -/
theorem Family.reach_append (h : family.reach skipLiterals header below < below.length) (more : List Text) :
    family.reach skipLiterals header (below ++ more) = family.reach skipLiterals header below := by
  unfold Family.reach at h ⊢
  split
  · rename_i hf
    rw [if_pos hf] at h
    rw [List.takeWhile_append, if_neg (Nat.ne_of_lt h)]
  · rename_i hf
    rw [if_neg hf] at h
    exact @braceReach_append (header :: below) skipLiterals (Nat.succ_lt_succ h) more

end

theorem recordAt_append (family : Family) (settings : Settings) (language : Text) (above : List Text) (header : Text)
    (below : List Text) (name : Text) :
    recordAt family settings language (above ++ header :: below) above.length name =
      { name := name
        signature := header.trim
        body := joinBody (header :: below.take (family.reach settings.skipLiterals header below))
        startLine := above.length
        endLine := above.length + family.reach settings.skipLiterals header below
        language := language
        documentation := (family.docBlock? (above ++ header :: below) above.length).map DocBlock.text } := by
  unfold Family.reach Family.docBlock?
  cases hf : family.isIndented with
  | true =>
    have htake := List.prefix_iff_eq_take.mp (List.takeWhile_prefix (l := below) (continuesBody header.indentWidth))
    rw [recordAt_of_indentation _ _ _ _ _ _ hf, if_pos rfl, ← htake]
    rfl
  | false =>
    rw [recordAt_of_braces _ _ _ _ _ _ hf, List.take_succ_cons]
    rfl

/-! ## Documentation -/

theorem commentBlock?_append_above {front : List Text} {block : DocBlock}
    (h : commentBlock? front front.length = some block) (above : List Text) :
    commentBlock? (above ++ front) (above ++ front).length =
      some { block with first := above.length + block.first } := by
  obtain ⟨upper, gap, htake, hfirst, hgap, hcom⟩ := commentBlock?_eq_some_iff.mp h
  rw [List.take_length] at htake
  refine commentBlock?_eq_some_iff.mpr ⟨above ++ upper, gap, ?_, ?_, hgap, hcom⟩
  · rw [List.take_length, htake, List.append_assoc]
  · rw [List.length_append, hfirst]

/-- Lines below a header that start with a documentation string and close it, or that start with none. -/
def StartsWithString (documentation : Option Text) (below : List Text) : Prop :=
  match documentation with
  | none => below.head?.any opensDocstring = false
  | some doc => isDocstring (pieces doc) = true ∧ pieces doc <+: below

section
variable {documentation : Option Text} {below : List Text}

theorem startsWithString_of_docstring? {above : List Text} {header : Text} (hn : ∀ line ∈ below, '\n' ∉ line)
    (hdoc : (docstring? (above ++ header :: below) above.length).map DocBlock.text = documentation)
    (hclosed : ∀ doc ∈ documentation, isDocstring (pieces doc) = true) : StartsWithString documentation below := by
  have hdrop : (above ++ header :: below).drop (above.length + 1) = below := by simp
  cases hb : docstring? (above ++ header :: below) above.length with
  | none =>
    have hnone := isSome_docstring? (above ++ header :: below) above.length
    rw [hb, hdrop] at hnone
    rw [hb] at hdoc
    subst hdoc
    exact hnone.symm
  | some block =>
    obtain ⟨-, rest, hrest, hstring⟩ := docstring?_eq_some_iff.mp hb
    rw [hdrop] at hrest
    have hne : block.lines ≠ [] := (@exists_of_docBlock? .python _ _ _ hb).1
    have hpieces : pieces block.text = block.lines :=
      pieces_joinLines hne fun line hm => hn line (by rw [hrest]; exact List.mem_append_left rest hm)
    rw [hb] at hdoc
    subst hdoc
    refine ⟨hclosed block.text rfl, ?_⟩
    rw [hpieces]
    exact ⟨rest, hrest.symm⟩

theorem StartsWithString.docText_eq (h : StartsWithString documentation below) (above : List Text) (header : Text) :
    (docstring? (above ++ header :: below) above.length).map DocBlock.text = documentation := by
  have hdrop : (above ++ header :: below).drop (above.length + 1) = below := by simp
  cases documentation with
  | none =>
    have hnone := isSome_docstring? (above ++ header :: below) above.length
    rw [hdrop] at hnone
    rw [Option.map_eq_none_iff, ← Option.isNone_iff_eq_none, ← Option.isSome_eq_false_iff]
    exact hnone.trans h
  | some doc =>
    obtain ⟨hstring, rest, hrest⟩ := h
    rw [docstring?_of_isDocstring hstring (hdrop.trans hrest.symm)]
    exact congrArg some (joinWith_splitOn '\n' doc)

theorem StartsWithString.append (h : StartsWithString documentation below) (hne : below ≠ []) (more : List Text) :
    StartsWithString documentation (below ++ more) := by
  cases documentation with
  | none =>
    obtain ⟨first, rest, rfl⟩ := List.exists_cons_of_ne_nil hne
    exact h
  | some doc => exact ⟨h.1, h.2.trans (List.prefix_append below more)⟩

theorem StartsWithString.take (h : StartsWithString documentation below) {n : Nat}
    (hn : ∀ doc ∈ documentation, (pieces doc).length ≤ n) : StartsWithString documentation (below.take n) := by
  cases documentation with
  | none =>
    cases n with
    | zero => rfl
    | succ n =>
      cases below with
      | nil => rfl
      | cons first rest => exact h
  | some doc => exact ⟨h.1, List.prefix_take_iff.mpr ⟨h.2, hn doc rfl⟩⟩

theorem docText_take {above : List Text} {header : Text} (hn : ∀ line ∈ below, '\n' ∉ line)
    (hdoc : (docstring? (above ++ header :: below) above.length).map DocBlock.text = documentation) {n : Nat}
    (hclosed : ∀ doc ∈ documentation, isDocstring (pieces doc) = true ∧ (pieces doc).length ≤ n) :
    (docstring? (header :: below.take n) 0).map DocBlock.text = documentation := by
  have hstring := startsWithString_of_docstring? hn hdoc fun doc hm => (hclosed doc hm).1
  exact (hstring.take fun doc hm => (hclosed doc hm).2).docText_eq [] header

end

/-- Documentation that lines further above or below have no say in: a comment that is there, a string that is closed,
or no string. -/
def Family.IsSettled (family : Family) (documentation : Option Text) : Prop :=
  if family.isIndented then ∀ doc ∈ documentation, isDocstring (pieces doc) = true else documentation.isSome = true

theorem Family.IsSettled.docText_eq {family : Family} {documentation : Option Text} (h : family.IsSettled documentation)
    {front : List Text} {header : Text} {back : List Text} (hn : ∀ line ∈ back, '\n' ∉ line) (hne : back ≠ [])
    (hdoc : (family.docBlock? (front ++ header :: back) front.length).map DocBlock.text = documentation)
    (above below : List Text) :
    (family.docBlock? ((above ++ front) ++ header :: (back ++ below)) (above ++ front).length).map DocBlock.text =
      documentation := by
  unfold Family.IsSettled at h
  unfold Family.docBlock? at hdoc ⊢
  cases hf : family.isIndented with
  | true =>
    rw [hf] at h hdoc
    exact ((startsWithString_of_docstring? hn hdoc h).append hne below).docText_eq (above ++ front) header
  | false =>
    rw [hf] at h hdoc
    obtain ⟨doc, rfl⟩ := Option.isSome_iff_exists.mp h
    obtain ⟨block, hblock, rfl⟩ := Option.map_eq_some_iff.mp hdoc
    rw [if_neg Bool.false_ne_true, commentBlock?_append] at hblock
    rw [if_neg Bool.false_ne_true, commentBlock?_append, commentBlock?_append_above hblock]
    rfl

/-! ## Lines around a function -/

theorem getElem?_surrounded (above lines below : List Text) {k : Nat} (h : k < lines.length) :
    (above ++ (lines ++ below))[above.length + k]? = lines[k]? := by
  rw [List.getElem?_append_right (Nat.le_add_right _ _), Nat.add_sub_cancel_left, List.getElem?_append_left h]

/-- The search goes upwards from the cursor to the nearest signature, so it never gets to the lines further above. -/
theorem IsNearest.surrounded {family : Family} {lines : List Text} {start start' : Int} {count header : Nat} {name : Text}
    (h : IsNearest family lines start count header name) (hc : count ≤ lines.length) {above : List Text}
    (hs : start' ≤ above.length + start) (below : List Text) :
    IsNearest family (above ++ (lines ++ below)) start' (above.length + count) (above.length + header) name := by
  have hline {k : Nat} (hk : k < count) :
      family.nameOn? (above ++ (lines ++ below)) (above.length + k) = family.nameOn? lines k :=
    congrArg (·.bind family.signatureName?) (getElem?_surrounded above lines below (Nat.lt_of_lt_of_le hk hc))
  have hstart := h.start_le
  have hlt := h.lt_count
  refine ⟨by omega, by omega, (hline hlt).trans h.named, fun k hk hle => ?_⟩
  obtain ⟨k, rfl⟩ := Nat.exists_eq_add_of_le (Nat.le_of_lt (Nat.lt_of_le_of_lt (Nat.le_add_right _ header) hk))
  rw [hline (by omega)]
  exact h.nearest k (by omega) (by omega)

theorem recordAt_surrounded {family : Family} {settings : Settings} {language : Text} {lines : List Text}
    (hn : ∀ line ∈ lines, '\n' ∉ line) {header : Nat} (hlt : header < lines.length) {name : Text} {r : Record}
    (hr : r = recordAt family settings language lines header name) (hend : r.endLine + 1 < lines.length)
    (above below : List Text) :
    ∃ d, recordAt family settings language (above ++ (lines ++ below)) (above.length + header) name =
        { r with startLine := above.length + r.startLine, endLine := above.length + r.endLine, documentation := d } ∧
      (family.IsSettled r.documentation → d = r.documentation) := by
  obtain ⟨front, line, back, rfl, rfl⟩ : ∃ front line back, lines = front ++ line :: back ∧ front.length = header :=
    ⟨lines.take header, lines[header], lines.drop (header + 1), by simp, by simp; omega⟩
  rw [recordAt_append] at hr
  have hreach : family.reach settings.skipLiterals line back < back.length := by
    rw [hr, List.length_append, List.length_cons] at hend
    simp only at hend
    omega
  have hne : back ≠ [] := List.ne_nil_of_length_pos (Nat.zero_lt_of_lt hreach)
  have hback : ∀ other ∈ back, '\n' ∉ other := fun other hm => hn other (by simp [hm])
  have hdoc : (family.docBlock? (front ++ line :: back) front.length).map DocBlock.text = r.documentation := by rw [hr]
  have hlines : above ++ (front ++ line :: back ++ below) = (above ++ front) ++ line :: (back ++ below) := by simp
  rw [hlines, ← List.length_append, recordAt_append, Family.reach_append hreach,
    List.take_append_of_le_length (Nat.le_of_lt hreach)]
  refine ⟨_, ?_, fun h => h.docText_eq hback hne hdoc above below⟩
  rw [hr, List.length_append, Int.natCast_add]
  simp only [Int.add_assoc]

/-- A cursor that is on one of the lines is not moved before the search. -/
theorem locate?_lines_eq_some_iff {lines : List Text} {cursor : Nat} (hlt : cursor < lines.length) {language : Text}
    {settings : Settings} {r : Record} :
    locate? (.lines lines) cursor language settings = some r ↔
      ∃ header name, IsNearest (.ofTag language) (lines.map stripLineEnd)
          (windowStart (settings.lookbackOf (.ofTag language)) cursor) (cursor + 1) header name ∧
        r = recordAt (.ofTag language) settings language (lines.map stripLineEnd) header name := by
  have hcursor : clampCursor cursor (Buffer.lines lines).asLines = cursor := by
    unfold clampCursor Buffer.asLines
    rw [List.length_map]
    omega
  rw [locate?_eq_some_iff, hcursor]
  simp only [nearestSignature?_eq_some_iff]
  rfl

/-- **Surrounding lines do not change a function that ends inside a buffer.** Its record only moves down by the lines
put above, and it keeps its documentation where no line further away has a say in it. -/
theorem locate?_surrounded {lines : List Text} (hn : ∀ line ∈ lines, '\n' ∉ line) {cursor : Int} (hpos : 0 ≤ cursor)
    (hlt : cursor < lines.length) {language : Text} {settings : Settings} {r : Record}
    (hr : locate? (.lines lines) cursor language settings = some r) (hend : r.endLine < lines.length - 1)
    (above below : List Text) :
    ∃ d, locate? (.lines (above ++ lines ++ below)) (above.length + cursor) language settings =
        some { r with
          startLine := r.startLine + above.length, endLine := r.endLine + above.length, documentation := d } ∧
      ((Family.ofTag language).IsSettled r.documentation → d = r.documentation) := by
  obtain ⟨cursor, rfl⟩ := Int.eq_ofNat_of_zero_le hpos
  obtain ⟨header, name, hnear, hrec⟩ := (locate?_lines_eq_some_iff (Int.ofNat_lt.mp hlt)).mp hr
  have hlines : (above ++ lines ++ below).map stripLineEnd =
      above.map stripLineEnd ++ (lines.map stripLineEnd ++ below.map stripLineEnd) := by
    simp
  have hlen : (lines.map stripLineEnd).length = lines.length := List.length_map _
  have hlen' : (above.map stripLineEnd).length = above.length := List.length_map _
  have hstripped : ∀ line ∈ lines.map stripLineEnd, '\n' ∉ line := by
    rw [List.forall_mem_map]
    exact fun line hm => newline_not_mem_stripLineEnd (.inr (hn line hm))
  have hstart : windowStart (settings.lookbackOf (.ofTag language)) (above.length + cursor : Nat) ≤
      (above.map stripLineEnd).length + windowStart (settings.lookbackOf (.ofTag language)) cursor := by
    unfold windowStart
    omega
  have hheader := hnear.lt_count
  have hnear' := hnear.surrounded (by omega) hstart (below.map stripLineEnd)
  obtain ⟨d, hd, hsettled⟩ :=
    recordAt_surrounded hstripped (by omega) hrec (by omega) (above.map stripLineEnd) (below.map stripLineEnd)
  refine ⟨d, ?_, hsettled⟩
  rw [← Int.natCast_add, locate?_lines_eq_some_iff (by simp only [List.length_append]; omega), hlines]
  refine ⟨(above.map stripLineEnd).length + header, name, ?_, ?_⟩
  · rw [hlen'] at hnear' ⊢
    exact hnear'
  · rw [hd, hlen', Int.add_comm r.startLine, Int.add_comm r.endLine]

/-- A function with a string between one that is open and one that would close it, and a function with a comment
between an open comment and braces. -/
theorem locate?_surrounded_docstring_and_comment :
    let above : List Text := ["def g():\r".toList, "    \"\"\"Open".toList]
    let lines : List Text :=
      ["async def f():".toList, "    \"\"\"Adds.".toList, "".toList, "    r\"\"\"".toList, "  pass\r".toList, "f()".toList]
    let below : List Text := ["    \"\"\"".toList, "  return".toList]
    let r : Record :=
      { name := "f".toList, signature := "async def f():".toList
        body := "async def f():\n    \"\"\"Adds.\n\n    r\"\"\"\n  pass\n".toList
        startLine := 0, endLine := 4, language := "python".toList
        documentation := some "    \"\"\"Adds.\n\n    r\"\"\"".toList }
    let aboveBraces : List Text := ["g(); /* open".toList]
    let braces : List Text := ["/** Adds.".toList, " */".toList, "function f() \x7b".toList, "\x7d".toList, "f();".toList]
    let belowBraces : List Text := ["\x7d */".toList]
    let rBraces : Record :=
      { name := "f".toList, signature := "function f() \x7b".toList, body := "function f() \x7b\n\x7d\n".toList
        startLine := 2, endLine := 3, language := "javascript".toList, documentation := some "/** Adds.\n */".toList }
    (locate? (.lines lines) 3 r.language {} = some r ∧
      locate? (.lines (above ++ lines ++ below)) 5 r.language {} = some { r with startLine := 2, endLine := 6 }) ∧
    locate? (.lines braces) 3 rBraces.language {} = some rBraces ∧
      locate? (.lines (aboveBraces ++ braces ++ belowBraces)) 4 rBraces.language {} =
        some { rBraces with startLine := 3, endLine := 4 } := by
  intro above lines below r aboveBraces braces belowBraces rBraces
  have hn : ∀ line ∈ lines, '\n' ∉ line := by decide +kernel
  have hr : locate? (.lines lines) 3 r.language {} = some r := by decide +kernel
  have hsettled : (Family.ofTag r.language).IsSettled r.documentation := by
    have hf : (Family.ofTag r.language).isIndented = true := by decide +kernel
    unfold Family.IsSettled
    rw [if_pos hf]
    decide +kernel
  have hnBraces : ∀ line ∈ braces, '\n' ∉ line := by decide +kernel
  have hrBraces : locate? (.lines braces) 3 rBraces.language {} = some rBraces := by decide +kernel
  have hsettledBraces : (Family.ofTag rBraces.language).IsSettled rBraces.documentation := by
    have hf : ¬ (Family.ofTag rBraces.language).isIndented = true := by decide +kernel
    unfold Family.IsSettled
    rw [if_neg hf]
    rfl
  obtain ⟨d, hd, hkept⟩ :=
    locate?_surrounded hn (by decide) (by decide) hr (by decide : (4 : Int) < 6 - 1) above below
  obtain ⟨dBraces, hdBraces, hkeptBraces⟩ := locate?_surrounded hnBraces (by decide) (by decide) hrBraces
    (by decide : (3 : Int) < 5 - 1) aboveBraces belowBraces
  rw [hkept hsettled] at hd
  rw [hkeptBraces hsettledBraces] at hdBraces
  exact ⟨⟨hr, hd⟩, hrBraces, hdBraces⟩

/-! ## The body of a function -/

/-- **The body of a function holds the function.** It consists of the lines of the span, and in it the function is
found on its first line and ends with its last one. No comment is above it, and a documentation string is in it if it
is closed there. -/
theorem locate?_body (s : Text) (cursor : Int) (language : Text) (settings : Settings) {r : Record}
    (hr : locate? (.text s) cursor language settings = some r) :
    (∃ start stop : Nat, r.startLine = start ∧ r.endLine = stop ∧
        (Buffer.text r.body).asLines = ((Buffer.text s).asLines.take (stop + 1)).drop start) ∧
      ∃ d, locate? (.text r.body) 0 language settings =
          some { r with startLine := 0, endLine := r.endLine - r.startLine, documentation := d } ∧
        ((Family.ofTag language).isIndented = false → d = none) ∧
        ((Family.ofTag language).isIndented = true →
          (∀ doc ∈ r.documentation, isDocstring (pieces doc) = true ∧ r.startLine + (pieces doc).length ≤ r.endLine) →
            d = r.documentation) := by
  obtain ⟨hback, above, header, below, name, hlines, hname, hrec⟩ := exists_of_locate? hr
  have hlines_mem {line : Text} (hm : line ∈ header :: below) : line ∈ (Buffer.text s).asLines := by
    rw [hlines]
    exact List.mem_append_right above hm
  rw [hlines, recordAt_append] at hrec
  generalize hn : (Family.ofTag language).reach settings.skipLiterals header below = n at hrec
  have hreach : (Family.ofTag language).reach settings.skipLiterals header (below.take n) = n := by
    rw [← hn, Family.reach_take, hn]
  have hsub {line : Text} (hm : line ∈ header :: below.take n) : line ∈ (Buffer.text s).asLines :=
    hlines_mem ((List.Sublist.cons_cons header (List.take_sublist n below)).subset hm)
  have hbody : (Buffer.text r.body).asLines = [] ++ header :: below.take n := by
    rw [hrec]
    exact asLines_joinBody (fun line hm => newline_not_mem_asLines s line (hsub hm))
      fun line hm => stripLineEnd_of_mem_asLines (hsub hm)
  have hfound := locate?_of_signature hbody hname hback
  rw [hbody, recordAt_append, hreach, List.take_take, Nat.min_self] at hfound
  refine ⟨⟨above.length, above.length + n, ?_, ?_, ?_⟩,
    ((Family.ofTag language).docBlock? ([] ++ header :: below.take n) 0).map DocBlock.text, hfound.trans ?_, ?_, ?_⟩
  · rw [hrec]
  · rw [hrec]
    rfl
  · rw [hbody, hlines, Nat.add_assoc, List.take_length_add_append, List.drop_left, List.take_succ_cons]
    rfl
  · rw [hrec]
    simp
  · intro hf
    unfold Family.docBlock?
    rw [hf]
    rfl
  · intro hf hclosed
    unfold Family.docBlock? at hrec ⊢
    rw [hf] at hrec ⊢
    have hdoc : (docstring? (above ++ header :: below) above.length).map DocBlock.text = r.documentation := by
      rw [hrec]
      rfl
    refine docText_take (fun line hm => ?_) hdoc fun doc hm => ?_
    · exact newline_not_mem_asLines s line (hlines_mem (List.mem_cons_of_mem header hm))
    · have hclosed := hclosed doc hm
      rw [hrec] at hclosed
      simp only at hclosed
      exact ⟨hclosed.1, by omega⟩

theorem locate?_body_open_braces :
    let s : Text := "/** Adds. */\nconst add = () => \x7b \r\r\n  return `\x7b\n\x7d\x0c".toList
    let r : Record :=
      { name := "add".toList, signature := "const add = () => \x7b".toList
        body := "const add = () => \x7b \n  return `\x7b\n\x7d\x0c\n".toList
        startLine := 1, endLine := 3, language := "javascript".toList, documentation := some "/** Adds. */".toList }
    let settings : Settings := { skipLiterals := true }
    locate? (.text s) 3 r.language settings = some r ∧
      locate? (.text r.body) 0 r.language settings =
        some { r with startLine := 0, endLine := 2, documentation := none } := by
  intro s r settings
  have hr : locate? (.text s) 3 r.language settings = some r := by decide +kernel
  have hf : (Family.ofTag r.language).isIndented = false := by decide +kernel
  obtain ⟨-, d, hd, hnone, -⟩ := locate?_body s 3 r.language settings hr
  rw [hnone hf] at hd
  exact ⟨hr, hd⟩

end CursorDoc
