import CursorDoc.Proofs.DocBlock
import CursorDoc.Proofs.Span

/-!
# Located functions

A record that is found comes from a line that holds a signature, and the
search that found it looks at the cursor line at least. So the same function
is found again from its own header.
-/

namespace CursorDoc

open Text

/-! ## The nearest signature -/

def Family.nameOn? (family : Family) (lines : List Text) (k : Nat) : Option Text := lines[k]?.bind family.signatureName?

/-- Line `header` holds the last signature of the lines from `start` on and in front of line `count`. -/
structure IsNearest (family : Family) (lines : List Text) (start : Int) (count header : Nat) (name : Text) : Prop where
  start_le : start ≤ header
  lt_count : header < count
  named : family.nameOn? lines header = some name
  nearest : ∀ k, header < k → k < count → family.nameOn? lines k = none

section
variable {family : Family} {lines : List Text} {start : Int} {count header : Nat} {name : Text}

theorem isNearest_succ_iff : IsNearest family lines start (count + 1) header name ↔
    (start ≤ count ∧ header = count ∧ family.nameOn? lines count = some name) ∨
      (family.nameOn? lines count = none ∧ IsNearest family lines start count header name) := by
  constructor
  · intro h
    by_cases heq : header = count
    · subst heq
      exact .inl ⟨h.start_le, rfl, h.named⟩
    · have hlt := h.lt_count
      exact .inr ⟨h.nearest count (by omega) (Nat.lt_succ_self count), h.start_le, by omega, h.named,
        fun k hk hle => h.nearest k hk (Nat.lt_succ_of_lt hle)⟩
  · rintro (⟨hstart, rfl, hname⟩ | ⟨hnone, h⟩)
    · exact ⟨hstart, Nat.lt_succ_self _, hname, fun k hk hle => by omega⟩
    · refine ⟨h.start_le, Nat.lt_succ_of_lt h.lt_count, h.named, fun k hk hle => ?_⟩
      by_cases heq : k = count
      · rw [heq, hnone]
      · exact h.nearest k hk (by omega)

theorem exists_isNearest {k : Nat} (hs : start ≤ k) (hk : k < count) (hn : family.nameOn? lines k = some name) :
    ∃ header name, IsNearest family lines start count header name := by
  induction count with
  | zero => exact absurd hk (Nat.not_lt_zero k)
  | succ count ih =>
    cases hlast : family.nameOn? lines count with
    | some found =>
      exact ⟨count, found, isNearest_succ_iff.mpr (.inl ⟨by omega, rfl, hlast⟩)⟩
    | none =>
      have hne : k ≠ count := by
        rintro rfl
        rw [hn] at hlast
        cases hlast
      obtain ⟨header, name, hnear⟩ := ih (by omega)
      exact ⟨header, name, isNearest_succ_iff.mpr (.inr ⟨hlast, hnear⟩)⟩

end

def lastSignature? (family : Family) (lines : List Text) (start : Int) (count : Nat) : Option (Nat × Text) :=
  ((lines.zipIdx.take count).drop start.toNat).reverse.findSome? fun (text, index) =>
    (family.signatureName? text).map (index, ·)

section
variable {family : Family} {lines : List Text} {start : Int} {count : Nat}

theorem lastSignature?_succ : lastSignature? family lines start (count + 1) =
    (if start ≤ count then (family.nameOn? lines count).map (count, ·) else none).or
      (lastSignature? family lines start count) := by
  have hlast : lines.zipIdx[count]? = lines[count]?.map (·, count) := by
    rw [List.getElem?_zipIdx, Nat.zero_add]
  unfold lastSignature? Family.nameOn?
  rw [List.take_add_one, hlast]
  cases hget : lines[count]? with
  | none => simp
  | some text =>
    have hlen : (lines.zipIdx.take count).length = count := by
      have := (List.getElem?_eq_some_iff.mp hget).1
      rw [List.length_take, List.length_zipIdx]
      omega
    rw [Option.map_some, Option.toList_some, List.drop_append, hlen, List.reverse_append, List.findSome?_append]
    congr 1
    by_cases hs : start ≤ count
    · have hzero : start.toNat - count = 0 := by omega
      rw [if_pos hs, hzero]
      exact List.findSome?_singleton
    · have hone : [(text, count)].length ≤ start.toNat - count := by
        rw [List.length_singleton]
        omega
      rw [if_neg hs, List.drop_eq_nil_of_le hone]
      rfl

theorem lastSignature?_eq_some_iff {header : Nat} {name : Text} :
    lastSignature? family lines start count = some (header, name) ↔
      IsNearest family lines start count header name := by
  induction count with
  | zero =>
    refine ⟨fun h => ?_, fun h => absurd h.lt_count (Nat.not_lt_zero _)⟩
    simp [lastSignature?] at h
  | succ count ih =>
    rw [lastSignature?_succ, isNearest_succ_iff, ← ih]
    cases family.nameOn? lines count with
    | none => simp
    | some found =>
      by_cases hs : start ≤ count
      · simp [hs, eq_comm]
      · have hnone : lastSignature? family lines start count ≠ some (header, name) := by
          intro h
          have h := ih.mp h
          have := h.start_le
          have := h.lt_count
          omega
        simp [hs, hnone]

theorem nearestSignature?_eq_some_iff {line header : Nat} {name : Text} :
    nearestSignature? family lines start line = some (header, name) ↔
      IsNearest family lines start (line + 1) header name := lastSignature?_eq_some_iff

theorem exists_of_nearestSignature? {line header : Nat} {name : Text}
    (h : nearestSignature? family lines start line = some (header, name)) :
    start ≤ line ∧ ∃ text, lines[header]? = some text ∧ family.signatureName? text = some name := by
  have hnear := nearestSignature?_eq_some_iff.mp h
  have hle := hnear.start_le
  have hlt := hnear.lt_count
  exact ⟨by omega, Option.bind_eq_some_iff.mp hnear.named⟩

theorem nearestSignature?_of_signature {line : Nat} {text name : Text} (hs : start ≤ line)
    (ht : lines[line]? = some text) (hn : family.signatureName? text = some name) :
    nearestSignature? family lines start line = some (line, name) := by
  have hname : family.nameOn? lines line = some name := Option.bind_eq_some_iff.mpr ⟨text, ht, hn⟩
  exact nearestSignature?_eq_some_iff.mpr (isNearest_succ_iff.mpr (.inl ⟨hs, rfl, hname⟩))

end

/-! ## Located records -/

section
variable {buffer : Buffer} {language : Text} {settings : Settings}

theorem locate?_eq_some_iff {cursor : Int} {r : Record} : locate? buffer cursor language settings = some r ↔
    ∃ header name, nearestSignature? (.ofTag language) buffer.asLines
        (windowStart (settings.lookbackOf (.ofTag language)) (clampCursor cursor buffer.asLines))
        (clampCursor cursor buffer.asLines) = some (header, name) ∧
      r = recordAt (.ofTag language) settings language buffer.asLines header name := by
  unfold locate? search searchLines
  cases hl : buffer.asLines with
  | nil => simp [nearestSignature?]
  | cons first rest =>
    rw [← hl]
    have hne : buffer.asLines.isEmpty = false := by
      rw [hl]
      rfl
    simp only [hne, Bool.false_eq_true, ite_false]
    cases hnear : nearestSignature? (.ofTag language) buffer.asLines
        (windowStart (settings.lookbackOf (.ofTag language)) (clampCursor cursor buffer.asLines))
        (clampCursor cursor buffer.asLines) with
    | none => simp
    | some found =>
      obtain ⟨header, name⟩ := found
      constructor
      · intro h
        exact ⟨header, name, rfl, (Option.some.inj h).symm⟩
      · rintro ⟨header', name', hfound, rfl⟩
        cases hfound
        rfl

theorem exists_of_locate? {cursor : Int} {r : Record} (h : locate? buffer cursor language settings = some r) :
    0 ≤ settings.lookbackOf (.ofTag language) ∧
      ∃ above header below name, buffer.asLines = above ++ header :: below ∧
        (Family.ofTag language).signatureName? header = some name ∧
        r = recordAt (.ofTag language) settings language buffer.asLines above.length name := by
  obtain ⟨index, name, hnear, rfl⟩ := locate?_eq_some_iff.mp h
  obtain ⟨hstart, text, htext, hname⟩ := exists_of_nearestSignature? hnear
  obtain ⟨hindex, hget⟩ := List.getElem?_eq_some_iff.mp htext
  have hlen : (buffer.asLines.take index).length = index := by
    rw [List.length_take]; omega
  refine ⟨?_, buffer.asLines.take index, text, buffer.asLines.drop (index + 1), name, ?_, hname, by rw [hlen]⟩
  · unfold windowStart at hstart
    omega
  · rw [← hget, List.getElem_cons_drop, List.take_append_drop]

theorem locate?_of_signature {above below : List Text} {header name : Text}
    (hl : buffer.asLines = above ++ header :: below)
    (hn : (Family.ofTag language).signatureName? header = some name)
    (hk : 0 ≤ settings.lookbackOf (.ofTag language)) :
    locate? buffer above.length language settings =
      some (recordAt (.ofTag language) settings language buffer.asLines above.length name) := by
  have hcursor : clampCursor above.length buffer.asLines = above.length := by
    unfold clampCursor
    rw [hl, List.length_append, List.length_cons]
    omega
  have hstart : windowStart (settings.lookbackOf (.ofTag language)) above.length ≤ above.length := by
    unfold windowStart
    omega
  have hget : buffer.asLines[above.length]? = some header := by
    rw [hl]; simp
  refine locate?_eq_some_iff.mpr ⟨above.length, name, ?_, rfl⟩
  rw [hcursor]
  exact nearestSignature?_of_signature hstart hget hn

end

/-! ## The documentation of a header -/

theorem exists_of_docBlock? {family : Family} {lines : List Text} {header : Nat} {block : DocBlock}
    (h : family.docBlock? lines header = some block) :
    block.lines ≠ [] ∧ ∃ above below, lines = above ++ (block.lines ++ below) ∧ block.first = above.length := by
  unfold Family.docBlock? at h
  split at h
  · obtain ⟨hfirst, below, hdrop, hstring⟩ := docstring?_eq_some_iff.mp h
    have hne : block.lines ≠ [] := by
      obtain hstring | ⟨hopen, -⟩ := hstring
      · exact ne_nil_of_isDocstring hstring
      · exact ne_nil_of_isOpenDocstring hopen
    have hlt : header + 1 ≤ lines.length := by
      refine Nat.lt_of_not_le fun hle => ?_
      rw [List.drop_eq_nil_of_le (by omega)] at hdrop
      exact hne (List.append_eq_nil_iff.mp hdrop.symm).1
    refine ⟨hne, lines.take (header + 1), below, ?_, ?_⟩
    · rw [← hdrop, List.take_append_drop]
    · rw [hfirst, List.length_take, Nat.min_eq_left hlt]
  · obtain ⟨above, gap, htake, hfirst, -, hcom⟩ := commentBlock?_eq_some_iff.mp h
    refine ⟨ne_nil_of_isComment hcom, above, gap ++ lines.drop header, ?_, hfirst⟩
    rw [← List.append_assoc block.lines, ← List.append_assoc, ← htake, List.take_append_drop]

/-! ## The record of a header -/

section
variable {family : Family} (settings : Settings) (language : Text) (above : List Text) (header : Text)
  (below : List Text) (name : Text)

theorem recordAt_of_braces (hf : family.isIndented = false) :
    recordAt family settings language (above ++ header :: below) above.length name =
      { name := name
        signature := header.trim
        body := joinBody ((header :: below).take (braceReach (header :: below) settings.skipLiterals + 1))
        startLine := above.length
        endLine := above.length + braceReach (header :: below) settings.skipLiterals
        language := language
        documentation := (commentBlock? (above ++ header :: below) above.length).map DocBlock.text } := by
  unfold recordAt Family.span Family.docBlock?
  simp [hf, Span.ofBraces_append]

theorem recordAt_of_indentation (hf : family.isIndented = true) :
    recordAt family settings language (above ++ header :: below) above.length name =
      { name := name
        signature := header.trim
        body := joinBody (header :: below.takeWhile (continuesBody header.indentWidth))
        startLine := above.length
        endLine := above.length + (below.takeWhile (continuesBody header.indentWidth)).length
        language := language
        documentation := (docstring? (above ++ header :: below) above.length).map DocBlock.text } := by
  unfold recordAt Family.span Family.docBlock?
  simp [hf, Span.ofIndentation_append]

end

end CursorDoc
