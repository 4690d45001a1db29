import Mathlib.Order.Bounds.Basic
import Mathlib.Data.Set.Basic
import CursorDoc.Proofs.Locate
import CursorDoc.Proofs.Text.Message

/-!
# The window of a cursor

A search looks at the lines from the cursor up to as many lines above it as
the lookback says. The function it finds is the one whose header is the last
of these lines that holds a signature; the search finds nothing where none
does. It fails where it has to report a number that is too long.
-/

namespace CursorDoc

open Text

def cursorLine (cursor : Int) (lines : List Text) : Int := min (max cursor 0) (lines.length - 1)

/-- The lines with a signature among the cursor's line and the `lookback` lines above it. -/
def windowHeaders (family : Family) (lines : List Text) (lookback cursor : Int) : Set Nat :=
  {i | max 0 (cursorLine cursor lines - lookback) ≤ i ∧ i ≤ cursorLine cursor lines ∧
    ∃ name, family.nameOn? lines i = some name}

section
variable {family : Family} {lines : List Text} {lookback cursor : Int}

theorem windowHeaders_nil : windowHeaders family [] lookback cursor = ∅ := by
  refine Set.eq_empty_of_forall_notMem fun i hi => ?_
  obtain ⟨-, hle, -⟩ := hi
  unfold cursorLine at hle
  simp only [List.length_nil] at hle
  omega

theorem windowHeaders_of_neg (h : lookback < 0) : windowHeaders family lines lookback cursor = ∅ := by
  refine Set.eq_empty_of_forall_notMem fun i hi => ?_
  obtain ⟨hstart, hle, -⟩ := hi
  omega

theorem clampCursor_eq (cursor : Int) (h : lines ≠ []) :
    (clampCursor cursor lines : Int) = cursorLine cursor lines := by
  have hpos := List.length_pos_iff.mpr h
  unfold clampCursor cursorLine
  omega

theorem cursorLine_of_le {cursor' : Int} (h : 0 ≤ cursor') (hle : cursor' ≤ cursorLine cursor lines) :
    cursorLine cursor' lines = cursor' := by
  unfold cursorLine at hle ⊢
  omega

theorem isNearest_iff_isGreatest (h : lines ≠ []) {i : Nat} {name : Text} :
    IsNearest family lines (windowStart lookback (clampCursor cursor lines)) (clampCursor cursor lines + 1) i name ↔
      IsGreatest (windowHeaders family lines lookback cursor) i ∧ family.nameOn? lines i = some name := by
  have hline := clampCursor_eq cursor h
  constructor
  · intro hnear
    have hstart := hnear.start_le
    have hlt := hnear.lt_count
    unfold windowStart at hstart
    refine ⟨⟨⟨by omega, by omega, name, hnear.named⟩, ?_⟩, hnear.named⟩
    rintro k ⟨-, hk, found, hfound⟩
    refine Nat.le_of_not_lt fun hik => ?_
    rw [hnear.nearest k hik (by omega)] at hfound
    cases hfound
  · rintro ⟨⟨⟨hstart, hle, -⟩, hgreatest⟩, hname⟩
    refine ⟨by unfold windowStart; omega, by omega, hname, fun k hik hk => ?_⟩
    refine Option.eq_none_iff_forall_ne_some.mpr fun found hfound => ?_
    have hki := hgreatest ⟨by omega, by omega, found, hfound⟩
    omega

/-- The last header of a window is the last one as well when the cursor comes closer to it, or when the window reaches
further up. -/
theorem isGreatest_windowHeaders_of_le {header : Nat}
    (h : IsGreatest (windowHeaders family lines lookback cursor) header)
    {lookback' cursor' : Int} (hbelow : header ≤ cursor') (habove : cursor' ≤ cursorLine cursor lines)
    (hback : lookback ≤ lookback') : IsGreatest (windowHeaders family lines lookback' cursor') header := by
  obtain ⟨⟨hstart, -, hname⟩, hgreatest⟩ := h
  have hline := cursorLine_of_le (Int.le_trans (Int.natCast_nonneg header) hbelow) habove
  refine ⟨⟨by omega, by omega, hname⟩, fun k hk => ?_⟩
  obtain ⟨-, hk, hname⟩ := hk
  -- a header below this one would have been one of the old window
  refine Nat.le_of_not_lt fun hlt => ?_
  have hle : k ≤ header := hgreatest ⟨by omega, by omega, hname⟩
  omega

theorem exists_isGreatest (h : (windowHeaders family lines lookback cursor).Nonempty) :
    ∃ header, IsGreatest (windowHeaders family lines lookback cursor) header := by
  have hlines : lines ≠ [] := by
    rintro rfl
    rw [windowHeaders_nil] at h
    exact Set.not_nonempty_empty h
  have hline := clampCursor_eq cursor hlines
  obtain ⟨k, hstart, hle, name, hname⟩ := h
  have hstart' : windowStart lookback (clampCursor cursor lines) ≤ k := by
    unfold windowStart
    omega
  obtain ⟨header, _, hnear⟩ := exists_isNearest hstart' (show k < clampCursor cursor lines + 1 by omega) hname
  exact ⟨header, ((isNearest_iff_isGreatest hlines).mp hnear).1⟩

end

/-! ## What is found -/

section
variable {buffer : Buffer} {cursor : Int} {language : Text} {settings : Settings}

theorem locate?_iff_isGreatest {r : Record} : locate? buffer cursor language settings = some r ↔
    ∃ header name, IsGreatest (windowHeaders (.ofTag language) buffer.asLines
        (settings.lookbackOf (.ofTag language)) cursor) header ∧
      (Family.ofTag language).nameOn? buffer.asLines header = some name ∧
      r = recordAt (.ofTag language) settings language buffer.asLines header name := by
  by_cases hlines : buffer.asLines = []
  · rw [hlines, windowHeaders_nil]
    refine iff_of_false (fun h => ?_) fun ⟨header, _, hgreatest, _⟩ => hgreatest.1
    obtain ⟨-, above, header, below, -, hsplit, -⟩ := exists_of_locate? h
    rw [hlines] at hsplit
    simp at hsplit
  · simp only [locate?_eq_some_iff, nearestSignature?_eq_some_iff, isNearest_iff_isGreatest hlines, and_assoc]

theorem windowHeaders_of_locate?_eq_none (h : locate? buffer cursor language settings = none) :
    windowHeaders (.ofTag language) buffer.asLines (settings.lookbackOf (.ofTag language)) cursor = ∅ := by
  refine Set.not_nonempty_iff_eq_empty.mp fun hne => ?_
  obtain ⟨header, hgreatest⟩ := exists_isGreatest hne
  obtain ⟨-, -, name, hname⟩ := hgreatest.1
  rw [locate?_iff_isGreatest.mpr ⟨header, name, hgreatest, hname, rfl⟩] at h
  cases h

end

/-! ## What is reported -/

/-- A number that a search reports is too long: the cursor if it is moved, the line it is moved to, or the start of
a window without a header. -/
def ReportsLong (buffer : Buffer) (cursor : Int) (language : Text) (settings : Settings) : Prop :=
  let lines := buffer.asLines
  let lookback := settings.lookbackOf (.ofTag language)
  lines ≠ [] ∧ (cursorLine cursor lines ≠ cursor ∧ IsLong cursor ∨ IsLong (cursorLine cursor lines) ∨
    windowHeaders (.ofTag language) lines lookback cursor = ∅ ∧ IsLong (max 0 (cursorLine cursor lines - lookback)))

section
variable {buffer : Buffer} {lines : List Text} {cursor : Int} {language : Text} {settings : Settings}

theorem messages_eq_error_iff {search : Search} : search.messages = .error .tooLong ↔
    ∃ entry ∈ search.log, ∃ n, .number n ∈ entry.message ∧ IsLong n := by
  have h := @mapM_eq_error_iff NumberFault LogEntry Text (fun entry => writeAll entry.message) search.log
  simp only [NumberFault.exists_iff, writeAll_eq_error_iff] at h
  exact h

theorem nearestSignature?_eq_none_iff (h : lines ≠ []) {family : Family} {lookback : Int} :
    nearestSignature? family lines (windowStart lookback (clampCursor cursor lines)) (clampCursor cursor lines) = none ↔
      windowHeaders family lines lookback cursor = ∅ := by
  rw [Option.eq_none_iff_forall_ne_some, ← Set.not_nonempty_iff_eq_empty]
  constructor
  · rintro hnone hne
    obtain ⟨header, hgreatest⟩ := exists_isGreatest hne
    obtain ⟨-, -, name, hname⟩ := hgreatest.1
    exact hnone (header, name)
      (nearestSignature?_eq_some_iff.mpr ((isNearest_iff_isGreatest h).mpr ⟨hgreatest, hname⟩))
  · rintro hempty ⟨header, name⟩ hfound
    exact hempty ⟨header, ((isNearest_iff_isGreatest h).mp (nearestSignature?_eq_some_iff.mp hfound)).1.1⟩

theorem exists_isLong_iff (hlines : buffer.asLines ≠ []) :
    (∃ entry ∈ (search buffer cursor language settings).log, ∃ n, .number n ∈ entry.message ∧ IsLong n) ↔
      ReportsLong buffer cursor language settings := by
  have hempty : ¬ buffer.asLines.isEmpty = true := by simpa using hlines
  unfold search searchLines ReportsLong
  dsimp only
  rw [if_neg hempty, ← nearestSignature?_eq_none_iff hlines, ← clampCursor_eq cursor hlines]
  generalize buffer.asLines = lines at hlines ⊢
  cases hnear : nearestSignature? (.ofTag language) lines
      (windowStart (settings.lookbackOf (.ofTag language)) (clampCursor cursor lines)) (clampCursor cursor lines) with
  | none =>
    by_cases hmoved : clampCursor cursor lines = cursor
    · simp [hmoved, hlines, LogEntry.message, windowStart]
      tauto
    · simp [hmoved, hlines, LogEntry.message, windowStart]
      tauto
  | some found =>
    obtain ⟨header, name⟩ := found
    have hlt := (nearestSignature?_eq_some_iff.mp hnear).lt_count
    -- the header is not below the line of the cursor, so it is no longer than that
    have hheader : IsLong header → IsLong (clampCursor cursor lines) := fun h => h.mono (by omega) (by omega)
    by_cases hmoved : clampCursor cursor lines = cursor
    · rw [hmoved] at hheader
      simpa [hmoved, hlines, LogEntry.message] using hheader
    · simp [hmoved, hlines, LogEntry.message]
      tauto

theorem locate_eq_error_iff : locate buffer cursor language settings = .error .tooLong ↔
    ReportsLong buffer cursor language settings := by
  have hmessages : locate buffer cursor language settings = .error .tooLong ↔
      (search buffer cursor language settings).messages = .error .tooLong := by
    unfold locate
    cases (search buffer cursor language settings).messages with
    | error fault => rw [fault.eq_tooLong]; exact iff_of_true rfl rfl
    | ok messages => exact iff_of_false nofun nofun
  rw [hmessages, messages_eq_error_iff]
  by_cases hlines : buffer.asLines = []
  · refine iff_of_false ?_ fun h => h.1 hlines
    unfold search
    rw [hlines]
    simp [searchLines, LogEntry.message]
  · exact exists_isLong_iff hlines

theorem locate_eq_ok (h : ¬ ReportsLong buffer cursor language settings) :
    locate buffer cursor language settings = .ok (locate? buffer cursor language settings) := by
  rw [← locate_eq_error_iff] at h
  unfold locate at h ⊢
  cases hmessages : (search buffer cursor language settings).messages with
  | error fault =>
    rw [hmessages, fault.eq_tooLong] at h
    exact absurd rfl h
  | ok messages => rfl

theorem locate_eq_ok_iff {found : Option Record} : locate buffer cursor language settings = .ok found ↔
    ¬ ReportsLong buffer cursor language settings ∧ locate? buffer cursor language settings = found := by
  by_cases h : ReportsLong buffer cursor language settings
  · rw [locate_eq_error_iff.mpr h]
    exact iff_of_false nofun fun hnot => hnot.1 h
  · rw [locate_eq_ok h, Except.ok.injEq]
    exact (and_iff_right h).symm

/-- With a negative lookback the window is empty, and where it would start is reported. -/
theorem reportsLong_far_below :
    ReportsLong (.text "a\nb\n".toList) 1 "javascript".toList { lookback := 1 - (10 ^ maxDigits : Nat) } := by
  have hlookback (n : Int) : ({ lookback := n } : Settings).lookbackOf (.ofTag "javascript".toList) = n := rfl
  have hlines : (Buffer.text "a\nb\n".toList).asLines = [['a'], ['b']] := by rfl
  have hcursor : cursorLine 1 [['a'], ['b']] = 1 := by decide
  have hpow : 1 < 10 ^ maxDigits := Nat.one_lt_pow (by decide) (by decide)
  rw [ReportsLong, hlookback, hlines, hcursor, isLong_iff, isLong_iff]
  generalize 10 ^ maxDigits = n at hpow ⊢
  exact ⟨by simp, .inr (.inr ⟨windowHeaders_of_neg (by omega), by omega⟩)⟩

end

/-- **The nearest signature in the window is found.** A search fails exactly if it has to report a number that is too
long. Otherwise nothing is found in an empty window, and the function of its last header in any other, which is found
as well from every line between the header and the cursor and with every larger lookback. -/
theorem locate_nearest (buffer : Buffer) (cursor : Int) (language : Text) (settings : Settings) :
    let lines := buffer.asLines
    let family := Family.ofTag language
    let lookback := settings.lookbackOf family
    let headers := windowHeaders family lines lookback cursor
    (lines = [] ∨ lookback < 0 → headers = ∅) ∧
    (locate buffer cursor language settings = .error .tooLong ↔ ReportsLong buffer cursor language settings) ∧
    (ReportsLong buffer cursor language settings ∨
      (headers = ∅ ∧ locate buffer cursor language settings = .ok none) ∨
      ∃ (header stop : Nat) (name : Text) (r : Record),
        IsGreatest headers header ∧ family.nameOn? lines header = some name ∧
        locate buffer cursor language settings = .ok (some r) ∧
        r.name = name ∧ r.signature = (lines.getD header []).trim ∧ r.language = language ∧
        r.startLine = header ∧ r.endLine = stop ∧ header ≤ stop ∧ stop < lines.length ∧
        r.body = joinBody ((lines.drop header).take (stop + 1 - header)) ∧
        ∀ (cursor' : Int) (settings' : Settings), header ≤ cursor' → cursor' ≤ cursorLine cursor lines →
          settings'.skipLiterals = settings.skipLiterals → lookback ≤ settings'.lookbackOf family →
          locate buffer cursor' language settings' = .ok (some r)) := by
  intro lines family lookback headers
  refine ⟨fun h => ?_, locate_eq_error_iff, ?_⟩
  · obtain hnil | hneg := h
    · change windowHeaders family buffer.asLines lookback cursor = ∅
      rw [show buffer.asLines = [] from hnil]
      exact windowHeaders_nil
    · exact windowHeaders_of_neg hneg
  refine or_iff_not_imp_left.mpr fun hshort => ?_
  rw [locate_eq_ok hshort]
  cases hr : locate? buffer cursor language settings with
  | none => exact .inl ⟨windowHeaders_of_locate?_eq_none hr, rfl⟩
  | some r =>
    obtain ⟨header, name, hgreatest, hname, rfl⟩ := locate?_iff_isGreatest.mp hr
    obtain ⟨text, htext, -⟩ := Option.bind_eq_some_iff.mp hname
    obtain ⟨hstart, hle, hend⟩ := family.span_bounds settings.skipLiterals (List.getElem?_eq_some_iff.mp htext).1
    refine .inr ⟨header, (family.span settings.skipLiterals lines header).endLine, name, _, hgreatest, hname, rfl, rfl,
      rfl, rfl, congrArg Nat.cast hstart, rfl, hle, hend, family.span_body _ _ _, ?_⟩
    intro cursor' settings' hbelow habove hskip hback
    have hgreatest' := isGreatest_windowHeaders_of_le hgreatest hbelow habove hback
    have hfound : locate? buffer cursor' language settings' =
        some (recordAt family settings language lines header name) := by
      refine locate?_iff_isGreatest.mpr ⟨header, name, hgreatest', hname, ?_⟩
      unfold recordAt
      rw [hskip]
    rw [← hfound]
    have hnonneg := Int.le_trans (Int.natCast_nonneg header) hbelow
    -- a cursor on a line of the window stays there, and that line is no longer than the last one
    have hline : cursorLine cursor' buffer.asLines = cursor' := cursorLine_of_le hnonneg habove
    refine locate_eq_ok fun hlong => hshort ?_
    obtain ⟨hne, hmoved | hcursor | ⟨hempty, -⟩⟩ := hlong
    · exact absurd hline hmoved.1
    · rw [hline] at hcursor
      exact ⟨hne, .inr (.inl (hcursor.mono hnonneg habove))⟩
    · rw [hempty] at hgreatest'
      exact absurd hgreatest'.1 (Set.notMem_empty header)

/-- A search that finds nothing fails. -/
theorem locate_window_far_below :
    locate (.text "a\nb\n".toList) 1 "javascript".toList { lookback := 1 - (10 ^ maxDigits : Nat) } =
      .error .tooLong :=
  locate_eq_error_iff.mpr reportsLong_far_below

end CursorDoc
