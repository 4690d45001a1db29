import CursorDoc.Proofs.Text.Indentation
import CursorDoc.Text.Dedent

/-!
# Margins

The margin of lines is a beginning of each line that holds more than spaces
and tabs. Lines that were put behind a common indentation have that
indentation for the first part of their margin, so removing the margin undoes
it, and lines without their margin have none.
-/

namespace CursorDoc.Text

/-! ## Common beginnings -/

theorem commonStart_append (a b : Text) : ∀ w : Text, commonStart (w ++ a) (w ++ b) = w ++ commonStart a b
  | [] => rfl
  | c :: w => by
    rw [List.cons_append, List.cons_append, commonStart, if_pos rfl, commonStart_append a b w, List.cons_append]

theorem isPrefix_commonStart_iff : ∀ {w a b : Text}, w <+: commonStart a b ↔ w <+: a ∧ w <+: b
  | [], _, _ => by simp
  | c :: w, [], b => by simp [commonStart]
  | c :: w, d :: a, [] => by simp [commonStart]
  | c :: w, d :: a, e :: b => by
    rw [commonStart]
    split
    · rename_i h
      rw [← h, List.cons_prefix_cons, List.cons_prefix_cons, List.cons_prefix_cons, isPrefix_commonStart_iff]
      exact ⟨fun ⟨hc, ha, hb⟩ => ⟨⟨hc, ha⟩, hc, hb⟩, fun ⟨⟨hc, ha⟩, _, hb⟩ => ⟨hc, ha, hb⟩⟩
    · rename_i h
      simp only [List.prefix_nil, List.cons_prefix_cons]
      refine ⟨nofun, ?_⟩
      rintro ⟨⟨rfl, -⟩, rfl, -⟩
      exact absurd rfl h

def sharedStart : List Text → Text
  | [] => []
  | first :: rest => rest.foldl commonStart first

theorem foldl_commonStart_append (w : Text) : ∀ (a : Text) (starts : List Text),
    (starts.map (w ++ ·)).foldl commonStart (w ++ a) = w ++ starts.foldl commonStart a
  | _, [] => rfl
  | a, b :: starts => by
    rw [List.map_cons, List.foldl_cons, commonStart_append, foldl_commonStart_append w _ starts, List.foldl_cons]

theorem sharedStart_append (w : Text) {starts : List Text} (h : starts ≠ []) :
    sharedStart (starts.map (w ++ ·)) = w ++ sharedStart starts := by
  cases starts with
  | nil => exact absurd rfl h
  | cons first rest => exact foldl_commonStart_append w first rest

theorem isPrefix_foldl_commonStart_iff {w : Text} : ∀ (a : Text) (starts : List Text),
    w <+: starts.foldl commonStart a ↔ ∀ start ∈ a :: starts, w <+: start
  | a, [] => by simp
  | a, b :: starts => by
    rw [List.foldl_cons, isPrefix_foldl_commonStart_iff, List.forall_mem_cons, isPrefix_commonStart_iff,
      List.forall_mem_cons, List.forall_mem_cons, and_assoc]

/-- What is shared is the longest text that all of the texts start with. -/
theorem isPrefix_sharedStart_iff {w : Text} {starts : List Text} (h : starts ≠ []) :
    w <+: sharedStart starts ↔ ∀ start ∈ starts, w <+: start := by
  cases starts with
  | nil => exact absurd rfl h
  | cons first rest => exact isPrefix_foldl_commonStart_iff first rest

theorem sharedStart_isPrefix {starts : List Text} {start : Text} (h : start ∈ starts) :
    sharedStart starts <+: start :=
  (isPrefix_sharedStart_iff (List.ne_nil_of_mem h)).mp List.prefix_rfl start h

/-! ## Lines indented with spaces and tabs -/

def isTidy (t : Text) : Bool := t.all fun c => !isSpace c || isMarginChar c

theorem isMarginChar_iff {c : Char} : isMarginChar c = true ↔ c = ' ' ∨ c = '\t' := by
  unfold isMarginChar
  rw [Bool.or_eq_true, beq_iff_eq, beq_iff_eq]

theorem isSpace_of_isMarginChar {c : Char} (h : isMarginChar c = true) : isSpace c = true := by
  obtain rfl | rfl := isMarginChar_iff.mp h <;> rfl

theorem isMarginChar_of_isTidy {t : Text} (h : isTidy t = true) {c : Char} (hc : c ∈ t) :
    isMarginChar c = isSpace c := by
  have ht := List.all_eq_true.mp h c hc
  cases hs : isSpace c with
  | true => simpa [hs] using ht
  | false =>
    rw [← Bool.not_eq_true] at hs ⊢
    exact fun hm => hs (isSpace_of_isMarginChar hm)

theorem all_isMarginChar_of_isTidy {t : Text} (h : isTidy t = true) : t.all isMarginChar = isBlank t := by
  unfold isBlank
  rw [Bool.eq_iff_iff, List.all_eq_true, List.all_eq_true]
  constructor
  · intro hall c hc
    rw [← isMarginChar_of_isTidy h hc]
    exact hall c hc
  · intro hall c hc
    rw [isMarginChar_of_isTidy h hc]
    exact hall c hc

theorem isTidy_append (s t : Text) : isTidy (s ++ t) = (isTidy s && isTidy t) := List.all_append

theorem isTidy_of_subset {s t : Text} (h : isTidy t = true) (hsub : s ⊆ t) : isTidy s = true :=
  List.all_eq_true.mpr fun c hc => List.all_eq_true.mp h c (hsub hc)

theorem not_mem_of_isTidy {t : Text} (h : isTidy t = true) {c : Char} (hs : isSpace c = true)
    (hm : isMarginChar c = false) : c ∉ t := by
  intro hc
  rw [← isMarginChar_of_isTidy h hc, hm] at hs
  cases hs

/-! ## Margins of lines -/

theorem margin_eq (lines : List Text) :
    margin lines = sharedStart ((lines.filter (!·.all isMarginChar)).map (·.takeWhile isMarginChar)) := rfl

theorem margin_isPrefix {lines : List Text} {line : Text} (hm : line ∈ lines) (hl : line.all isMarginChar = false) :
    margin lines <+: line.takeWhile isMarginChar := by
  rw [margin_eq]
  apply sharedStart_isPrefix
  apply List.mem_map_of_mem
  rw [List.mem_filter, hl]
  exact ⟨hm, rfl⟩

theorem isPrefix_margin_iff {w : Text} {lines : List Text} (h : ∃ line ∈ lines, line.all isMarginChar = false) :
    w <+: margin lines ↔ ∀ line ∈ lines, line.all isMarginChar = false → w <+: line.takeWhile isMarginChar := by
  obtain ⟨line, hm, hl⟩ := h
  have hfilled : lines.filter (!·.all isMarginChar) ≠ [] :=
    List.ne_nil_of_mem (List.mem_filter.mpr ⟨hm, by rw [hl]; rfl⟩)
  rw [margin_eq, isPrefix_sharedStart_iff (by rw [ne_eq, List.map_eq_nil_iff]; exact hfilled), List.forall_mem_map]
  simp only [List.mem_filter, Bool.not_eq_true', and_imp]

/-- Putting `w` in front of the lines that have a say in the margin puts it in front of the margin. -/
theorem margin_of_filter {w : Text} (hw : w.all isMarginChar = true) {lines lines' : List Text}
    (hfilter : lines'.filter (!·.all isMarginChar) = (lines.filter (!·.all isMarginChar)).map (w ++ ·))
    (hne : lines.filter (!·.all isMarginChar) ≠ []) : margin lines' = w ++ margin lines := by
  have htake (line : Text) : (w ++ line).takeWhile isMarginChar = w ++ line.takeWhile isMarginChar :=
    List.takeWhile_append_of_pos (List.all_eq_true.mp hw)
  have hstarts : (lines.filter (!·.all isMarginChar)).map (·.takeWhile isMarginChar) ≠ [] := by
    rw [ne_eq, List.map_eq_nil_iff]
    exact hne
  rw [margin_eq, margin_eq, hfilter, List.map_map, ← sharedStart_append w hstarts, List.map_map]
  apply congrArg sharedStart
  apply List.map_congr_left
  intro line _
  exact htake line

theorem all_isMarginChar_margin (lines : List Text) : (margin lines).all isMarginChar = true := by
  rw [margin_eq]
  cases h : lines.filter (!·.all isMarginChar) with
  | nil => rfl
  | cons first rest =>
    rw [List.map_cons, List.all_eq_true]
    intro c hc
    have hstart := (sharedStart_isPrefix (List.mem_cons_self ..)).subset hc
    exact List.all_eq_true.mp List.all_takeWhile c hstart

section
variable {blanks : List Text} (h : ∀ line ∈ blanks, line.all isMarginChar = true) (lines : List Text)
include h

theorem filter_of_all : blanks.filter (!·.all isMarginChar) = [] := by
  rw [List.filter_eq_nil_iff]
  intro line hm
  simp [h line hm]

theorem margin_append_of_all : margin (lines ++ blanks) = margin lines := by
  rw [margin_eq, margin_eq, List.filter_append, filter_of_all h, List.append_nil]

theorem margin_of_all_append : margin (blanks ++ lines) = margin lines := by
  rw [margin_eq, margin_eq, List.filter_append, filter_of_all h, List.nil_append]

end

end CursorDoc.Text
