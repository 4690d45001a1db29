import CursorDoc.Yaml.Token.Scanner

/-!
# Reading words

Words are scalars of letters, digits, dots and hyphens, plain or between double
quotes. They are read up to the end of their line, or to the colon behind a
key, and take up as many columns as characters.
-/

namespace CursorDoc.Yaml

/-! ## Words -/

/-- A scalar on one line, plain or between double quotes. -/
structure Word where
  text : Text
  plain : Bool

namespace Word

def token (w : Word) : Token := .scalar w.text w.plain

def written (w : Word) : Text := if w.plain then w.text else ['"'] ++ w.text ++ ['"']

end Word

def isStartChar (c : Char) : Bool := c.isAlphanum || c == '_'

def isInnerChar (c : Char) : Bool := isStartChar c || c == '.' || c == '-'

structure Word.IsSimple (w : Word) : Prop where
  ne_nil : w.text ≠ []
  all : ∀ c ∈ w.text, isInnerChar c = true
  head : w.plain = true → ∀ c ∈ w.text.head?, isStartChar c = true

theorem toNat_lt_of_val_le {c : Char} {last : UInt32} (h : c.val ≤ last) (hlast : last.toNat < 0x80) : c.toNat < 0x80 :=
  Nat.lt_of_le_of_lt (UInt32.le_iff_toNat_le.mp h) hlast

theorem toNat_lt_of_isAlphanum {c : Char} (h : c.isAlphanum = true) : c.toNat < 0x80 := by
  have hcases : (c.isUpper || c.isLower || c.isDigit) = true := h
  rw [Bool.or_eq_true, Bool.or_eq_true] at hcases
  obtain (h | h) | h := hcases
  · have hupper : c.val ≥ 65 ∧ c.val ≤ 90 := of_decide_eq_true h
    exact toNat_lt_of_val_le hupper.2 (by decide)
  · have hlower : (decide (c.val ≥ 97) && decide (c.val ≤ 122)) = true := h
    exact toNat_lt_of_val_le (of_decide_eq_true (Bool.and_eq_true_iff.mp hlower).2) (by decide)
  · have hdigit : (decide (c.val ≥ 48) && decide (c.val ≤ 57)) = true := h
    exact toNat_lt_of_val_le (of_decide_eq_true (Bool.and_eq_true_iff.mp hdigit).2) (by decide)

/-- What holds of all characters of words can be checked on the characters of ASCII. -/
theorem of_isInnerChar {p : Char → Bool} (hp : ∀ n < 0x80, isInnerChar (Char.ofNat n) = true → p (Char.ofNat n) = true)
    {c : Char} (h : isInnerChar c = true) : p c = true := by
  have hlt : c.toNat < 0x80 := by
    unfold isInnerChar isStartChar at h
    simp only [Bool.or_eq_true, beq_iff_eq] at h
    obtain ((h | rfl) | rfl) | rfl := h
    · exact toNat_lt_of_isAlphanum h
    · decide
    · decide
    · decide
  have hc := hp c.toNat hlt
  rw [Char.ofNat_toNat] at hc
  exact hc h

theorem isInnerChar_of_isStartChar {c : Char} (h : isStartChar c = true) : isInnerChar c = true := by
  simp [isInnerChar, h]

theorem ne_of_isInnerChar {c d : Char} (h : isInnerChar c = true) (hd : isInnerChar d = false) : c ≠ d := by
  rintro rfl
  rw [h] at hd
  cases hd

theorem isBreak_of_isInnerChar {c : Char} (h : isInnerChar c = true) : isBreak c = false := by
  simpa using of_isInnerChar (p := (!isBreak ·)) (by decide) h

theorem isGap_of_isInnerChar {c : Char} (h : isInnerChar c = true) : isGap c = false := by
  simpa using of_isInnerChar (p := (!isGap ·)) (by decide) h

def StartsWord (t : Text) : Prop := ∀ c ∈ t.head?, isStartChar c = true ∨ c = '"'

/-- What comes behind a line: nothing, or a line that is indented to `column` and goes on with `next`. -/
def LineBreak (behind : Text) (column : Nat) (next : Text) : Prop :=
  (behind = [] ∧ next = []) ∨ (behind = '\n' :: (List.replicate column ' ' ++ next) ∧ StartsWord next)

/-! ## Places -/

namespace Place

theorem advance_add (m n : Nat) (p : Place) : advance (m + n) p = advance n (advance m p) := by
  induction m generalizing p with
  | zero => rw [Nat.zero_add]; rfl
  | succ m ih => rw [Nat.add_right_comm]; exact ih p.next

def isInline (c : Char) : Bool := !isBreak c && c != '\ufeff'

theorem advance_inline {w : Text} (h : ∀ c ∈ w, isInline c = true) (r : Text) (index line column : Nat) :
    advance w.length ⟨w ++ r, index, line, column⟩ = ⟨r, index + w.length, line, column + w.length⟩ := by
  induction w generalizing index column with
  | nil => rfl
  | cons c w ih =>
    have hc := h c List.mem_cons_self
    simp only [isInline, Bool.and_eq_true, Bool.not_eq_true', bne_iff_ne] at hc
    have hnext : next ⟨c :: w ++ r, index, line, column⟩ = ⟨w ++ r, index + 1, line, column + 1⟩ := by
      simp [next, hc.1, hc.2]
    rw [List.length_cons, advance, hnext, ih fun d hd => h d (List.mem_cons_of_mem c hd)]
    congr 1 <;> omega

theorem moveTo_append (w r : Text) (index line column : Nat) :
    moveTo ⟨w ++ r, index, line, column⟩ r = advance w.length ⟨w ++ r, index, line, column⟩ := by
  unfold moveTo
  simp

theorem moveTo_inline {w : Text} (h : ∀ c ∈ w, isInline c = true) (r : Text) (index line column : Nat) :
    moveTo ⟨w ++ r, index, line, column⟩ r = ⟨r, index + w.length, line, column + w.length⟩ := by
  rw [moveTo_append, advance_inline h]

/-- Over the end of a line to a column of the next one. -/
theorem moveTo_nextLine {w : Text} (h : ∀ c ∈ w, isInline c = true) (r : Text) (index line column n : Nat) :
    moveTo ⟨w ++ '\n' :: (List.replicate n ' ' ++ r), index, line, column⟩ r =
      ⟨r, index + w.length + 1 + n, line + 1, n⟩ := by
  have hsplit : w ++ '\n' :: (List.replicate n ' ' ++ r) = (w ++ '\n' :: List.replicate n ' ') ++ r := by simp
  have hlen : (w ++ '\n' :: List.replicate n ' ').length = w.length + (1 + n) := by simp; omega
  have hspaces : ∀ c ∈ List.replicate n ' ', isInline c = true := fun c hc => by
    rw [(List.mem_replicate.mp hc).2]
    rfl
  rw [hsplit, moveTo_append, hlen, advance_add, ← hsplit, advance_inline h, advance_add]
  have hline := advance_inline hspaces r (index + w.length + 1) (line + 1) 0
  rw [List.length_replicate, Nat.zero_add] at hline
  exact hline

end Place

theorem isInline_of_isInnerChar {c : Char} (h : isInnerChar c = true) : Place.isInline c = true := by
  unfold Place.isInline
  simp [isBreak_of_isInnerChar h, ne_of_isInnerChar h (d := '\ufeff') (by decide)]

theorem Word.IsSimple.all_isInline {w : Word} (h : w.IsSimple) : ∀ c ∈ w.written, Place.isInline c = true := by
  intro c hc
  unfold written at hc
  split at hc
  · exact isInline_of_isInnerChar (h.all c hc)
  · simp only [List.mem_append, List.mem_singleton] at hc
    obtain (rfl | hc) | rfl := hc
    · rfl
    · exact isInline_of_isInnerChar (h.all c hc)
    · rfl

/-! ## Reading words -/

section
variable {w : Text} (h : ∀ c ∈ w, isInnerChar c = true)
include h

theorem readPlain_append (indent : Int) (r : Text) :
    readPlain false indent .word (w ++ r) = (readPlain false indent .word r).after w := by
  induction w with
  | nil => rfl
  | cons c w ih =>
    have hc := h c List.mem_cons_self
    have hends : endsPlain false c (w ++ r) = false := by
      simp [endsPlain, isGap_of_isInnerChar hc, isBreak_of_isInnerChar hc, ne_of_isInnerChar hc (d := ':') (by decide)]
    have hspace : c ≠ ' ' := ne_of_isInnerChar hc (by decide)
    rw [List.cons_append, readPlain, isBreak_of_isInnerChar hc]
    simp only [Bool.false_eq_true, if_false, if_neg hspace, hends]
    rw [ih fun d hd => h d (List.mem_cons_of_mem c hd)]
    simp [PlainReading.after]

theorem readQuoted_append (r : Text) : readQuoted '"' .text (w ++ '"' :: r) = .ok (w, r) := by
  induction w with
  | nil => cases r <;> simp [readQuoted, isBreak, isGap, QuotedState.pending]
  | cons c w ih =>
    have hc := h c List.mem_cons_self
    have hquote : c ≠ '"' := ne_of_isInnerChar hc (by decide)
    have hslash : c ≠ '\\' := ne_of_isInnerChar hc (by decide)
    rw [List.cons_append, readQuoted.eq_def]
    simp [isBreak_of_isInnerChar hc, isGap_of_isInnerChar hc, hquote, hslash,
      ih fun d hd => h d (List.mem_cons_of_mem c hd), readAfter, QuotedState.pending]

end

theorem readPlain_colon (indent : Int) {r : Text} (hr : atGap r = true) :
    readPlain false indent .word (':' :: r) = ⟨[], ':' :: r, false⟩ := by
  simp [readPlain, isBreak, endsPlain, hr]

theorem readPlain_spaces (indent : Int) (n column : Nat) (first : Char) (more r : Text) :
    readPlain false indent (.broken first more column) (List.replicate n ' ' ++ r) =
      readPlain false indent (.broken first more (column + n)) r := by
  induction n generalizing column with
  | zero => rfl
  | succ n ih =>
    rw [List.replicate_succ, List.cons_append, readPlain]
    simp only [isBreak, if_pos]
    rw [if_neg (by decide), ih, Nat.add_assoc, Nat.add_comm 1]

theorem StartsWord.isBreak {c : Char} {r : Text} (h : StartsWord (c :: r)) : isBreak c = false := by
  obtain hc | rfl := h c rfl
  · exact isBreak_of_isInnerChar (isInnerChar_of_isStartChar hc)
  · rfl

theorem StartsWord.ne {c : Char} {r : Text} (h : StartsWord (c :: r)) {d : Char} (hd : isStartChar d = false)
    (hquote : d ≠ '"') : c ≠ d := by
  obtain hc | rfl := h c rfl
  · rintro rfl
    rw [hc] at hd
    cases hd
  · exact hquote.symm

theorem atSeparator_margin {r : Text} (h : StartsWord r) (n : Nat) :
    atSeparator (List.replicate n ' ' ++ r) = false := by
  have hhead : ∀ c t, c ≠ '-' → c ≠ '.' → atSeparator (c :: t) = false := by
    intro c t hhyphen hdot
    have hsame : ∀ d : Char, c ≠ d → (d == c) = false := fun d hd => beq_eq_false_iff_ne.mpr hd.symm
    simp [atSeparator, Text.startsWith, List.isPrefixOf, hsame '-' hhyphen, hsame '.' hdot]
  cases n with
  | succ n => exact hhead ' ' _ (by decide) (by decide)
  | zero =>
    cases r with
    | nil => rfl
    | cons c r =>
      exact hhead c _ (h.ne (by decide) (by decide)) (h.ne (by decide) (by decide))

/-- A plain scalar at the end of a line: the text behind it goes on at the start of the next line's first word. -/
theorem readPlain_behind {indent : Int} {behind next : Text} {column : Nat} (h : LineBreak behind column next)
    (hc : column < indent) :
    readPlain false indent .word behind = ⟨[], next, !behind.isEmpty⟩ := by
  obtain ⟨rfl, rfl⟩ | ⟨rfl, hnext⟩ := h
  · rfl
  · rw [readPlain]
    simp only [show isBreak '\n' = true from rfl, if_true, atSeparator_margin hnext, Bool.false_eq_true, if_false,
      readPlain_spaces, Nat.zero_add]
    cases next with
    | nil => rfl
    | cons c r =>
      have hspace : c ≠ ' ' := hnext.ne (by decide) (by decide)
      rw [readPlain, hnext.isBreak]
      simp [hspace, hc]

end CursorDoc.Yaml
