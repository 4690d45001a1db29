import CursorDoc.Proofs.Json.Reader
import CursorDoc.Proofs.Text.AnsiEscape
import CursorDoc.Proofs.Text.Message
import Mathlib.Data.List.TakeWhile

/-!
# Records read back

A record is written in visible ASCII, blanks and newlines, and whoever reads
JSON gets all of its fields back. Strings are followed unit by unit, numbers
digit by digit, and the object field by field.
-/

namespace CursorDoc.Json

/-! ## Strings -/

section
variable {c : Char} {t rest : Text} {us vs : List Nat}

theorem map_withUnits (read : Option (List Nat × Text)) :
    (read.map (withUnits vs)).map (withUnits us) = read.map (withUnits (us ++ vs)) := by
  cases read with
  | none => rfl
  | some read => simp [withUnits]

theorem readUnits_letter (hc : c ≠ 'u') : readUnits ('\\' :: c :: rest) =
    (escapedUnit? c).bind fun unit => (readUnits rest).map (withUnits [unit]) := by
  rw [readUnits]
  exact fun _ _ _ _ _ h => absurd h hc

theorem readUnits_plain (hquote : c ≠ '"') (hbackslash : c ≠ '\\') (hc : 0x20 ≤ c.toNat) :
    readUnits (c :: rest) = (readUnits rest).map (withUnits (units c)) := by
  rw [readUnits]
  · exact if_neg (Nat.not_lt.mpr hc)
  · exact hquote
  · exact fun _ _ _ _ _ h => absurd h hbackslash
  · exact fun _ _ h => absurd h hbackslash

theorem readUnits_unitEscape {unit : Nat} (h : unit < 0x10000) :
    readUnits (unitEscape unit ++ rest) = (readUnits rest).map (withUnits [unit]) := by
  unfold unitEscape
  rw [Text.hex_four h]
  simp only [List.cons_append, List.nil_append]
  have hdigits : [Nat.digitChar (unit / 0x1000), Nat.digitChar (unit / 0x100 % 16), Nat.digitChar (unit / 0x10 % 16),
      Nat.digitChar (unit % 16)].mapM Text.hexValue? =
        some [unit / 0x1000, unit / 0x100 % 16, unit / 0x10 % 16, unit % 16] := by
    simp [Text.hexValue?_natDigitChar (Nat.mod_lt _ (show 0 < 16 by decide)),
      Text.hexValue?_natDigitChar (show unit / 0x1000 < 16 by omega)]
  have hvalue : Text.ofDigits 16 [unit / 0x1000, unit / 0x100 % 16, unit / 0x10 % 16, unit % 16] = unit := by
    simp only [Text.ofDigits, List.foldl_cons, List.foldl_nil]
    omega
  rw [readUnits, hdigits, Option.bind_some, hvalue]

theorem readUnits_unitEscapes (h : ∀ unit ∈ us, unit < 0x10000) :
    readUnits (us.flatMap unitEscape ++ rest) = (readUnits rest).map (withUnits us) := by
  induction us with
  | nil => cases hr : readUnits rest <;> simp [hr, withUnits]
  | cons unit us ih =>
    obtain ⟨hunit, hus⟩ := List.forall_mem_cons.mp h
    rw [List.flatMap_cons, List.append_assoc, readUnits_unitEscape hunit, ih hus, map_withUnits]
    rfl

theorem lt_of_mem_units (c : Char) : ∀ unit ∈ units c, unit < 0x10000 := by
  have hvalid : c.toNat < 0x110000 := by
    have := c.valid
    change c.toNat < 0xD800 ∨ 0xDFFF < c.toNat ∧ c.toNat < 0x110000 at this
    omega
  intro unit hunit
  unfold units at hunit
  dsimp only at hunit
  split at hunit
  · rwa [List.mem_singleton.mp hunit]
  · rcases List.mem_cons.mp hunit with rfl | hunit
    · omega
    · rw [List.mem_singleton.mp hunit]
      omega

theorem readUnits_escapedChar (c : Char) :
    readUnits (escapedChar c ++ rest) = (readUnits rest).map (withUnits (units c)) := by
  unfold escapedChar
  split
  · exact readUnits_letter (by decide)
  · exact readUnits_letter (by decide)
  · exact readUnits_letter (by decide)
  · exact readUnits_letter (by decide)
  · exact readUnits_letter (by decide)
  · exact readUnits_letter (by decide)
  · exact readUnits_letter (by decide)
  · next hquote hbackslash _ _ _ _ _ =>
    split
    · next hc =>
      exact readUnits_plain hquote hbackslash (decide_eq_true_iff.mp (Bool.and_eq_true_iff.mp hc).1)
    · exact readUnits_unitEscapes (lt_of_mem_units c)

theorem readUnits_string (t rest : Text) :
    readUnits (t.flatMap escapedChar ++ '"' :: rest) = some (t.flatMap units, rest) := by
  induction t with
  | nil => rfl
  | cons c t ih =>
    rw [List.flatMap_cons, List.append_assoc, readUnits_escapedChar, ih, Option.map_some, List.flatMap_cons]
    rfl

theorem ofUnits?_units_append (c : Char) : ofUnits? (units c ++ us) = (ofUnits? us).map (c :: ·) := by
  have hvalid : c.toNat < 0xD800 ∨ 0xDFFF < c.toNat ∧ c.toNat < 0x110000 := c.valid
  unfold units
  dsimp only
  -- A character of the first plane is no half of a pair; all others are read from both halves.
  split
  · rw [List.singleton_append, ofUnits?.eq_def]
    dsimp only
    rw [if_neg (by omega), if_neg (by omega), Char.ofNat_toNat]
  · have hsame : 0x10000 + (0xD800 + (c.toNat - 0x10000) / 0x400 - 0xD800) * 0x400 +
        (0xDC00 + (c.toNat - 0x10000) % 0x400 - 0xDC00) = c.toNat := by
      omega
    rw [List.cons_append, List.singleton_append, ofUnits?.eq_def]
    dsimp only
    rw [if_pos (by omega), if_pos (by omega), hsame, Char.ofNat_toNat]

theorem ofUnits?_units (t : Text) : ofUnits? (t.flatMap units) = some t := by
  induction t with
  | nil => rfl
  | cons c t ih =>
    rw [List.flatMap_cons, ofUnits?_units_append, ih]
    rfl

end

/-! ## Tokens -/

section
variable {c : Char} {rest : Text}

theorem tokens?_blank (hc : isBlank c = true) : tokens? (c :: rest) = tokens? rest := by
  rw [tokens?, if_pos hc]

theorem tokens?_mark (hblank : isBlank c = false) (hc : isMark c = true) :
    tokens? (c :: rest) = (tokens? rest).map (.mark c :: ·) := by
  rw [tokens?, hblank, if_neg Bool.false_ne_true, if_pos hc]

theorem tokens?_string (t : Text) : tokens? (string t ++ rest) = (tokens? rest).map (.scalar (.string t) :: ·) := by
  have hread := readUnits_string t rest
  have hquote : string t ++ rest = '"' :: (t.flatMap escapedChar ++ '"' :: rest) := by simp [string]
  rw [hquote, tokens?.eq_def]
  dsimp only
  rw [if_neg (by decide), if_neg (by decide), if_pos rfl]
  split
  · next us r hsome =>
    cases hread.symm.trans hsome
    rw [ofUnits?_units]
    rfl
  · next hnone => cases hread.symm.trans hnone

def endsWord (rest : Text) : Bool := rest.head?.all (!isWordChar ·)

theorem tokens?_word {word : Text} {v : Value} (hne : word ≠ []) (hword : ∀ c ∈ word, isWordChar c = true)
    (hv : ofWord? word = some v) (hrest : endsWord rest = true) :
    tokens? (word ++ rest) = (tokens? rest).map (.scalar v :: ·) := by
  obtain ⟨c, r, rfl⟩ := List.exists_cons_of_ne_nil hne
  obtain ⟨hc, hr⟩ := List.forall_mem_cons.mp hword
  have hnothing : rest.takeWhile isWordChar = [] ∧ rest.dropWhile isWordChar = rest := by
    cases rest with
    | nil => exact ⟨rfl, rfl⟩
    | cons d rest =>
      have hd : ¬ isWordChar d = true := by simpa [endsWord] using hrest
      exact ⟨List.takeWhile_cons_of_neg hd, List.dropWhile_cons_of_neg hd⟩
  unfold isWordChar at hc
  simp only [Bool.and_eq_true, Bool.not_eq_true', bne_iff_ne] at hc
  rw [List.cons_append, tokens?, hc.1.1, hc.1.2, if_neg Bool.false_ne_true, if_neg Bool.false_ne_true, if_neg hc.2,
    List.takeWhile_append_of_pos hr, List.dropWhile_append_of_pos hr, hnothing.1, hnothing.2, List.append_nil, hv]
  rfl

end

/-! ## Numbers -/

theorem isWhole_decimal (n : Nat) : isWhole (Text.decimal n) = true := by
  rcases Nat.eq_zero_or_pos n with rfl | hn
  · rw [Text.decimal]
    rfl
  · unfold isWhole
    simp [Text.decimal_ne_nil n, Text.head?_decimal hn]

theorem unsigned?_decimal (n : Nat) : unsigned? (Text.decimal n) = some (n, 0) := by
  have hdigits := Text.isDigit_of_mem_decimal n
  unfold unsigned?
  rw [List.takeWhile_eq_self_iff.mpr hdigits, List.dropWhile_eq_nil_iff.mpr hdigits]
  simp [isWhole_decimal, fraction?, exponent?, numberOfDigits, Text.ofDigits_decimal]

theorem isDigit_or_eq_of_mem_decimalInt (n : Int) : ∀ c ∈ Text.decimalInt n, c.isDigit = true ∨ c = '-' := by
  intro c hc
  cases n with
  | ofNat n => exact .inl (Text.isDigit_of_mem_decimal n c hc)
  | negSucc n =>
    rcases List.mem_cons.mp hc with rfl | hc
    · exact .inr rfl
    · exact .inl (Text.isDigit_of_mem_decimal (n + 1) c hc)

theorem number?_decimalInt (n : Int) : number? (Text.decimalInt n) = some (.number n 0) := by
  cases n with
  | ofNat n =>
    rw [Text.decimalInt, number?, unsigned?_decimal]
    · rfl
    · intro r hr
      have := Text.isDigit_of_mem_decimal n '-' (hr ▸ List.mem_cons_self)
      cases this
  | negSucc n =>
    rw [Text.decimalInt, number?, unsigned?_decimal]
    rfl

theorem isWordChar_of_isDigit {c : Char} (hc : c.isDigit = true) : isWordChar c = true := by
  have hne : ∀ d : Char, d.isDigit = false → c ≠ d := by
    rintro d hd rfl
    exact Bool.false_ne_true (hd.symm.trans hc)
  simp [isWordChar, isBlank, isMark, hne _]

theorem tokens?_decimalInt {rest : Text} (n : Int) (hrest : endsWord rest = true) :
    tokens? (Text.decimalInt n ++ rest) = (tokens? rest).map (.scalar (.number n 0) :: ·) := by
  have hchars := isDigit_or_eq_of_mem_decimalInt n
  have hletter : ∀ c : Char, c.isDigit = false → c ≠ '-' → c ∉ Text.decimalInt n := by
    intro c hc hne hmem
    rcases hchars c hmem with h | h
    · exact Bool.false_ne_true (hc.symm.trans h)
    · exact hne h
  have hnull : Text.decimalInt n ≠ "null".toList := fun h => hletter 'n' rfl (by decide) (h ▸ by decide)
  have htrue : Text.decimalInt n ≠ "true".toList := fun h => hletter 't' rfl (by decide) (h ▸ by decide)
  have hfalse : Text.decimalInt n ≠ "false".toList := fun h => hletter 'f' rfl (by decide) (h ▸ by decide)
  have hne : Text.decimalInt n ≠ [] := by
    cases n with
    | ofNat n => exact Text.decimal_ne_nil n
    | negSucc n => exact List.cons_ne_nil _ _
  refine tokens?_word hne (fun c hc => ?_) ?_ hrest
  · rcases hchars c hc with h | rfl
    · exact isWordChar_of_isDigit h
    · rfl
  · unfold ofWord?
    rw [if_neg hnull, if_neg htrue, if_neg hfalse, number?_decimalInt]

/-! ## Characters -/

def isWritten (c : Char) : Bool := c == '\n' || (0x20 ≤ c.toNat && c.toNat ≤ 0x7E)

theorem isWritten_of_le {c : Char} (hc : 0x20 ≤ c.toNat ∧ c.toNat ≤ 0x7E) : isWritten c = true := by
  simp [isWritten, hc]

theorem isWritten_natDigitChar {d : Nat} (hd : d < 16) : isWritten (Nat.digitChar d) = true := by
  have h : ∀ d < 16, isWritten (Nat.digitChar d) = true := by decide
  exact h d hd

theorem all_isWritten_unitEscape {unit : Nat} (h : unit < 0x10000) : (unitEscape unit).all isWritten = true := by
  have hfirst := isWritten_natDigitChar (show unit / 0x1000 < 16 by omega)
  have hdigit (m : Nat) := isWritten_natDigitChar (Nat.mod_lt m (show 0 < 16 by decide))
  unfold unitEscape
  rw [Text.hex_four h]
  simp only [List.cons_append, List.nil_append, List.all_cons, List.all_nil, hfirst, hdigit]
  rfl

theorem all_isWritten_escapedChar (c : Char) : (escapedChar c).all isWritten = true := by
  unfold escapedChar
  split
  · rfl
  · rfl
  · rfl
  · rfl
  · rfl
  · rfl
  · rfl
  · split
    · next hc =>
      rw [Bool.and_eq_true, decide_eq_true_eq, decide_eq_true_eq] at hc
      rw [List.all_cons, isWritten_of_le hc]
      rfl
    · rw [List.all_flatMap, List.all_eq_true]
      exact fun unit hunit => all_isWritten_unitEscape (lt_of_mem_units c unit hunit)

theorem all_isWritten_string (t : Text) : (string t).all isWritten = true := by
  have hchars : (t.flatMap escapedChar).all isWritten = true := by
    rw [List.all_flatMap, List.all_eq_true]
    exact fun c _ => all_isWritten_escapedChar c
  unfold string
  rw [List.all_append, List.all_append, hchars]
  rfl

theorem all_isWritten_decimalInt (n : Int) : (Text.decimalInt n).all isWritten = true := by
  rw [List.all_eq_true]
  intro c hc
  rcases isDigit_or_eq_of_mem_decimalInt n c hc with hdigit | rfl
  · rw [Char.isDigit_iff_toNat] at hdigit
    change 0x30 ≤ c.toNat ∧ c.toNat ≤ 0x39 at hdigit
    exact isWritten_of_le ⟨by omega, by omega⟩
  · rfl

/-! ## Objects -/

structure Member where
  name : String
  written : Text
  value : Value
  all_isWritten : written.all isWritten = true
  read : ∀ rest : Text, endsWord rest = true →
    tokens? (written ++ rest) = (tokens? rest).map (.scalar value :: ·)

namespace Member

def ofString (name : String) (t : Text) : Member :=
  ⟨name, string t, .string t, all_isWritten_string t, fun _ _ => tokens?_string t⟩

def ofInt (name : String) (n : Int) : Member :=
  ⟨name, Text.decimalInt n, .number n 0, all_isWritten_decimalInt n, fun _ => tokens?_decimalInt n⟩

def text (m : Member) : Text := field m.name m.written

def tokens (m : Member) : List Token := [.scalar (.string m.name.toList), .mark ':', .scalar m.value]

def pair (m : Member) : Text × Value := (m.name.toList, m.value)

end Member

section
variable {m : Member} {ms : List Member} {rest : Text}

theorem tokens?_member (hrest : endsWord rest = true) :
    tokens? (m.text ++ rest) = (tokens? rest).map (m.tokens ++ ·) := by
  unfold Member.text field
  simp only [List.append_assoc, List.cons_append, List.nil_append]
  rw [tokens?_blank rfl, tokens?_blank rfl, tokens?_string, tokens?_mark rfl rfl, tokens?_blank rfl, m.read rest hrest]
  simp only [Option.map_map]
  rfl

theorem endsWord_members (ms : List Member) (rest : Text) :
    endsWord (ms.flatMap (fun m => [',', '\n'] ++ m.text) ++ '\n' :: rest) = true := by
  cases ms <;> rfl

theorem tokens?_members (ms : List Member) (rest : Text) :
    tokens? (ms.flatMap (fun m => [',', '\n'] ++ m.text) ++ '\n' :: rest) =
      (tokens? rest).map (ms.flatMap (fun m => .mark ',' :: m.tokens) ++ ·) := by
  induction ms with
  | nil =>
    rw [List.flatMap_nil, List.nil_append, tokens?_blank rfl]
    cases tokens? rest <;> rfl
  | cons m ms ih =>
    rw [List.flatMap_cons, List.append_assoc, List.append_assoc, List.cons_append, tokens?_mark rfl rfl,
      List.singleton_append, tokens?_blank rfl, tokens?_member (endsWord_members ms rest), ih]
    simp only [Option.map_map, List.flatMap_cons]
    rfl

theorem all_isWritten_text (m : Member) : m.text.all isWritten = true := by
  unfold Member.text field
  simp only [List.all_append, all_isWritten_string, m.all_isWritten]
  rfl

theorem all_isWritten_object (m : Member) (ms : List Member) :
    (object ((m :: ms).map Member.text)).all isWritten = true := by
  have hmembers : (ms.flatMap fun m => [',', '\n'] ++ m.text).all isWritten = true := by
    rw [List.all_flatMap, List.all_eq_true]
    intro m _
    rw [List.all_append, all_isWritten_text]
    rfl
  unfold object
  rw [List.map_cons, Text.joinWith_cons, List.flatMap_map]
  simp only [List.all_append, all_isWritten_text, hmembers]
  rfl

theorem tokens?_object (m : Member) (ms : List Member) : tokens? (object ((m :: ms).map Member.text)) =
    some (.mark '\x7b' :: (m.tokens ++ (ms.flatMap (fun m => .mark ',' :: m.tokens) ++ [.mark '\x7d']))) := by
  have hend : tokens? ['\x7d'] = some [.mark '\x7d'] := by
    rw [tokens?_mark rfl rfl, tokens?]
    rfl
  unfold object
  rw [List.map_cons, Text.joinWith_cons, List.flatMap_map, List.append_assoc, List.append_assoc, List.cons_append,
    List.singleton_append, tokens?_mark rfl rfl, tokens?_blank rfl, tokens?_member (endsWord_members ms _),
    tokens?_members, hend]
  rfl

theorem resume_members (fields : List (Text × Value)) (name : Text) (v : Value) (ms : List Member)
    (frames : List Frame) (ts : List Token) :
    resume v (.object fields name :: frames) (ms.flatMap (fun m => .mark ',' :: m.tokens) ++ .mark '\x7d' :: ts) =
      resume (.object (fields ++ (name, v) :: ms.map Member.pair)) frames ts := by
  -- Each further member moves the value that was just read into the frame and puts its own in its place.
  induction ms generalizing fields name v with
  | nil => rw [List.flatMap_nil, List.nil_append, resume, List.map_nil]
  | cons m ms ih =>
    rw [List.flatMap_cons, Member.tokens]
    simp only [List.cons_append, List.nil_append]
    rw [resume, read, ih, List.append_assoc, List.map_cons]
    rfl

theorem decode_object (m : Member) (ms : List Member) :
    decode (object ((m :: ms).map Member.text)) = some (.object ((m :: ms).map Member.pair)) := by
  unfold decode
  rw [tokens?_object, Option.bind_some, Member.tokens]
  simp only [List.cons_append, List.nil_append]
  rw [read, read, resume_members, resume]
  rfl

end

/-! ## Records -/

open Text (IsLong)

def members (r : Record) : List Member :=
  [.ofString "name" r.name, .ofString "signature" r.signature, .ofString "body" r.body, .ofInt "start_line" r.startLine,
    .ofInt "end_line" r.endLine, .ofString "language" r.language] ++
    (r.documentation.map (Member.ofString "documentation")).toList

def recordText (r : Record) : Text := object ((members r).map Member.text)

theorem record_eq (r : Record) : record r =
    if IsLong r.startLine ∨ IsLong r.endLine then .error .tooLong else .ok (recordText r) := by
  unfold record
  rw [Text.numeral_eq, Text.numeral_eq]
  by_cases hstart : IsLong r.startLine
  · rw [if_pos hstart, if_pos (Or.inl hstart : IsLong r.startLine ∨ IsLong r.endLine)]
    rfl
  by_cases hend : IsLong r.endLine
  · rw [if_neg hstart, if_pos hend, if_pos (Or.inr hend : IsLong r.startLine ∨ IsLong r.endLine)]
    rfl
  rw [if_neg hstart, if_neg hend, if_neg (not_or.mpr ⟨hstart, hend⟩)]
  obtain ⟨name, signature, body, startLine, endLine, language, - | documentation⟩ := r <;> rfl

theorem record_eq_ok_iff {r : Record} {t : Text} :
    record r = .ok t ↔ ¬ (IsLong r.startLine ∨ IsLong r.endLine) ∧ t = recordText r := by
  rw [record_eq]
  by_cases h : IsLong r.startLine ∨ IsLong r.endLine
  · rw [if_pos h]
    exact iff_of_false nofun fun hnot => hnot.1 h
  · rw [if_neg h, Except.ok.injEq, and_iff_right h, eq_comm]

theorem all_isWritten_recordText (r : Record) : (recordText r).all isWritten = true := all_isWritten_object _ _

/-- A record holds no escape sequences that a terminal would take for its own. -/
theorem stripEscapes_recordText (r : Record) : Text.stripEscapes (recordText r) = recordText r :=
  Text.stripEscapes_of_not_mem fun h => Bool.false_ne_true (List.all_eq_true.mp (all_isWritten_recordText r) '\x1b' h)

theorem toNat_lt_of_mem_recordText {r : Record} {c : Char} (hc : c ∈ recordText r) : c.toNat < 0x80 := by
  have h := List.all_eq_true.mp (all_isWritten_recordText r) c hc
  unfold isWritten at h
  simp only [Bool.or_eq_true, Bool.and_eq_true, beq_iff_eq, decide_eq_true_eq] at h
  rcases h with rfl | h
  · decide
  · exact Nat.lt_of_le_of_lt h.2 (by decide)

/-- **Records are written without loss.** A record is written unless one of its line numbers is too long. It is written
in ASCII, and printing leaves it as it is. Who reads the text as JSON gets an object with the fields of the record and
no others, each with its value; the documentation is among them exactly if there is one. -/
theorem decode_record (r : Record) :
    if IsLong r.startLine ∨ IsLong r.endLine then record r = .error .tooLong
    else ∃ t, record r = .ok t ∧ (∀ c ∈ t, c.toNat < 0x80) ∧ Text.stripEscapes t = t ∧
      decode t = some (.object
        ([("name".toList, .string r.name), ("signature".toList, .string r.signature), ("body".toList, .string r.body),
          ("start_line".toList, .number r.startLine 0), ("end_line".toList, .number r.endLine 0),
          ("language".toList, .string r.language)] ++
          (r.documentation.map fun documentation => ("documentation".toList, .string documentation)).toList)) := by
  by_cases hlong : IsLong r.startLine ∨ IsLong r.endLine
  · rw [if_pos hlong, record_eq, if_pos hlong]
  · rw [if_neg hlong, record_eq, if_neg hlong]
    refine ⟨recordText r, rfl, fun c hc => toNat_lt_of_mem_recordText hc, stripEscapes_recordText r, ?_⟩
    rw [recordText, members, List.cons_append, decode_object]
    obtain ⟨name, signature, body, startLine, endLine, language, - | documentation⟩ := r <;> rfl

end CursorDoc.Json
