import CursorDoc.Text.Utf8

/-!
# Texts read back from their bytes

Reading takes the bytes that a text was written to for the same text. A
sequence of bytes is given by the numbers of its bytes: the number of the
first says how long the sequence is, and the numbers put together give the
character.
-/

namespace CursorDoc.Utf8

section
variable {m n : Nat}

theorem toNat_byte (hn : n < 256) : (UInt8.ofNat n).toNat = n := by
  rw [UInt8.toNat_ofNat']
  exact Nat.mod_eq_of_lt hn

theorem byte_eq_iff (hn : n < 256) (b : UInt8) : UInt8.ofNat n = b ↔ n = b.toNat := by
  rw [← UInt8.toNat_inj, toNat_byte hn]

theorem lengthOf?_byte (hn : n < 256) : lengthOf? (UInt8.ofNat n) =
    if n < 0x80 then some 1
    else if 0xC2 ≤ n ∧ n ≤ 0xDF then some 2
    else if 0xE0 ≤ n ∧ n ≤ 0xEF then some 3
    else if 0xF0 ≤ n ∧ n ≤ 0xF4 then some 4
    else none := by
  unfold lengthOf?
  simp [UInt8.lt_iff_toNat_lt, UInt8.le_iff_toNat_le, toNat_byte hn]

theorem isContinuation_byte (hn : 0x80 ≤ n ∧ n ≤ 0xBF) : isContinuation (UInt8.ofNat n) = true := by
  unfold isContinuation
  simpa [UInt8.le_iff_toNat_le, toNat_byte (show n < 256 by omega)] using hn

/-- The four first bytes after which not every continuation may stand. -/
theorem isSecond_byte (hm : m < 256) (hn : 0x80 ≤ n ∧ n ≤ 0xBF) (h3 : m = 0xE0 → 0xA0 ≤ n)
    (hpair : m = 0xED → n ≤ 0x9F) (h4 : m = 0xF0 → 0x90 ≤ n) (hlast : m = 0xF4 → n ≤ 0x8F) :
    isSecond (UInt8.ofNat m) (UInt8.ofNat n) = true := by
  unfold isSecond
  rw [isContinuation_byte hn]
  simp only [byte_eq_iff hm, UInt8.le_iff_toNat_le, toNat_byte (show n < 256 by omega)]
  repeat' split
  · next h => exact Bool.and_eq_true_iff.mpr ⟨decide_eq_true (h3 h), decide_eq_true hn.2⟩
  · next h => exact Bool.and_eq_true_iff.mpr ⟨decide_eq_true hn.1, decide_eq_true (hpair h)⟩
  · next h => exact Bool.and_eq_true_iff.mpr ⟨decide_eq_true (h4 h), decide_eq_true hn.2⟩
  · next h => exact Bool.and_eq_true_iff.mpr ⟨decide_eq_true hn.1, decide_eq_true (hlast h)⟩
  · trivial

end

/-! ## Sequences -/

section
variable {first k l m n : Nat} {rest : Bytes}

theorem decodeFrom_one (hk : k < 0x80) :
    decodeFrom first (UInt8.ofNat k :: rest) = (decodeFrom (first + 1) rest).map (Char.ofNat k :: ·) := by
  have hlen : lengthOf? (UInt8.ofNat k) = some 1 := by
    rw [lengthOf?_byte (by omega), if_pos hk]
  rw [decodeFrom.eq_def]
  simp only [hlen, charOf, List.foldl_nil, toNat_byte (show k < 256 by omega),
    Nat.mod_eq_of_lt (show k < 128 from hk)]

theorem decodeFrom_two (hk : 0xC2 ≤ k ∧ k ≤ 0xDF) (hl : 0x80 ≤ l ∧ l ≤ 0xBF) :
    decodeFrom first (UInt8.ofNat k :: UInt8.ofNat l :: rest) =
      (decodeFrom (first + 2) rest).map (Char.ofNat (k % 32 * 64 + l % 64) :: ·) := by
  have hlen : lengthOf? (UInt8.ofNat k) = some 2 := by
    rw [lengthOf?_byte (by omega), if_neg (by omega), if_pos hk]
  have hsecond : isSecond (UInt8.ofNat k) (UInt8.ofNat l) = true := by
    apply isSecond_byte <;> omega
  rw [decodeFrom.eq_def]
  simp only [hlen, hsecond, if_true, charOf, List.foldl_cons, List.foldl_nil,
    toNat_byte (show k < 256 by omega), toNat_byte (show l < 256 by omega)]

theorem decodeFrom_three (hk : 0xE0 ≤ k ∧ k ≤ 0xEF) (hl : 0x80 ≤ l ∧ l ≤ 0xBF) (h3 : k = 0xE0 → 0xA0 ≤ l)
    (hpair : k = 0xED → l ≤ 0x9F) (hm : 0x80 ≤ m ∧ m ≤ 0xBF) :
    decodeFrom first (UInt8.ofNat k :: UInt8.ofNat l :: UInt8.ofNat m :: rest) =
      (decodeFrom (first + 3) rest).map (Char.ofNat ((k % 16 * 64 + l % 64) * 64 + m % 64) :: ·) := by
  have hlen : lengthOf? (UInt8.ofNat k) = some 3 := by
    rw [lengthOf?_byte (by omega), if_neg (by omega), if_neg (by omega), if_pos hk]
  have hsecond : isSecond (UInt8.ofNat k) (UInt8.ofNat l) = true := by
    apply isSecond_byte <;> omega
  rw [decodeFrom.eq_def]
  simp only [hlen, hsecond, isContinuation_byte hm, if_true, charOf, List.foldl_cons, List.foldl_nil,
    toNat_byte (show k < 256 by omega), toNat_byte (show l < 256 by omega), toNat_byte (show m < 256 by omega)]

theorem decodeFrom_four (hk : 0xF0 ≤ k ∧ k ≤ 0xF4) (hl : 0x80 ≤ l ∧ l ≤ 0xBF) (h4 : k = 0xF0 → 0x90 ≤ l)
    (hlast : k = 0xF4 → l ≤ 0x8F) (hm : 0x80 ≤ m ∧ m ≤ 0xBF) (hn : 0x80 ≤ n ∧ n ≤ 0xBF) :
    decodeFrom first (UInt8.ofNat k :: UInt8.ofNat l :: UInt8.ofNat m :: UInt8.ofNat n :: rest) =
      (decodeFrom (first + 4) rest).map
        (Char.ofNat (((k % 8 * 64 + l % 64) * 64 + m % 64) * 64 + n % 64) :: ·) := by
  have hlen : lengthOf? (UInt8.ofNat k) = some 4 := by
    rw [lengthOf?_byte (by omega), if_neg (by omega), if_neg (by omega), if_neg (by omega), if_pos hk]
  have hsecond : isSecond (UInt8.ofNat k) (UInt8.ofNat l) = true := by
    apply isSecond_byte <;> omega
  rw [decodeFrom.eq_def]
  simp only [hlen, hsecond, isContinuation_byte hm, isContinuation_byte hn, if_true, charOf, List.foldl_cons,
    List.foldl_nil, toNat_byte (show k < 256 by omega), toNat_byte (show l < 256 by omega),
    toNat_byte (show m < 256 by omega), toNat_byte (show n < 256 by omega)]

end

/-! ## Texts -/

theorem decodeFrom_utf8EncodeChar_append (first : Nat) (c : Char) (rest : Bytes) :
    decodeFrom first (String.utf8EncodeChar c ++ rest) =
      (decodeFrom (first + (String.utf8EncodeChar c).length) rest).map (c :: ·) := by
  obtain ⟨v, hv⟩ : ∃ v, c.val.toNat = v := ⟨_, rfl⟩
  have hvalid : v < 0xD800 ∨ 0xDFFF < v ∧ v < 0x110000 := hv ▸ c.valid
  have hchar : ∀ w, w = v → Char.ofNat w = c := by
    rintro w rfl
    rw [← hv]
    exact Char.ofNat_toNat c
  unfold String.utf8EncodeChar
  simp only [hv]
  -- One case for each length; half pairs are no characters, so the third never starts with `0xED 0xA0`.
  split
  · simp only [List.cons_append, List.nil_append, List.length_cons, List.length_nil]
    rw [decodeFrom_one (by omega), hchar _ (by omega)]
  split
  · simp only [List.cons_append, List.nil_append, List.length_cons, List.length_nil]
    rw [decodeFrom_two (by omega) (by omega), hchar _ (by omega)]
  split
  · simp only [List.cons_append, List.nil_append, List.length_cons, List.length_nil]
    rw [decodeFrom_three (by omega) (by omega) (by omega) (by omega) (by omega), hchar _ (by omega)]
  · simp only [List.cons_append, List.nil_append, List.length_cons, List.length_nil]
    rw [decodeFrom_four (by omega) (by omega) (by omega) (by omega) (by omega) (by omega), hchar _ (by omega)]

theorem decodeFrom_encode (first : Nat) (t : Text) : decodeFrom first (encode t) = .ok t := by
  induction t generalizing first with
  | nil => rfl
  | cons c t ih =>
    rw [encode, List.flatMap_cons, decodeFrom_utf8EncodeChar_append, ← encode, ih]
    rfl

/-- What was written is read back as it was. -/
theorem decode_encode (t : Text) : decode (encode t) = .ok t := decodeFrom_encode 0 t

end CursorDoc.Utf8
