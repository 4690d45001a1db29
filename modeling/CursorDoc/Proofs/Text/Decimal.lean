import CursorDoc.Text.Integer
import Mathlib.Algebra.Group.Nat.Defs
import Mathlib.Data.List.Induction

/-!
# Numbers read back from their digits

The digits of a number, taken by their values, stand for the number; and
numbers of up to four hexadecimal digits have exactly these four.
-/

namespace CursorDoc.Text

/-! ## Decimal -/

theorem ofDigits_concat (base : Nat) (digits : List Nat) (d : Nat) :
    ofDigits base (digits ++ [d]) = ofDigits base digits * base + d := by
  unfold ofDigits
  rw [List.foldl_append]
  rfl

theorem ofDigits_lt {base : Nat} {digits : List Nat} (h : ∀ d ∈ digits, d < base) :
    ofDigits base digits < base ^ digits.length := by
  induction digits using List.reverseRecOn with
  | nil => simp [ofDigits]
  | append_singleton digits d ih =>
    have hlt := ih fun d hd => h d (List.mem_append_left _ hd)
    have hd := h d (List.mem_append_right digits List.mem_cons_self)
    rw [ofDigits_concat, List.length_append, List.length_singleton, Nat.pow_succ]
    calc ofDigits base digits * base + d < (ofDigits base digits + 1) * base := by rw [Nat.add_mul]; omega
      _ ≤ base ^ digits.length * base := Nat.mul_le_mul_right base hlt

theorem hexValue?_digitChar {d : Nat} (hd : d < 10) : hexValue? (digitChar d) = some d := by
  have h : ∀ d < 10, hexValue? (digitChar d) = some d := by decide
  exact h d hd

theorem isDigit_digitChar {d : Nat} (hd : d < 10) : (digitChar d).isDigit = true := by
  have h : ∀ d < 10, (digitChar d).isDigit = true := by decide
  exact h d hd

theorem digitChar_ne_zero {d : Nat} (hpos : 0 < d) (hd : d < 10) : digitChar d ≠ '0' := by
  have h : ∀ d < 10, 0 < d → digitChar d ≠ '0' := by decide
  exact h d hd hpos

/-- What holds of all decimal digits. -/
theorem of_isDigit {p : Char → Bool} (hp : ∀ d < 10, p (digitChar d) = true) {c : Char} (h : c.isDigit = true) :
    p c = true := by
  have hval : 48 ≤ c.toNat ∧ c.toNat ≤ 57 := by
    simpa [Char.isDigit, UInt32.le_iff_toNat_le] using h
  have hc : digitChar (c.toNat - 48) = c := by
    unfold digitChar
    rw [if_pos (by omega), show 0x30 + (c.toNat - 48) = c.toNat by omega, Char.ofNat_toNat]
  rw [← hc]
  exact hp _ (by omega)

theorem isAlpha_of_isDigit {c : Char} (h : c.isDigit = true) : c.isAlpha = false := by
  simpa using of_isDigit (p := (!Char.isAlpha ·)) (by decide) h

theorem isDigit_of_mem_decimal (n : Nat) : ∀ c ∈ decimal n, c.isDigit = true := by
  fun_induction decimal n with
  | case1 n hn =>
    intro c hc
    rw [List.mem_singleton.mp hc]
    exact isDigit_digitChar hn
  | case2 n hn ih =>
    intro c hc
    rcases List.mem_append.mp hc with hc | hc
    · exact ih c hc
    · rw [List.mem_singleton.mp hc]
      exact isDigit_digitChar (Nat.mod_lt n (by omega))

theorem ofDigits_decimal (n : Nat) : ofDigits 10 ((decimal n).filterMap hexValue?) = n := by
  fun_induction decimal n with
  | case1 n hn =>
    rw [List.filterMap_cons_some (hexValue?_digitChar hn)]
    simp [ofDigits]
  | case2 n hn ih =>
    rw [List.filterMap_append, List.filterMap_cons_some (hexValue?_digitChar (Nat.mod_lt n (by omega))),
      List.filterMap_nil, ofDigits_concat, ih]
    omega

theorem decimal_ne_nil (n : Nat) : decimal n ≠ [] := by
  rw [decimal]
  split <;> simp

theorem head?_decimal {n : Nat} (hpos : 0 < n) : (decimal n).head? ≠ some '0' := by
  fun_induction decimal n with
  | case1 n hn =>
    rw [List.head?_cons]
    exact fun h => digitChar_ne_zero hpos hn (Option.some.inj h)
  | case2 n hn ih =>
    obtain ⟨c, r, hcons⟩ := List.exists_cons_of_ne_nil (decimal_ne_nil (n / 10))
    have := ih (by omega)
    rw [hcons] at this ⊢
    exact this

/-! ## Hexadecimal -/

theorem hexValue?_natDigitChar {d : Nat} (hd : d < 16) : hexValue? (Nat.digitChar d) = some d := by
  have h : ∀ d < 16, hexValue? (Nat.digitChar d) = some d := by decide
  exact h d hd

theorem hex_succ {width : Nat} (hwidth : 0 < width) (n : Nat) :
    hex (width + 1) n = hex width (n / 16) ++ [Nat.digitChar (n % 16)] := by
  unfold hex
  rcases Nat.lt_or_ge n 16 with hn | hn
  · obtain ⟨width, rfl⟩ := Nat.exists_eq_add_of_lt hwidth
    rw [Nat.div_eq_of_lt hn, Nat.mod_eq_of_lt hn, Nat.toDigits_of_lt_base hn, Nat.toDigits_of_lt_base (by omega)]
    simp [List.replicate_succ']
  · rw [Nat.toDigits_of_base_le (by omega) hn]
    simp

theorem hex_four {n : Nat} (hn : n < 0x10000) : hex 4 n =
    [Nat.digitChar (n / 0x1000), Nat.digitChar (n / 0x100 % 16), Nat.digitChar (n / 0x10 % 16),
      Nat.digitChar (n % 16)] := by
  have hone : hex 1 (n / 0x1000) = [Nat.digitChar (n / 0x1000)] := by
    unfold hex
    rw [Nat.toDigits_of_lt_base (by omega)]
    rfl
  rw [hex_succ (by decide) n, hex_succ (by decide) (n / 16), hex_succ (by decide) (n / 16 / 16)]
  simp only [Nat.div_div_eq_div_mul, Nat.reduceMul, hone]
  rfl

end CursorDoc.Text
