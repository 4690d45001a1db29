import CursorDoc.Proofs.Outcome
import CursorDoc.Text.Message
import Mathlib.Algebra.Group.Nat.Defs

/-!
# When a message is written

A number is too long from `10 ^ maxDigits` on, whatever its sign. A message is
written exactly if none of its numbers is, and then it is its pieces in a row.
-/

namespace CursorDoc.Text

@[irreducible]
def IsLong (n : Int) : Prop := 10 ^ maxDigits ≤ n.natAbs

def Piece.plain : Piece → Text
  | words t => t
  | number n => decimalInt n

/-! ## Numbers -/

theorem hasDigits_iff {count n : Nat} : hasDigits count n = true ↔ n < 10 ^ count := by
  induction count generalizing n with
  | zero =>
    rw [hasDigits, beq_iff_eq, Nat.pow_zero, Nat.lt_one_iff]
  | succ count ih =>
    have hpos : 0 < 10 ^ count := Nat.pow_pos (by decide)
    rw [hasDigits, Bool.or_eq_true, decide_eq_true_eq, ih, Nat.pow_succ, Nat.div_lt_iff_lt_mul (by decide)]
    omega

theorem isLong_iff {n : Int} : IsLong n ↔ 10 ^ maxDigits ≤ n.natAbs := by
  unfold IsLong
  exact Iff.rfl

theorem IsLong.mono {n m : Int} (h : IsLong n) (hnonneg : 0 ≤ n) (hle : n ≤ m) : IsLong m :=
  isLong_iff.mpr (Nat.le_trans (isLong_iff.mp h) (by omega))

theorem isWritable_iff {n : Int} : isWritable n = true ↔ ¬ IsLong n := by
  rw [isLong_iff, Nat.not_le]
  exact hasDigits_iff

instance (n : Int) : Decidable (IsLong n) :=
  decidable_of_iff (isWritable n = false) (by rw [← Bool.not_eq_true, isWritable_iff, Classical.not_not])

theorem numeral_eq (n : Int) : numeral n = if IsLong n then .error .tooLong else .ok (decimalInt n) := by
  unfold numeral
  by_cases h : IsLong n
  · rw [if_pos h, if_neg fun hw => isWritable_iff.mp hw h]
  · rw [if_neg h, if_pos (isWritable_iff.mpr h)]

/-! ## Messages -/

section
variable {message : List Piece}

theorem NumberFault.eq_tooLong (fault : NumberFault) : fault = .tooLong := by
  cases fault
  rfl

theorem NumberFault.exists_iff {p : NumberFault → Prop} : (∃ fault, p fault) ↔ p .tooLong :=
  ⟨fun ⟨fault, h⟩ => fault.eq_tooLong ▸ h, fun h => ⟨_, h⟩⟩

theorem writeAll_of_written (h : ∀ n, .number n ∈ message → ¬ IsLong n) :
    writeAll message = .ok (message.flatMap Piece.plain) := by
  induction message with
  | nil => rfl
  | cons piece rest ih =>
    have hpiece : piece.write = .ok piece.plain := by
      cases piece with
      | words t => rfl
      | number n => exact (numeral_eq n).trans (if_neg (h n List.mem_cons_self))
    rw [writeAll, hpiece, ih fun n hn => h n (List.mem_cons_of_mem _ hn)]
    rfl

theorem writeAll_of_long {n : Int} (hn : .number n ∈ message) (h : IsLong n) : writeAll message = .error .tooLong := by
  induction message with
  | nil => cases hn
  | cons piece rest ih =>
    rw [writeAll]
    rcases List.mem_cons.mp hn with rfl | hn
    · rw [Piece.write, numeral_eq, if_pos h]
      rfl
    · rw [ih hn]
      cases piece.write with
      | ok front => rfl
      | error fault => rw [fault.eq_tooLong]; rfl

theorem shown_of_written (h : ∀ n, .number n ∈ message → ¬ IsLong n) : shown message = message.flatMap Piece.plain := by
  rw [shown, writeAll_of_written h]

theorem shown_of_long {n : Int} (hn : .number n ∈ message) (h : IsLong n) :
    shown message = NumberFault.tooLong.message := by
  rw [shown, writeAll_of_long hn h]

theorem writeAll_eq_error_iff : writeAll message = .error .tooLong ↔ ∃ n, .number n ∈ message ∧ IsLong n := by
  refine ⟨fun h => Classical.byContradiction fun hnone => ?_, fun ⟨n, hn, hlong⟩ => writeAll_of_long hn hlong⟩
  rw [writeAll_of_written fun n hn hlong => hnone ⟨n, hn, hlong⟩] at h
  cases h

end

end CursorDoc.Text
