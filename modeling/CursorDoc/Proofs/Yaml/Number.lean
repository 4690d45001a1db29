import CursorDoc.Proofs.Text.Decimal
import CursorDoc.Proofs.Yaml.Word
import CursorDoc.Yaml.Number
import Mathlib.Data.List.TakeWhile

/-!
# Decimal numbers in documents

The decimal digits of a number are read as that number, if there are not too
many of them.
-/

namespace CursorDoc

namespace Text

section
variable {t : Text} (ht : ∀ c ∈ t, c.isDigit = true)
include ht

theorem splitSign_digits : splitSign t = (false, t) := by
  unfold splitSign
  split
  · cases ht '-' List.mem_cons_self
  · cases ht '+' List.mem_cons_self
  · rfl

theorem goodUnderscores_digits : goodUnderscores t = true := by
  induction t with
  | nil => rfl
  | cons c r ih =>
    unfold goodUnderscores
    split
    · rfl
    · next heq => cases ht '_' (by rw [heq]; exact List.mem_cons_self)
    · next heq => cases ht '_' (by rw [heq]; exact List.mem_cons_self)
    · next heq =>
      obtain ⟨-, rfl⟩ := List.cons.inj heq
      exact ih fun d hd => ht d (List.mem_cons_of_mem c hd)

theorem dropBaseMark_digits : dropBaseMark 10 t = t := by
  unfold dropBaseMark
  split
  · exact if_neg (by simp [baseLetters])
  · rfl

theorem integer?_digits (hne : t ≠ []) : integer? 10 t =
    if maxDigits < t.length then .error (.tooManyDigits t.length)
    else .ok (ofDigits 10 (t.filterMap hexValue?)) := by
  obtain ⟨c, r, hcons⟩ := List.exists_cons_of_ne_nil hne
  have hc : c.isDigit = true := ht c (by rw [hcons]; exact List.mem_cons_self)
  have hascii : asciiDigits t = t :=
    if_pos (List.all_eq_true.mpr fun c hc => of_isDigit (p := fun c => decide (c.toNat < 0x80)) (by decide) (ht c hc))
  have hspace : t.dropWhile isPlainSpace = t := by
    rw [hcons, List.dropWhile_cons_of_neg]
    simpa using of_isDigit (p := (!isPlainSpace ·)) (by decide) hc
  have hdigit : ∀ c ∈ t, (isDigitOf 10 c || c == '_') = true := fun c hc =>
    of_isDigit (p := fun c => isDigitOf 10 c || c == '_') (by decide) (ht c hc)
  have hlen : (t.filterMap hexValue?).length = t.length :=
    List.filterMap_length_eq_length.mpr fun c hc =>
      of_isDigit (p := fun c => (hexValue? c).isSome) (by decide) (ht c hc)
  have hhead : (t.head? == some '_') = false := by
    rw [hcons, List.head?_cons]
    simpa using of_isDigit (p := (!· == '_')) (by decide) hc
  have hdigits : (t.filterMap hexValue?).isEmpty = false := by
    rw [List.isEmpty_eq_false_iff]
    intro hnil
    rw [hnil] at hlen
    exact hne (List.length_eq_zero_iff.mp hlen.symm)
  unfold integer?
  rw [hascii, hspace, splitSign_digits ht]
  simp only [dropBaseMark_digits ht, List.takeWhile_eq_self_iff.mpr hdigit, List.dropWhile_eq_nil_iff.mpr hdigit,
    hhead, goodUnderscores_digits ht, hlen, hdigits]
  simp

end
end Text

namespace Yaml

theorem unsignedInteger_digits {t : Text} (ht : ∀ c ∈ t, c.isDigit = true) (hne : t ≠ []) (hhead : t.head? ≠ some '0') :
    unsignedInteger t = integerIn 10 t := by
  obtain ⟨c, r, rfl⟩ := List.exists_cons_of_ne_nil hne
  have hc : c ≠ '0' := fun h => hhead (congrArg some h)
  have hcolon : ':' ∉ c :: r := fun hmem => by cases ht ':' hmem
  have hstart : ∀ p : Text, Text.startsWith (c :: r) ('0' :: p) = false := by
    intro p
    simp [Text.startsWith, List.isPrefixOf, hc.symm]
  unfold unsignedInteger
  rw [if_neg (by simp [hc]), hstart, hstart, List.contains_eq_mem, decide_eq_false hcolon]
  simp [Text.startsWith, hc.symm]

theorem readInteger_decimal (n : Nat) : readInteger (Text.decimal n) =
    if Text.maxDigits < (Text.decimal n).length then .error (.integer (.tooManyDigits (Text.decimal n).length))
    else .ok n := by
  have ht := Text.isDigit_of_mem_decimal n
  have hne := Text.decimal_ne_nil n
  have hfilter : (Text.decimal n).filter (· != '_') = Text.decimal n :=
    List.filter_eq_self.mpr fun c hc => Text.of_isDigit (p := (· != '_')) (by decide) (ht c hc)
  unfold readInteger
  simp only [hfilter, List.isEmpty_eq_false_iff.mpr hne, Text.splitSign_digits ht, Bool.false_eq_true, if_false]
  obtain rfl | hpos := Nat.eq_zero_or_pos n
  · rw [Text.decimal]
    rfl
  · rw [unsignedInteger_digits ht hne (Text.head?_decimal hpos), integerIn, Text.integer?_digits ht hne]
    split
    · rfl
    · rw [Text.ofDigits_decimal]
      rfl

end Yaml
end CursorDoc
