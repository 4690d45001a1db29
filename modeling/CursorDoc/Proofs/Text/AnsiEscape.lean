import CursorDoc.Text.AnsiEscape

/-!
# Texts with and without escape sequences

What leaving out the escape sequences of a text does to it: nothing, if it has
none, and it makes every other text shorter.
-/

namespace CursorDoc.Text

def IsEscape (sequence : Text) : Prop :=
  ∃ parameters letter, sequence = '\x1b' :: '[' :: (parameters ++ [letter]) ∧
    (∀ c ∈ parameters, isEscapeParameter c = true) ∧ letter.isAlpha = true

theorem isEscapeParameter_of_isAlpha {c : Char} (h : c.isAlpha = true) : isEscapeParameter c = false := by
  rw [Bool.eq_false_iff]
  intro hp
  unfold isEscapeParameter at hp
  rw [Bool.or_eq_true, Bool.or_eq_true, beq_iff_eq, beq_iff_eq] at hp
  rcases hp with (hdigit | rfl) | rfl
  · have hletter : 0x41 ≤ c.toNat := by
      rcases Bool.or_eq_true_iff.mp h with hupper | hlower
      · exact UInt32.le_iff_toNat_le.mp (of_decide_eq_true hupper).1
      · have hle : 'a'.val ≤ c.val := of_decide_eq_true (Bool.and_eq_true_iff.mp hlower).1
        exact Nat.le_trans (show 0x41 ≤ 0x61 by decide) (UInt32.le_iff_toNat_le.mp hle)
    have hle : c.toNat ≤ 0x39 := (Char.isDigit_iff_toNat.mp hdigit).2
    omega
  · exact absurd h (by decide)
  · exact absurd h (by decide)

theorem escapeLength?_eq_some_iff {t : Text} {n : Nat} :
    escapeLength? t = some n ↔ ∃ sequence back, t = sequence ++ back ∧ IsEscape sequence ∧ sequence.length = n := by
  constructor
  · intro h
    unfold escapeLength? at h
    split at h
    · next r =>
      split at h
      · next hl =>
        obtain ⟨letter, back, hdrop⟩ : ∃ letter back, r.dropWhile isEscapeParameter = letter :: back := by
          cases hd : r.dropWhile isEscapeParameter with
          | nil => simp [hd] at hl
          | cons letter back => exact ⟨letter, back, rfl⟩
        have halpha : letter.isAlpha = true := by simpa [hdrop] using hl
        have hr : r = r.takeWhile isEscapeParameter ++ letter :: back := by
          rw [← hdrop, List.takeWhile_append_dropWhile]
        refine ⟨'\x1b' :: '[' :: (r.takeWhile isEscapeParameter ++ [letter]), back, ?_,
          ⟨_, letter, rfl, fun c hc => List.all_eq_true.mp List.all_takeWhile c hc, halpha⟩, ?_⟩
        · simp only [List.cons_append, List.append_assoc, List.nil_append]
          rw [← hr]
        · simp only [List.length_cons, List.length_append, List.length_nil]
          exact Option.some.inj h
      · cases h
    · cases h
  · rintro ⟨_, back, rfl, ⟨parameters, letter, rfl, hp, hl⟩, rfl⟩
    have hletter : ¬ isEscapeParameter letter = true := by simp [isEscapeParameter_of_isAlpha hl]
    have hdrop : (parameters ++ letter :: back).dropWhile isEscapeParameter = letter :: back := by
      rw [List.dropWhile_append_of_pos hp, List.dropWhile_cons_of_neg hletter]
    have htake : (parameters ++ letter :: back).takeWhile isEscapeParameter = parameters := by
      rw [List.takeWhile_append_of_pos hp, List.takeWhile_cons_of_neg hletter, List.append_nil]
    simp only [List.cons_append, List.append_assoc, List.nil_append, escapeLength?, hdrop, htake]
    simp [hl]

/-! ## Texts without escape sequences -/

theorem length_stripEscapesFrom_le (skip : Nat) (t : Text) : (stripEscapesFrom skip t).length ≤ t.length := by
  induction t generalizing skip with
  | nil => simp [stripEscapesFrom]
  | cons c r ih =>
    cases skip with
    | succ skip =>
      have := ih skip
      simp only [stripEscapesFrom, List.length_cons]
      omega
    | zero =>
      simp only [stripEscapesFrom]
      split
      · next n _ =>
        have := ih (n - 1)
        simp only [List.length_cons]
        omega
      · have := ih 0
        simp only [List.length_cons]
        omega

theorem stripEscapes_cons_of_none {c : Char} {r : Text} (h : escapeLength? (c :: r) = none) :
    stripEscapes (c :: r) = c :: stripEscapes r := by
  simp only [stripEscapes, stripEscapesFrom, h]

theorem length_stripEscapes_lt {c : Char} {r : Text} {n : Nat} (h : escapeLength? (c :: r) = some n) :
    (stripEscapes (c :: r)).length < (c :: r).length := by
  have := length_stripEscapesFrom_le (n - 1) r
  simp only [stripEscapes, stripEscapesFrom, h, List.length_cons]
  omega

theorem stripEscapes_eq_self_iff {t : Text} :
    stripEscapes t = t ↔ ∀ front sequence back, t = front ++ sequence ++ back → ¬ IsEscape sequence := by
  induction t with
  | nil =>
    refine ⟨fun _ front sequence back ht hs => ?_, fun _ => rfl⟩
    obtain ⟨parameters, letter, rfl, -⟩ := hs
    simp at ht
  | cons c r ih =>
    cases hlen : escapeLength? (c :: r) with
    | some n =>
      obtain ⟨sequence, back, ht, hs, -⟩ := escapeLength?_eq_some_iff.mp hlen
      refine ⟨fun h => ?_, fun h => absurd hs (h [] sequence back ht)⟩
      exact absurd (congrArg List.length h) (Nat.ne_of_lt (length_stripEscapes_lt hlen))
    | none =>
      rw [stripEscapes_cons_of_none hlen, List.cons.injEq, ih]
      constructor
      · rintro ⟨-, h⟩ front sequence back ht hs
        cases front with
        | nil =>
          have := escapeLength?_eq_some_iff.mpr ⟨sequence, back, ht, hs, rfl⟩
          rw [hlen] at this
          cases this
        | cons d front => exact h front sequence back (List.cons.inj ht).2 hs
      · intro h
        exact ⟨rfl, fun front sequence back ht => h (c :: front) sequence back (by rw [ht]; rfl)⟩

theorem escapeLength?_of_ne {c : Char} {r : Text} (hc : c ≠ '\x1b') : escapeLength? (c :: r) = none := by
  unfold escapeLength?
  split
  · next h => exact absurd (List.cons.inj h).1 hc
  · rfl

theorem stripEscapes_append_of_not_mem {t u : Text} (h : '\x1b' ∉ t) :
    stripEscapes (t ++ u) = t ++ stripEscapes u := by
  induction t with
  | nil => rfl
  | cons c t ih =>
    rw [List.mem_cons, not_or] at h
    rw [List.cons_append, stripEscapes_cons_of_none (escapeLength?_of_ne (Ne.symm h.1)), ih h.2, List.cons_append]

theorem stripEscapes_of_not_mem {t : Text} (h : '\x1b' ∉ t) : stripEscapes t = t := by
  have happend : stripEscapes (t ++ []) = t ++ stripEscapes [] := stripEscapes_append_of_not_mem h
  rwa [List.append_nil, show stripEscapes [] = [] from rfl, List.append_nil] at happend

end CursorDoc.Text
