import CursorDoc.Proofs.Yaml.Outline
import CursorDoc.Yaml.Loader

/-!
# Tokens that lead too deep

A reader gets all of a scan as long as no more collections are open at once than
it can be in. The two levels of an outline are no problem for any reader that
gets that far.
-/

namespace CursorDoc.Yaml

def levelsAfter (levels : List Level) (tokens : List Token) : List Level :=
  tokens.foldl (fun levels token => token.levels levels) levels

/-- Somewhere more than `depth` collections are open. -/
def IsDeep (depth : Nat) (tokens : List Token) : Prop :=
  ∃ front, front <+: tokens ∧ depth < (levelsAfter [] front).length

section
variable {depth : Nat}

theorem tokensWithin?_cons_eq_none_iff {levels : List Level} {token : Token} {tokens : List Token} :
    tokensWithin? depth levels (token :: tokens) = none ↔
      (token.levels levels).length ≤ depth ∧ tokensWithin? depth (token.levels levels) tokens = none := by
  rw [tokensWithin?]
  split
  · next hlt => simp [Nat.not_le.mpr hlt]
  · next hle => simp [Nat.le_of_not_lt hle]

theorem tokensWithin?_eq_none_iff {levels : List Level} (h : levels.length ≤ depth) {tokens : List Token} :
    tokensWithin? depth levels tokens = none ↔ ∀ front, front <+: tokens → (levelsAfter levels front).length ≤ depth := by
  induction tokens generalizing levels with
  | nil =>
    refine iff_of_true rfl fun front hfront => ?_
    rw [List.prefix_nil.mp hfront]
    exact h
  | cons token tokens ih =>
    rw [tokensWithin?_cons_eq_none_iff]
    constructor
    · rintro ⟨hle, hrest⟩ front hfront
      obtain rfl | ⟨front, rfl, hrestFront⟩ := List.prefix_cons_iff.mp hfront
      · exact h
      · exact (ih hle).mp hrest front hrestFront
    · intro hall
      have hle : (token.levels levels).length ≤ depth := hall [token] (by simp)
      exact ⟨hle, (ih hle).mpr fun front hfront => hall (token :: front) (by simpa using hfront)⟩

/-- Where no place is too deep, the whole scan is read; and otherwise the reading stops there. -/
theorem Scan.within_of_not_isDeep {scan : Scan} (h : ¬ IsDeep depth scan.tokens) : scan.within depth = scan := by
  have hnone : tokensWithin? depth [] scan.tokens = none :=
    (tokensWithin?_eq_none_iff (Nat.zero_le depth)).mpr fun front hfront =>
      Nat.le_of_not_lt fun hlt => h ⟨front, hfront, hlt⟩
  rw [within, hnone]

theorem Scan.within_fault {scan : Scan} {fault : Fault} (h : (scan.within depth).fault = some fault) :
    scan.fault = some fault ∨ fault = .scalar .tooDeep ∧ IsDeep depth scan.tokens := by
  by_cases hdeep : IsDeep depth scan.tokens
  · unfold within at h
    split at h
    · cases h
      exact .inr ⟨rfl, hdeep⟩
    · exact .inl h
  · rw [within_of_not_isDeep hdeep] at h
    exact .inl h

/-! ## Outlines -/

/-- Words, keys and values stay on their level. -/
theorem tokensWithin?_entries {levels : List Level} (h : (Level.mapping :: levels).length ≤ depth)
    (entries : List (Word × Word)) {rest : List Token} (hrest : tokensWithin? depth (.mapping :: levels) rest = none) :
    tokensWithin? depth (.mapping :: levels) (entries.flatMap entryTokens ++ rest) = none := by
  induction entries with
  | nil => exact hrest
  | cons entry entries ih =>
    simp only [List.flatMap_cons, entryTokens, List.cons_append, List.nil_append,
      tokensWithin?_cons_eq_none_iff]
    exact ⟨h, h, h, h, ih⟩

theorem tokensWithin?_sections (hdepth : 2 ≤ depth) (parts : List Section) {rest : List Token}
    (hrest : tokensWithin? depth [.mapping] rest = none) :
    tokensWithin? depth [.mapping] (parts.flatMap Section.tokens ++ rest) = none := by
  have hone : [Level.mapping].length ≤ depth := Nat.le_of_succ_le hdepth
  induction parts with
  | nil => exact hrest
  | cons part parts ih =>
    simp only [List.flatMap_cons, Section.tokens, List.cons_append, List.nil_append, List.append_assoc,
      tokensWithin?_cons_eq_none_iff]
    refine ⟨hone, hone, hone, ?_⟩
    unfold Section.inner
    split
    · exact ih
    · simp only [List.cons_append, List.nil_append, List.append_assoc, tokensWithin?_cons_eq_none_iff]
      exact ⟨hdepth, tokensWithin?_entries hdepth part.entries
        (tokensWithin?_cons_eq_none_iff.mpr ⟨hone, ih⟩)⟩

theorem within_outline (hdepth : 2 ≤ depth) (parts : List Section) :
    Scan.within depth ⟨outlineTokens parts, none⟩ = ⟨outlineTokens parts, none⟩ := by
  have hnone : tokensWithin? depth [] (outlineTokens parts) = none := by
    simp only [outlineTokens, List.cons_append, List.nil_append, tokensWithin?_cons_eq_none_iff]
    refine ⟨Nat.le_of_succ_le hdepth, tokensWithin?_sections hdepth parts ?_⟩
    simp only [tokensWithin?_cons_eq_none_iff]
    exact ⟨Nat.zero_le depth, Nat.zero_le depth, rfl⟩
  rw [Scan.within, hnone]

end

end CursorDoc.Yaml
