import CursorDoc.Proofs.Pattern
import CursorDoc.Proofs.Text.Indentation
import CursorDoc.Signature

/-!
# What signature lines hold

Every signature has a parameter list, so its line is not blank. A signature of
Python starts, behind its indentation, with one of the words `def` and `async`.
-/

namespace CursorDoc

open Text

/-! ## Characters that every reading takes up -/

namespace Pattern

def TakesUp (p : Pattern) (c : Char) : Prop :=
  ∀ here there : Place, p.Reads here there → ∃ t, here.rest = t ++ there.rest ∧ c ∈ t

theorem takesUp_char (c : Char) : (char c).TakesUp c := by
  intro here there h
  obtain ⟨d, rest, hrest, hd, rfl⟩ := h
  exact ⟨[d], hrest, by rw [beq_iff_eq.mp hd]; simp⟩

theorem TakesUp.seq_left {c : Char} {p : Pattern} (hp : p.TakesUp c) (q : Pattern) : (seq p q).TakesUp c := by
  intro here there ⟨mid, hmid, hthere⟩
  obtain ⟨t, ht, hc⟩ := hp here mid hmid
  obtain ⟨u, hu⟩ := hthere.exists_append
  exact ⟨t ++ u, by rw [ht, hu, List.append_assoc], List.mem_append_left u hc⟩

theorem TakesUp.seq_right {c : Char} {q : Pattern} (hq : q.TakesUp c) (p : Pattern) : (seq p q).TakesUp c := by
  intro here there ⟨mid, hmid, hthere⟩
  obtain ⟨t, ht⟩ := hmid.exists_append
  obtain ⟨u, hu, hc⟩ := hq mid there hthere
  exact ⟨t ++ u, by rw [ht, hu, List.append_assoc], List.mem_append_right t hc⟩

theorem takesUp_all {c : Char} {p : Pattern} (hp : p.TakesUp c) : ∀ {ps : List Pattern}, p ∈ ps → (all ps).TakesUp c
  | [q], h => List.mem_singleton.mp h ▸ hp
  | q :: r :: ps, h => by
    cases List.mem_cons.mp h with
    | inl heq => exact TakesUp.seq_left (heq ▸ hp) (all (r :: ps))
    | inr hmem => exact TakesUp.seq_right (takesUp_all hp hmem) q

theorem TakesUp.mem {p : Pattern} {c : Char} (hp : p.TakesUp c) {line : Text} {reading : Reading}
    (h : p.search? line = some reading) : c ∈ line := by
  obtain ⟨skipped, rest, there, rfl, hread, -⟩ := exists_of_search? h
  obtain ⟨t, ht, hc⟩ := hp _ there hread
  simp only at ht
  rw [ht]
  simp [hc]

end Pattern

/-! ## The parameter list -/

theorem Signature.takesUp_parameters : parameters.TakesUp '(' :=
  Pattern.takesUp_all (Pattern.takesUp_char '(') (by simp)

theorem Signature.takesUp_of_mem_patterns {family : Family} {p : Pattern} (h : p ∈ family.patterns) :
    p.TakesUp '(' := by
  have hp := takesUp_parameters
  cases family with
  | script =>
    simp only [Family.patterns, scriptPatterns, List.mem_cons, List.not_mem_nil, or_false] at h
    obtain rfl | rfl | rfl | rfl := h <;> exact Pattern.takesUp_all hp (by simp)
  | python =>
    obtain rfl := List.mem_singleton.mp h
    exact Pattern.takesUp_all hp (by simp)
  | cFamily =>
    obtain rfl := List.mem_singleton.mp h
    exact Pattern.takesUp_all hp (by simp)
  | generic =>
    obtain rfl := List.mem_singleton.mp h
    exact Pattern.takesUp_all hp (by simp)

theorem isBlank_of_signatureName? {family : Family} {line name : Text} (h : family.signatureName? line = some name) :
    line.isBlank = false := by
  obtain ⟨reading, hreading, -⟩ := Option.map_eq_some_iff.mp h
  obtain ⟨p, hp, hsearch⟩ := List.exists_of_findSome?_eq_some hreading
  have hmem : '(' ∈ line := (Signature.takesUp_of_mem_patterns hp).mem hsearch
  rw [← Bool.not_eq_true, isBlank, List.all_eq_true]
  exact fun hall => absurd (hall '(' hmem) (by decide)

/-! ## The first word of a Python signature -/

theorem Family.eq_python_of_isIndented {family : Family} (hf : family.isIndented = true) : family = .python := by
  cases family with
  | python => rfl
  | _ => cases hf

theorem Pattern.exists_of_word {w : String} {c : Char} {cs : List Char} (hw : w.toList = c :: cs) {here there : Place}
    (h : (word w).Reads here there) : ∃ rest, here.rest = c :: rest := by
  unfold word at h
  rw [hw] at h
  cases cs with
  | nil =>
    obtain ⟨d, rest, hrest, hd, -⟩ := h
    exact ⟨rest, beq_iff_eq.mp hd ▸ hrest⟩
  | cons d cs =>
    obtain ⟨mid, ⟨d, rest, hrest, hd, -⟩, -⟩ := h
    exact ⟨rest, beq_iff_eq.mp hd ▸ hrest⟩

theorem Signature.exists_of_pythonDefinition {line : Text} {reading : Reading}
    (h : pythonDefinition.search? line = some reading) :
    ∃ w c rest, isBlank w = true ∧ line = w ++ c :: rest ∧ (c = 'a' ∨ c = 'd') := by
  obtain ⟨skipped, rest, there, rfl, hread, -⟩ := Pattern.exists_of_search? h
  obtain ⟨_, ⟨rfl, hstart⟩, _, ⟨w, behind, hw, hall, rfl⟩, _, hasync, _, hdef, -⟩ := hread
  have hnil : skipped = [] := by
    simpa using hstart
  simp only at hw
  rw [hnil, List.nil_append, hw]
  refine ⟨w, ?_⟩
  cases hasync with
  | inl hasync =>
    obtain ⟨_, hword, -⟩ := hasync
    obtain ⟨r, hr⟩ := Pattern.exists_of_word (w := "async") rfl hword
    exact ⟨'a', r, List.all_eq_true.mpr hall, congrArg (w ++ ·) hr, .inl rfl⟩
  | inr hempty =>
    obtain rfl := hempty
    obtain ⟨r, hr⟩ := Pattern.exists_of_word (w := "def") rfl hdef
    exact ⟨'d', r, List.all_eq_true.mpr hall, congrArg (w ++ ·) hr, .inr rfl⟩

theorem exists_of_signatureName?_python {line name : Text} (h : Family.python.signatureName? line = some name) :
    ∃ w c rest, isBlank w = true ∧ line = w ++ c :: rest ∧ (c = 'a' ∨ c = 'd') := by
  obtain ⟨reading, hreading, -⟩ := Option.map_eq_some_iff.mp h
  obtain ⟨p, hp, hsearch⟩ := List.exists_of_findSome?_eq_some hreading
  obtain rfl := List.mem_singleton.mp hp
  exact Signature.exists_of_pythonDefinition hsearch

end CursorDoc
