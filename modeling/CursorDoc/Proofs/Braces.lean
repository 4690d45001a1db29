import Mathlib.Algebra.Ring.Int.Defs
import CursorDoc.Proofs.Span

/-!
# Matching braces

The search for the closing brace of a body counts braces line by line. Read
as one text, it stops at the end of the shortest stretch in which opening and
closing braces balance.
-/

namespace CursorDoc

/-! ## The counter -/

def braceStep (c : Char) : Int := if c = '{' then 1 else if c = '}' then -1 else 0

def braceDepth (t : Text) : Int := (t.map braceStep).sum

@[simp] theorem braceDepth_nil : braceDepth [] = 0 := rfl

@[simp] theorem braceDepth_cons (c : Char) (t : Text) : braceDepth (c :: t) = braceStep c + braceDepth t := rfl

structure Closes (depth : Int) (t : Text) : Prop where
  ne_nil : t ≠ []
  zero : depth + braceDepth t = 0
  first : ∀ u v, t = u ++ v → u ≠ [] → depth + braceDepth u = 0 → v = []

theorem closes_cons {depth : Int} {c : Char} {t : Text} :
    Closes depth (c :: t) ↔
      (depth + braceStep c = 0 ∧ t = []) ∨ (depth + braceStep c ≠ 0 ∧ Closes (depth + braceStep c) t) := by
  constructor
  · intro h
    by_cases hc : depth + braceStep c = 0
    · exact .inl ⟨hc, h.first [c] t rfl (List.cons_ne_nil c []) (by simpa using hc)⟩
    · refine .inr ⟨hc, ?_, ?_, ?_⟩
      · intro hnil
        subst hnil
        exact hc (by simpa using h.zero)
      · simpa [Int.add_assoc] using h.zero
      · intro u v htuv _ hzero
        exact h.first (c :: u) v (by rw [htuv]; rfl) (List.cons_ne_nil c u) (by simpa [Int.add_assoc] using hzero)
  · intro h
    obtain ⟨hc, rfl⟩ | ⟨hc, h⟩ := h
    · refine ⟨List.cons_ne_nil c [], by simpa using hc, ?_⟩
      intro u v huv hu _
      cases u with
      | nil => exact absurd rfl hu
      | cons d u => exact (List.append_eq_nil_iff.mp (List.cons.inj huv).2.symm).2
    · refine ⟨List.cons_ne_nil c t, by simpa [Int.add_assoc] using h.zero, ?_⟩
      intro u v huv hu hzero
      cases u with
      | nil => exact absurd rfl hu
      | cons d u =>
        obtain ⟨rfl, rfl⟩ := List.cons.inj huv
        cases u with
        | nil => exact absurd (by simpa using hzero) hc
        | cons e u => exact h.first (e :: u) v rfl (List.cons_ne_nil e u) (by simpa [Int.add_assoc] using hzero)

theorem closes_append {depth : Int} {t : Text} (h : ∀ u, u <+: t → 0 < depth + braceDepth u) {w : Text} :
    Closes depth (t ++ w) ↔ Closes (depth + braceDepth t) w := by
  induction t generalizing depth with
  | nil => simp
  | cons c t ih =>
    have hc : 0 < depth + braceStep c := by
      simpa using h [c] ⟨t, rfl⟩
    have hstep : ∀ u, u <+: t → 0 < depth + braceStep c + braceDepth u := fun u hu => by
      simpa [Int.add_assoc] using h (c :: u) (List.cons_prefix_cons.mpr ⟨rfl, hu⟩)
    rw [List.cons_append, closes_cons, ih hstep, braceDepth_cons, Int.add_assoc]
    constructor
    · intro h
      obtain ⟨hzero, -⟩ | ⟨-, hrest⟩ := h
      · omega
      · exact hrest
    · intro hrest
      exact .inr ⟨by omega, hrest⟩

theorem Closes.not_of_append {depth : Int} {t u : Text} (h : Closes depth t) (hu : u ≠ []) : ¬ Closes depth (t ++ u) :=
  fun htu => hu (htu.first t u rfl h.ne_nil h.zero)

/-! ## One line -/

theorem followBraces_cons {depth : Nat} (h : 0 < depth) (c : Char) (t : Text) :
    followBraces depth (c :: t) =
      if depth + braceStep c = 0 then none else followBraces (depth + braceStep c).toNat t := by
  obtain ⟨n, rfl⟩ : ∃ n, depth = n + 1 := ⟨depth - 1, by omega⟩
  unfold braceStep
  simp only [followBraces]
  by_cases hopen : c = '{'
  · have hne : ((n + 1 : Nat) : Int) + 1 ≠ 0 := by omega
    simp only [hopen, if_true, if_neg hne]
    rfl
  · simp only [if_neg hopen]
    by_cases hclose : c = '}'
    · simp only [hclose, if_true]
      cases n with
      | zero => rfl
      | succ n =>
        have hne : ((n + 1 + 1 : Nat) : Int) + -1 ≠ 0 := by omega
        have hto : (((n + 1 + 1 : Nat) : Int) + -1).toNat = n + 1 := by omega
        rw [if_neg hne, hto]
    · have hne : ((n + 1 : Nat) : Int) + 0 ≠ 0 := by omega
      rw [if_neg hclose, if_neg hclose, if_neg hne]
      rfl

theorem followBraces_cases {depth : Nat} (h : 0 < depth) (t : Text) :
    (followBraces depth t = none ∧ ∃ u, u <+: t ∧ Closes depth u) ∨
      (followBraces depth t = some (depth + braceDepth t).toNat ∧ ∀ u, u <+: t → 0 < depth + braceDepth u) := by
  induction t generalizing depth with
  | nil =>
    refine .inr ⟨by simp [followBraces], ?_⟩
    intro u hu
    rw [List.prefix_nil.mp hu]
    simpa using h
  | cons c t ih =>
    rw [followBraces_cons h]
    by_cases hc : depth + braceStep c = 0
    · exact .inl ⟨if_pos hc, [c], ⟨t, rfl⟩, closes_cons.mpr (.inl ⟨hc, rfl⟩)⟩
    · have hpos : 0 < depth + braceStep c := by
        unfold braceStep at hc ⊢
        split at hc <;> split <;> omega
      have hcast : (((depth + braceStep c).toNat : Nat) : Int) = depth + braceStep c := Int.toNat_of_nonneg (Int.le_of_lt hpos)
      have hstep : 0 < (depth + braceStep c).toNat := by omega
      rw [if_neg hc]
      obtain ⟨hnone, u, hu, hclose⟩ | ⟨hsome, hu⟩ := ih hstep
      · rw [hcast] at hclose
        exact .inl ⟨hnone, c :: u, List.cons_prefix_cons.mpr ⟨rfl, hu⟩, closes_cons.mpr (.inr ⟨hc, hclose⟩)⟩
      · rw [hcast] at hsome hu
        refine .inr ⟨by rw [hsome, braceDepth_cons, Int.add_assoc], ?_⟩
        intro u hprefix
        obtain rfl | ⟨v, rfl, hv⟩ := List.prefix_cons_iff.mp hprefix
        · simpa using h
        · simpa [Int.add_assoc] using hu v hv

theorem followBraces_pos {depth depth' : Nat} (h : 0 < depth) {t : Text} (ht : followBraces depth t = some depth') :
    0 < depth' := by
  obtain ⟨hnone, -⟩ | ⟨hsome, hpos⟩ := followBraces_cases h t
  · rw [hnone] at ht; cases ht
  · have := hpos t (List.prefix_refl t)
    have := Option.some.inj (ht.symm.trans hsome)
    omega

theorem followBraces_add {depth depth' : Nat} (h : 0 < depth) (more : Nat) {t : Text}
    (ht : followBraces depth t = some depth') : followBraces (depth + more) t = some (depth' + more) := by
  obtain ⟨hnone, -⟩ | ⟨hsome, hpos⟩ := followBraces_cases h t
  · rw [hnone] at ht; cases ht
  · have hdepth := Option.some.inj (ht.symm.trans hsome)
    have hall := hpos t (List.prefix_refl t)
    obtain ⟨-, u, hu, hclose⟩ | ⟨hsome', -⟩ := followBraces_cases (Nat.add_pos_left h more) t
    · have hzero := hclose.zero
      have := hpos u hu
      omega
    · rw [hsome']
      congr 1
      omega

theorem followBraces_append (depth : Nat) (t u : Text) :
    followBraces depth (t ++ u) = (followBraces depth t).bind fun depth => followBraces depth u := by
  fun_induction followBraces depth t with
  | case1 => rfl
  | case2 depth t ih => simpa [followBraces] using ih
  | case3 t _ ih => simpa [followBraces] using ih
  | case4 t _ => simp [followBraces]
  | case5 t _ depth ih => simpa [followBraces] using ih
  | case6 depth c t hopen hclose ih => simpa [followBraces, hopen, hclose] using ih

theorem followBraces_of_not_mem {t : Text} (h : '{' ∉ t) : followBraces 0 t = some 0 := by
  induction t with
  | nil => rfl
  | cons c t ih =>
    obtain ⟨hc, ht⟩ := not_or.mp (mt List.mem_cons.mpr h)
    rw [followBraces, if_neg (Ne.symm hc)]
    split <;> exact ih ht

/-! ## Many lines -/

/-- The counter, read on from `depth`, first comes to zero on line `k`. -/
def ClosesOn (depth : Int) (lines : List Text) (k : Nat) : Prop :=
  ∃ u, u ≠ [] ∧ u <+: lines.getD k [] ∧ Closes depth ((lines.take k).flatten ++ u)

theorem closesOn_zero {depth : Int} {line : Text} {lines : List Text} :
    ClosesOn depth (line :: lines) 0 ↔ ∃ u, u <+: line ∧ Closes depth u :=
  ⟨fun ⟨u, _, hu, h⟩ => ⟨u, hu, h⟩, fun ⟨u, hu, h⟩ => ⟨u, h.ne_nil, hu, h⟩⟩

theorem closesOn_succ {depth : Int} {line : Text} (h : ∀ u, u <+: line → 0 < depth + braceDepth u)
    {lines : List Text} {k : Nat} :
    ClosesOn depth (line :: lines) (k + 1) ↔ ClosesOn (depth + braceDepth line) lines k := by
  unfold ClosesOn
  simp only [List.getD_cons_succ, List.take_succ_cons, List.flatten_cons, List.append_assoc, closes_append h]

theorem not_closesOn_succ {depth : Int} {line u : Text} (hu : u <+: line) (h : Closes depth u)
    {lines : List Text} {k : Nat} : ¬ ClosesOn depth (line :: lines) (k + 1) := by
  intro ⟨v, hv, _, hclose⟩
  obtain ⟨w, rfl⟩ := hu
  rw [List.take_succ_cons, List.flatten_cons, List.append_assoc, List.append_assoc] at hclose
  apply h.not_of_append _ hclose
  intro hnil
  exact hv (List.append_eq_nil_iff.mp (List.append_eq_nil_iff.mp hnil).2).2

theorem closingLine?_eq_some_iff {depth : Nat} (h : 0 < depth) {lines : List Text} {k : Nat} :
    closingLine? depth lines = some k ↔ ClosesOn depth lines k := by
  -- a line either closes the last brace, and no later line is the first to do so, or hands its depth on
  induction lines generalizing depth k with
  | nil =>
    constructor
    · intro hnone
      cases hnone
    · intro ⟨u, hne, hu, _⟩
      exact absurd (List.prefix_nil.mp (by simpa using hu)) hne
  | cons line lines ih =>
    rw [closingLine?]
    obtain ⟨hnone, u, hu, hclose⟩ | ⟨hsome, hpos⟩ := followBraces_cases h line
    · rw [hnone]
      cases k with
      | zero => exact ⟨fun _ => closesOn_zero.mpr ⟨u, hu, hclose⟩, fun _ => rfl⟩
      | succ k =>
        refine ⟨fun hk => ?_, fun hk => absurd hk (not_closesOn_succ hu hclose)⟩
        cases hk
    · have hline := hpos line (List.prefix_refl line)
      have hcast : (((depth + braceDepth line).toNat : Nat) : Int) = depth + braceDepth line :=
        Int.toNat_of_nonneg (Int.le_of_lt hline)
      rw [hsome]
      cases k with
      | zero =>
        refine ⟨fun hk => ?_, fun hk => ?_⟩
        · obtain ⟨_, _, hk⟩ := Option.map_eq_some_iff.mp hk
          cases hk
        · obtain ⟨u, hu, hclose⟩ := closesOn_zero.mp hk
          have := hpos u hu
          have := hclose.zero
          omega
      | succ k =>
        rw [closesOn_succ hpos, ← hcast, ← ih (by omega), Option.map_eq_some_iff]
        constructor
        · rintro ⟨_, hj, he⟩
          exact Nat.succ.inj he ▸ hj
        · intro hk
          exact ⟨k, hk, rfl⟩

theorem closingLine?_append (depth : Nat) (t u : Text) (lines : List Text) :
    closingLine? depth ((t ++ u) :: lines) =
      match followBraces depth t with
      | none => some 0
      | some depth => closingLine? depth (u :: lines) := by
  rw [closingLine?, followBraces_append]
  cases followBraces depth t with
  | none => rfl
  | some depth => rfl

/-- The search goes through lines that do not close the last brace, and what is below them only counts on. -/
theorem closingLine?_append_lines (depth : Nat) (above below : List Text) :
    closingLine? depth (above ++ below) =
      match followBraces depth above.flatten with
      | none => closingLine? depth above
      | some depth => (closingLine? depth below).map (· + above.length) := by
  induction above generalizing depth with
  | nil => simp [followBraces]
  | cons line above ih =>
    rw [List.cons_append, closingLine?, closingLine?, List.flatten_cons, followBraces_append]
    cases followBraces depth line with
    | none => rfl
    | some depth =>
      simp only [ih, Option.bind_some]
      cases followBraces depth above.flatten with
      | none => rfl
      | some depth => simp [Function.comp_def, Nat.add_assoc]

theorem closingLine?_brace (depth : Nat) (t : Text) (lines : List Text) :
    closingLine? depth (('{' :: t) :: lines) = closingLine? (depth + 1) (t :: lines) := by
  have hline : followBraces depth ('{' :: t) = followBraces (depth + 1) t := by simp [followBraces]
  rw [closingLine?, closingLine?, hline]

theorem closingLine?_of_first {before : Text} (h : '{' ∉ before) (after : Text) (lines : List Text) :
    closingLine? 0 ((before ++ '{' :: after) :: lines) = closingLine? 1 (after :: lines) := by
  rw [closingLine?_append, followBraces_of_not_mem h]
  exact closingLine?_brace 0 after lines

theorem closingLine?_le_of_add {depth : Nat} (h : 0 < depth) (more : Nat) {lines : List Text} {k : Nat}
    (hk : closingLine? (depth + more) lines = some k) : ∃ j ≤ k, closingLine? depth lines = some j := by
  induction lines generalizing depth k with
  | nil => cases hk
  | cons line lines ih =>
    rw [closingLine?] at hk ⊢
    cases hline : followBraces depth line with
    | none => exact ⟨0, Nat.zero_le k, rfl⟩
    | some depth' =>
      rw [followBraces_add h more hline] at hk
      obtain ⟨k, hbelow, rfl⟩ := Option.map_eq_some_iff.mp hk
      obtain ⟨j, hj, hfound⟩ := ih (followBraces_pos h hline) hbelow
      exact ⟨j + 1, Nat.succ_le_succ hj, by simp [hfound]⟩

/-! ## The end of a body -/

/-- The counter, started at a column of line `start`, first comes back to zero on line `stop`; or it never
does, and `stop` is the last line. -/
def EndsOn (lines : List Text) (start column stop : Nat) : Prop :=
  let body := (lines.getD start []).drop column :: lines.drop (start + 1)
  (∃ k, ClosesOn 0 body k ∧ stop = start + k) ∨ ((∀ k, ¬ ClosesOn 0 body k) ∧ stop + 1 = lines.length)

theorem closesOn_brace {t : Text} {lines : List Text} {k : Nat} :
    ClosesOn 0 (('{' :: t) :: lines) k ↔ closingLine? 1 (t :: lines) = some k := by
  have hopen : ∀ u, Closes 0 ('{' :: u) ↔ Closes 1 u := fun u => by
    rw [closes_cons]
    simp [braceStep]
  rw [closingLine?_eq_some_iff Nat.one_pos]
  cases k with
  | zero =>
    rw [closesOn_zero, closesOn_zero]
    constructor
    · intro ⟨u, hu, hclose⟩
      obtain rfl | ⟨v, rfl, hv⟩ := List.prefix_cons_iff.mp hu
      · exact absurd rfl hclose.ne_nil
      · exact ⟨v, hv, (hopen v).mp hclose⟩
    · intro ⟨u, hu, hclose⟩
      exact ⟨'{' :: u, List.cons_prefix_cons.mpr ⟨rfl, hu⟩, (hopen u).mpr hclose⟩
  | succ k =>
    unfold ClosesOn
    simp only [List.getD_cons_succ, List.take_succ_cons, List.flatten_cons, List.cons_append, hopen]
    rfl

section
variable {above below : List Text} {before after : Text}

theorem endsOn_iff {stop : Nat} :
    EndsOn (above ++ (before ++ '{' :: after) :: below) above.length before.length stop ↔
      stop = above.length + (closingLine? 1 (after :: below)).getD below.length := by
  have hbody : (((above ++ (before ++ '{' :: after) :: below).getD above.length []).drop before.length ::
      (above ++ (before ++ '{' :: after) :: below).drop (above.length + 1)) = ('{' :: after) :: below := by
    simp
  unfold EndsOn
  simp only [hbody, closesOn_brace, List.length_append, List.length_cons]
  cases closingLine? 1 (after :: below) with
  | none => simp; omega
  | some k => simp

theorem endsOn_first (h : '{' ∉ before) :
    EndsOn (above ++ (before ++ '{' :: after) :: below) above.length before.length
      (above.length + braceReach ((before ++ '{' :: after) :: below) false) := by
  rw [endsOn_iff]
  unfold braceReach
  simp [closingLine?_of_first h]

end

end CursorDoc
