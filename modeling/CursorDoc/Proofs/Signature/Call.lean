import CursorDoc.Proofs.Spelling
import CursorDoc.Proofs.Text.Indentation
import CursorDoc.Signature

/-!
# Calls in signatures

Signatures have the form of a call: a name, and a parameter list behind it. In
an unknown language this is all there is to a signature, so the name of a line
is the first of its words that a parameter list follows.
-/

namespace CursorDoc

open Text Pattern

/-! ## Runs of characters -/

/-- A text starts with only one run of characters that ends in front of another character. -/
theorem Text.eq_of_run {p : Char → Bool} {run run' after after' : Text} (hrun : ∀ c ∈ run, p c = true)
    (hrun' : ∀ c ∈ run', p c = true) (hstop : ∀ c ∈ after.head?, p c = false) (hstop' : ∀ c ∈ after'.head?, p c = false)
    (h : run ++ after = run' ++ after') : run = run' ∧ after = after' := by
  have htake : ∀ {run after : Text}, (∀ c ∈ run, p c = true) → (∀ c ∈ after.head?, p c = false) →
      (run ++ after).takeWhile p = run := by
    intro run after hrun hstop
    rw [List.takeWhile_append_of_pos hrun]
    cases after with
    | nil => exact List.append_nil run
    | cons c after => rw [List.takeWhile_cons, hstop c rfl]; exact List.append_nil run
  have heq : run = run' := by rw [← htake hrun hstop, h, htake hrun' hstop']
  subst heq
  exact ⟨rfl, List.append_cancel_left h⟩

/-! ## White space -/

def Text.spaceCodes : List Nat :=
  List.range' 0x09 5 ++ List.range' 0x1C 5 ++ [0x85, 0xA0, 0x1680] ++ List.range' 0x2000 11 ++
    [0x2028, 0x2029, 0x202F, 0x205F, 0x3000]

theorem Text.of_isSpace {p : Char → Bool} (hp : ∀ n ∈ spaceCodes, p (Char.ofNat n) = true) {c : Char}
    (h : isSpace c = true) : p c = true := by
  have hmem : c.toNat ∈ spaceCodes := by
    unfold isSpace at h
    unfold spaceCodes
    simp only [Bool.or_eq_true, Bool.and_eq_true, decide_eq_true_eq, beq_iff_eq, List.mem_append,
      List.mem_range'_1, List.mem_cons, List.not_mem_nil, or_false] at h ⊢
    omega
  have hc := hp c.toNat hmem
  rwa [Char.ofNat_toNat] at hc

namespace Signature

theorem isNameChar_of_isSpace {c : Char} (h : isSpace c = true) : isNameChar c = false := by
  simpa using of_isSpace (p := (!isNameChar ·)) (by decide) h

theorem isWordChar_of_isSpace {c : Char} (h : isSpace c = true) : isWordChar c = false := by
  simpa using of_isSpace (p := (!isWordChar ·)) (by decide +kernel) h

theorem isSpace_of_isNameChar {c : Char} (h : isNameChar c = true) : isSpace c = false := by
  rw [← Bool.not_eq_true]
  intro hspace
  rw [isNameChar_of_isSpace hspace] at h
  cases h

/-! ## Parts of a call -/

theorem spells_gap : gap.Spells (isBlank · = true) := (spells_manyOf isSpace).congr fun _ => List.all_eq_true.symm

theorem spells_space : space.Spells fun t => t ≠ [] ∧ isBlank t = true :=
  (spells_someOf isSpace).congr fun _ => and_congr_right fun _ => List.all_eq_true.symm

theorem forall_allBut_iff {c : Char} {t : Text} : (∀ d ∈ t, allBut c d = true) ↔ c ∉ t := by
  simp [allBut, List.forall_mem_ne']

theorem spells_parameters : parameters.Spells fun t => ∃ inside, t = '(' :: (inside ++ [')']) ∧ ')' ∉ inside := by
  apply ((spells_char '(').seq ((spells_manyOf (allBut ')')).seq (spells_char ')'))).congr
  intro t
  simp only [forall_allBut_iff]
  constructor
  · rintro ⟨_, _, rfl, rfl, inside, _, rfl, hinside, rfl⟩
    exact ⟨inside, rfl, hinside⟩
  · rintro ⟨inside, rfl, hinside⟩
    exact ⟨['('], inside ++ [')'], rfl, rfl, inside, [')'], rfl, hinside, rfl⟩

/-! ## Names and their calls -/

def IsCalled (after : Text) : Prop := ∃ gap rest, after = gap ++ '(' :: rest ∧ isBlank gap = true ∧ ')' ∈ rest

theorem IsCalled.head {after : Text} (h : IsCalled after) : ∀ c ∈ after.head?, c = '(' ∨ isSpace c = true := by
  obtain ⟨blank, rest, rfl, hblank, -⟩ := h
  cases blank with
  | nil => simp
  | cons c blank =>
    rw [isBlank_cons, Bool.and_eq_true] at hblank
    simpa using Or.inr hblank.1

theorem IsCalled.isNameChar {after : Text} (h : IsCalled after) : ∀ c ∈ after.head?, isNameChar c = false := by
  intro c hc
  obtain rfl | hspace := h.head c hc
  · rfl
  · exact isNameChar_of_isSpace hspace

theorem exists_named {name tail : Pattern} {N : Text → Prop} (hN : name.Spells N) (hunnamed : tail.isUnnamed = true)
    {here mid there : Place} (hname : (named name).Reads here mid) (htail : tail.Reads mid there) :
    ∃ n, here.rest = n ++ mid.rest ∧ N n ∧ there.name.map Stretch.text = some n := by
  obtain ⟨n, rest, hrest, hn, rfl⟩ := (reads_named_iff hN).mp hname
  refine ⟨n, hrest, hn, ?_⟩
  rw [htail.name_eq hunnamed]
  simp [text_append]

theorem exists_parameters (back : List Pattern) {here there : Place}
    (h : (all (gap :: parameters :: back)).Reads here there) :
    ∃ blank inside, ∃ close : Place, here.rest = blank ++ '(' :: (inside ++ ')' :: close.rest) ∧
      isBlank blank = true ∧ ')' ∉ inside ∧ (all back).Reads close there := by
  obtain ⟨_, hgap, h⟩ := reads_all_cons.mp h
  obtain ⟨blank, _, hrest, hblank, rfl⟩ := (spells_gap _ _).mp hgap
  obtain ⟨_, hparameters, h⟩ := reads_all_cons.mp h
  obtain ⟨_, rest, hrest', ⟨inside, rfl, hinside⟩, rfl⟩ := (spells_parameters _ _).mp hparameters
  simp only [Place.rest_past] at hrest hrest'
  refine ⟨blank, inside, _, ?_, hblank, hinside, h⟩
  rw [hrest, hrest']
  simp

/-! ## Signatures of unknown languages -/

/-- A run of name characters with no more of them around it, of which there is one at least. -/
structure IsNameRun (line before run after : Text) : Prop where
  line_eq : line = before ++ (run ++ after)
  ne_nil : run ≠ []
  all : ∀ c ∈ run, isNameChar c = true
  start : ∀ c ∈ before.getLast?, isNameChar c = false
  stop : ∀ c ∈ after.head?, isNameChar c = false

theorem IsNameRun.run_eq {line before run after before' run' after' : Text} (h : IsNameRun line before run after)
    (h' : IsNameRun line before' run' after') (hlength : before.length = before'.length) : run = run' := by
  have hline : before ++ (run ++ after) = before' ++ (run' ++ after') := h.line_eq.symm.trans h'.line_eq
  obtain ⟨-, hrest⟩ := List.append_inj hline hlength
  exact (eq_of_run h.all h'.all h.stop h'.stop hrest).1

theorem exists_reads_genericCall (before : Option Char) {run after : Text} (hne : run ≠ [])
    (hall : ∀ c ∈ run, isNameChar c = true) (hafter : IsCalled after) :
    ∃ there, genericCall.Reads ⟨before, run ++ after, none⟩ there := by
  obtain ⟨blank, rest, rfl, hblank, hclose⟩ := hafter
  obtain ⟨inside, rest, rfl, hinside⟩ := List.eq_append_cons_of_mem hclose
  have hrest : (⟨before, run ++ (blank ++ '(' :: (inside ++ ')' :: rest)), none⟩ : Place).rest =
      run ++ (blank ++ ('(' :: (inside ++ [')']) ++ rest)) := by simp
  obtain ⟨mid, hname, hmid⟩ := exists_reads_named (spells_someOf isNameChar) hrest ⟨hne, hall⟩
  obtain ⟨mid', hgap, hmid'⟩ := spells_gap.exists_reads hmid hblank
  obtain ⟨there, hparameters, -⟩ := spells_parameters.exists_reads hmid' ⟨inside, rfl, hinside⟩
  exact ⟨there, mid, hname, mid', hgap, hparameters⟩

theorem exists_run_of_genericCall {line : Text} {reading : Reading} (h : genericCall.search? line = some reading) :
    ∃ before after, IsNameRun line before reading.name after ∧ IsCalled after ∧
      ∀ before' run' after', IsNameRun line before' run' after' → IsCalled after' → before.length ≤ before'.length := by
  obtain ⟨before, rest, there, rfl, hread, rfl, hfirst⟩ := exists_first_of_search? h
  obtain ⟨_, hname, htail⟩ := hread
  obtain ⟨run, hrest, ⟨hne, hall⟩, htext⟩ := exists_named (spells_someOf isNameChar) rfl hname htail
  obtain ⟨blank, inside, close, hafter, hblank, -, -⟩ := exists_parameters [] htail
  have hcalled : IsCalled (blank ++ '(' :: (inside ++ ')' :: close.rest)) := ⟨blank, _, rfl, hblank, by simp⟩
  rw [hafter] at hrest
  rw [htext]
  obtain rfl : rest = run ++ (blank ++ '(' :: (inside ++ ')' :: close.rest)) := hrest
  refine ⟨before, _, ⟨rfl, hne, hall, ?_, hcalled.isNameChar⟩, hcalled, ?_⟩
  · -- a name character in front of the run would start an earlier reading
    intro c hc
    obtain ⟨front, rfl⟩ := List.getLast?_eq_some_iff.mp hc
    rw [← Bool.not_eq_true]
    intro hchar
    obtain ⟨there', hread'⟩ := exists_reads_genericCall front.getLast? (List.cons_ne_nil c run)
      (List.forall_mem_cons.mpr ⟨hchar, hall⟩) hcalled
    exact hfirst front _ (List.append_assoc ..) (by simp) there' hread'
  · intro before' run' after' hrun' hcalled'
    apply Nat.le_of_not_lt
    intro hlt
    obtain ⟨there', hread'⟩ := exists_reads_genericCall before'.getLast? hrun'.ne_nil hrun'.all hcalled'
    exact hfirst before' _ hrun'.line_eq hlt there' hread'

theorem isSome_genericCall {line before run after : Text} (hrun : IsNameRun line before run after)
    (hcalled : IsCalled after) : (genericCall.search? line).isSome := by
  obtain ⟨there, hread⟩ := exists_reads_genericCall before.getLast? hrun.ne_nil hrun.all hcalled
  rw [hrun.line_eq]
  exact isSome_search? hread

end Signature

open Signature

theorem signatureName?_of_patterns {family : Family} {p : Pattern} (h : family.patterns = [p]) (line : Text) :
    family.signatureName? line = (p.search? line).map Reading.name := by
  unfold Family.signatureName? Family.reading?
  simp [h]

/-- **The leftmost call.** In an unknown language the name in a line is the first of its maximal runs of name characters
that are called, and a line without such a run is no signature. -/
theorem signatureName?_generic (line : Text) :
    (∀ name, Family.generic.signatureName? line = some name ↔
      ∃ before after, IsNameRun line before name after ∧ IsCalled after ∧
        ∀ before' run' after', IsNameRun line before' run' after' → IsCalled after' → before.length ≤ before'.length) ∧
    (Family.generic.signatureName? line = none ↔
      ∀ before run after, IsNameRun line before run after → ¬ IsCalled after) := by
  rw [signatureName?_of_patterns (show Family.generic.patterns = [genericCall] from rfl)]
  constructor
  · intro name
    constructor
    · intro h
      obtain ⟨reading, hreading, rfl⟩ := Option.map_eq_some_iff.mp h
      exact exists_run_of_genericCall hreading
    · rintro ⟨before, after, hrun, hcalled, hfirst⟩
      obtain ⟨reading, hreading⟩ := Option.isSome_iff_exists.mp (isSome_genericCall hrun hcalled)
      obtain ⟨before', after', hrun', hcalled', hfirst'⟩ := exists_run_of_genericCall hreading
      have hlength : before'.length = before.length :=
        Nat.le_antisymm (hfirst' _ _ _ hrun hcalled) (hfirst _ _ _ hrun' hcalled')
      rw [hreading, Option.map_some, hrun'.run_eq hrun hlength]
  · constructor
    · intro hnone before run after hrun hcalled
      have hsome := isSome_genericCall hrun hcalled
      rw [Option.map_eq_none_iff.mp hnone] at hsome
      cases hsome
    · intro hnot
      cases hsearch : genericCall.search? line with
      | none => rfl
      | some reading =>
        obtain ⟨before, after, hrun, hcalled, -⟩ := exists_run_of_genericCall hsearch
        exact absurd hcalled (hnot before reading.name after hrun)

end CursorDoc
