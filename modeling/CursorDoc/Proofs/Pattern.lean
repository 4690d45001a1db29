import CursorDoc.Pattern
import Mathlib.Logic.Relation

/-!
# What patterns read

`Pattern.run` tries readings in an order and backs up between them. Which
readings there are does not depend on the order: `Reads` relates the places
where a shape starts and stops, and `run` gets to exactly these.
-/

namespace CursorDoc

def Place.past (here : Place) (t rest : Text) : Place := ⟨t.getLast?.or here.before, rest, here.name⟩

theorem getLast?_cons_or (c : Char) (t : Text) (before : Option Char) :
    (c :: t).getLast?.or before = t.getLast?.or (some c) := by
  rw [List.getLast?_cons]
  cases t.getLast? with
  | none => rfl
  | some d => rfl

namespace Pattern

def ReadsRun (set : CharSet) (here there : Place) : Prop :=
  ∃ t rest, here.rest = t ++ rest ∧ (∀ c ∈ t, set c = true) ∧ there = here.past t rest

def Reads : Pattern → Place → Place → Prop
  | empty, here, there => there = here
  | one set, here, there => ∃ c rest, here.rest = c :: rest ∧ set c = true ∧ there = ⟨some c, rest, here.name⟩
  | seq p q, here, there => ∃ mid, p.Reads here mid ∧ q.Reads mid there
  | either p q, here, there => p.Reads here there ∨ q.Reads here there
  | manyOf set, here, there => ReadsRun set here there
  | fewestOf set, here, there => ReadsRun set here there
  | many p, here, there =>
    Relation.ReflTransGen (fun a b => p.Reads a b ∧ b.rest.length < a.rest.length) here there
  | named p, here, there => ∃ mid, p.Reads here mid ∧ there = { mid with name := some ⟨here.rest, mid.rest⟩ }
  | notAhead p, here, there => there = here ∧ ∀ ahead, ¬ p.Reads here ahead
  | notAfter set, here, there => there = here ∧ here.before.any set = false
  | wordEdge, here, there => there = here ∧ Text.isWordEdge here.before here.rest.head? = true
  | atStart, here, there => there = here ∧ here.before.isNone = true
  | atEnd, here, there => there = here ∧ (here.rest == [] || here.rest == ['\n']) = true

/-! ## Runs of characters -/

section
variable {α : Type} {set : CharSet} {next : Place → Option α} {name : Option Stretch}

theorem exists_of_runManyOf : ∀ {before : Option Char} {t : Text} {a : α}, runManyOf set next name before t = some a →
    ∃ there, ReadsRun set ⟨before, t, name⟩ there ∧ next there = some a
  | before, [], a, h => ⟨_, ⟨[], [], rfl, by simp, rfl⟩, h⟩
  | before, c :: r, a, h => by
    rw [runManyOf] at h
    split at h
    · rename_i hc
      split at h
      · rename_i b hrun
        obtain ⟨there, ⟨t, rest, ht, hall, rfl⟩, hnext⟩ := exists_of_runManyOf hrun
        refine ⟨_, ⟨c :: t, rest, congrArg (c :: ·) ht, List.forall_mem_cons.mpr ⟨hc, hall⟩, rfl⟩, ?_⟩
        unfold Place.past at hnext ⊢
        rw [getLast?_cons_or]
        exact hnext.trans h
      · exact ⟨_, ⟨[], c :: r, rfl, by simp, rfl⟩, h⟩
    · exact ⟨_, ⟨[], c :: r, rfl, by simp, rfl⟩, h⟩

theorem runManyOf_isSome : ∀ {before : Option Char} {t rest : Text}, (∀ c ∈ t, set c = true) →
    (next ⟨t.getLast?.or before, rest, name⟩).isSome → (runManyOf set next name before (t ++ rest)).isSome
  | before, [], [], _, h => h
  | before, [], c :: rest, _, h => by
    rw [List.nil_append, runManyOf]
    split
    · split
      · rfl
      · exact h
    · exact h
  | before, c :: t, rest, hall, h => by
    obtain ⟨hc, ht⟩ := List.forall_mem_cons.mp hall
    rw [getLast?_cons_or] at h
    obtain ⟨a, ha⟩ := Option.isSome_iff_exists.mp (runManyOf_isSome ht h)
    rw [List.cons_append, runManyOf, if_pos hc, ha]
    rfl

theorem exists_of_runFewestOf : ∀ {before : Option Char} {t : Text} {a : α},
    runFewestOf set next name before t = some a → ∃ there, ReadsRun set ⟨before, t, name⟩ there ∧ next there = some a
  | before, [], a, h => ⟨_, ⟨[], [], rfl, by simp, rfl⟩, h⟩
  | before, c :: r, a, h => by
    rw [runFewestOf] at h
    split at h
    · rename_i b hrun
      exact ⟨_, ⟨[], c :: r, rfl, by simp, rfl⟩, hrun.trans h⟩
    · split at h
      · rename_i hc
        obtain ⟨there, ⟨t, rest, ht, hall, rfl⟩, hnext⟩ := exists_of_runFewestOf h
        refine ⟨_, ⟨c :: t, rest, congrArg (c :: ·) ht, List.forall_mem_cons.mpr ⟨hc, hall⟩, rfl⟩, ?_⟩
        unfold Place.past at hnext ⊢
        rw [getLast?_cons_or]
        exact hnext
      · cases h

theorem runFewestOf_isSome : ∀ {before : Option Char} {t rest : Text}, (∀ c ∈ t, set c = true) →
    (next ⟨t.getLast?.or before, rest, name⟩).isSome → (runFewestOf set next name before (t ++ rest)).isSome
  | before, [], [], _, h => h
  | before, [], c :: rest, _, h => by
    obtain ⟨a, ha⟩ := Option.isSome_iff_exists.mp h
    have ha' : next ⟨before, c :: rest, name⟩ = some a := ha
    rw [List.nil_append, runFewestOf, ha']
    rfl
  | before, c :: t, rest, hall, h => by
    obtain ⟨hc, ht⟩ := List.forall_mem_cons.mp hall
    rw [getLast?_cons_or] at h
    rw [List.cons_append, runFewestOf]
    split
    · rfl
    · rw [if_pos hc]
      exact runFewestOf_isSome ht h

end

/-! ## All readings -/

/-- What `run` gets to is a reading, and where there is a reading that leads on, `run` gets to one. -/
structure Meets (p : Pattern) : Prop where
  sound : ∀ {α : Type} {next : Place → Option α} {here : Place} {a : α}, p.run next here = some a →
    ∃ there, p.Reads here there ∧ next there = some a
  complete : ∀ {α : Type} {next : Place → Option α} {here there : Place}, p.Reads here there →
    (next there).isSome → (p.run next here).isSome

theorem meets_guard {p : Pattern} (ok : Place → Bool)
    (hrun : ∀ {α : Type} (next : Place → Option α) (here : Place), p.run next here = if ok here then next here else none)
    (hreads : ∀ here there, p.Reads here there ↔ there = here ∧ ok here = true) : p.Meets where
  sound := by
    intro α next here a h
    rw [hrun] at h
    split at h
    · rename_i hok
      exact ⟨here, (hreads here here).mpr ⟨rfl, hok⟩, h⟩
    · cases h
  complete := by
    intro α next here there h hn
    obtain ⟨rfl, hok⟩ := (hreads here there).mp h
    rw [hrun, if_pos hok]
    exact hn

theorem Meets.seq {p q : Pattern} (hp : p.Meets) (hq : q.Meets) : (seq p q).Meets where
  sound := by
    intro α next here a h
    obtain ⟨mid, hmid, hrun⟩ := hp.sound h
    obtain ⟨there, hthere, hnext⟩ := hq.sound hrun
    exact ⟨there, ⟨mid, hmid, hthere⟩, hnext⟩
  complete := by
    intro α next here there ⟨mid, hmid, hthere⟩ hn
    exact hp.complete hmid (hq.complete hthere hn)

theorem Meets.either {p q : Pattern} (hp : p.Meets) (hq : q.Meets) : (either p q).Meets where
  sound := by
    intro α next here a h
    rw [run] at h
    split at h
    · rename_i b hrun
      obtain ⟨there, hthere, hnext⟩ := hp.sound hrun
      exact ⟨there, .inl hthere, hnext.trans h⟩
    · obtain ⟨there, hthere, hnext⟩ := hq.sound h
      exact ⟨there, .inr hthere, hnext⟩
  complete := by
    intro α next here there h hn
    rw [run]
    split
    · rfl
    · rename_i hnone
      cases h with
      | inl hread => exact absurd hnone (Option.isSome_iff_ne_none.mp (hp.complete hread hn))
      | inr hread => exact hq.complete hread hn

theorem Meets.many {p : Pattern} (hp : p.Meets) : (many p).Meets where
  sound := by
    intro α next here a h
    rw [run] at h
    generalize here.rest.length = limit at h
    induction limit generalizing here with
    | zero => exact ⟨here, .refl, h⟩
    | succ limit ih =>
      rw [runMany] at h
      split at h
      · rename_i b hrun
        obtain ⟨mid, hmid, hcont⟩ := hp.sound hrun
        split at hcont
        · rename_i hlt
          obtain ⟨there, hthere, hnext⟩ := ih (hcont.trans h)
          exact ⟨there, .head ⟨hmid, hlt⟩ hthere, hnext⟩
        · cases hcont
      · exact ⟨here, .refl, h⟩
  complete := by
    intro α next here there h hn
    rw [run]
    -- every step takes some of the rest, so a limit of its length is never used up
    generalize hlimit : here.rest.length = limit
    replace hlimit : here.rest.length ≤ limit := Nat.le_of_eq hlimit
    induction limit generalizing here with
    | zero =>
      cases h.cases_head with
      | inl heq => exact heq ▸ hn
      | inr hstep =>
        obtain ⟨mid, ⟨-, hlt⟩, -⟩ := hstep
        omega
    | succ limit ih =>
      rw [runMany]
      split
      · rfl
      · rename_i hnone
        cases h.cases_head with
        | inl heq => exact heq ▸ hn
        | inr hstep =>
          obtain ⟨mid, ⟨hmid, hlt⟩, hrest⟩ := hstep
          apply absurd hnone
          apply Option.isSome_iff_ne_none.mp
          apply hp.complete hmid
          rw [if_pos hlt]
          exact ih hrest (by omega)

theorem Meets.named {p : Pattern} (hp : p.Meets) : (named p).Meets where
  sound := by
    intro α next here a h
    obtain ⟨mid, hmid, hnext⟩ := hp.sound h
    exact ⟨_, ⟨mid, hmid, rfl⟩, hnext⟩
  complete := by
    intro α next here there h hn
    obtain ⟨mid, hmid, rfl⟩ := h
    exact hp.complete hmid hn

theorem Meets.notAhead {p : Pattern} (hp : p.Meets) : (notAhead p).Meets where
  sound := by
    intro α next here a h
    rw [run] at h
    split at h
    · cases h
    · rename_i hnone
      refine ⟨here, ⟨rfl, fun ahead hread => ?_⟩, h⟩
      exact absurd hnone (Option.isSome_iff_ne_none.mp (hp.complete hread rfl))
  complete := by
    intro α next here there h hn
    obtain ⟨rfl, hnot⟩ := h
    rw [run]
    split
    · rename_i hrun
      obtain ⟨ahead, hread, -⟩ := hp.sound hrun
      exact absurd hread (hnot ahead)
    · exact hn

/-- **Order does not matter.** Every pattern finds its readings and nothing else. -/
theorem meets (p : Pattern) : p.Meets := by
  induction p with
  | empty => exact meets_guard (fun _ => true) (fun _ _ => (if_pos rfl).symm) (fun _ _ => by simp [Reads])
  | one set =>
    constructor
    · intro α next here a h
      rw [run] at h
      split at h
      · cases h
      · rename_i c r hrest
        split at h
        · rename_i hc
          exact ⟨_, ⟨c, r, hrest, hc, rfl⟩, h⟩
        · cases h
    · intro α next here there h hn
      obtain ⟨c, r, hrest, hc, rfl⟩ := h
      rw [run, hrest]
      simpa [hc] using hn
  | seq p q hp hq => exact hp.seq hq
  | either p q hp hq => exact hp.either hq
  | manyOf set =>
    constructor
    · intro α next here a h
      exact exists_of_runManyOf h
    · intro α next here there h hn
      obtain ⟨t, rest, hrest, hall, rfl⟩ := h
      rw [run, hrest]
      exact runManyOf_isSome hall hn
  | fewestOf set =>
    constructor
    · intro α next here a h
      exact exists_of_runFewestOf h
    · intro α next here there h hn
      obtain ⟨t, rest, hrest, hall, rfl⟩ := h
      rw [run, hrest]
      exact runFewestOf_isSome hall hn
  | many p hp => exact hp.many
  | named p hp => exact hp.named
  | notAhead p hp => exact hp.notAhead
  | notAfter set =>
    apply meets_guard fun here => !here.before.any set
    · intro α next here
      rw [run]
      cases here.before.any set <;> rfl
    · intro here there
      simp [Reads]
  | wordEdge =>
    exact meets_guard (fun here => Text.isWordEdge here.before here.rest.head?) (fun _ _ => rfl) (fun _ _ => Iff.rfl)
  | atStart => exact meets_guard (fun here => here.before.isNone) (fun _ _ => rfl) (fun _ _ => Iff.rfl)
  | atEnd =>
    exact meets_guard (fun here => here.rest == [] || here.rest == ['\n']) (fun _ _ => rfl) (fun _ _ => Iff.rfl)

/-! ## What a reading takes up -/

theorem Reads.exists_past {p : Pattern} {here there : Place} (h : p.Reads here there) :
    ∃ t, here.rest = t ++ there.rest ∧ there.before = t.getLast?.or here.before := by
  induction p generalizing here there with
  | empty => exact ⟨[], by rw [show there = here from h]; exact ⟨rfl, rfl⟩⟩
  | one set =>
    obtain ⟨c, rest, hrest, -, rfl⟩ := h
    exact ⟨[c], hrest, rfl⟩
  | seq p q hp hq =>
    obtain ⟨mid, hmid, hthere⟩ := h
    obtain ⟨t, ht, hbefore⟩ := hp hmid
    obtain ⟨u, hu, hbefore'⟩ := hq hthere
    refine ⟨t ++ u, by rw [ht, hu, List.append_assoc], ?_⟩
    rw [hbefore', hbefore, List.getLast?_append, Option.or_assoc]
  | either p q hp hq =>
    cases h with
    | inl h => exact hp h
    | inr h => exact hq h
  | manyOf set =>
    obtain ⟨t, rest, hrest, -, rfl⟩ := h
    exact ⟨t, hrest, rfl⟩
  | fewestOf set =>
    obtain ⟨t, rest, hrest, -, rfl⟩ := h
    exact ⟨t, hrest, rfl⟩
  | many p hp =>
    induction h with
    | refl => exact ⟨[], rfl, rfl⟩
    | tail _ hstep ih =>
      obtain ⟨t, ht, hbefore⟩ := ih
      obtain ⟨u, hu, hbefore'⟩ := hp hstep.1
      refine ⟨t ++ u, by rw [ht, hu, List.append_assoc], ?_⟩
      rw [hbefore', hbefore, List.getLast?_append, Option.or_assoc]
  | named p hp =>
    obtain ⟨mid, hmid, rfl⟩ := h
    obtain ⟨t, ht, hbefore⟩ := hp hmid
    exact ⟨t, ht, hbefore⟩
  | notAhead p _ => exact ⟨[], by rw [h.1]; exact ⟨rfl, rfl⟩⟩
  | notAfter set => exact ⟨[], by rw [h.1]; exact ⟨rfl, rfl⟩⟩
  | wordEdge => exact ⟨[], by rw [h.1]; exact ⟨rfl, rfl⟩⟩
  | atStart => exact ⟨[], by rw [h.1]; exact ⟨rfl, rfl⟩⟩
  | atEnd => exact ⟨[], by rw [h.1]; exact ⟨rfl, rfl⟩⟩

theorem Reads.exists_append {p : Pattern} {here there : Place} (h : p.Reads here there) :
    ∃ t, here.rest = t ++ there.rest := by
  obtain ⟨t, ht, -⟩ := h.exists_past
  exact ⟨t, ht⟩

def EndsIn (p : Pattern) (c : Char) : Prop :=
  ∀ here there : Place, p.Reads here there → ∃ t, here.rest = t ++ c :: there.rest

theorem endsIn_char (c : Char) : (char c).EndsIn c := by
  intro here there h
  obtain ⟨d, rest, hrest, hd, rfl⟩ := h
  exact ⟨[], by rw [hrest, beq_iff_eq.mp hd]; rfl⟩

theorem EndsIn.seq {c : Char} {q : Pattern} (hq : q.EndsIn c) (p : Pattern) : (seq p q).EndsIn c := by
  intro here there ⟨mid, hmid, hthere⟩
  obtain ⟨t, ht⟩ := hmid.exists_append
  obtain ⟨u, hu⟩ := hq mid there hthere
  exact ⟨t ++ u, by rw [ht, hu, List.append_assoc]⟩

theorem endsIn_all {c : Char} : ∀ {ps : List Pattern} (hne : ps ≠ []), (ps.getLast hne).EndsIn c → (all ps).EndsIn c
  | [_], _, h => h
  | p :: q :: ps, _, h => (endsIn_all (List.cons_ne_nil q ps) h).seq p

/-! ## Searching a line -/

theorem searchFrom_cons (p : Pattern) (length : Nat) (before : Option Char) (c : Char) (line : Text) :
    p.searchFrom length before (c :: line) =
      (p.readingAt? length ⟨before, c :: line, none⟩).or (p.searchFrom length (some c) line) := by
  rw [searchFrom]
  cases p.readingAt? length ⟨before, c :: line, none⟩ <;> rfl

theorem exists_of_readingAt? {p : Pattern} {length : Nat} {here : Place} {reading : Reading}
    (h : p.readingAt? length here = some reading) :
    ∃ there, p.Reads here there ∧ reading = ⟨(there.name.map Stretch.text).getD [], length - there.rest.length⟩ := by
  obtain ⟨there, hread, hnext⟩ := (meets p).sound h
  exact ⟨there, hread, (Option.some.inj hnext).symm⟩

theorem not_reads_of_readingAt? {p : Pattern} {length : Nat} {here : Place} (h : p.readingAt? length here = none)
    (there : Place) : ¬ p.Reads here there := by
  intro hread
  have hsome : (p.readingAt? length here).isSome := (meets p).complete hread rfl
  rw [h] at hsome
  cases hsome

theorem exists_first_of_searchFrom {p : Pattern} {length : Nat} {reading : Reading} :
    ∀ {before : Option Char} {line : Text}, p.searchFrom length before line = some reading →
      ∃ skipped rest there, line = skipped ++ rest ∧ p.Reads ⟨skipped.getLast?.or before, rest, none⟩ there ∧
        reading = ⟨(there.name.map Stretch.text).getD [], length - there.rest.length⟩ ∧
        ∀ skipped' rest', line = skipped' ++ rest' → skipped'.length < skipped.length →
          ∀ there', ¬ p.Reads ⟨skipped'.getLast?.or before, rest', none⟩ there'
  | before, [], h => by
    obtain ⟨there, hread, hreading⟩ := exists_of_readingAt? h
    exact ⟨[], [], there, rfl, hread, hreading, fun _ _ _ hlt => absurd hlt (Nat.not_lt_zero _)⟩
  | before, c :: r, h => by
    rw [searchFrom_cons, Option.or_eq_some_iff] at h
    obtain hfound | ⟨hnone, h⟩ := h
    · obtain ⟨there, hread, hreading⟩ := exists_of_readingAt? hfound
      exact ⟨[], c :: r, there, rfl, hread, hreading, fun _ _ _ hlt => absurd hlt (Nat.not_lt_zero _)⟩
    · obtain ⟨skipped, rest, there, hline, hread, hreading, hfirst⟩ := exists_first_of_searchFrom h
      refine ⟨c :: skipped, rest, there, congrArg (c :: ·) hline, by rwa [getLast?_cons_or], hreading, ?_⟩
      intro skipped' rest' hline' hlt there'
      cases skipped' with
      | nil =>
        obtain rfl : c :: r = rest' := hline'
        exact not_reads_of_readingAt? hnone there'
      | cons d skipped' =>
        obtain ⟨rfl, htail⟩ := List.cons.inj hline'
        rw [getLast?_cons_or]
        exact hfirst skipped' rest' htail (Nat.lt_of_succ_lt_succ hlt) there'

/-- A search finds a reading that starts no later than any other. -/
theorem exists_first_of_search? {p : Pattern} {line : Text} {reading : Reading} (h : p.search? line = some reading) :
    ∃ skipped rest there, line = skipped ++ rest ∧ p.Reads ⟨skipped.getLast?, rest, none⟩ there ∧
      reading = ⟨(there.name.map Stretch.text).getD [], line.length - there.rest.length⟩ ∧
      ∀ skipped' rest', line = skipped' ++ rest' → skipped'.length < skipped.length →
        ∀ there', ¬ p.Reads ⟨skipped'.getLast?, rest', none⟩ there' := by
  obtain ⟨skipped, rest, there, hline, hread, hreading, hfirst⟩ := exists_first_of_searchFrom h
  simp only [Option.or_none] at hread hfirst
  exact ⟨skipped, rest, there, hline, hread, hreading, hfirst⟩

theorem exists_of_search? {p : Pattern} {line : Text} {reading : Reading} (h : p.search? line = some reading) :
    ∃ skipped rest there, line = skipped ++ rest ∧ p.Reads ⟨skipped.getLast?, rest, none⟩ there ∧
      reading = ⟨(there.name.map Stretch.text).getD [], line.length - there.rest.length⟩ := by
  obtain ⟨skipped, rest, there, hline, hread, hreading, -⟩ := exists_first_of_search? h
  exact ⟨skipped, rest, there, hline, hread, hreading⟩

theorem isSome_searchFrom {p : Pattern} (length : Nat) {rest : Text} {there : Place} :
    ∀ {skipped : Text} {before : Option Char}, p.Reads ⟨skipped.getLast?.or before, rest, none⟩ there →
      (p.searchFrom length before (skipped ++ rest)).isSome
  | [], before, h => by
    have hsome : (p.readingAt? length ⟨before, rest, none⟩).isSome := (meets p).complete h rfl
    cases rest with
    | nil => exact hsome
    | cons c rest =>
      rw [List.nil_append, searchFrom_cons, Option.isSome_or, hsome, Bool.true_or]
  | c :: skipped, before, h => by
    rw [getLast?_cons_or] at h
    rw [List.cons_append, searchFrom_cons, Option.isSome_or, isSome_searchFrom length h, Bool.or_true]

theorem isSome_search? {p : Pattern} {skipped rest : Text} {there : Place}
    (h : p.Reads ⟨skipped.getLast?, rest, none⟩ there) : (p.search? (skipped ++ rest)).isSome := by
  apply isSome_searchFrom
  rwa [Option.or_none]

theorem EndsIn.stop {p : Pattern} {c : Char} (hp : p.EndsIn c) {line : Text} {reading : Reading}
    (h : p.search? line = some reading) : ∃ before after, line = before ++ c :: after ∧ reading.stop = before.length + 1 := by
  obtain ⟨skipped, rest, there, rfl, hread, rfl⟩ := exists_of_search? h
  obtain ⟨t, ht⟩ := hp _ there hread
  refine ⟨skipped ++ t, there.rest, ?_, ?_⟩
  · rw [List.append_assoc, ← ht]
  · simp only at ht
    rw [ht]
    simp only [List.length_append, List.length_cons]
    omega

end Pattern
end CursorDoc
