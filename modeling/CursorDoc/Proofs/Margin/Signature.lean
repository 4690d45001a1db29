import CursorDoc.Proofs.Pattern
import CursorDoc.Proofs.Text.Margin
import CursorDoc.Signature

/-!
# Signatures behind a margin

Spaces and tabs in front of a line do not change whether it is a signature,
nor the name in it. The patterns either skip white space at the start of the
line or start with a character that is none; apart from that they only look
at the start of the line for its being no part of a word.
-/

namespace CursorDoc

open Text

namespace Pattern

/-! ## How readings start -/

def mayBeEmpty : Pattern → Bool
  | one _ => false
  | seq p q => p.mayBeEmpty && q.mayBeEmpty
  | either p q => p.mayBeEmpty || q.mayBeEmpty
  | named p => p.mayBeEmpty
  | _ => true

def mayStart (c : Char) : Pattern → Bool
  | one set => set c
  | seq p q => p.mayStart c || (p.mayBeEmpty && q.mayStart c)
  | either p q => p.mayStart c || q.mayStart c
  | manyOf set => set c
  | fewestOf set => set c
  | many p => p.mayStart c
  | named p => p.mayStart c
  | _ => false

def StartsAs (p : Pattern) (here there : Place) : Prop :=
  (there.rest = here.rest ∧ p.mayBeEmpty = true) ∨ ∃ c rest, here.rest = c :: rest ∧ p.mayStart c = true

theorem startsAs_run {p : Pattern} {set : CharSet} (hempty : p.mayBeEmpty = true)
    (hstart : ∀ c, p.mayStart c = set c) {here there : Place} (h : ReadsRun set here there) : p.StartsAs here there := by
  obtain ⟨t, rest, hrest, hall, rfl⟩ := h
  cases t with
  | nil => exact .inl ⟨hrest.symm, hempty⟩
  | cons c t => exact .inr ⟨c, t ++ rest, hrest, by rw [hstart, hall c (by simp)]⟩

theorem Reads.startsAs {p : Pattern} {here there : Place} (h : p.Reads here there) : p.StartsAs here there := by
  induction p generalizing here there with
  | empty => exact .inl ⟨congrArg Place.rest h, rfl⟩
  | one set =>
    obtain ⟨c, rest, hrest, hc, -⟩ := h
    exact .inr ⟨c, rest, hrest, hc⟩
  | seq p q hp hq =>
    obtain ⟨mid, hmid, hthere⟩ := h
    obtain ⟨hsame, hempty⟩ | ⟨c, rest, hrest, hc⟩ := hp hmid
    · obtain ⟨hsame', hempty'⟩ | ⟨c, rest, hrest, hc⟩ := hq hthere
      · exact .inl ⟨hsame'.trans hsame, by simp [mayBeEmpty, hempty, hempty']⟩
      · exact .inr ⟨c, rest, hsame ▸ hrest, by simp [mayStart, hempty, hc]⟩
    · exact .inr ⟨c, rest, hrest, by simp [mayStart, hc]⟩
  | either p q hp hq =>
    cases h with
    | inl h =>
      obtain ⟨hsame, hempty⟩ | ⟨c, rest, hrest, hc⟩ := hp h
      · exact .inl ⟨hsame, by simp [mayBeEmpty, hempty]⟩
      · exact .inr ⟨c, rest, hrest, by simp [mayStart, hc]⟩
    | inr h =>
      obtain ⟨hsame, hempty⟩ | ⟨c, rest, hrest, hc⟩ := hq h
      · exact .inl ⟨hsame, by simp [mayBeEmpty, hempty]⟩
      · exact .inr ⟨c, rest, hrest, by simp [mayStart, hc]⟩
  | manyOf set => exact startsAs_run rfl (fun _ => rfl) h
  | fewestOf set => exact startsAs_run rfl (fun _ => rfl) h
  | many p hp =>
    -- the first stretch of the run is not empty, so it shows what the run starts with
    cases h.cases_head with
    | inl heq => exact .inl ⟨by rw [heq], rfl⟩
    | inr hstep =>
      obtain ⟨mid, ⟨hmid, hlt⟩, -⟩ := hstep
      obtain ⟨hsame, -⟩ | hstart := hp hmid
      · rw [hsame] at hlt
        exact absurd hlt (Nat.lt_irrefl _)
      · exact .inr hstart
  | named p hp =>
    obtain ⟨mid, hmid, rfl⟩ := h
    have hstart := hp hmid
    exact hstart
  | notAhead p _ => exact .inl ⟨congrArg Place.rest h.1, rfl⟩
  | notAfter set => exact .inl ⟨congrArg Place.rest h.1, rfl⟩
  | wordEdge => exact .inl ⟨congrArg Place.rest h.1, rfl⟩
  | atStart => exact .inl ⟨congrArg Place.rest h.1, rfl⟩
  | atEnd => exact .inl ⟨congrArg Place.rest h.1, rfl⟩

def startsInside (p : Pattern) : Bool := !p.mayBeEmpty && !p.mayStart ' ' && !p.mayStart '\t'

theorem run_of_margin {α : Type} {p : Pattern} (hp : p.startsInside = true) {next : Place → Option α} {here : Place}
    {c : Char} {rest : Text} (hrest : here.rest = c :: rest) (hc : isMarginChar c = true) : p.run next here = none := by
  cases hrun : p.run next here with
  | none => rfl
  | some a =>
    obtain ⟨there, hread, -⟩ := (meets p).sound hrun
    unfold startsInside at hp
    simp only [Bool.and_eq_true, Bool.not_eq_true'] at hp
    obtain ⟨-, hempty⟩ | ⟨d, rest', hrest', hd⟩ := hread.startsAs
    · rw [hp.1.1] at hempty
      cases hempty
    · obtain ⟨rfl, -⟩ := List.cons.inj (hrest.symm.trans hrest')
      obtain rfl | rfl := isMarginChar_iff.mp hc
      · rw [hp.1.2] at hd
        cases hd
      · rw [hp.2] at hd
        cases hd

/-! ## What comes before a place -/

def SameEdge (before before' : Option Char) : Prop :=
  before = before' ∨ (before = none ∧ ∃ c, before' = some c ∧ isMarginChar c = true)

structure SamePlace (a b : Place) : Prop where
  rest : a.rest = b.rest
  name : a.name = b.name
  before : SameEdge a.before b.before

/-- The shape looks at what is before a place only for its being part of a word. -/
def ignoresMargin : Pattern → Bool
  | seq p q => p.ignoresMargin && q.ignoresMargin
  | either p q => p.ignoresMargin && q.ignoresMargin
  | many p => p.ignoresMargin
  | named p => p.ignoresMargin
  | notAhead p => p.ignoresMargin
  | notAfter set => !set ' ' && !set '\t'
  | atStart => false
  | _ => true

section
variable {α β γ : Type} {f : α → γ} {g : β → γ}

/-- The two continuations agree, up to `f` and `g`, wherever the two places agree. -/
def SameNext (f : α → γ) (g : β → γ) (next : Place → Option α) (next' : Place → Option β) : Prop :=
  ∀ a b, SamePlace a b → (next a).map f = (next' b).map g

theorem map_firstOf {o : Option α} {o' : Option β} {k : Option α} {k' : Option β} (ho : o.map f = o'.map g)
    (hk : k.map f = k'.map g) :
    (match o with | some a => some a | none => k).map f = (match o' with | some b => some b | none => k').map g := by
  cases o with
  | none =>
    cases o' with
    | none => exact hk
    | some b => cases ho
  | some a =>
    cases o' with
    | none => cases ho
    | some b => exact ho

variable {next : Place → Option α} {next' : Place → Option β} (hnext : SameNext f g next next')
include hnext

theorem runManyOf_sameNext (set : CharSet) (name : Option Stretch) {before before' : Option Char}
    (hbefore : SameEdge before before') (t : Text) :
    (runManyOf set next name before t).map f = (runManyOf set next' name before' t).map g := by
  induction t generalizing before before' with
  | nil => exact hnext _ _ ⟨rfl, rfl, hbefore⟩
  | cons c r ih =>
    have hhere := hnext ⟨before, c :: r, name⟩ ⟨before', c :: r, name⟩ ⟨rfl, rfl, hbefore⟩
    simp only [runManyOf]
    split
    · exact map_firstOf (ih (.inl rfl)) hhere
    · exact hhere

theorem runFewestOf_sameNext (set : CharSet) (name : Option Stretch) {before before' : Option Char}
    (hbefore : SameEdge before before') (t : Text) :
    (runFewestOf set next name before t).map f = (runFewestOf set next' name before' t).map g := by
  induction t generalizing before before' with
  | nil => exact hnext _ _ ⟨rfl, rfl, hbefore⟩
  | cons c r ih =>
    have hhere := hnext ⟨before, c :: r, name⟩ ⟨before', c :: r, name⟩ ⟨rfl, rfl, hbefore⟩
    simp only [runFewestOf]
    apply map_firstOf hhere
    split
    · exact ih (.inl rfl)
    · rfl

end

theorem isWordEdge_of_sameEdge {before before' : Option Char} (h : SameEdge before before') (after : Option Char) :
    isWordEdge before after = isWordEdge before' after := by
  obtain rfl | ⟨rfl, c, rfl, hc⟩ := h
  · rfl
  · have hword : isWordChar c = false := by obtain rfl | rfl := isMarginChar_iff.mp hc <;> decide +kernel
    unfold isWordEdge
    simp [hword]

theorem any_of_sameEdge {set : CharSet} (hset : (!set ' ' && !set '\t') = true) {before before' : Option Char}
    (h : SameEdge before before') : before.any set = before'.any set := by
  obtain rfl | ⟨rfl, c, rfl, hc⟩ := h
  · rfl
  · rw [Bool.and_eq_true, Bool.not_eq_true', Bool.not_eq_true'] at hset
    obtain rfl | rfl := isMarginChar_iff.mp hc
    · simp [hset.1]
    · simp [hset.2]

/-- Readings do not depend on whether they start at the start of the text or behind a margin. -/
theorem run_sameNext {p : Pattern} (hp : p.ignoresMargin = true) {α β γ : Type} {f : α → γ} {g : β → γ}
    {next : Place → Option α} {next' : Place → Option β} (hnext : SameNext f g next next') :
    SameNext f g (p.run next) (p.run next') := by
  induction p generalizing α β γ with
  | empty => exact hnext
  | one set =>
    intro a b hab
    simp only [run, hab.rest]
    split
    · rfl
    · split
      · exact hnext _ _ ⟨rfl, hab.name, .inl rfl⟩
      · rfl
  | seq p q ihp ihq =>
    rw [ignoresMargin, Bool.and_eq_true] at hp
    exact ihp hp.1 (ihq hp.2 hnext)
  | either p q ihp ihq =>
    rw [ignoresMargin, Bool.and_eq_true] at hp
    intro a b hab
    exact map_firstOf (ihp hp.1 hnext a b hab) (ihq hp.2 hnext a b hab)
  | manyOf set =>
    intro a b hab
    simp only [run, hab.rest, hab.name]
    exact runManyOf_sameNext hnext set _ hab.before _
  | fewestOf set =>
    intro a b hab
    simp only [run, hab.rest, hab.name]
    exact runFewestOf_sameNext hnext set _ hab.before _
  | many p ih =>
    intro a b hab
    simp only [run, hab.rest]
    generalize b.rest.length = limit
    induction limit generalizing a b with
    | zero => exact hnext a b hab
    | succ limit ihlimit =>
      simp only [runMany]
      apply map_firstOf _ (hnext a b hab)
      apply ih hp _ a b hab
      intro c d hcd
      simp only [hab.rest, hcd.rest]
      split
      · exact ihlimit c d hcd
      · rfl
  | named p ih =>
    intro a b hab
    apply ih hp _ a b hab
    intro c d hcd
    exact hnext _ _ ⟨hcd.rest, by rw [hab.rest, hcd.rest], hcd.before⟩
  | notAhead p ih =>
    intro a b hab
    have hahead := @ih hp Unit Unit Unit id id (fun _ => some ()) (fun _ => some ()) (fun _ _ _ => rfl) a b hab
    rw [Option.map_id, id, id] at hahead
    simp only [run, hahead]
    split
    · rfl
    · exact hnext a b hab
  | notAfter set =>
    intro a b hab
    simp only [run, any_of_sameEdge hp hab.before]
    split
    · rfl
    · exact hnext a b hab
  | wordEdge =>
    intro a b hab
    simp only [run, hab.rest, isWordEdge_of_sameEdge hab.before]
    split
    · exact hnext a b hab
    · rfl
  | atStart => cases hp
  | atEnd =>
    intro a b hab
    simp only [run, hab.rest]
    split
    · exact hnext a b hab
    · rfl

/-! ## Lines behind a margin -/

section
variable {p : Pattern} {w : Text} (hw : w.all isMarginChar = true)

theorem map_name_readingAt? (hp : p.ignoresMargin = true) (n n' : Nat) {a b : Place} (hab : SamePlace a b) :
    (p.readingAt? n a).map Reading.name = (p.readingAt? n' b).map Reading.name := by
  apply run_sameNext hp _ a b hab
  intro c d hcd
  simp only [Option.map_some, hcd.name]

theorem map_name_searchFrom (hp : p.ignoresMargin = true) (n n' : Nat) {before before' : Option Char}
    (hbefore : SameEdge before before') (line : Text) :
    (p.searchFrom n before line).map Reading.name = (p.searchFrom n' before' line).map Reading.name := by
  induction line generalizing before before' with
  | nil => exact map_name_readingAt? hp n n' ⟨rfl, rfl, hbefore⟩
  | cons c line ih =>
    have hplace : SamePlace ⟨before, c :: line, none⟩ ⟨before', c :: line, none⟩ := ⟨rfl, rfl, hbefore⟩
    have hrest := @ih (some c) (some c) (.inl rfl)
    rw [searchFrom_cons, searchFrom_cons, Option.map_or, Option.map_or, map_name_readingAt? hp n n' hplace, hrest]

include hw

theorem sameEdge_margin {before : Option Char} (h : SameEdge none before) : SameEdge none (w.getLast?.or before) := by
  cases hlast : w.getLast? with
  | none => exact h
  | some c => exact .inr ⟨rfl, c, rfl, List.all_eq_true.mp hw c (List.mem_of_getLast? hlast)⟩

theorem searchFrom_margin (hp : p.startsInside = true) (n : Nat) (before : Option Char) (line : Text) :
    p.searchFrom n before (w ++ line) = p.searchFrom n (w.getLast?.or before) line := by
  induction w generalizing before with
  | nil => rfl
  | cons c w ih =>
    rw [List.all_cons, Bool.and_eq_true] at hw
    have hnone : p.readingAt? n ⟨before, c :: (w ++ line), none⟩ = none := run_of_margin hp rfl hw.1
    rw [List.cons_append, searchFrom_cons, hnone, Option.none_or, getLast?_cons_or]
    exact ih hw.2 (some c)

/-- The name in a line is found behind a margin. -/
theorem map_name_search?_of_startsInside (hp : p.ignoresMargin = true) (hstart : p.startsInside = true) (line : Text) :
    (p.search? (w ++ line)).map Reading.name = (p.search? line).map Reading.name := by
  unfold search?
  rw [searchFrom_margin hw hstart]
  exact (map_name_searchFrom hp _ _ (sameEdge_margin hw (.inl rfl)) line).symm

/-! ## Shapes that start their line -/

omit hw in
theorem searchFrom_atStart (n : Nat) (c : Char) (line : Text) : (seq atStart p).searchFrom n (some c) line = none := by
  induction line generalizing c with
  | nil => rfl
  | cons d line ih =>
    rw [searchFrom_cons, ih d]
    rfl

omit hw in
theorem search?_atStart (line : Text) :
    (seq atStart p).search? line = p.readingAt? line.length ⟨none, line, none⟩ := by
  unfold search?
  cases line with
  | nil => rfl
  | cons c line =>
    rw [searchFrom_cons, searchFrom_atStart, Option.or_none]
    rfl

theorem runManyOf_margin {α : Type} {next : Place → Option α} (hp : p.startsInside = true) (before : Option Char)
    (name : Option Stretch) (line : Text) :
    runManyOf isSpace (p.run next) name before (w ++ line) =
      runManyOf isSpace (p.run next) name (w.getLast?.or before) line := by
  induction w generalizing before with
  | nil => rfl
  | cons c w ih =>
    rw [List.all_cons, Bool.and_eq_true] at hw
    have hnone : p.run next ⟨before, c :: (w ++ line), name⟩ = none := run_of_margin hp rfl hw.1
    rw [List.cons_append, runManyOf, if_pos (isSpace_of_isMarginChar hw.1), hnone, getLast?_cons_or, ← ih hw.2 (some c)]
    cases runManyOf isSpace (p.run next) name (some c) (w ++ line) <;> rfl

/-- The name in a line that starts with white space is found behind a margin. -/
theorem map_name_search?_of_gap (hp : p.ignoresMargin = true) (hstart : p.startsInside = true) (line : Text) :
    ((seq atStart (seq Signature.gap p)).search? (w ++ line)).map Reading.name =
      ((seq atStart (seq Signature.gap p)).search? line).map Reading.name := by
  rw [search?_atStart, search?_atStart]
  unfold readingAt?
  simp only [run, Signature.gap]
  rw [runManyOf_margin hw hstart]
  refine (runManyOf_sameNext ?_ isSpace none (sameEdge_margin hw (.inl rfl)) line).symm
  apply run_sameNext hp
  intro a b hab
  simp only [Option.map_some, hab.name]

end

end Pattern

/-! ## Signatures -/

namespace Signature

theorem margin_of_mem_scriptPatterns {p : Pattern} (h : p ∈ scriptPatterns) :
    p.ignoresMargin = true ∧ p.startsInside = true := by
  have hall : scriptPatterns.all (fun p => p.ignoresMargin && p.startsInside) = true := by decide +kernel
  have hp := List.all_eq_true.mp hall p h
  rwa [Bool.and_eq_true] at hp

theorem margin_genericCall : genericCall.ignoresMargin = true ∧ genericCall.startsInside = true := by decide +kernel

theorem exists_pythonDefinition : ∃ p : Pattern, pythonDefinition = .seq .atStart (.seq gap p) ∧
    p.ignoresMargin = true ∧ p.startsInside = true := ⟨_, rfl, by decide +kernel, by decide +kernel⟩

theorem exists_cFamilyDefinition : ∃ p : Pattern, cFamilyDefinition = .seq .atStart (.seq gap p) ∧
    p.ignoresMargin = true ∧ p.startsInside = true := ⟨_, rfl, by decide +kernel, by decide +kernel⟩

end Signature

theorem map_name_findSome? {line line' : Text} : ∀ {ps : List Pattern},
    (∀ p ∈ ps, (p.search? line').map Reading.name = (p.search? line).map Reading.name) →
    (ps.findSome? (·.search? line')).map Reading.name = (ps.findSome? (·.search? line)).map Reading.name
  | [], _ => rfl
  | p :: ps, h => by
    have ih := map_name_findSome? fun q hq => h q (List.mem_cons_of_mem p hq)
    simp only [List.findSome?_cons]
    exact Pattern.map_firstOf (h p (by simp)) ih

section
variable {w : Text} (hw : w.all isMarginChar = true)
include hw

theorem map_name_search?_margin {family : Family} {p : Pattern} (hp : p ∈ family.patterns) (line : Text) :
    (p.search? (w ++ line)).map Reading.name = (p.search? line).map Reading.name := by
  cases family with
  | script =>
    obtain ⟨hmargin, hstart⟩ := Signature.margin_of_mem_scriptPatterns hp
    exact Pattern.map_name_search?_of_startsInside hw hmargin hstart line
  | generic =>
    obtain rfl := List.mem_singleton.mp hp
    obtain ⟨hmargin, hstart⟩ := Signature.margin_genericCall
    exact Pattern.map_name_search?_of_startsInside hw hmargin hstart line
  | python =>
    obtain rfl := List.mem_singleton.mp hp
    obtain ⟨q, hq, hmargin, hstart⟩ := Signature.exists_pythonDefinition
    rw [hq]
    exact Pattern.map_name_search?_of_gap hw hmargin hstart line
  | cFamily =>
    obtain rfl := List.mem_singleton.mp hp
    obtain ⟨q, hq, hmargin, hstart⟩ := Signature.exists_cFamilyDefinition
    rw [hq]
    exact Pattern.map_name_search?_of_gap hw hmargin hstart line

/-- **A margin hides no signature.** A line is a signature behind spaces and tabs if it is one without them, and has
the same name. -/
theorem signatureName?_margin (family : Family) (line : Text) :
    family.signatureName? (w ++ line) = family.signatureName? line :=
  map_name_findSome? fun _ hp => map_name_search?_margin hw hp line

end

end CursorDoc
