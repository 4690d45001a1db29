import CursorDoc.Proofs.Pattern

/-!
# What patterns spell

Most shapes can be read over the same texts wherever they stand: a run of
characters, a word, a parameter list. Such a shape spells a set of texts, and
shapes put together of them spell what the parts spell. Only shapes that look
at what is around them spell nothing.
-/

namespace CursorDoc

/-! ## Places further on -/

@[simp] theorem Place.rest_past (here : Place) (t rest : Text) : (here.past t rest).rest = rest := rfl

@[simp] theorem Place.name_past (here : Place) (t rest : Text) : (here.past t rest).name = here.name := rfl

theorem Place.past_past (here : Place) (t u mid rest : Text) : (here.past t mid).past u rest = here.past (t ++ u) rest := by
  unfold Place.past
  rw [List.getLast?_append, Option.or_assoc]

/-- The place is one of the line: what is before it and what follows make up the line. -/
def Place.StandsIn (here : Place) (line : Text) : Prop :=
  ∃ before, line = before ++ here.rest ∧ here.before = before.getLast?

namespace Pattern

theorem Reads.standsIn {p : Pattern} {here there : Place} (h : p.Reads here there) {line : Text}
    (hline : here.StandsIn line) : there.StandsIn line := by
  obtain ⟨t, ht, hbefore⟩ := h.exists_past
  obtain ⟨before, rfl, hlast⟩ := hline
  refine ⟨before ++ t, by rw [ht, List.append_assoc], ?_⟩
  rw [hbefore, hlast, List.getLast?_append]

/-- The shape is read over the texts with the property, wherever they stand, and over no others. -/
def Spells (p : Pattern) (spelled : Text → Prop) : Prop :=
  ∀ here there : Place, p.Reads here there ↔ ∃ t rest, here.rest = t ++ rest ∧ spelled t ∧ there = here.past t rest

section
variable {p q : Pattern} {K L : Text → Prop}

theorem Spells.congr (hp : p.Spells K) (h : ∀ t, K t ↔ L t) : p.Spells L := by
  rwa [funext fun t => propext (h t)] at hp

theorem Spells.exists_reads (hp : p.Spells K) {here : Place} {t rest : Text} (hrest : here.rest = t ++ rest) (ht : K t) :
    ∃ there, p.Reads here there ∧ there.rest = rest :=
  ⟨here.past t rest, (hp _ _).mpr ⟨t, rest, hrest, ht, rfl⟩, rfl⟩

theorem spells_empty : empty.Spells (· = []) := by
  intro here there
  constructor
  · intro h
    exact ⟨[], here.rest, rfl, rfl, h⟩
  · rintro ⟨t, rest, hrest, rfl, rfl⟩
    obtain rfl : here.rest = rest := hrest
    rfl

theorem spells_one (set : CharSet) : (one set).Spells fun t => ∃ c, t = [c] ∧ set c = true := by
  intro here there
  constructor
  · rintro ⟨c, rest, hrest, hc, rfl⟩
    exact ⟨[c], rest, hrest, ⟨c, rfl, hc⟩, rfl⟩
  · rintro ⟨_, rest, hrest, ⟨c, rfl, hc⟩, rfl⟩
    exact ⟨c, rest, hrest, hc, rfl⟩

theorem spells_manyOf (set : CharSet) : (manyOf set).Spells fun t => ∀ c ∈ t, set c = true := fun _ _ => Iff.rfl

theorem spells_fewestOf (set : CharSet) : (fewestOf set).Spells fun t => ∀ c ∈ t, set c = true := fun _ _ => Iff.rfl

theorem Spells.seq (hp : p.Spells K) (hq : q.Spells L) : (seq p q).Spells fun t => ∃ u v, t = u ++ v ∧ K u ∧ L v := by
  intro here there
  constructor
  · rintro ⟨mid, hmid, hthere⟩
    obtain ⟨u, _, hu, hK, rfl⟩ := (hp here mid).mp hmid
    obtain ⟨v, rest, hv, hL, rfl⟩ := (hq _ there).mp hthere
    refine ⟨u ++ v, rest, ?_, ⟨u, v, rfl, hK, hL⟩, Place.past_past ..⟩
    rw [hu, List.append_assoc]
    exact congrArg (u ++ ·) hv
  · rintro ⟨_, rest, hrest, ⟨u, v, rfl, hK, hL⟩, rfl⟩
    rw [List.append_assoc] at hrest
    refine ⟨here.past u (v ++ rest), (hp _ _).mpr ⟨u, v ++ rest, hrest, hK, rfl⟩, (hq _ _).mpr ?_⟩
    exact ⟨v, rest, rfl, hL, (Place.past_past ..).symm⟩

theorem Spells.either (hp : p.Spells K) (hq : q.Spells L) : (either p q).Spells fun t => K t ∨ L t := by
  intro here there
  constructor
  · intro h
    cases h with
    | inl h =>
      obtain ⟨t, rest, hrest, hK, hthere⟩ := (hp here there).mp h
      exact ⟨t, rest, hrest, .inl hK, hthere⟩
    | inr h =>
      obtain ⟨t, rest, hrest, hL, hthere⟩ := (hq here there).mp h
      exact ⟨t, rest, hrest, .inr hL, hthere⟩
  · rintro ⟨t, rest, hrest, hK | hL, hthere⟩
    · exact .inl ((hp here there).mpr ⟨t, rest, hrest, hK, hthere⟩)
    · exact .inr ((hq here there).mpr ⟨t, rest, hrest, hL, hthere⟩)

theorem Spells.optional (hp : p.Spells K) : (optional p).Spells fun t => K t ∨ t = [] := hp.either spells_empty

/-- A part that may be left out, and that starts with a mark otherwise. -/
theorem Spells.optional_seq {mark : Text} (hp : p.Spells (· = mark)) (hq : q.Spells L) :
    (Pattern.optional (Pattern.seq p q)).Spells fun t => t = [] ∨ ∃ u, t = mark ++ u ∧ L u := by
  apply (hp.seq hq).optional.congr
  intro t
  constructor
  · rintro (⟨_, u, rfl, rfl, hu⟩ | rfl)
    · exact .inr ⟨u, rfl, hu⟩
    · exact .inl rfl
  · rintro (rfl | ⟨u, rfl, hu⟩)
    · exact .inr rfl
    · exact .inl ⟨_, u, rfl, rfl, hu⟩

theorem Spells.many (hp : p.Spells K) (hne : ∀ t, K t → t ≠ []) :
    (many p).Spells fun t => ∃ ts : List Text, t = ts.flatten ∧ ∀ u ∈ ts, K u := by
  intro here there
  constructor
  · intro h
    replace h : Relation.ReflTransGen _ here there := h
    induction h using Relation.ReflTransGen.head_induction_on with
    | refl => exact ⟨[], there.rest, rfl, ⟨[], rfl, by simp⟩, rfl⟩
    | head hstep _ ih =>
      obtain ⟨u, _, hu, hK, rfl⟩ := (hp _ _).mp hstep.1
      obtain ⟨_, rest, hrest, ⟨ts, rfl, hts⟩, rfl⟩ := ih
      rw [Place.rest_past] at hrest
      refine ⟨_, rest, ?_, ⟨u :: ts, rfl, List.forall_mem_cons.mpr ⟨hK, hts⟩⟩, Place.past_past ..⟩
      rw [hu, hrest, List.flatten_cons, List.append_assoc]
  · rintro ⟨_, rest, hrest, ⟨ts, rfl, hts⟩, rfl⟩
    induction ts generalizing here with
    | nil =>
      obtain rfl : here.rest = rest := hrest
      exact Relation.ReflTransGen.refl
    | cons u ts ih =>
      obtain ⟨hK, hts⟩ := List.forall_mem_cons.mp hts
      rw [List.flatten_cons, List.append_assoc] at hrest
      have hstep := (hp here _).mpr ⟨u, ts.flatten ++ rest, hrest, hK, rfl⟩
      have hlt : (here.past u (ts.flatten ++ rest)).rest.length < here.rest.length := by
        have hpos := List.length_pos_iff.mpr (hne u hK)
        rw [hrest, Place.rest_past]
        simp only [List.length_append]
        omega
      have hrun := ih (here.past u (ts.flatten ++ rest)) hts rfl
      rw [Place.past_past] at hrun
      exact Relation.ReflTransGen.head ⟨hstep, hlt⟩ hrun

/-! ## Lists of shapes -/

theorem reads_all_cons {ps : List Pattern} {here there : Place} :
    (all (p :: ps)).Reads here there ↔ ∃ mid, p.Reads here mid ∧ (all ps).Reads mid there := by
  cases ps with
  | nil =>
    constructor
    · intro h
      exact ⟨there, h, rfl⟩
    · rintro ⟨mid, hmid, rfl⟩
      exact hmid
  | cons q ps => exact Iff.rfl

theorem reads_all_append {qs : List Pattern} : ∀ (ps : List Pattern) {here there : Place},
    (all (ps ++ qs)).Reads here there ↔ ∃ mid, (all ps).Reads here mid ∧ (all qs).Reads mid there
  | [], here, there => by
    constructor
    · intro h
      exact ⟨here, rfl, h⟩
    · rintro ⟨mid, rfl, h⟩
      exact h
  | p :: ps, here, there => by
    simp only [List.cons_append, reads_all_cons, reads_all_append]
    constructor
    · rintro ⟨mid, hp, mid', hps, hqs⟩
      exact ⟨mid', ⟨mid, hp, hps⟩, hqs⟩
    · rintro ⟨mid', ⟨mid, hp, hps⟩, hqs⟩
      exact ⟨mid, hp, mid', hps, hqs⟩

theorem Spells.cons {ps : List Pattern} (hp : p.Spells K) (hps : (all ps).Spells L) :
    (all (p :: ps)).Spells fun t => ∃ u v, t = u ++ v ∧ K u ∧ L v :=
  fun here there => reads_all_cons.trans (hp.seq hps here there)

theorem reads_first_iff : ∀ {ps : List Pattern} {here there : Place},
    (first ps).Reads here there ↔ ∃ p ∈ ps, p.Reads here there
  | [], here, there => by
    constructor
    · intro h
      exact absurd rfl (h.2 here)
    · simp
  | [p], here, there => by simp [first]
  | p :: q :: ps, here, there => by
    have ih := @reads_first_iff (q :: ps) here there
    simp only [first, Reads, ih, List.mem_cons, exists_eq_or_imp]

end

/-! ## Common shapes -/

theorem spells_someOf (set : CharSet) : (someOf set).Spells fun t => t ≠ [] ∧ ∀ c ∈ t, set c = true := by
  apply ((spells_one set).seq (spells_manyOf set)).congr
  intro t
  constructor
  · rintro ⟨_, v, rfl, ⟨c, rfl, hc⟩, hv⟩
    exact ⟨List.cons_ne_nil c v, List.forall_mem_cons.mpr ⟨hc, hv⟩⟩
  · rintro ⟨hne, hall⟩
    obtain ⟨c, v, rfl⟩ := List.exists_cons_of_ne_nil hne
    obtain ⟨hc, hv⟩ := List.forall_mem_cons.mp hall
    exact ⟨[c], v, rfl, ⟨c, rfl, hc⟩, hv⟩

theorem spells_char (c : Char) : (char c).Spells (· = [c]) := by
  apply (spells_one (· == c)).congr
  intro t
  simp

theorem spells_letters : ∀ letters : List Char, (all (letters.map char)).Spells (· = letters)
  | [] => spells_empty
  | c :: letters => by
    apply ((spells_char c).cons (spells_letters letters)).congr
    intro t
    simp

theorem spells_word (w : String) : (word w).Spells (· = w.toList) := spells_letters w.toList

theorem spells_oneWord (words : List String) : (oneWord words).Spells fun t => ∃ w ∈ words, t = w.toList := by
  intro here there
  unfold oneWord
  rw [reads_first_iff]
  constructor
  · rintro ⟨p, hp, hread⟩
    obtain ⟨w, hw, rfl⟩ := List.mem_map.mp hp
    obtain ⟨t, rest, hrest, ht, hthere⟩ := (spells_word w here there).mp hread
    exact ⟨t, rest, hrest, ⟨w, hw, ht⟩, hthere⟩
  · rintro ⟨t, rest, hrest, ⟨w, hw, ht⟩, hthere⟩
    exact ⟨word w, List.mem_map_of_mem hw, (spells_word w here there).mpr ⟨t, rest, hrest, ht, hthere⟩⟩

/-- What was read last before a place behind a run. -/
theorem exists_before_of_someOf {set : CharSet} {here there : Place} (h : (someOf set).Reads here there) :
    ∃ c, there.before = some c ∧ set c = true := by
  obtain ⟨t, rest, -, ⟨hne, hall⟩, rfl⟩ := (spells_someOf set here there).mp h
  obtain ⟨c, hc⟩ := Option.isSome_iff_exists.mp (List.getLast?_isSome.mpr hne)
  refine ⟨c, ?_, hall c (List.mem_of_getLast? hc)⟩
  unfold Place.past
  rw [hc]
  rfl

/-! ## Names -/

theorem text_append (t rest : Text) : Stretch.text ⟨t ++ rest, rest⟩ = t := by simp [Stretch.text]

theorem reads_named_iff {p : Pattern} {N : Text → Prop} (hp : p.Spells N) {here there : Place} :
    (named p).Reads here there ↔ ∃ t rest, here.rest = t ++ rest ∧ N t ∧
      there = { here.past t rest with name := some ⟨t ++ rest, rest⟩ } := by
  constructor
  · rintro ⟨mid, hmid, rfl⟩
    obtain ⟨t, rest, hrest, ht, rfl⟩ := (hp here mid).mp hmid
    refine ⟨t, rest, hrest, ht, ?_⟩
    rw [hrest]
    rfl
  · rintro ⟨t, rest, hrest, ht, rfl⟩
    refine ⟨here.past t rest, (hp _ _).mpr ⟨t, rest, hrest, ht, rfl⟩, ?_⟩
    rw [hrest]
    rfl

theorem exists_reads_named {p : Pattern} {N : Text → Prop} (hp : p.Spells N) {here : Place} {t rest : Text}
    (hrest : here.rest = t ++ rest) (ht : N t) : ∃ there, (named p).Reads here there ∧ there.rest = rest :=
  ⟨_, (reads_named_iff hp).mpr ⟨t, rest, hrest, ht, rfl⟩, rfl⟩

def isUnnamed : Pattern → Bool
  | seq p q => p.isUnnamed && q.isUnnamed
  | either p q => p.isUnnamed && q.isUnnamed
  | many p => p.isUnnamed
  | named _ => false
  | _ => true

theorem Reads.name_eq {p : Pattern} (hp : p.isUnnamed = true) {here there : Place} (h : p.Reads here there) :
    there.name = here.name := by
  induction p generalizing here there with
  | empty => exact congrArg Place.name h
  | one set =>
    obtain ⟨c, rest, -, -, rfl⟩ := h
    rfl
  | seq p q ihp ihq =>
    rw [isUnnamed, Bool.and_eq_true] at hp
    obtain ⟨mid, hmid, hthere⟩ := h
    rw [ihq hp.2 hthere, ihp hp.1 hmid]
  | either p q ihp ihq =>
    rw [isUnnamed, Bool.and_eq_true] at hp
    cases h with
    | inl h => exact ihp hp.1 h
    | inr h => exact ihq hp.2 h
  | manyOf set =>
    obtain ⟨t, rest, -, -, rfl⟩ := h
    rfl
  | fewestOf set =>
    obtain ⟨t, rest, -, -, rfl⟩ := h
    rfl
  | many p ih =>
    induction h with
    | refl => rfl
    | tail _ hstep ihstep => rw [ih hp hstep.1, ihstep]
  | named p _ => cases hp
  | notAhead p _ => rw [h.1]
  | notAfter set => rw [h.1]
  | wordEdge => rw [h.1]
  | atStart => rw [h.1]
  | atEnd => rw [h.1]

end Pattern
end CursorDoc
