import CursorDoc.Proofs.Signature.Call

/-!
# Definitions of Python

The signatures of Python are exactly the lines with the parts of a definition.
A line can have these parts in many ways, as a colon may stand in parameters,
in a result and behind it, but all of them have the same name.
-/

namespace CursorDoc

open Text Pattern Signature

def IsAsync (t : Text) : Prop := t = [] ∨ ∃ w, t = "async".toList ++ w ∧ w ≠ [] ∧ isBlank w = true

def IsResult (t : Text) : Prop := t = [] ∨ ∃ u, t = "->".toList ++ u ∧ '\n' ∉ u

structure Definition (line : Text) where
  margin : Text
  async : Text
  space : Text
  name : Text
  blank : Text
  params : Text
  gap : Text
  result : Text
  rest : Text
  line_eq : line = margin ++ async ++ "def".toList ++ space ++ name ++ blank ++ ['('] ++ params ++ [')'] ++ gap ++
    result ++ [':'] ++ rest
  margin_blank : isBlank margin = true
  async_isAsync : IsAsync async
  space_ne_nil : space ≠ []
  space_blank : isBlank space = true
  name_ne_nil : name ≠ []
  name_all : ∀ c ∈ name, isNameChar c = true
  blank_blank : isBlank blank = true
  params_open : ')' ∉ params
  gap_blank : isBlank gap = true
  result_isResult : IsResult result

namespace Definition

variable {line : Text}

def front (d : Definition line) : Text := d.margin ++ (d.async ++ ("def".toList ++ d.space))

def tail (d : Definition line) : Text := d.blank ++ '(' :: (d.params ++ ')' :: (d.gap ++ (d.result ++ [':'])))

theorem line_eq_front (d : Definition line) : line = d.front ++ (d.name ++ (d.tail ++ d.rest)) := by
  refine d.line_eq.trans ?_
  simp [front, tail]

theorem isCalled_tail (d : Definition line) : IsCalled (d.tail ++ d.rest) :=
  ⟨d.blank, d.params ++ ')' :: (d.gap ++ (d.result ++ ':' :: d.rest)), by simp [tail], d.blank_blank, by simp⟩

/-! ## The name of a definition -/

theorem head?_async {async t : Text} (h : IsAsync async) :
    ∀ c ∈ (async ++ ("def".toList ++ t)).head?, isSpace c = false := by
  obtain rfl | ⟨w, rfl, -, -⟩ := h <;> simp <;> decide

/-- What stands behind the word `def` does not depend on how the line is taken apart. -/
theorem behind_eq {async async' t t' : Text} (h : IsAsync async) (h' : IsAsync async')
    (heq : async ++ ("def".toList ++ t) = async' ++ ("def".toList ++ t')) : t = t' := by
  obtain rfl | ⟨w, rfl, -, hw⟩ := h
  · obtain rfl | ⟨w', rfl, -, -⟩ := h'
    · exact List.append_cancel_left heq
    · simp at heq
  · obtain rfl | ⟨w', rfl, -, hw'⟩ := h'
    · simp at heq
    · rw [List.append_assoc, List.append_assoc] at heq
      have hdef : ∀ t, ∀ c ∈ ("def".toList ++ t).head?, isSpace c = false := fun t => by simp; decide
      obtain ⟨-, hrest⟩ := eq_of_run (isSpace_of_mem_blank hw) (isSpace_of_mem_blank hw') (hdef t) (hdef t')
        (List.append_cancel_left heq)
      exact List.append_cancel_left hrest

theorem name_eq (d d' : Definition line) : d.name = d'.name := by
  have hline := d.line_eq_front.symm.trans d'.line_eq_front
  simp only [front, List.append_assoc] at hline
  obtain ⟨-, hmargin⟩ := eq_of_run (isSpace_of_mem_blank d.margin_blank) (isSpace_of_mem_blank d'.margin_blank)
    (head?_async d.async_isAsync) (head?_async d'.async_isAsync) hline
  have hbehind := behind_eq d.async_isAsync d'.async_isAsync hmargin
  have hhead : ∀ {name t : Text}, name ≠ [] → (∀ c ∈ name, isNameChar c = true) →
      ∀ c ∈ (name ++ t).head?, isSpace c = false := by
    intro name t hne hall c hc
    obtain ⟨d, name, rfl⟩ := List.exists_cons_of_ne_nil hne
    obtain rfl : d = c := Option.some.inj hc
    exact isSpace_of_isNameChar (hall d List.mem_cons_self)
  obtain ⟨-, hname⟩ := eq_of_run (isSpace_of_mem_blank d.space_blank) (isSpace_of_mem_blank d'.space_blank)
    (hhead d.name_ne_nil d.name_all) (hhead d'.name_ne_nil d'.name_all) hbehind
  exact (eq_of_run d.name_all d'.name_all d.isCalled_tail.isNameChar d'.isCalled_tail.isNameChar hname).1

end Definition

/-! ## The shape of a definition -/

def definitionHead : List Pattern := [gap, .optional (seq (word "async") space), word "def", space]

def definitionTail : List Pattern :=
  [gap, parameters, gap, .optional (seq (word "->") (fewestOf (allBut '\n'))), char ':']

theorem pythonDefinition_eq :
    pythonDefinition = seq atStart (all (definitionHead ++ named (someOf isNameChar) :: definitionTail)) := rfl

theorem spells_async : (Pattern.optional (seq (word "async") space)).Spells IsAsync :=
  (spells_word "async").optional_seq spells_space

theorem spells_result : (Pattern.optional (seq (word "->") (fewestOf (allBut '\n')))).Spells IsResult :=
  (spells_word "->").optional_seq ((spells_fewestOf (allBut '\n')).congr fun _ => forall_allBut_iff)

theorem spells_head : (Pattern.all definitionHead).Spells fun t =>
    ∃ margin async space, t = margin ++ (async ++ ("def".toList ++ space)) ∧ isBlank margin = true ∧ IsAsync async ∧
      space ≠ [] ∧ isBlank space = true := by
  apply (spells_gap.seq (spells_async.seq ((spells_word "def").seq spells_space))).congr
  intro t
  constructor
  · rintro ⟨margin, _, rfl, hmargin, async, _, rfl, hasync, _, space, rfl, rfl, hspace⟩
    exact ⟨margin, async, space, rfl, hmargin, hasync, hspace⟩
  · rintro ⟨margin, async, space, rfl, hmargin, hasync, hspace⟩
    exact ⟨margin, _, rfl, hmargin, async, _, rfl, hasync, _, space, rfl, rfl, hspace⟩

theorem spells_tail : (Pattern.all definitionTail).Spells fun t =>
    ∃ blank params gap result, t = blank ++ '(' :: (params ++ ')' :: (gap ++ (result ++ [':']))) ∧
      isBlank blank = true ∧ ')' ∉ params ∧ isBlank gap = true ∧ IsResult result := by
  apply (spells_gap.seq (spells_parameters.seq (spells_gap.seq (spells_result.seq (spells_char ':'))))).congr
  intro t
  constructor
  · rintro ⟨blank, _, rfl, hblank, _, _, rfl, ⟨params, rfl, hparams⟩, gap, _, rfl, hgap, result, _, rfl, hresult, rfl⟩
    exact ⟨blank, params, gap, result, by simp, hblank, hparams, hgap, hresult⟩
  · rintro ⟨blank, params, gap, result, rfl, hblank, hparams, hgap, hresult⟩
    exact ⟨blank, _, rfl, hblank, _, _, by simp, ⟨params, rfl, hparams⟩, gap, _, rfl, hgap, result, _, rfl, hresult, rfl⟩

theorem exists_definition {line : Text} {there : Place} (h : pythonDefinition.Reads ⟨none, line, none⟩ there) :
    ∃ d : Definition line, there.name.map Stretch.text = some d.name := by
  rw [pythonDefinition_eq] at h
  obtain ⟨_, ⟨rfl, -⟩, h⟩ := h
  obtain ⟨_, hhead, h⟩ := (reads_all_append _).mp h
  obtain ⟨_, hname, htail⟩ := reads_all_cons.mp h
  obtain ⟨_, _, hline, ⟨margin, async, space, rfl, hmargin, hasync, hspace⟩, rfl⟩ := (spells_head _ _).mp hhead
  obtain ⟨name, _, hrest, hn, rfl⟩ := (reads_named_iff (spells_someOf isNameChar)).mp hname
  obtain ⟨_, rest, hrest', ⟨blank, params, gap, result, rfl, hblank, hparams, hgap, hresult⟩, rfl⟩ :=
    (spells_tail _ _).mp htail
  simp only [Place.rest_past] at hline hrest hrest'
  refine ⟨⟨margin, async, space, name, blank, params, gap, result, rest, ?_, hmargin, hasync, hspace.1, hspace.2,
    hn.1, hn.2, hblank, hparams, hgap, hresult⟩, ?_⟩
  · rw [hline, hrest, hrest']
    simp
  · simp [text_append]

theorem exists_reads_definition {line : Text} (d : Definition line) :
    ∃ there, pythonDefinition.Reads ⟨none, line, none⟩ there := by
  rw [pythonDefinition_eq]
  have hline : (⟨none, line, none⟩ : Place).rest = d.front ++ (d.name ++ (d.tail ++ d.rest)) := d.line_eq_front
  obtain ⟨mid, hhead, hmid⟩ := spells_head.exists_reads hline
    ⟨d.margin, d.async, d.space, rfl, d.margin_blank, d.async_isAsync, d.space_ne_nil, d.space_blank⟩
  obtain ⟨mid', hname, hmid'⟩ := exists_reads_named (spells_someOf isNameChar) hmid ⟨d.name_ne_nil, d.name_all⟩
  obtain ⟨there, htail, -⟩ := spells_tail.exists_reads hmid'
    ⟨d.blank, d.params, d.gap, d.result, rfl, d.blank_blank, d.params_open, d.gap_blank, d.result_isResult⟩
  exact ⟨there, _, ⟨rfl, rfl⟩, (reads_all_append _).mpr ⟨mid, hhead, reads_all_cons.mpr ⟨mid', hname, htail⟩⟩⟩

/-! ## Lines with a definition -/

theorem exists_definition_of_search? {line : Text} {reading : Reading} (h : pythonDefinition.search? line = some reading) :
    ∃ d : Definition line, d.name = reading.name := by
  obtain ⟨skipped, rest, there, rfl, hread, rfl⟩ := exists_of_search? h
  have hstart : skipped = [] := by
    obtain ⟨_, ⟨-, hnone⟩, -⟩ := hread
    simpa using hnone
  subst hstart
  obtain ⟨d, hd⟩ := exists_definition hread
  exact ⟨d, by rw [hd]; rfl⟩

theorem isSome_pythonDefinition {line : Text} (d : Definition line) : (pythonDefinition.search? line).isSome := by
  obtain ⟨there, hread⟩ := exists_reads_definition d
  have hsome : (pythonDefinition.search? ([] ++ line)).isSome := isSome_search? hread
  exact hsome

/-- **Definitions and nothing else.** A line is a signature of Python if it has the parts of a definition, and its name
is the name among them, which is the same however the line is taken apart. -/
theorem signatureName?_python (line : Text) :
    (∀ name, Family.python.signatureName? line = some name ↔ ∃ d : Definition line, d.name = name) ∧
      (∀ d d' : Definition line, d.name = d'.name) ∧
      (Family.python.signatureName? line = none ↔ ¬ Nonempty (Definition line)) := by
  rw [signatureName?_of_patterns (show Family.python.patterns = [pythonDefinition] from rfl)]
  refine ⟨fun name => ⟨fun h => ?_, ?_⟩, Definition.name_eq, fun hnone ⟨d⟩ => ?_, fun hempty => ?_⟩
  · obtain ⟨reading, hreading, rfl⟩ := Option.map_eq_some_iff.mp h
    exact exists_definition_of_search? hreading
  · rintro ⟨d, rfl⟩
    obtain ⟨reading, hreading⟩ := Option.isSome_iff_exists.mp (isSome_pythonDefinition d)
    obtain ⟨d', hd'⟩ := exists_definition_of_search? hreading
    rw [hreading, Option.map_some, ← hd', Definition.name_eq d' d]
  · have hsome := isSome_pythonDefinition d
    rw [Option.map_eq_none_iff.mp hnone] at hsome
    cases hsome
  · cases hsearch : pythonDefinition.search? line with
    | none => rfl
    | some reading =>
      obtain ⟨d, -⟩ := exists_definition_of_search? hsearch
      exact absurd ⟨d⟩ hempty

end CursorDoc
