import CursorDoc.Proofs.Signature
import CursorDoc.Proofs.Signature.Python

/-!
# Names of signatures

The name that is read in a signature is a whole word of its line with the
letters of its language, and a parameter list follows it. Only the name of an
arrow function has something in between: it is bound to the function. Keywords
are names only of declarations and of arrow functions.
-/

namespace CursorDoc

open Text Pattern Signature

/-! ## Letters -/

def IsKeyword (t : Text) : Prop := ∃ w ∈ keywords, t = w.toList

def IsIdentifier (t : Text) : Prop := ∃ c r, t = c :: r ∧ isNameStart c = true ∧ ∀ d ∈ r, isNameChar d = true

/-- Scopes, each with two colons behind it, maybe a tilde, and an identifier. -/
def IsScopedName (t : Text) : Prop :=
  ∃ (scopes : List Text) (tilde identifier : Text),
    t = (scopes.map (· ++ "::".toList)).flatten ++ tilde ++ identifier ∧ (∀ scope ∈ scopes, IsIdentifier scope) ∧
      (tilde = [] ∨ tilde = ['~']) ∧ IsIdentifier identifier

def Family.IsName : Family → Text → Prop
  | .script, t => ∀ c ∈ t, isScriptNameChar c = true
  | .cFamily, t => IsScopedName t
  | .python, t => ∀ c ∈ t, isNameChar c = true
  | .generic, t => ∀ c ∈ t, isNameChar c = true

theorem IsScopedName.ne_nil {t : Text} (h : IsScopedName t) : t ≠ [] := by
  obtain ⟨scopes, tilde, _, rfl, -, -, c, r, rfl, -, -⟩ := h
  simp

theorem spells_identifier : identifier.Spells IsIdentifier := by
  apply ((spells_one isNameStart).seq (spells_manyOf isNameChar)).congr
  intro t
  constructor
  · rintro ⟨_, r, rfl, ⟨c, rfl, hc⟩, hr⟩
    exact ⟨c, r, rfl, hc, hr⟩
  · rintro ⟨c, r, rfl, hc, hr⟩
    exact ⟨[c], r, rfl, ⟨c, rfl, hc⟩, hr⟩

theorem exists_scopes : ∀ {ts : List Text}, (∀ t ∈ ts, ∃ u v, t = u ++ v ∧ IsIdentifier u ∧ v = "::".toList) →
    ∃ scopes : List Text, ts = scopes.map (· ++ "::".toList) ∧ ∀ scope ∈ scopes, IsIdentifier scope
  | [], _ => ⟨[], rfl, by simp⟩
  | t :: ts, h => by
    obtain ⟨⟨scope, _, rfl, hscope, rfl⟩, hts⟩ := List.forall_mem_cons.mp h
    obtain ⟨scopes, rfl, hscopes⟩ := exists_scopes hts
    exact ⟨scope :: scopes, rfl, List.forall_mem_cons.mpr ⟨hscope, hscopes⟩⟩

theorem spells_scopedName : scopedName.Spells IsScopedName := by
  have hscope := spells_identifier.seq (spells_word "::")
  have hne : ∀ t, (∃ u v, t = u ++ v ∧ IsIdentifier u ∧ v = "::".toList) → t ≠ [] := by
    rintro _ ⟨u, _, rfl, -, rfl⟩ hnil
    simp at hnil
  apply ((hscope.many hne).seq ((spells_char '~').optional.seq spells_identifier)).congr
  intro t
  constructor
  · rintro ⟨_, _, rfl, ⟨ts, rfl, hts⟩, tilde, name, rfl, htilde, hname⟩
    obtain ⟨scopes, rfl, hscopes⟩ := exists_scopes hts
    exact ⟨scopes, tilde, name, by simp, hscopes, htilde.symm, hname⟩
  · rintro ⟨scopes, tilde, name, rfl, hscopes, htilde, hname⟩
    refine ⟨_, tilde ++ name, List.append_assoc .., ⟨_, rfl, ?_⟩, tilde, name, rfl, htilde.symm, hname⟩
    intro t ht
    obtain ⟨scope, hscope, rfl⟩ := List.mem_map.mp ht
    exact ⟨scope, _, rfl, hscopes scope hscope, rfl⟩

/-! ## Whole words of a line -/

/-- The name stands in the line as the end of no longer word, in front of `after`. -/
def OccursIn (line name after : Text) : Prop :=
  ∃ before, line = before ++ (name ++ after) ∧ ∀ c ∈ before.getLast?, isNameChar c = false

/-- The name is called in the line: white space, a parameter list and then `rest` stand behind it. -/
def IsCalledIn (line name rest : Text) : Prop :=
  ∃ blank inside, OccursIn line name (blank ++ '(' :: (inside ++ ')' :: rest)) ∧ isBlank blank = true

theorem occursIn_of_standsIn {line name after : Text} {here : Place} (h : here.StandsIn line)
    (hrest : here.rest = name ++ after) (hstart : ∀ c ∈ here.before, isNameChar c = false) : OccursIn line name after := by
  obtain ⟨before, rfl, hbefore⟩ := h
  exact ⟨before, by rw [hrest], by rwa [← hbefore]⟩

theorem standsIn_start (skipped rest : Text) : Place.StandsIn ⟨skipped.getLast?, rest, none⟩ (skipped ++ rest) :=
  ⟨skipped, rfl, rfl⟩

theorem not_isNameChar_of_someOf {set : CharSet} (hset : ∀ c, set c = true → isNameChar c = false) {here there : Place}
    (h : (someOf set).Reads here there) : ∀ c ∈ there.before, isNameChar c = false := by
  obtain ⟨c, hc, hmem⟩ := exists_before_of_someOf h
  rw [hc]
  intro d hd
  obtain rfl : c = d := Option.some.inj hd
  exact hset c hmem

theorem not_isNameChar_of_space {here there : Place} (h : space.Reads here there) :
    ∀ c ∈ there.before, isNameChar c = false :=
  not_isNameChar_of_someOf (fun _ => isNameChar_of_isSpace) h

theorem isNameChar_of_isPointerChar {c : Char} (h : isPointerChar c = true) : isNameChar c = false := by
  unfold isPointerChar at h
  simp only [Bool.or_eq_true, beq_iff_eq] at h
  obtain (hspace | rfl) | rfl := h
  · exact isNameChar_of_isSpace hspace
  · rfl
  · rfl

/-! ## Keywords -/

theorem not_isKeyword_of_notWord {here there : Place} (h : (notWord keywords).Reads here there) {name after : Text}
    (hrest : here.rest = name ++ after) (hafter : IsCalled after) : ¬ IsKeyword name := by
  rintro ⟨w, hw, rfl⟩
  have hlast : ∀ w ∈ keywords, w.toList.getLast?.any isWordChar = true := by decide +kernel
  have hstop : after.head?.any isWordChar = false := by
    cases hhead : after.head? with
    | none => rfl
    | some c =>
      obtain rfl | hspace := hafter.head c hhead
      · decide +kernel
      · exact isWordChar_of_isSpace hspace
  have hedge : isWordEdge (w.toList.getLast?.or here.before) after.head? = true := by
    have hword := hlast w hw
    cases hend : w.toList.getLast? with
    | none => rw [hend] at hword; cases hword
    | some c =>
      rw [hend] at hword
      rw [Option.some_or, isWordEdge, hword, hstop]
      rfl
  exact h.2 _ ⟨_, (spells_oneWord keywords _ _).mpr ⟨_, after, hrest, ⟨w, hw, rfl⟩, rfl⟩, rfl, hedge⟩

/-! ## Calls -/

/-- A name that is read with a parameter list behind it is called in its line. -/
theorem exists_call {name : Pattern} {N : Text → Prop} (hN : name.Spells N) (back : List Pattern)
    (hunnamed : (all (gap :: parameters :: back)).isUnnamed = true) {line : Text} {here mid there : Place}
    (hstands : here.StandsIn line) (hstart : ∀ c ∈ here.before, isNameChar c = false)
    (hname : (named name).Reads here mid) (htail : (all (gap :: parameters :: back)).Reads mid there) :
    ∃ n after, ∃ close : Place, there.name.map Stretch.text = some n ∧ N n ∧ here.rest = n ++ after ∧ IsCalled after ∧
      IsCalledIn line n close.rest ∧ (all back).Reads close there := by
  obtain ⟨n, hrest, hn, htext⟩ := exists_named hN hunnamed hname htail
  obtain ⟨blank, inside, close, hafter, hblank, -, hback⟩ := exists_parameters back htail
  rw [hafter] at hrest
  refine ⟨n, _, close, htext, hn, hrest, ⟨blank, _, rfl, hblank, by simp⟩, ⟨blank, inside, ?_, hblank⟩, hback⟩
  exact occursIn_of_standsIn hstands hrest hstart

/-! ## Scripts -/

def IsScriptName (t : Text) : Prop := t ≠ [] ∧ ∀ c ∈ t, isScriptNameChar c = true

theorem takesUp_typedBody : typedBody.TakesUp '{' := takesUp_all (takesUp_char '{') (by simp)

theorem TakesUp.mem_rest {p : Pattern} {c : Char} (hp : p.TakesUp c) {here there : Place} (h : p.Reads here there) :
    c ∈ here.rest := by
  obtain ⟨t, ht, hc⟩ := hp here there h
  rw [ht]
  exact List.mem_append_left _ hc

theorem exists_of_scriptDeclaration {line : Text} {reading : Reading} (h : scriptDeclaration.search? line = some reading) :
    IsScriptName reading.name ∧ ∃ rest, IsCalledIn line reading.name rest ∧ '{' ∈ rest := by
  obtain ⟨skipped, rest, there, rfl, hread, rfl⟩ := exists_of_search? h
  obtain ⟨_, hedge, _, hword, _, hgap, _, hstar, _, hspace, _, hname, htail⟩ := hread
  have hstands := hspace.standsIn (hstar.standsIn (hgap.standsIn (hword.standsIn (hedge.standsIn
    (standsIn_start skipped rest)))))
  obtain ⟨name, after, close, htext, hletters, -, -, hcalled, hbody⟩ := exists_call (spells_someOf isScriptNameChar)
    [typedBody] rfl hstands (not_isNameChar_of_space hspace) hname htail
  rw [htext]
  exact ⟨hletters, close.rest, hcalled, TakesUp.mem_rest takesUp_typedBody hbody⟩

theorem exists_of_methodName {line : Text} {here mid there : Place} (hstands : here.StandsIn line)
    (hname : methodName.Reads here mid) (back : List Pattern) (hunnamed : (all (gap :: parameters :: back)).isUnnamed = true)
    (htail : (all (gap :: parameters :: back)).Reads mid there) :
    ∃ n, ∃ close : Place, there.name.map Stretch.text = some n ∧ IsScriptName n ∧ ¬ IsKeyword n ∧
      IsCalledIn line n close.rest ∧ (all back).Reads close there := by
  obtain ⟨_, ⟨hsame, hafter⟩, _, hnot, hname⟩ := hname
  rw [hsame] at hnot
  rw [hnot.1] at hname
  have hstart : ∀ c ∈ here.before, isNameChar c = false := by
    intro c hc
    rw [Option.mem_def.mp hc, Option.any_some, isScriptNameChar, Bool.or_eq_false_iff] at hafter
    exact hafter.1
  obtain ⟨n, after, close, htext, hletters, hrest, hcalled, hcall, hback⟩ :=
    exists_call (spells_someOf isScriptNameChar) back hunnamed hstands hstart hname htail
  exact ⟨n, close, htext, hletters, not_isKeyword_of_notWord hnot hrest hcalled, hcall, hback⟩

theorem exists_of_scriptMethod {line : Text} {reading : Reading} (h : scriptMethod.search? line = some reading) :
    IsScriptName reading.name ∧ ¬ IsKeyword reading.name ∧ ∃ rest, IsCalledIn line reading.name rest ∧ '{' ∈ rest := by
  obtain ⟨skipped, rest, there, rfl, ⟨_, hname, htail⟩, rfl⟩ := exists_of_search? h
  obtain ⟨name, close, htext, hletters, hkeyword, hcalled, hbody⟩ :=
    exists_of_methodName (standsIn_start skipped rest) hname [gap, char '{'] rfl htail
  rw [htext]
  exact ⟨hletters, hkeyword, close.rest, hcalled, TakesUp.mem_rest (takesUp_all (takesUp_char '{') (by simp)) hbody⟩

theorem exists_of_scriptTypedMethod {line : Text} {reading : Reading}
    (h : scriptTypedMethod.search? line = some reading) :
    IsScriptName reading.name ∧ ¬ IsKeyword reading.name ∧ ∃ rest, IsCalledIn line reading.name rest ∧ '{' ∈ rest := by
  obtain ⟨skipped, rest, there, rfl, ⟨_, haccess, _, hstatic, _, hasync, _, hname, htail⟩, rfl⟩ := exists_of_search? h
  have hstands := hasync.standsIn (hstatic.standsIn (haccess.standsIn (standsIn_start skipped rest)))
  obtain ⟨name, close, htext, hletters, hkeyword, hcalled, hbody⟩ :=
    exists_of_methodName hstands hname [typedBody] rfl htail
  rw [htext]
  exact ⟨hletters, hkeyword, close.rest, hcalled, TakesUp.mem_rest takesUp_typedBody hbody⟩

/-! ## Arrow functions -/

def IsTypeSuffix (t : Text) : Prop := t = [] ∨ ∃ u, t = ':' :: u ∧ u ≠ [] ∧ '=' ∉ u

def IsAsyncMark (t : Text) : Prop := t = [] ∨ ∃ w, t = "async".toList ++ w ∧ isBlank w = true

def IsBinding (t : Text) : Prop :=
  ∃ blank suffix blank' async, t = blank ++ (suffix ++ '=' :: (blank' ++ async)) ∧ isBlank blank = true ∧
    IsTypeSuffix suffix ∧ isBlank blank' = true ∧ IsAsyncMark async

/-- The name is bound in the line to a function with parameters, behind which `rest` stands. -/
def IsBoundIn (line name rest : Text) : Prop :=
  ∃ binding inside, OccursIn line name (binding ++ '(' :: (inside ++ ')' :: rest)) ∧ IsBinding binding

def arrowBinding : List Pattern :=
  [gap, .optional (seq (char ':') (someOf (allBut '='))), char '=', gap, .optional (seq (word "async") gap)]

def arrowBody : List Pattern :=
  [gap, .optional (all [char ':', gap, someOf (allBut '=')]), word "=>", gap, char '{']

theorem scriptArrow_eq :
    scriptArrow = all ([wordEdge, oneWord ["const", "let", "var"], space] ++
      named (someOf isScriptNameChar) :: (arrowBinding ++ parameters :: arrowBody)) := rfl

theorem spells_typeSuffix : (Pattern.optional (seq (char ':') (someOf (allBut '=')))).Spells IsTypeSuffix :=
  (spells_char ':').optional_seq ((spells_someOf (allBut '=')).congr fun _ => and_congr_right fun _ => forall_allBut_iff)

theorem spells_asyncMark : (Pattern.optional (seq (word "async") gap)).Spells IsAsyncMark :=
  (spells_word "async").optional_seq spells_gap

theorem spells_arrowBinding : (Pattern.all arrowBinding).Spells IsBinding := by
  apply (spells_gap.seq (spells_typeSuffix.seq ((spells_char '=').seq (spells_gap.seq spells_asyncMark)))).congr
  intro t
  constructor
  · rintro ⟨blank, _, rfl, hblank, suffix, _, rfl, hsuffix, _, _, rfl, rfl, blank', async, rfl, hblank', hasync⟩
    exact ⟨blank, suffix, blank', async, rfl, hblank, hsuffix, hblank', hasync⟩
  · rintro ⟨blank, suffix, blank', async, rfl, hblank, hsuffix, hblank', hasync⟩
    exact ⟨blank, _, rfl, hblank, suffix, _, rfl, hsuffix, _, _, rfl, rfl, blank', async, rfl, hblank', hasync⟩

theorem exists_of_scriptArrow {line : Text} {reading : Reading} (h : scriptArrow.search? line = some reading) :
    IsScriptName reading.name ∧ ∃ rest, IsBoundIn line reading.name rest ∧ '{' ∈ rest := by
  obtain ⟨skipped, rest, there, rfl, hread, rfl⟩ := exists_of_search? h
  rw [scriptArrow_eq] at hread
  obtain ⟨_, ⟨_, hedge, _, hword, hspace⟩, hread⟩ := (reads_all_append _).mp hread
  obtain ⟨_, hname, htail⟩ := reads_all_cons.mp hread
  have hstands := hspace.standsIn (hword.standsIn (hedge.standsIn (standsIn_start skipped rest)))
  obtain ⟨name, hrest, hletters, htext⟩ := exists_named (spells_someOf isScriptNameChar) rfl hname htail
  obtain ⟨_, hbetween, hbehind⟩ := (reads_all_append _).mp htail
  obtain ⟨_, hparameters, hbody⟩ := reads_all_cons.mp hbehind
  obtain ⟨binding, _, hrest', hbinding, rfl⟩ := (spells_arrowBinding _ _).mp hbetween
  obtain ⟨_, behind, hrest'', ⟨inside, rfl, -⟩, rfl⟩ := (spells_parameters _ _).mp hparameters
  rw [Place.rest_past] at hrest''
  rw [hrest', hrest''] at hrest
  rw [htext]
  refine ⟨hletters, behind, ⟨binding, inside, ?_, hbinding⟩, ?_⟩
  · apply occursIn_of_standsIn hstands _ (not_isNameChar_of_space hspace)
    simpa using hrest
  · have hbrace : (all arrowBody).TakesUp '{' := takesUp_all (takesUp_char '{') (by simp [arrowBody])
    exact TakesUp.mem_rest hbrace hbody

/-! ## The C family -/

theorem exists_of_cFamilyDefinition {line : Text} {reading : Reading}
    (h : cFamilyDefinition.search? line = some reading) :
    IsScopedName reading.name ∧ ¬ IsKeyword reading.name ∧ ∃ rest, IsCalledIn line reading.name rest := by
  obtain ⟨skipped, rest, there, rfl, hread, rfl⟩ := exists_of_search? h
  obtain ⟨_, hstart, _, hgap, _, hmodifiers, _, hgeneric, _, hstatement, _, htype, _, hpointer, _, hnot, _, hname, htail⟩ :=
    hread
  have hstands := hpointer.standsIn (htype.standsIn (hstatement.standsIn (hgeneric.standsIn (hmodifiers.standsIn
    (hgap.standsIn (hstart.standsIn (standsIn_start skipped rest)))))))
  rw [hnot.1] at hname
  obtain ⟨name, after, close, htext, hname, hrest, hafter, hcalled, -⟩ := exists_call spells_scopedName _ rfl hstands
    (not_isNameChar_of_someOf (fun _ => isNameChar_of_isPointerChar) hpointer) hname htail
  rw [htext]
  exact ⟨hname, not_isKeyword_of_notWord hnot hrest hafter, close.rest, hcalled⟩

/-! ## Definitions and calls -/

theorem exists_isCalledIn {line name after : Text} (h : OccursIn line name after) (hafter : IsCalled after) :
    ∃ rest, IsCalledIn line name rest := by
  obtain ⟨blank, rest, rfl, hblank, hclose⟩ := hafter
  obtain ⟨inside, rest, rfl, -⟩ := List.eq_append_cons_of_mem hclose
  exact ⟨rest, blank, inside, h, hblank⟩

theorem Definition.occursIn {line : Text} (d : Definition line) : OccursIn line d.name (d.tail ++ d.rest) := by
  refine ⟨d.front, d.line_eq_front, fun c hc => ?_⟩
  have hfront : d.front = d.margin ++ (d.async ++ "def".toList) ++ d.space := by simp [Definition.front]
  rw [hfront, List.getLast?_append, List.getLast?_eq_some_getLast d.space_ne_nil, Option.some_or] at hc
  obtain rfl := Option.some.inj hc
  exact isNameChar_of_isSpace (isSpace_of_mem_blank d.space_blank _ (List.getLast_mem d.space_ne_nil))

/-! ## All families -/

def IsArrowLine (family : Family) (line : Text) : Prop :=
  family = .script ∧ scriptDeclaration.search? line = none ∧ (scriptArrow.search? line).isSome = true

theorem signatureName?_script_cases {line name : Text} (h : Family.script.signatureName? line = some name) :
    ∃ reading : Reading, reading.name = name ∧
      (scriptDeclaration.search? line = some reading ∨
        scriptDeclaration.search? line = none ∧ scriptArrow.search? line = some reading ∨
        scriptDeclaration.search? line = none ∧ scriptArrow.search? line = none ∧
          (scriptMethod.search? line = some reading ∨ scriptTypedMethod.search? line = some reading)) := by
  obtain ⟨reading, hreading, hname⟩ := Option.map_eq_some_iff.mp h
  refine ⟨reading, hname, ?_⟩
  unfold Family.reading? at hreading
  simp only [Family.patterns, scriptPatterns, List.findSome?_cons, List.findSome?_nil] at hreading
  cases hdeclaration : scriptDeclaration.search? line with
  | some found => exact .inl (by rwa [hdeclaration] at hreading)
  | none =>
    rw [hdeclaration] at hreading
    cases harrow : scriptArrow.search? line with
    | some found => exact .inr (.inl ⟨rfl, by rwa [harrow] at hreading⟩)
    | none =>
      rw [harrow] at hreading
      refine .inr (.inr ⟨rfl, rfl, ?_⟩)
      cases hmethod : scriptMethod.search? line with
      | some found => exact .inl (by rwa [hmethod] at hreading)
      | none =>
        rw [hmethod] at hreading
        cases htyped : scriptTypedMethod.search? line with
        | some found => exact .inr (by rwa [htyped] at hreading)
        | none =>
          rw [htyped] at hreading
          cases hreading

/-- **Names are called.** The name of a signature is a whole word of its line with the letters of its language, and it is
called there. A name of an arrow function is bound there instead. Behind a call in a script stands an opening brace.
Keywords are never names in the C family, and in a script only where it is a declaration or an arrow function. -/
theorem signatureName?_called {language line name : Text}
    (h : (Family.ofTag language).signatureName? line = some name) :
    name ≠ [] ∧ (Family.ofTag language).IsName name ∧
      (∃ rest, (¬ IsArrowLine (Family.ofTag language) line → IsCalledIn line name rest) ∧
        (IsArrowLine (Family.ofTag language) line → IsBoundIn line name rest) ∧
        (Family.ofTag language = .script → '{' ∈ rest)) ∧
      (Family.ofTag language = .cFamily → ¬ IsKeyword name) ∧
      (Family.ofTag language = .script → IsKeyword name →
        (scriptDeclaration.search? line).isSome = true ∨ (scriptArrow.search? line).isSome = true) := by
  generalize Family.ofTag language = family at h ⊢
  cases family with
  | script =>
    obtain ⟨reading, rfl, hdeclaration | ⟨hnone, harrow⟩ | ⟨hnone, hnone', hmethod⟩⟩ := signatureName?_script_cases h
    · obtain ⟨⟨hne, hletters⟩, rest, hcalled, hbody⟩ := exists_of_scriptDeclaration hdeclaration
      have hnot : ¬ IsArrowLine .script line := by
        rintro ⟨-, hnone, -⟩
        rw [hnone] at hdeclaration
        cases hdeclaration
      exact ⟨hne, hletters, ⟨rest, fun _ => hcalled, fun harrow => absurd harrow hnot, fun _ => hbody⟩, nofun,
        fun _ _ => .inl (by rw [hdeclaration]; rfl)⟩
    · obtain ⟨⟨hne, hletters⟩, rest, hbound, hbody⟩ := exists_of_scriptArrow harrow
      have hsome : (scriptArrow.search? line).isSome = true := by rw [harrow]; rfl
      exact ⟨hne, hletters, ⟨rest, fun hnot => absurd ⟨rfl, hnone, hsome⟩ hnot, fun _ => hbound, fun _ => hbody⟩, nofun,
        fun _ _ => .inr hsome⟩
    · have hnot : ¬ IsArrowLine .script line := by
        rintro ⟨-, -, hsome⟩
        rw [hnone'] at hsome
        cases hsome
      obtain ⟨⟨hne, hletters⟩, hkeyword, rest, hcalled, hbody⟩ :=
        hmethod.elim exists_of_scriptMethod exists_of_scriptTypedMethod
      exact ⟨hne, hletters, ⟨rest, fun _ => hcalled, fun harrow => absurd harrow hnot, fun _ => hbody⟩, nofun,
        fun _ hword => absurd hword hkeyword⟩
  | cFamily =>
    rw [signatureName?_of_patterns (show Family.cFamily.patterns = [cFamilyDefinition] from rfl)] at h
    obtain ⟨reading, hreading, rfl⟩ := Option.map_eq_some_iff.mp h
    obtain ⟨hname, hkeyword, rest, hcalled⟩ := exists_of_cFamilyDefinition hreading
    exact ⟨hname.ne_nil, hname, ⟨rest, fun _ => hcalled, nofun, nofun⟩, fun _ => hkeyword, nofun⟩
  | python =>
    rw [signatureName?_of_patterns (show Family.python.patterns = [pythonDefinition] from rfl)] at h
    obtain ⟨reading, hreading, rfl⟩ := Option.map_eq_some_iff.mp h
    obtain ⟨d, hd⟩ := exists_definition_of_search? hreading
    rw [← hd]
    obtain ⟨rest, hcalled⟩ := exists_isCalledIn d.occursIn d.isCalled_tail
    exact ⟨d.name_ne_nil, d.name_all, ⟨rest, fun _ => hcalled, nofun, nofun⟩, nofun, nofun⟩
  | generic =>
    rw [signatureName?_of_patterns (show Family.generic.patterns = [genericCall] from rfl)] at h
    obtain ⟨reading, hreading, rfl⟩ := Option.map_eq_some_iff.mp h
    obtain ⟨before, after, hrun, hafter, -⟩ := exists_run_of_genericCall hreading
    obtain ⟨rest, hcalled⟩ := exists_isCalledIn ⟨before, hrun.line_eq, hrun.start⟩ hafter
    exact ⟨hrun.ne_nil, hrun.all, ⟨rest, fun _ => hcalled, nofun, nofun⟩, nofun, nofun⟩

theorem signatureName?_called_method :
    (Family.ofTag "cpp".toList).signatureName? "int Foo::run(char *s) const \x7b".toList = some "Foo::run".toList ∧
      (∃ rest, IsCalledIn "int Foo::run(char *s) const \x7b".toList "Foo::run".toList rest) ∧
      ¬ IsKeyword "Foo::run".toList := by
  have hname : (Family.ofTag "cpp".toList).signatureName? "int Foo::run(char *s) const \x7b".toList =
      some "Foo::run".toList := by decide +kernel
  have hfamily : Family.ofTag "cpp".toList = .cFamily := by decide +kernel
  obtain ⟨-, -, ⟨rest, hcalled, -, -⟩, hkeyword, -⟩ := signatureName?_called hname
  rw [hfamily] at hcalled hkeyword
  exact ⟨hname, ⟨rest, hcalled nofun⟩, hkeyword rfl⟩

/-- An arrow function is not called where it is bound. -/
theorem not_isCalledIn_arrow :
    (Family.ofTag "javascript".toList).signatureName? "const f = (a) => \x7b".toList = some "f".toList ∧
      ∀ rest, ¬ IsCalledIn "const f = (a) => \x7b".toList "f".toList rest := by
  refine ⟨by decide +kernel, ?_⟩
  rintro rest ⟨blank, inside, ⟨before, hline, -⟩, hblank⟩
  -- the only letter of the name stands once in the line, so there is one place for the name
  have hcount : List.count 'f' "const f = (a) => \x7b".toList = 1 := by decide +kernel
  have hbefore : 'f' ∉ before := by
    rw [hline, List.count_append] at hcount
    rw [← List.count_eq_zero]
    simp only [List.count_append, show "f".toList = ['f'] from rfl, List.count_singleton_self] at hcount
    omega
  have hsplit : "const ".toList ++ 'f' :: " = (a) => \x7b".toList =
      before ++ 'f' :: (blank ++ '(' :: (inside ++ ')' :: rest)) := hline
  have hbefore' : ∀ c ∈ before, (c != 'f') = true := fun c hc => by simpa using ne_of_mem_of_not_mem hc hbefore
  obtain ⟨-, hafter⟩ := eq_of_run (List.all_eq_true.mp (by decide)) hbefore' (by simp) (by simp) hsplit
  have hspace : [' '] ++ "= (a) => \x7b".toList = blank ++ '(' :: (inside ++ ')' :: rest) := (List.cons.inj hafter).2
  obtain ⟨-, hequals⟩ := eq_of_run (isSpace_of_mem_blank (by decide)) (isSpace_of_mem_blank hblank) (by simp; decide)
    (by simp; decide) hspace
  cases hequals

end CursorDoc
