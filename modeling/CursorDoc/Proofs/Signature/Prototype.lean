import CursorDoc.Proofs.Signature.Call
import CursorDoc.Proofs.Text.Lines

/-!
# Prototypes

Behind its parameters a definition of the C family goes on to an opening brace,
or to the end of the line without a semicolon. Qualifiers and `throws` clauses
have no semicolons either, so without a brace nothing behind the parameters has.
-/

namespace CursorDoc

open Text

namespace Pattern

/-! ## Characters that no reading takes up -/

def spares (c : Char) : Pattern → Bool
  | one set => !set c
  | seq p q => p.spares c && q.spares c
  | either p q => p.spares c && q.spares c
  | manyOf set => !set c
  | fewestOf set => !set c
  | many p => p.spares c
  | named p => p.spares c
  | _ => true

def LeavesOut (c : Char) (here there : Place) : Prop := ∃ t, here.rest = t ++ there.rest ∧ c ∉ t

theorem LeavesOut.of_rest_eq {c : Char} {here there : Place} (h : there.rest = here.rest) : LeavesOut c here there :=
  ⟨[], h.symm, List.not_mem_nil⟩

theorem LeavesOut.trans {c : Char} {here mid there : Place} (h : LeavesOut c here mid) (h' : LeavesOut c mid there) :
    LeavesOut c here there := by
  obtain ⟨t, ht, hc⟩ := h
  obtain ⟨u, hu, hc'⟩ := h'
  refine ⟨t ++ u, by rw [ht, hu, List.append_assoc], ?_⟩
  rw [List.mem_append, not_or]
  exact ⟨hc, hc'⟩

theorem leavesOut_run {c : Char} {set : CharSet} (hset : (!set c) = true) {here there : Place}
    (h : ReadsRun set here there) : LeavesOut c here there := by
  obtain ⟨t, rest, hrest, hall, rfl⟩ := h
  refine ⟨t, hrest, fun hc => ?_⟩
  rw [hall c hc] at hset
  cases hset

theorem Reads.leavesOut {c : Char} {p : Pattern} (hp : p.spares c = true) {here there : Place}
    (h : p.Reads here there) : LeavesOut c here there := by
  induction p generalizing here there with
  | empty => exact .of_rest_eq (congrArg Place.rest h)
  | one set =>
    obtain ⟨d, rest, hrest, hd, rfl⟩ := h
    refine ⟨[d], hrest, fun hc => ?_⟩
    obtain rfl := List.mem_singleton.mp hc
    rw [spares, hd] at hp
    cases hp
  | seq p q ihp ihq =>
    rw [spares, Bool.and_eq_true] at hp
    obtain ⟨mid, hmid, hthere⟩ := h
    exact (ihp hp.1 hmid).trans (ihq hp.2 hthere)
  | either p q ihp ihq =>
    rw [spares, Bool.and_eq_true] at hp
    cases h with
    | inl h => exact ihp hp.1 h
    | inr h => exact ihq hp.2 h
  | manyOf set => exact leavesOut_run hp h
  | fewestOf set => exact leavesOut_run hp h
  | many p ih =>
    induction h with
    | refl => exact .of_rest_eq rfl
    | tail _ hstep ihstep => exact ihstep.trans (ih hp hstep.1)
  | named p ih =>
    obtain ⟨mid, hmid, rfl⟩ := h
    have hleaves := ih hp hmid
    exact hleaves
  | notAhead p _ => exact .of_rest_eq (congrArg Place.rest h.1)
  | notAfter set => exact .of_rest_eq (congrArg Place.rest h.1)
  | wordEdge => exact .of_rest_eq (congrArg Place.rest h.1)
  | atStart => exact .of_rest_eq (congrArg Place.rest h.1)
  | atEnd => exact .of_rest_eq (congrArg Place.rest h.1)

end Pattern

open Pattern

namespace Signature

/-! ## Behind the parameters -/

def qualifiers : List Pattern :=
  [gap, Pattern.optional (seq (word "const") gap), Pattern.optional (seq (word "noexcept") gap),
    Pattern.optional (seq (word "override") gap), Pattern.optional (all [word "throws", space, fewOf isThrownChar]), gap]

def definitionEnd : List Pattern :=
  [either (seq (char '{') (manyOf (allBut '\n'))) (manyOf (allBut ';')), atEnd]

theorem spares_qualifiers : (all qualifiers).spares ';' = true := by decide +kernel

/-- The line up to the parameters of the definition, and what is read behind them. -/
theorem exists_parameters_of_cFamilyDefinition {line : Text} {reading : Reading}
    (h : cFamilyDefinition.search? line = some reading) :
    ∃ front, ∃ close there : Place, line = front ++ ')' :: close.rest ∧
      (all (qualifiers ++ definitionEnd)).Reads close there := by
  obtain ⟨skipped, rest, there, rfl, hread, -⟩ := exists_of_search? h
  obtain ⟨_, hstart, _, hgap, _, hmodifiers, _, hgeneric, _, hstatement, _, htype, _, hpointer, _, hnot, _, hname, htail⟩ :=
    hread
  have hstands : Place.StandsIn ⟨skipped.getLast?, rest, none⟩ (skipped ++ rest) := ⟨skipped, rfl, rfl⟩
  obtain ⟨before, hline, -⟩ := hname.standsIn (hnot.standsIn (hpointer.standsIn (htype.standsIn (hstatement.standsIn
    (hgeneric.standsIn (hmodifiers.standsIn (hgap.standsIn (hstart.standsIn hstands))))))))
  obtain ⟨blank, inside, close, hafter, -, -, hback⟩ := exists_parameters _ htail
  refine ⟨before ++ (blank ++ '(' :: inside), close, there, ?_, hback⟩
  rw [hline, hafter]
  simp

theorem not_mem_of_definitionEnd {here there : Place} (h : (all definitionEnd).Reads here there)
    (hbrace : '{' ∉ here.rest) : ';' ∉ here.rest := by
  obtain ⟨mid, hbody | hrun, rfl, hend⟩ := h
  · -- the line has no brace to start a body with
    obtain ⟨_, ⟨c, rest, hrest, hc, -⟩, -⟩ := hbody
    rw [hrest, beq_iff_eq.mp hc] at hbrace
    exact absurd List.mem_cons_self hbrace
  · obtain ⟨t, ht, hnot⟩ := leavesOut_run (c := ';') rfl hrun
    rw [ht, List.mem_append, not_or]
    refine ⟨hnot, ?_⟩
    rw [Bool.or_eq_true, beq_iff_eq, beq_iff_eq] at hend
    obtain hnil | hnewline := hend
    · rw [hnil]
      exact List.not_mem_nil
    · rw [hnewline]
      decide

theorem exists_close_of_cFamilyDefinition {line : Text} {reading : Reading}
    (h : cFamilyDefinition.search? line = some reading) (hbrace : '{' ∉ line) :
    ∃ before after, line = before ++ ')' :: after ∧ ';' ∉ after := by
  obtain ⟨front, close, there, rfl, hread⟩ := exists_parameters_of_cFamilyDefinition h
  obtain ⟨mid, hqualifiers, hend⟩ := (reads_all_append qualifiers).mp hread
  obtain ⟨t, ht, hnot⟩ := hqualifiers.leavesOut spares_qualifiers
  have hrest : '{' ∉ mid.rest := fun hm => hbrace (by simp [ht, hm])
  refine ⟨front, close.rest, rfl, ?_⟩
  rw [ht, List.mem_append, not_or]
  exact ⟨hnot, not_mem_of_definitionEnd hend hrest⟩

end Signature

open Signature

/-! ## Lines that end in a semicolon -/

theorem exists_of_getLast?_trim {line : Text} {c : Char} (h : line.trim.getLast? = some c) :
    ∃ front blank, line = front ++ c :: blank ∧ isBlank blank = true := by
  obtain ⟨t, ht⟩ := List.getLast?_eq_some_iff.mp h
  obtain ⟨blank, hall, hblank⟩ := exists_dropEndWhile_append isSpace (line.dropWhile isSpace)
  have htrim : line.trim = dropEndWhile isSpace (line.dropWhile isSpace) := rfl
  rw [← htrim, ht] at hblank
  refine ⟨line.indentation ++ t, blank, ?_, List.all_eq_true.mpr hall⟩
  rw [List.append_assoc, ← List.singleton_append, ← List.append_assoc t, hblank, indentation_append_rest]

/-- Of two different characters in a line one stands behind the other. -/
theorem mem_of_append_cons_eq {c d : Char} (hne : c ≠ d) {front back front' back' : Text}
    (h : front ++ c :: back = front' ++ d :: back') : d ∈ back ∨ c ∈ back' := by
  obtain ⟨middle, -, hmiddle⟩ | ⟨middle, -, hmiddle⟩ := List.append_eq_append_iff.mp h
  · cases middle with
    | nil => exact absurd (List.cons.inj hmiddle).1 hne
    | cons first middle => exact .inl (by simp [(List.cons.inj hmiddle).2])
  · cases middle with
    | nil => exact absurd (List.cons.inj hmiddle).1.symm hne
    | cons first middle => exact .inr (by simp [(List.cons.inj hmiddle).2])

/-- **Prototypes are no definitions.** In the C family a signature without a brace has a closing parenthesis that no
semicolon comes behind, so a line without a brace that ends in a semicolon and white space is no signature. -/
theorem signatureName?_without_brace {line : Text} (hbrace : '{' ∉ line) :
    (line.trim.getLast? = some ';' → Family.cFamily.signatureName? line = none) ∧
      ∀ name, Family.cFamily.signatureName? line = some name →
        ∃ before after, line = before ++ ')' :: after ∧ ';' ∉ after := by
  have hclose : ∀ name, Family.cFamily.signatureName? line = some name →
      ∃ before after, line = before ++ ')' :: after ∧ ';' ∉ after := by
    intro name hname
    rw [signatureName?_of_patterns (show Family.cFamily.patterns = [cFamilyDefinition] from rfl)] at hname
    obtain ⟨reading, hreading, -⟩ := Option.map_eq_some_iff.mp hname
    exact exists_close_of_cFamilyDefinition hreading hbrace
  refine ⟨fun hlast => Option.eq_none_iff_forall_ne_some.mpr fun name hname => ?_, hclose⟩
  obtain ⟨front, blank, hline, hblank⟩ := exists_of_getLast?_trim hlast
  obtain ⟨before, after, hline', hafter⟩ := hclose name hname
  obtain hparen | hsemicolon := mem_of_append_cons_eq (by decide) (hline.symm.trans hline')
  · exact absurd (List.all_eq_true.mp hblank _ hparen) (by decide)
  · exact hafter hsemicolon

theorem signatureName?_without_brace_qualified :
    let prototype : Text := "  virtual std::vector<int> &rows(int n) const noexcept override throws A, B; \t".toList
    let header : Text := "static int add(int a; int b) const throws std.Error".toList
    '{' ∉ prototype ∧ prototype.trim.getLast? = some ';' ∧ Family.cFamily.signatureName? prototype = none ∧
      '{' ∉ header ∧ Family.cFamily.signatureName? header = some "add".toList ∧
      ∃ before after, header = before ++ ')' :: after ∧ ';' ∉ after := by
  intro prototype header
  have hprototype : '{' ∉ prototype := by decide +kernel
  have hlast : prototype.trim.getLast? = some ';' := by decide +kernel
  have hheader : '{' ∉ header := by decide +kernel
  have hname : Family.cFamily.signatureName? header = some "add".toList := by decide +kernel
  exact ⟨hprototype, hlast, (signatureName?_without_brace hprototype).1 hlast, hheader, hname,
    (signatureName?_without_brace hheader).2 _ hname⟩

end CursorDoc
