import CursorDoc.Proofs.Outcome
import CursorDoc.Proofs.Yaml.Number
import CursorDoc.Yaml.Token.Scanner
import Mathlib.Algebra.Group.Nat.Defs
import Mathlib.Data.List.Induction

/-!
# What stops the scanner

A text with tokens that cannot be read is malformed, with two exceptions: an
escape of eight digits that names no character, and a number in a directive
that has too many digits. Both stand in the text as they are.
-/

namespace CursorDoc.Yaml

/-- An escape for a code beyond all characters. -/
def HasEscape (t : Text) (code : Nat) : Prop :=
  0x110000 ≤ code ∧ ∃ before digits after, t = before ++ '\\' :: 'U' :: digits ++ after ∧ digits.length = 8 ∧
    (∀ c ∈ digits, Text.isDigitOf 16 c = true) ∧ Text.ofDigits 16 (digits.filterMap Text.hexValue?) = code

/-- More decimal digits in a row than are read. -/
def HasDigits (t : Text) (count : Nat) : Prop :=
  Text.maxDigits < count ∧ ∃ before digits after, t = before ++ digits ++ after ∧ digits.length = count ∧
    ∀ c ∈ digits, c.isDigit = true

inductive ScanFault (t : Text) : Fault → Prop
  | malformed : ScanFault t .malformed
  | escape {code : Nat} : HasEscape t code → ScanFault t (.scalar (.codePoint code))
  | digits {count : Nat} : HasDigits t count → ScanFault t (.scalar (.integer (.tooManyDigits count)))

theorem ScanFault.of_suffix {t whole : Text} {fault : Fault} (ht : t <:+ whole) (h : ScanFault t fault) :
    ScanFault whole fault := by
  obtain ⟨front, rfl⟩ := ht
  cases h with
  | malformed => exact .malformed
  | escape h =>
    obtain ⟨hcode, before, digits, after, rfl, hdigits⟩ := h
    exact .escape ⟨hcode, front ++ before, digits, after, by simp, hdigits⟩
  | digits h =>
    obtain ⟨hcount, before, digits, after, rfl, hdigits⟩ := h
    exact .digits ⟨hcount, front ++ before, digits, after, by simp, hdigits⟩

def Stops {α : Type} (t : Text) (x : Except Fault α) : Prop := Ends (fun _ => True) (ScanFault t) x

namespace Stops
variable {α β : Type} {t : Text}

theorem ok (a : α) : Stops t (.ok a) := trivial

theorem malformed : Stops t (.error .malformed : Except Fault α) := ScanFault.malformed

theorem bind {x : Except Fault α} {f : α → Except Fault β} (hx : Stops t x) (hf : ∀ a, Stops t (f a)) :
    Stops t (x >>= f) :=
  Ends.bind hx fun a _ => hf a

theorem map {x : Except Fault α} {f : α → β} (hx : Stops t x) : Stops t (x.map f) := Ends.map hx

theorem of_suffix {whole : Text} (ht : t <:+ whole) {x : Except Fault α} (hx : Stops t x) : Stops whole x :=
  Ends.mono hx (fun _ h => h) fun _ h => h.of_suffix ht

end Stops

/-! ## Quoted scalars -/

theorem hexValue?_lt {c : Char} {d : Nat} (h : Text.hexValue? c = some d) : d < 16 := by
  unfold Text.hexValue? at h
  dsimp only at h
  split at h
  · next hc => cases h; simp at hc; omega
  · split at h
    · next hc => cases h; simp at hc; omega
    · split at h
      · next hc => cases h; simp at hc; omega
      · cases h

theorem escapeDigits?_eq {kind : Char} {n : Nat} (h : escapeDigits? kind = some n) :
    1 < n ∧ n ≤ 4 ∨ n = 8 ∧ kind = 'U' := by
  unfold escapeDigits? at h
  split at h <;> cases h <;> simp

/-- The digits of an escape so far, which has `count` of them, and their value. -/
structure EscapeRead (kind : Char) (digits : Text) (count value : Nat) : Prop where
  count : escapeDigits? kind = some count
  all : ∀ c ∈ digits, Text.isDigitOf 16 c = true
  value : Text.ofDigits 16 (digits.filterMap Text.hexValue?) = value

namespace EscapeRead
variable {kind : Char} {digits : Text} {count value : Nat}

theorem concat (h : EscapeRead kind digits count value) {c : Char} {d : Nat} (hc : Text.hexValue? c = some d) :
    EscapeRead kind (digits ++ [c]) count (value * 16 + d) where
  count := h.count
  all := by
    intro c' hc'
    rcases List.mem_append.mp hc' with hc' | hc'
    · exact h.all c' hc'
    · rw [List.mem_singleton.mp hc']
      simp [Text.isDigitOf, hc, hexValue?_lt hc]
  value := by
    rw [List.filterMap_append, List.filterMap_cons_some hc, List.filterMap_nil, Text.ofDigits_concat, h.value]

/-- Only escapes of eight digits go beyond all characters. -/
theorem kind_eq (h : EscapeRead kind digits count value) (hlen : digits.length = count) (hvalue : 0x110000 ≤ value) :
    kind = 'U' ∧ digits.length = 8 := by
  have hlt : value < 16 ^ (digits.filterMap Text.hexValue?).length := by
    rw [← h.value]
    refine Text.ofDigits_lt fun d hd => ?_
    obtain ⟨c, -, hc⟩ := List.mem_filterMap.mp hd
    exact hexValue?_lt hc
  have hle : (digits.filterMap Text.hexValue?).length ≤ count := hlen ▸ List.length_filterMap_le _ _
  rcases escapeDigits?_eq h.count with ⟨-, hcount⟩ | ⟨hcount, hkind⟩
  · have hpow := Nat.pow_le_pow_right (n := 16) (by decide) (Nat.le_trans hle hcount)
    omega
  · exact ⟨hkind, hlen.trans hcount⟩

end EscapeRead

/-- What was read where a reading of a quoted scalar stands in an escape. -/
def QuotedState.Behind (before : Text) : QuotedState → Prop
  | .escape => ∃ front, before = front ++ ['\\']
  | .code left value => 0 < left ∧ ∃ front kind digits, before = front ++ '\\' :: kind :: digits ∧
      EscapeRead kind digits (digits.length + left) value
  | _ => True

theorem Stops.readAfter {t read : Text} {x : Except Fault (Text × Text)} (h : Stops t x) :
    Stops t (readAfter read x) := by
  cases x with
  | ok r => trivial
  | error fault => exact h

theorem codeChar?_eq_error {code : Nat} {fault : Fault} (h : codeChar? code = .error fault) :
    0x110000 ≤ code ∧ fault = .scalar (.codePoint code) := by
  unfold codeChar? at h
  split at h
  · cases h
  · next hcode => cases h; exact ⟨Nat.le_of_not_lt hcode, rfl⟩

theorem Stops.readQuoted (quote : Char) (state : QuotedState) (t before : Text) (hbefore : state.Behind before) :
    Stops (before ++ t) (readQuoted quote state t) := by
  have hnext : ∀ {α : Type} {before : Text} {c : Char} {r : Text} {x : Except Fault α},
      Stops (before ++ [c] ++ r) x → Stops (before ++ c :: r) x := by
    intro α before c r x h
    rwa [List.append_assoc, List.singleton_append] at h
  fun_induction Yaml.readQuoted quote state t generalizing before with
  | case1 | case5 | case6 | case10 => exact .malformed
  | case16 | case17 => exact .ok _
  | case2 c r value hvalue ih => exact hnext (ih _ trivial).readAfter
  | case3 c r digits hdigits hvalue ih =>
    obtain ⟨front, rfl⟩ := hbefore
    refine hnext (ih _ ?_)
    have hcount : 0 < digits := by
      rcases escapeDigits?_eq hdigits with h | h <;> omega
    exact ⟨hcount, front, c, [], by simp, ⟨by simpa using hdigits, by simp, rfl⟩⟩
  | case4 c r hdigits hvalue hbreak ih => exact hnext (ih _ trivial)
  | case7 left value c r digit hdigit value' hleft char hchar ih => exact hnext (ih _ trivial).readAfter
  | case8 left value c r digit hdigit value' hleft fault hfault =>
    obtain ⟨hpos, front, kind, digits, rfl, hread⟩ := hbefore
    obtain ⟨hcode, rfl⟩ := codeChar?_eq_error hfault
    -- with its last digit the escape is complete
    have hone : left = 1 := by omega
    subst hone
    have hread' := hread.concat hdigit
    obtain ⟨rfl, hlen⟩ := hread'.kind_eq (by simp) hcode
    exact ScanFault.escape ⟨hcode, front, digits ++ [c], r, by simp, hlen, hread'.all, hread'.value⟩
  | case9 left value c r digit hdigit value' hleft ih =>
    obtain ⟨hpos, front, kind, digits, rfl, hread⟩ := hbefore
    refine hnext (ih _ ⟨by omega, front, kind, digits ++ [c], by simp, ?_⟩)
    have hcount : (digits ++ [c]).length + (left - 1) = digits.length + left := by
      simp
      omega
    rw [hcount]
    exact hread.concat hdigit
  | case11 state c r hescape hcode hbreak hseparator state' ih =>
    refine hnext (ih _ ?_)
    cases state <;> trivial
  | case12 c r hbreak hgap first more _ _ ih => exact hnext (ih _ trivial)
  | case13 c r hbreak hgap run _ _ ih => exact hnext (ih _ trivial)
  | case14 state c r _ _ hbreak hgap _ _ ih => exact hnext (ih _ trivial)
  | case15 state _ _ next r hquote _ _ ih => exact hnext (hnext (ih _ trivial).readAfter)
  | case18 state c r _ _ _ _ _ hslash ih =>
    obtain ⟨-, rfl⟩ := hslash
    exact hnext (ih _ ⟨before, rfl⟩).readAfter
  | case19 state c r _ _ _ _ _ _ ih => exact hnext (ih _ trivial).readAfter

/-! ## Names, tags and directives -/

section
variable {t : Text}

theorem Stops.readName (r : Text) : Stops t (readName r) := by
  unfold Yaml.readName
  dsimp only
  split
  · exact .malformed
  · exact .ok _

theorem Stops.afterBytes {bytes : Bytes} {x : Except Fault (Text × Text)} (h : Stops t x) :
    Stops t (afterBytes bytes x) := by
  unfold Yaml.afterBytes
  split
  · exact h
  · split
    · exact .ok _
    · exact .malformed

theorem Stops.readUriFrom (bytes : Bytes) (r : Text) : Stops t (readUriFrom bytes r) := by
  fun_induction Yaml.readUriFrom bytes r with
  | case1 bytes => exact (Stops.ok _).afterBytes
  | case2 bytes a b r high low hlow hhigh ih => exact ih
  | case3 | case4 => exact .malformed
  | case5 bytes c r _ _ _ ih =>
    refine Stops.afterBytes ?_
    split
    · exact .ok _
    · next heq => rw [heq] at ih; exact ih
  | case6 bytes c r => exact (Stops.ok _).afterBytes

theorem Stops.readUri (r : Text) : Stops t (readUri r) := by
  unfold Yaml.readUri
  split
  · exact .readUriFrom [] r
  · exact .malformed

theorem Stops.readHandle (r : Text) : Stops t (readHandle r) := by
  unfold Yaml.readHandle
  split
  · split
    · exact .ok _
    · split
      · exact .ok _
      · exact .malformed
  · exact .malformed

theorem Stops.readTag (r : Text) : Stops t (readTag r) := by
  have hfinish : ∀ (name : TagName) (rest : Text),
      Stops t (if atSpace rest = true then pure (name, rest) else throw .malformed) := by
    intro name rest
    split
    · exact .ok _
    · exact .malformed
  have hword : ∀ (handle r : Text), Stops t (Yaml.readUri r >>= fun suffix =>
      if atSpace suffix.2 = true then pure (TagName.mk (some handle) suffix.1, suffix.2) else throw .malformed) :=
    fun handle r => .bind (.readUri r) fun suffix => hfinish _ _
  unfold Yaml.readTag
  dsimp only
  split
  · refine .bind (.readUri _) fun suffix => ?_
    split
    · exact hfinish _ _
    · exact .malformed
  · split
    · exact hfinish _ _
    · split
      · exact .bind (.readHandle _) fun handle => hword _ _
      · exact hword _ _

end

theorem readVersionPart_stops (t : Text) : Ends (fun r => r.2 <:+ t) (ScanFault t) (readVersionPart t) := by
  have hdigit : ∀ c ∈ t.takeWhile Char.isDigit, c.isDigit = true := fun c hc => List.mem_takeWhile_imp hc
  unfold readVersionPart
  dsimp only
  split
  · exact ScanFault.malformed
  · next hne =>
    rw [Text.integer?_digits hdigit (by simpa using hne)]
    split
    · exact List.dropWhile_suffix _
    · next heq =>
      split at heq
      · next hcount =>
        cases heq
        exact ScanFault.digits ⟨hcount, [], t.takeWhile Char.isDigit, t.dropWhile Char.isDigit, by simp, rfl, hdigit⟩
      · cases heq

theorem Stops.readDirectiveValue (name t : Text) : Stops t (readDirectiveValue name t) := by
  have hspaces : ∀ t, skipSpaces t <:+ t := fun t => List.dropWhile_suffix _
  unfold Yaml.readDirectiveValue
  split
  · have hmajor := (readVersionPart_stops (skipSpaces t)).mono (fun r h => List.IsSuffix.trans h (hspaces t))
      fun _ h => h.of_suffix (hspaces t)
    refine hmajor.bind fun major hrest => ?_
    dsimp only
    split
    · next r heq =>
      have hr : r <:+ t := (List.suffix_cons '.' r).trans (heq ▸ hrest)
      have hminor : Stops t (readVersionPart r) :=
        (readVersionPart_stops r).mono (fun _ _ => trivial) fun _ h => h.of_suffix hr
      refine hminor.bind fun minor => ?_
      split
      · exact .ok _
      · exact .malformed
    · exact Stops.malformed
  · split
    · refine .bind (.readHandle _) fun handle => ?_
      dsimp only
      split
      · refine .bind (.readUri _) fun start => ?_
        split
        · exact .ok _
        · exact .malformed
      · exact .malformed
    · exact .ok _

theorem Stops.readDirective (t : Text) : Stops t (readDirective t) := by
  unfold Yaml.readDirective
  dsimp only
  split
  · exact .malformed
  · refine .bind ((Stops.readDirectiveValue _ _).of_suffix (List.dropWhile_suffix _)) fun directive => ?_
    split
    · exact .ok _
    · exact .malformed

theorem Stops.readBlock {t : Text} (folded : Bool) (outer : Int) (r : Text) : Stops t (readBlock folded outer r) := by
  have hheader : Stops t (readBlockHeader r) := by
    unfold readBlockHeader
    dsimp only
    split
    · exact .malformed
    · split
      · exact .ok _
      · exact .malformed
  unfold Yaml.readBlock
  split
  · next heq => rw [heq] at hheader; exact hheader
  · exact .ok _

/-! ## The scanner -/

theorem Place.next_suffix (p : Place) : p.next.rest <:+ p.rest := by
  unfold next
  split
  · exact List.suffix_rfl
  · next heq =>
    rw [heq]
    split <;> exact List.suffix_cons _ _

theorem Place.advance_suffix (n : Nat) (p : Place) : (p.advance n).rest <:+ p.rest := by
  induction n generalizing p with
  | zero => exact List.suffix_rfl
  | succ n ih => exact (ih p.next).trans p.next_suffix

namespace Scanner

def Within (t : Text) (s : Scanner) : Prop := s.place.rest <:+ t

section
variable {t : Text} {s : Scanner} (hs : s.Within t)
include hs

theorem Within.emitTo (token : Token) (rest : Text) : (s.emitTo token rest).Within t :=
  (Place.advance_suffix _ s.place).trans hs

theorem Within.toNextToken : s.toNextToken.Within t := (Place.advance_suffix _ s.place).trans hs

theorem Within.unwind (column : Int) : (s.unwind column).Within t := by
  unfold Scanner.unwind
  split
  · exact hs
  · exact hs

theorem Within.startBlock (column : Nat) (token : Token) (place : Nat) :
    (s.startBlock column token place).Within t := by
  unfold Scanner.startBlock
  split
  · exact hs
  · exact hs

theorem dropStale_ends : Ends (Within t) (ScanFault t) s.dropStale := by
  unfold dropStale
  split
  · exact ScanFault.malformed
  · exact hs

theorem removeKey_ends : Ends (Within t) (ScanFault t) s.removeKey := by
  unfold removeKey
  split
  · exact ScanFault.malformed
  · exact hs

theorem saveKey_ends : Ends (Within t) (ScanFault t) s.saveKey := by
  unfold saveKey
  split
  · exact Ends.map ((removeKey_ends hs).mono (fun _ h => h) fun _ h => h)
  · exact hs

theorem fetchEnd_ends : Ends (Within t) (ScanFault t) s.fetchEnd :=
  (removeKey_ends (hs.unwind (-1))).bind fun _ h => h

theorem fetchOutside_ends {read : Text → Except Fault (Token × Text)} (hread : ∀ r, Stops r (read r)) :
    Ends (Within t) (ScanFault t) (s.fetchOutside read) :=
  (removeKey_ends (hs.unwind (-1))).bind fun s hs => Ends.bind ((hread s.place.rest).of_suffix hs) fun r _ =>
    Within.emitTo (s := { s with keyAllowed := false }) hs r.1 r.2

theorem fetchFlowStart_ends (token : Token) : Ends (Within t) (ScanFault t) (s.fetchFlowStart token) :=
  (saveKey_ends hs).bind fun s hs =>
    Within.emitTo (s := { s with flowLevel := s.flowLevel + 1, keyAllowed := true }) hs _ _

theorem fetchFlowEnd_ends (token : Token) : Ends (Within t) (ScanFault t) (s.fetchFlowEnd token) :=
  (removeKey_ends hs).bind fun s hs =>
    Within.emitTo (s := { s with flowLevel := s.flowLevel - 1, keyAllowed := false }) hs _ _

theorem fetchFlowEntry_ends : Ends (Within t) (ScanFault t) s.fetchFlowEntry :=
  (removeKey_ends hs).bind fun s hs => Within.emitTo (s := { s with keyAllowed := true }) hs _ _

theorem fetchBlockEntry_ends : Ends (Within t) (ScanFault t) s.fetchBlockEntry := by
  unfold fetchBlockEntry
  dsimp only
  split
  · exact ScanFault.malformed
  · exact (removeKey_ends (hs.startBlock _ _ _)).bind fun s hs =>
      Within.emitTo (s := { s with keyAllowed := true }) hs _ _

theorem fetchKey_ends : Ends (Within t) (ScanFault t) s.fetchKey := by
  unfold fetchKey
  dsimp only
  split
  · exact ScanFault.malformed
  · exact (removeKey_ends (hs.startBlock _ _ _)).bind fun s hs =>
      Within.emitTo (s := { s with keyAllowed := s.flowLevel == 0 }) hs _ _

theorem fetchValue_ends : Ends (Within t) (ScanFault t) s.fetchValue := by
  unfold fetchValue
  split
  · next key _ =>
    refine Within.emitTo ?_ _ _
    exact Within.startBlock (s := { s with
      keys := s.keys.filter (·.level != s.flowLevel)
      tokens := s.tokens.take key.token ++ [Token.key] ++ s.tokens.drop key.token
      keyAllowed := false }) hs _ _ _
  · dsimp only
    split
    · exact ScanFault.malformed
    · exact (removeKey_ends (hs.startBlock _ _ _)).bind fun s hs =>
        Within.emitTo (s := { s with keyAllowed := s.flowLevel == 0 }) hs _ _

theorem fetchNode_ends {read : Text → Except Fault (Token × Text)} (hread : ∀ r, Stops r (read r)) :
    Ends (Within t) (ScanFault t) (s.fetchNode read) :=
  (saveKey_ends hs).bind fun s hs => Ends.bind ((hread s.place.rest).of_suffix hs) fun r _ =>
    Within.emitTo (s := { s with keyAllowed := false }) hs r.1 r.2

theorem fetchBlockScalar_ends (folded : Bool) : Ends (Within t) (ScanFault t) (s.fetchBlockScalar folded) :=
  (removeKey_ends hs).bind fun s hs => Ends.bind (Stops.readBlock folded s.indent s.place.rest.tail) fun r _ =>
    Within.emitTo (s := { s with keyAllowed := true }) hs (.scalar r.1 false) r.2

theorem fetchPlain_ends : Ends (Within t) (ScanFault t) s.fetchPlain :=
  (saveKey_ends hs).bind fun s hs => by
    generalize readPlain (s.flowLevel != 0) (s.indent + 1) .word s.place.rest = reading
    exact Within.emitTo (s := { s with keyAllowed := reading.broken }) hs _ _

theorem fetchToken_ends : Ends (Within t) (ScanFault t) s.fetchToken := by
  have halias : ∀ r, Stops r (readAlias r) := fun r => (Stops.readName r.tail).map
  have hanchor : ∀ r, Stops r (readAnchor r) := fun r => (Stops.readName r.tail).map
  have htag : ∀ r, Stops r (readTagToken r) := fun r => (Stops.readTag r).map
  have hquoted : ∀ quote r, Stops r (readQuotedToken quote r) := fun quote r =>
    ((Stops.readQuoted quote .text r.tail [] trivial).of_suffix (List.tail_suffix r)).map
  have hdirective : ∀ r, Stops r (readDirectiveToken r) := fun r =>
    ((Stops.readDirective r.tail).of_suffix (List.tail_suffix r)).map
  unfold fetchToken
  dsimp only
  split
  · exact fetchEnd_ends hs
  · next c r _ =>
    -- one branch for each way a token can start
    refine .ite (fetchOutside_ends hs hdirective) ?_
    refine .ite (fetchOutside_ends hs fun r => .ok _) ?_
    refine .ite (fetchOutside_ends hs fun r => .ok _) ?_
    refine .ite (fetchFlowStart_ends hs _) ?_
    refine .ite (fetchFlowStart_ends hs _) ?_
    refine .ite (fetchFlowEnd_ends hs _) ?_
    refine .ite (fetchFlowEnd_ends hs _) ?_
    refine .ite (fetchFlowEntry_ends hs) ?_
    refine .ite (fetchBlockEntry_ends hs) ?_
    refine .ite (fetchKey_ends hs) ?_
    refine .ite (fetchValue_ends hs) ?_
    refine .ite (fetchNode_ends hs halias) ?_
    refine .ite (fetchNode_ends hs hanchor) ?_
    refine .ite (fetchNode_ends hs htag) ?_
    refine .ite (fetchBlockScalar_ends hs false) ?_
    refine .ite (fetchBlockScalar_ends hs true) ?_
    refine .ite (fetchNode_ends hs (hquoted c)) ?_
    refine .ite (fetchPlain_ends hs) ?_
    exact ScanFault.malformed

theorem step_ends : Ends (Within t) (ScanFault t) s.step :=
  (dropStale_ends hs.toNextToken).bind fun _ hs => fetchToken_ends (hs.unwind _)

theorem run_fault (whole : Bool) (limit : Nat) {fault : Fault} (h : (run whole limit s).fault = some fault) :
    ScanFault t fault := by
  induction limit generalizing s with
  | zero =>
    cases h
    exact .malformed
  | succ limit ih =>
    have hstep := step_ends hs
    rw [run] at h
    split at h
    · next fault' heq =>
      cases h
      exact hstep.of_error heq
    · next s' heq =>
      split at h
      · exact ih (hstep.of_ok heq) h
      · split at h
        · cases h
        · cases h
          exact .malformed

end

end Scanner

/-- Whatever stops the scanner stands in the text. -/
theorem scan_fault {t : Text} {whole : Bool} {fault : Fault} (h : (scan t whole).fault = some fault) :
    ScanFault t fault :=
  Scanner.run_fault List.suffix_rfl whole _ h

end CursorDoc.Yaml
