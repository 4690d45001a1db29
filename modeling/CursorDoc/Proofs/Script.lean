import CursorDoc.Proofs.Braces
import CursorDoc.Proofs.Locate
import CursorDoc.Proofs.Pattern

/-!
# Bodies of script functions

A signature of the script family ends with the brace that opens the body. The
span of the function does not start there but at the first brace of the line,
which may be one of the parameter list.
-/

namespace CursorDoc

/-! ## The brace of the signature -/

theorem Signature.endsIn_typedBody : typedBody.EndsIn '{' :=
  Pattern.endsIn_all (List.cons_ne_nil _ _) (Pattern.endsIn_char '{')

theorem Signature.endsIn_of_mem_scriptPatterns {p : Pattern} (h : p ∈ scriptPatterns) : p.EndsIn '{' := by
  unfold scriptPatterns at h
  simp only [List.mem_cons, List.not_mem_nil, or_false] at h
  obtain rfl | rfl | rfl | rfl := h
  · exact Pattern.endsIn_all (List.cons_ne_nil _ _) endsIn_typedBody
  · exact Pattern.endsIn_all (List.cons_ne_nil _ _) (Pattern.endsIn_char '{')
  · exact Pattern.endsIn_all (List.cons_ne_nil _ _) (Pattern.endsIn_char '{')
  · exact Pattern.endsIn_all (List.cons_ne_nil _ _) endsIn_typedBody

theorem exists_brace_of_reading? {line : Text} {reading : Reading} (h : Family.script.reading? line = some reading) :
    ∃ before after, line = before ++ '{' :: after ∧ reading.stop = before.length + 1 := by
  obtain ⟨p, hp, hsearch⟩ := List.exists_of_findSome?_eq_some h
  exact (Signature.endsIn_of_mem_scriptPatterns hp).stop hsearch

/-! ## Braces in front of it -/

section
variable {before mid after : Text} (h : '{' ∉ before) (below : List Text)
include h

theorem idxOf_brace : (before ++ '{' :: after).idxOf '{' = before.length := by
  rw [List.idxOf_append, if_neg h, List.idxOf_cons_self, Nat.zero_add]

theorem braceReach_of_earlier :
    (braceReach ((before ++ '{' :: mid ++ '{' :: after) :: below) false = 0 ∧
        ∃ u, u <+: '{' :: mid ∧ Closes 0 u) ∨
      (closingLine? 1 (after :: below)).getD below.length ≤
        braceReach ((before ++ '{' :: mid ++ '{' :: after) :: below) false := by
  have hreach : braceReach ((before ++ '{' :: mid ++ '{' :: after) :: below) false =
      (closingLine? 1 ((mid ++ '{' :: after) :: below)).getD below.length := by
    unfold braceReach
    rw [List.append_assoc, List.cons_append, if_neg Bool.false_ne_true, closingLine?_of_first h]
    rfl
  rw [hreach, closingLine?_append]
  -- either the braces up to `mid` balance, or some stay open, and with more open braces a body ends no sooner
  obtain ⟨hnone, u, hu, hclose⟩ | ⟨hsome, hpos⟩ := followBraces_cases Nat.one_pos mid
  · refine .inl ⟨by rw [hnone]; rfl, '{' :: u, List.cons_prefix_cons.mpr ⟨rfl, hu⟩, ?_⟩
    exact closes_cons.mpr (.inr ⟨by decide, hclose⟩)
  · right
    rw [hsome]
    simp only [closingLine?_brace]
    rw [Nat.add_comm]
    cases hk : closingLine? (1 + (((1 : Nat) : Int) + braceDepth mid).toNat) (after :: below) with
    | none =>
      rw [Option.getD_none]
      cases hj : closingLine? 1 (after :: below) with
      | none => exact Nat.le_refl _
      | some j => exact Nat.le_of_lt_succ (closingLine?_lt hj)
    | some k =>
      obtain ⟨j, hj, hclose⟩ := closingLine?_le_of_add Nat.one_pos _ hk
      rw [hclose]
      exact hj

end

/-! ## The end of the body -/

/-- The body of a located script function ends where the first brace of the header line is closed. This is the
brace of the signature unless the parameters or the result type hold braces; those end the function on its header
line if they balance in front of the signature's brace, and otherwise never end it above the line where that brace
is closed. -/
theorem script_endLine {buffer : Buffer} {cursor : Int} {language : Text} {settings : Settings} {r : Record}
    (hf : Family.ofTag language = .script) (hs : settings.skipLiterals = false)
    (hr : locate? buffer cursor language settings = some r) :
    ∃ (start stop p : Nat) (header : Text) (reading : Reading), r.startLine = start ∧ r.endLine = stop ∧
      buffer.asLines[start]? = some header ∧ Family.script.reading? header = some reading ∧
      reading.name = r.name ∧ reading.stop = p + 1 ∧ header[p]? = some '{' ∧
      EndsOn buffer.asLines start (header.idxOf '{') stop ∧
      ('{' ∉ header.take p → EndsOn buffer.asLines start p stop) ∧
      ∀ body, EndsOn buffer.asLines start p body → body ≤ stop ∨
        (stop = start ∧ ∃ u, u <+: (header.take p).drop (header.idxOf '{') ∧ Closes 0 u) := by
  obtain ⟨-, above, header, below, name, hlines, hname, rfl⟩ := exists_of_locate? hr
  rw [hf] at hname
  obtain ⟨reading, hreading, rfl⟩ := Option.map_eq_some_iff.mp hname
  obtain ⟨before, after, rfl, hstop⟩ := exists_brace_of_reading? hreading
  have hindent : (Family.ofTag language).isIndented = false := by rw [hf]; rfl
  have hrec := recordAt_of_braces settings language above (before ++ '{' :: after) below reading.name hindent
  rw [hs] at hrec
  rw [hlines, hrec]
  refine ⟨above.length, above.length + braceReach ((before ++ '{' :: after) :: below) false, before.length,
    before ++ '{' :: after, reading, rfl, rfl, by simp, hreading, rfl, hstop, by simp, ?_⟩
  have htake : (before ++ '{' :: after).take before.length = before := List.take_left
  rw [htake]
  by_cases hfirst : '{' ∈ before
  · obtain ⟨before, mid, rfl, hbefore⟩ := List.eq_append_cons_of_mem hfirst
    have hidx : (before ++ '{' :: mid ++ '{' :: after).idxOf '{' = before.length := by
      rw [List.append_assoc]
      exact idxOf_brace hbefore
    refine ⟨?_, fun hnot => absurd hfirst hnot, ?_⟩
    · rw [hidx, List.append_assoc]
      exact endsOn_first hbefore
    · intro body hbody
      rw [endsOn_iff] at hbody
      rw [hidx, List.drop_left]
      obtain ⟨hzero, hclosed⟩ | hle := @braceReach_of_earlier before mid after hbefore below
      · exact .inr ⟨by rw [hzero]; rfl, hclosed⟩
      · exact .inl (hbody ▸ Nat.add_le_add_left hle _)
  · have hends : EndsOn (above ++ (before ++ '{' :: after) :: below) above.length before.length
        (above.length + braceReach ((before ++ '{' :: after) :: below) false) := endsOn_first hfirst
    refine ⟨by rw [idxOf_brace hfirst]; exact hends, fun _ => hends, ?_⟩
    intro body hbody
    rw [endsOn_iff] at hbody hends
    exact .inl (Nat.le_of_eq (hbody.trans hends.symm))

theorem script_endLine_of_plain_header :
    let header : Text := "function f(a) \x7b".toList
    let below : List Text := ["  if (a) \x7b b(); \x7d".toList, "\x7d".toList, "f();".toList]
    let r : Record :=
      { name := "f".toList, signature := header
        body := "function f(a) \x7b\n  if (a) \x7b b(); \x7d\n\x7d\n".toList, startLine := 0, endLine := 2
        language := "javascript".toList, documentation := none }
    Family.ofTag "javascript".toList = .script ∧ ({} : Settings).skipLiterals = false ∧
      locate? (.lines (header :: below)) 1 "javascript".toList {} = some r ∧ EndsOn (header :: below) 0 14 2 := by
  intro header below r
  have hf : Family.ofTag "javascript".toList = .script := by decide +kernel
  have hr : locate? (.lines (header :: below)) 1 "javascript".toList {} = some r := by decide +kernel
  have hfound : Family.script.reading? header = some ⟨"f".toList, 15⟩ := by decide +kernel
  obtain ⟨start, stop, p, line, reading, hstart, hstop, hline, hreading, -, hp, -, -, hends, -⟩ :=
    script_endLine hf rfl hr
  obtain rfl : 0 = start := Int.ofNat.inj hstart
  obtain rfl : 2 = stop := Int.ofNat.inj hstop
  obtain rfl : header = line := Option.some.inj hline
  obtain rfl : (⟨"f".toList, 15⟩ : Reading) = reading := Option.some.inj (hfound.symm.trans hreading)
  obtain rfl : 14 = p := Nat.succ.inj hp
  exact ⟨hf, rfl, hr, hends (by decide +kernel)⟩

/-- The braces of a parameter list end a function on its header line. -/
theorem script_endLine_of_destructuring :
    let header : Text := "function f(\x7ba\x7d) \x7b".toList
    let below : List Text := ["  return a;".toList, "\x7d".toList]
    ∃ r reading p, locate? (.lines (header :: below)) 0 "javascript".toList {} = some r ∧
      Family.script.reading? header = some reading ∧ reading.stop = p + 1 ∧
      EndsOn (header :: below) r.startLine.toNat p 2 ∧
      ¬ EndsOn (header :: below) r.startLine.toNat p r.endLine.toNat := by
  intro header below
  have hbody : closingLine? 1 ([] :: below) = some 2 := by decide +kernel
  have hends : ∀ stop, EndsOn (header :: below) 0 16 stop ↔ stop = 2 := by
    intro stop
    have h := @endsOn_iff [] below "function f(\x7ba\x7d) ".toList [] stop
    rw [hbody] at h
    exact h
  let r : Record :=
    { name := "f".toList, signature := header, body := header ++ ['\n'], startLine := 0, endLine := 0
      language := "javascript".toList, documentation := none }
  refine ⟨r, ⟨"f".toList, 17⟩, 16, by decide +kernel, by decide +kernel, rfl, (hends 2).mpr rfl, ?_⟩
  intro h
  exact absurd ((hends 0).mp h) (by decide)

end CursorDoc
