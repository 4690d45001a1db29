import CursorDoc.Literals
import CursorDoc.Proofs.Text.Lines

/-!
# Literals read in one pass

Stripping literals goes line by line and remembers what is open between lines.
It gives what a lexer gives that goes once over the lines joined by newlines,
with one state for each kind of comment and literal.
-/

namespace CursorDoc

open Text

/-! ## What a line leaves open -/

theorem eq_templateQuote_of_afterLineEnd {inside : Inside} {q : Char} (h : inside.afterLineEnd = .quoted q) :
    q = templateQuote := by
  cases inside with
  | code => cases h
  | comment => cases h
  | quoted quote =>
    simp only [Inside.afterLineEnd] at h
    split at h
    · rename_i hq
      cases h
      exact hq
    · cases h

theorem eq_templateQuote_of_stripLine (inside : Inside) (line : Text) :
    ∀ q, (stripLine inside line).2 = .quoted q → q = templateQuote := by
  fun_induction stripLine inside line with
  | case1 inside =>
    intro q (h : inside.afterLineEnd = .quoted q)
    exact eq_templateQuote_of_afterLineEnd h
  | case4 quote =>
    intro q (h : (Inside.quoted quote).afterLineEnd = .quoted q)
    exact eq_templateQuote_of_afterLineEnd h
  | case7 => exact fun q h => by cases h
  | _ => assumption

/-! ## The lexer -/

inductive LexState where
  | code
  | lineComment
  | block
  | template
  | single
  | double
deriving DecidableEq, Repr

namespace LexState

/-- The state behind a newline, which ends all but block comments and templates. -/
def afterNewline : LexState → LexState
  | block => block
  | template => template
  | _ => code

def quote? : LexState → Option Char
  | template => some templateQuote
  | single => some '\''
  | double => some '"'
  | _ => none

def ofQuote? (c : Char) : Option LexState :=
  if c = templateQuote then some template
  else if c = '\'' then some single
  else if c = '"' then some double
  else none

@[simp] theorem afterNewline_afterNewline (state : LexState) :
    state.afterNewline.afterNewline = state.afterNewline := by cases state <;> rfl

theorem ofQuote?_eq_some_iff {c : Char} {state : LexState} : ofQuote? c = some state ↔ state.quote? = some c := by
  unfold ofQuote?
  split
  · rename_i h
    subst h
    cases state <;> decide
  · split
    · rename_i h
      subst h
      cases state <;> decide
    · split
      · rename_i h
        subst h
        cases state <;> decide
      · rename_i ht hs hd
        cases state <;> simp [quote?, Ne.symm ht, Ne.symm hs, Ne.symm hd]

end LexState

/-- The characters of a text outside comments and literals, and all of its newlines. -/
def lex : LexState → Text → Text
  | _, [] => []
  | state, '\n' :: r => '\n' :: lex state.afterNewline r
  | .code, '/' :: '/' :: r => lex .lineComment r
  | .code, '/' :: '*' :: r => lex .block r
  | .code, c :: r =>
    match LexState.ofQuote? c with
    | some state => lex state r
    | none => c :: lex .code r
  | .lineComment, _ :: r => lex .lineComment r
  | .block, '*' :: '/' :: r => lex .code r
  | .block, _ :: r => lex .block r
  | state, '\\' :: '\n' :: r => '\n' :: lex state.afterNewline r
  | state, '\\' :: _ :: r => lex state r
  | state, c :: r => lex (if state.quote? = some c then .code else state) r

/-! ## Steps of the lexer -/

def AtLineEnd (rest : Text) : Prop := ∀ c ∈ rest.head?, c = '\n'

theorem AtLineEnd.cases {rest : Text} (h : AtLineEnd rest) : rest = [] ∨ ∃ r, rest = '\n' :: r := by
  cases rest with
  | nil => exact .inl rfl
  | cons c r => exact .inr ⟨r, congrArg (· :: r) (h c rfl)⟩

theorem AtLineEnd.exists_of_append {r rest u : Text} (h : AtLineEnd rest) {d : Char} (hd : d ≠ '\n')
    (hu : r ++ rest = d :: u) : ∃ r', r = d :: r' := by
  cases r with
  | nil => exact absurd (h d (congrArg List.head? hu)) hd
  | cons c r => exact ⟨r, congrArg (· :: r) (List.cons.inj hu).1⟩

section
variable {state : LexState} {rest : Text} (hrest : AtLineEnd rest)

include hrest in
theorem lex_atLineEnd (state : LexState) : lex state rest = lex state.afterNewline rest := by
  obtain rfl | ⟨r, rfl⟩ := hrest.cases
  · rw [lex, lex]
  · rw [lex, lex, LexState.afterNewline_afterNewline]

include hrest in
theorem lex_code {c : Char} {r : Text} (hn : '\n' ≠ c) (hline : ∀ u, c = '/' → r = '/' :: u → False)
    (hblock : ∀ u, c = '/' → r = '*' :: u → False) :
    lex .code (c :: (r ++ rest)) =
      match LexState.ofQuote? c with
      | some state => lex state (r ++ rest)
      | none => c :: lex .code (r ++ rest) := by
  rw [lex]
  · exact Ne.symm hn
  · intro u hc hu
    obtain ⟨r', hr'⟩ := hrest.exists_of_append (by decide) hu
    exact hline r' hc hr'
  · intro u hc hu
    obtain ⟨r', hr'⟩ := hrest.exists_of_append (by decide) hu
    exact hblock r' hc hr'

include hrest in
theorem lex_lineComment {line : Text} (hline : '\n' ∉ line) : lex .lineComment (line ++ rest) = lex .code rest := by
  induction line with
  | nil => exact lex_atLineEnd hrest .lineComment
  | cons c line ih =>
    rw [List.mem_cons, not_or] at hline
    rw [List.cons_append, lex, ih hline.2]
    exact Ne.symm hline.1

section
variable {q : Char} (hq : state.quote? = some q)
include hq

theorem lex_quoted {c : Char} {r : Text} (hc : c ≠ '\n') (hslash : c ≠ '\\') :
    lex state (c :: r) = lex (if c = q then .code else state) r := by
  cases state with
  | code => cases hq
  | lineComment => cases hq
  | block => cases hq
  | _ =>
    obtain rfl := Option.some.inj hq
    simp [lex, LexState.quote?, hslash, eq_comm]

theorem lex_escaped {c : Char} {r : Text} (hc : c ≠ '\n') : lex state ('\\' :: c :: r) = lex state r := by
  cases state with
  | code => cases hq
  | lineComment => cases hq
  | block => cases hq
  | _ => simp [lex]

include hrest in
theorem lex_backslash : lex state ('\\' :: rest) = lex state rest := by
  cases state with
  | code => cases hq
  | lineComment => cases hq
  | block => cases hq
  | _ => obtain rfl | ⟨r, rfl⟩ := hrest.cases <;> simp [lex]

end

end

/-! ## Line by line -/

/-- Positions in a line and states of the lexer that stand for each other. -/
inductive SamePosition : Inside → LexState → Prop where
  | code : SamePosition .code .code
  | comment : SamePosition .comment .block
  | quoted {q : Char} {state : LexState} (h : state.quote? = some q) : SamePosition (.quoted q) state

theorem SamePosition.afterLineEnd {inside : Inside} {state : LexState} (h : SamePosition inside state) :
    SamePosition inside.afterLineEnd state.afterNewline := by
  cases h with
  | code => exact .code
  | comment => exact .comment
  | quoted h =>
    cases state with
    | code => cases h
    | lineComment => cases h
    | block => cases h
    | _ =>
      obtain rfl := Option.some.inj h
      first | exact .code | exact .quoted rfl

theorem isQuote_iff {c : Char} : isQuote c = true ↔ ∃ state, LexState.ofQuote? c = some state := by
  unfold isQuote LexState.ofQuote?
  split
  · simp_all
  · split
    · simp_all
    · split <;> simp_all

/-- A line is stripped of what the lexer skips, up to the state that it leaves the line in. -/
theorem exists_lex_line {rest : Text} (hrest : AtLineEnd rest) {inside : Inside} {line : Text} (hline : '\n' ∉ line)
    {state : LexState} (h : SamePosition inside state) :
    ∃ next : LexState, SamePosition (stripLine inside line).2 next ∧ next.afterNewline = next ∧
      lex state (line ++ rest) = (stripLine inside line).1 ++ lex next rest := by
  fun_induction stripLine inside line generalizing state with
  | case1 inside =>
    exact ⟨state.afterNewline, h.afterLineEnd, state.afterNewline_afterNewline, lex_atLineEnd hrest state⟩
  | case2 r ih =>
    simp only [List.mem_cons, not_or] at hline
    obtain ⟨next, hnext, hself, hlex⟩ := ih hline.2.2 .code
    cases h
    exact ⟨next, hnext, hself, by rw [← hlex]; simp [lex]⟩
  | case3 c r hc ih =>
    simp only [List.mem_cons, not_or] at hline
    obtain ⟨next, hnext, hself, hlex⟩ := ih hline.2 .comment
    cases h
    refine ⟨next, hnext, hself, ?_⟩
    rw [← hlex, List.cons_append, lex]
    · exact Ne.symm hline.1
    · intro u hstar hu
      obtain ⟨r', hr'⟩ := hrest.exists_of_append (by decide) hu
      exact hc r' hstar hr'
  | case4 q =>
    cases h with
    | quoted h =>
      refine ⟨state.afterNewline, (SamePosition.quoted h).afterLineEnd, state.afterNewline_afterNewline, ?_⟩
      rw [List.singleton_append, lex_backslash hrest h, lex_atLineEnd hrest, List.nil_append]
  | case5 q c r ih =>
    simp only [List.mem_cons, not_or] at hline
    obtain ⟨next, hnext, hself, hlex⟩ := ih hline.2.2 h
    cases h with
    | quoted h =>
      refine ⟨next, hnext, hself, ?_⟩
      rw [← hlex, List.cons_append, List.cons_append, lex_escaped h (Ne.symm hline.2.1)]
  | case6 q c r hc hc' ih =>
    simp only [List.mem_cons, not_or] at hline
    have hslash : c ≠ '\\' := by
      intro heq
      cases r with
      | nil => exact hc heq rfl
      | cons d r => exact hc' d r heq rfl
    cases h with
    | quoted h =>
      have hstep : SamePosition (if c = q then .code else .quoted q) (if c = q then .code else state) := by
        split
        · exact .code
        · exact .quoted h
      obtain ⟨next, hnext, hself, hlex⟩ := ih hline.2 hstep
      refine ⟨next, hnext, hself, ?_⟩
      rw [← hlex, List.cons_append, lex_quoted h (Ne.symm hline.1) hslash]
  | case7 r =>
    simp only [List.mem_cons, not_or] at hline
    cases h
    refine ⟨.code, .code, rfl, ?_⟩
    simp [lex, lex_lineComment hrest hline.2.2]
  | case8 r ih =>
    simp only [List.mem_cons, not_or] at hline
    obtain ⟨next, hnext, hself, hlex⟩ := ih hline.2.2 .comment
    cases h
    exact ⟨next, hnext, hself, by rw [← hlex]; simp [lex]⟩
  | case9 c r hc hc' hquote ih =>
    simp only [List.mem_cons, not_or] at hline
    obtain ⟨literal, hliteral⟩ := isQuote_iff.mp hquote
    obtain ⟨next, hnext, hself, hlex⟩ := ih hline.2 (.quoted (LexState.ofQuote?_eq_some_iff.mp hliteral))
    cases h
    refine ⟨next, hnext, hself, ?_⟩
    rw [← hlex, List.cons_append, lex_code hrest hline.1 hc hc', hliteral]
  | case10 c r hc hc' hquote rest' ih =>
    simp only [List.mem_cons, not_or] at hline
    obtain ⟨next, hnext, hself, hlex⟩ := ih hline.2 .code
    have hnone : LexState.ofQuote? c = none := by
      rw [isQuote_iff, not_exists] at hquote
      exact Option.eq_none_iff_forall_ne_some.mpr hquote
    cases h
    refine ⟨next, hnext, hself, ?_⟩
    rw [List.cons_append, lex_code hrest hline.1 hc hc', hnone, hlex]
    rfl

theorem joinLines_stripLinesFrom {inside : Inside} {state : LexState} (h : SamePosition inside state) {lines : List Text}
    (hlines : ∀ line ∈ lines, '\n' ∉ line) : joinLines (stripLinesFrom inside lines) = lex state (joinLines lines) := by
  induction lines generalizing inside state with
  | nil => exact (lex.eq_1 state).symm
  | cons line lines ih =>
    obtain ⟨hline, hbelow⟩ := List.forall_mem_cons.mp hlines
    rw [stripLinesFrom]
    by_cases hnil : lines = []
    · subst hnil
      have hrest : AtLineEnd [] := by simp [AtLineEnd]
      obtain ⟨next, -, -, hlex⟩ := exists_lex_line hrest hline h
      rw [List.append_nil, lex, List.append_nil] at hlex
      rw [joinLines_singleton, hlex]
      exact joinLines_singleton _
    · have hrest : AtLineEnd ('\n' :: joinLines lines) := by simp [AtLineEnd]
      obtain ⟨next, hnext, hself, hlex⟩ := exists_lex_line hrest hline h
      have hne : stripLinesFrom (stripLine inside line).2 lines ≠ [] := by
        rw [← List.length_pos_iff, length_stripLinesFrom]
        exact List.length_pos_iff.mpr hnil
      rw [joinLines_cons line hnil, joinLines_cons _ hne, hlex, lex, hself, ih hnext hbelow]

/-- **One pass.** Stripped lines are what the lexer gives of the whole text, one for each line, and each depends on the
lines down to its own. -/
theorem stripLiterals_lex {lines : List Text} (hlines : ∀ line ∈ lines, '\n' ∉ line) :
    joinLines (stripLiterals lines) = lex .code (joinLines lines) ∧
      (stripLiterals lines).length = lines.length ∧
      ∀ (k : Nat) (lines' : List Text), lines'.take k = lines.take k →
        (stripLiterals lines').take k = (stripLiterals lines).take k := by
  refine ⟨joinLines_stripLinesFrom .code hlines, length_stripLinesFrom .code lines, fun k lines' hsame => ?_⟩
  unfold stripLiterals
  rw [← stripLinesFrom_take, hsame, stripLinesFrom_take]

theorem stripLiterals_lex_open_literals :
    let lines : List Text := ["a('\\".toList, "b(/* '".toList, "*/ ".toList ++ [templateQuote], templateQuote :: ") // d".toList]
    (∀ line ∈ lines, '\n' ∉ line) ∧ lex .code (joinLines lines) = "a(\nb(\n \n) ".toList := by
  intro lines
  have hlines : ∀ line ∈ lines, '\n' ∉ line := by decide
  have hstripped : joinLines (stripLiterals lines) = "a(\nb(\n \n) ".toList := by decide
  exact ⟨hlines, (stripLiterals_lex hlines).1.symm.trans hstripped⟩

end CursorDoc
