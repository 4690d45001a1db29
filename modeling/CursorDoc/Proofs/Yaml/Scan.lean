import CursorDoc.Proofs.Yaml.Word

/-!
# Scanning keys and values

A scanner that is ready for a line with a key, or with a key and a value, is
ready for the next line two or three steps later, and has the tokens of the
line behind those it had, with the block that the line starts and the ends of
the blocks that it leaves.
-/

namespace CursorDoc.Yaml

/-! ## Blocks -/

/-- The column of the block at a depth; blocks are indented by two spaces, and the outermost one not at all. -/
def indentAt : Nat → Int
  | 0 => -1
  | depth + 1 => 2 * depth

def outerAt : Nat → List Int
  | 0 => []
  | depth + 1 => indentAt depth :: outerAt depth

theorem indentAt_lt {m n : Nat} (h : m < n) : indentAt m < indentAt n := by
  cases n with
  | zero => cases h
  | succ n =>
    cases m with
    | zero => simp only [indentAt]; omega
    | succ m => simp only [indentAt]; omega

theorem LineBreak.atGap {behind next : Text} {column : Nat} (h : LineBreak behind column next) :
    atGap behind = true := by
  obtain ⟨rfl, -⟩ | ⟨rfl, -⟩ := h <;> rfl

theorem LineBreak.length_le {behind next : Text} {column : Nat} (h : LineBreak behind column next) :
    next.length ≤ behind.length := by
  obtain ⟨rfl, rfl⟩ | ⟨rfl, -⟩ := h
  · exact Nat.le_refl _
  · simp only [List.length_cons, List.length_append]
    omega

theorem Word.IsSimple.length_written_pos {w : Word} (h : w.IsSimple) : 0 < w.written.length := by
  unfold written
  split
  · exact List.length_pos_iff.mpr h.ne_nil
  · simp

namespace Scanner

theorem unwound_of_le {column indent : Int} (h : indent ≤ column) (outer : List Int) :
    unwound column indent outer = (indent, outer, 0) := by
  cases outer with
  | nil => rfl
  | cons next outer => rw [unwound, if_neg (Int.not_lt.mpr h)]

theorem unwound_indentAt (depth level : Nat) :
    unwound (indentAt level) (indentAt depth) (outerAt depth) =
      (indentAt (min depth level), outerAt (min depth level), depth - level) := by
  induction depth with
  | zero => rw [Nat.zero_min, Nat.zero_sub]; rfl
  | succ depth ih =>
    by_cases h : level ≤ depth
    · rw [outerAt, unwound, if_pos (indentAt_lt (Nat.lt_succ_of_le h)), ih, Nat.min_eq_right h,
        Nat.min_eq_right (Nat.le_succ_of_le h), Nat.succ_sub h]
    · have hle : depth + 1 ≤ level := by omega
      rw [Nat.min_eq_left hle, Nat.sub_eq_zero_of_le hle, unwound_of_le]
      obtain hlt | rfl := Nat.lt_or_eq_of_le hle
      · exact Int.le_of_lt (indentAt_lt hlt)
      · exact Int.le_refl _

theorem exists_unwound (column : Int) (depth : Nat) :
    ∃ left ≤ depth, unwound column (indentAt depth) (outerAt depth) = (indentAt left, outerAt left, depth - left) := by
  induction depth with
  | zero => exact ⟨0, Nat.le_refl 0, rfl⟩
  | succ depth ih =>
    by_cases h : column < indentAt (depth + 1)
    · obtain ⟨left, hle, heq⟩ := ih
      refine ⟨left, Nat.le_succ_of_le hle, ?_⟩
      rw [outerAt, unwound, if_pos h, heq, Nat.succ_sub hle]
    · refine ⟨depth + 1, Nat.le_refl _, ?_⟩
      rw [unwound_of_le (Int.not_lt.mp h), Nat.sub_self]

def resting (place : Place) (depth : Nat) (keyAllowed : Bool) (tokens : List Token) : Scanner :=
  { place, indent := indentAt depth, outer := outerAt depth, keyAllowed, tokens }

theorem unwind_resting (place : Place) (depth : Nat) (keyAllowed : Bool) (tokens : List Token) (level : Nat) :
    (resting place depth keyAllowed tokens).unwind (indentAt level) =
      resting place (min depth level) keyAllowed (tokens ++ List.replicate (depth - level) .blockEnd) := by
  simp only [unwind, resting, unwound_indentAt, if_true]

/-- The next token starts with `next`; if there is one, it may be a key and is in the given column. -/
def Ready (s : Scanner) (next : Text) (column depth : Nat) (tokens : List Token) : Prop :=
  ∃ place keyAllowed, s.toNextToken = resting place depth keyAllowed tokens ∧ place.rest = next ∧
    (next ≠ [] → place.column = column ∧ keyAllowed = true)

theorem skipFiller_startsWord {r : Text} (h : StartsWord r) : skipFiller false r = (r, false) := by
  cases r with
  | nil => rfl
  | cons c r =>
    have hspace : c ≠ ' ' := h.ne (by decide) (by decide)
    have hcomment : c ≠ '#' := h.ne (by decide) (by decide)
    simp [skipFiller, h.isBreak, hspace, hcomment]

theorem skipFiller_margin {r : Text} (h : StartsWord r) (n : Nat) :
    skipFiller false (List.replicate n ' ' ++ r) = (r, false) := by
  induction n with
  | zero => exact skipFiller_startsWord h
  | succ n ih =>
    rw [List.replicate_succ, List.cons_append, skipFiller]
    simpa [isBreak] using ih

/-- Where a text has no mark of the byte order in front, the way to the next token leads over its filler. -/
theorem toNextToken_eq {s : Scanner} (h : s.place.rest.head? ≠ some '\ufeff') :
    s.toNextToken = { s with
      place := s.place.moveTo (skipFiller false s.place.rest).1
      keyAllowed := s.keyAllowed || ((skipFiller false s.place.rest).2 && s.flowLevel == 0) } := by
  unfold toNextToken
  cases hr : s.place.rest with
  | nil => rfl
  | cons c r =>
    have hc : c ≠ '\ufeff' := by
      rintro rfl
      rw [hr] at h
      exact h rfl
    simp only
    split
    · next heq => exact absurd (List.cons.inj heq).1 hc
    · rfl

theorem ready_behind {behind next : Text} {column : Nat} (h : LineBreak behind column next)
    (index line here depth : Nat)
    (keyAllowed : Bool) (tokens : List Token) :
    Ready (resting ⟨behind, index, line, here⟩ depth keyAllowed tokens) next column depth tokens := by
  obtain ⟨rfl, rfl⟩ | ⟨rfl, hnext⟩ := h
  · refine ⟨⟨[], index, line, here⟩, keyAllowed, ?_, rfl, fun hne => absurd rfl hne⟩
    rw [toNextToken_eq (by simp [resting])]
    simp [resting, skipFiller, Place.moveTo, Place.advance]
  · have hfiller : skipFiller false ('\n' :: (List.replicate column ' ' ++ next)) = (next, true) := by
      rw [skipFiller]
      simp [isBreak, skipFiller_margin hnext]
    have hmove := Place.moveTo_nextLine (w := []) (by simp) next index line here column
    rw [List.nil_append] at hmove
    refine ⟨⟨next, index + 0 + 1 + column, line + 1, column⟩, true, ?_, rfl, fun _ => ⟨rfl, rfl⟩⟩
    rw [toNextToken_eq (by simp [resting])]
    simp [resting, hfiller, hmove]

theorem ready_word {next : Text} (h : StartsWord next) (index line column depth : Nat) (keyAllowed : Bool)
    (hkey : next ≠ [] → keyAllowed = true) (tokens : List Token) :
    Ready (resting ⟨next, index, line, column⟩ depth keyAllowed tokens) next column depth tokens := by
  refine ⟨⟨next, index, line, column⟩, keyAllowed, ?_, rfl, fun hne => ⟨rfl, hkey hne⟩⟩
  have hmark : next.head? ≠ some '\ufeff' := by
    cases next with
    | nil => simp
    | cons c r =>
      have hc : c ≠ '\ufeff' := h.ne (by decide) (by decide)
      simpa using hc
  rw [toNextToken_eq (by simpa [resting] using hmark)]
  simp [resting, skipFiller_startsWord h, Place.moveTo, Place.advance]

theorem step_of_ready {s : Scanner} {place : Place} {depth : Nat} {keyAllowed : Bool} {tokens : List Token}
    (h : s.toNextToken = resting place depth keyAllowed tokens) {level : Nat}
    (hl : (place.column : Int) = indentAt level) :
    s.step = (resting place (min depth level) keyAllowed
      (tokens ++ List.replicate (depth - level) .blockEnd)).fetchToken := by
  unfold step
  rw [h]
  change ((resting place depth keyAllowed tokens).unwind place.column).fetchToken = _
  rw [hl, unwind_resting]

/-! ## Words as tokens -/

section
variable {w : Word} (hw : w.IsSimple) {r : Text}
include hw

theorem startsWord_written : StartsWord (w.written ++ r) := by
  intro c hc
  unfold Word.written at hc
  split at hc
  · next hplain =>
    cases ht : w.text with
    | nil => exact absurd ht hw.ne_nil
    | cons d t =>
      rw [ht] at hc
      obtain rfl : d = c := Option.some.inj hc
      exact .inl (hw.head hplain d (by rw [ht]; rfl))
  · exact .inr (Option.some.inj hc).symm

theorem fetchToken_word {s : Scanner} (hs : s.flowLevel = 0) (hrest : s.place.rest = w.written ++ r) :
    s.fetchToken = if w.plain then s.fetchPlain else s.fetchNode (readQuotedToken '"') := by
  by_cases hplain : w.plain = true
  · obtain ⟨c, t, ht⟩ := List.exists_cons_of_ne_nil hw.ne_nil
    have hstart : isStartChar c = true := hw.head hplain c (by rw [ht]; rfl)
    have hc : isInnerChar c = true := isInnerChar_of_isStartChar hstart
    have hne : ∀ d : Char, isStartChar d = false → c ≠ d := by
      rintro d hd rfl
      rw [hstart] at hd
      cases hd
    have hplainStart : startsPlain false c (t ++ r) = true := by
      have hindicator : isIndicator c = false := by
        simpa [hstart] using of_isInnerChar (p := fun c => !isStartChar c || !isIndicator c) (by decide) hc
      simp [startsPlain, isGap_of_isInnerChar hc, isBreak_of_isInnerChar hc, hindicator]
    have hrest' : s.place.rest = c :: (t ++ r) := by
      rw [hrest, Word.written, if_pos hplain, ht, List.cons_append]
    unfold fetchToken
    rw [hrest', if_pos hplain]
    simp [hs, hplainStart, hne '.' (by decide), hne '%' (by decide), hne '-' (by decide), hne '[' (by decide),
      hne '\x7b' (by decide), hne ']' (by decide), hne '\x7d' (by decide), hne ',' (by decide), hne '?' (by decide),
      hne ':' (by decide), hne '*' (by decide), hne '&' (by decide), hne '!' (by decide), hne '|' (by decide),
      hne '>' (by decide), hne '\'' (by decide), hne '"' (by decide)]
  · have hrest' : s.place.rest = '"' :: (w.text ++ ['"'] ++ r) := by
      rw [hrest, Word.written, if_neg hplain]
      simp
    unfold fetchToken
    rw [hrest', if_neg hplain]
    simp

/-- A word that may be a key is remembered as one. -/
theorem fetchToken_key (hr : atGap r = true) (index line column depth : Nat) (tokens : List Token) :
    (resting ⟨w.written ++ ':' :: r, index, line, column⟩ depth true tokens).fetchToken = .ok
      { resting ⟨':' :: r, index + w.written.length, line, column + w.written.length⟩ depth false
          (tokens ++ [w.token]) with
        keys := [⟨0, tokens.length, indentAt depth == (column : Int), index, line, column⟩] } := by
  rw [fetchToken_word hw rfl rfl]
  have hmove := Place.moveTo_inline hw.all_isInline (':' :: r) index line column
  by_cases hplain : w.plain = true
  · have hread : ∀ indent, readPlain false indent .word (w.written ++ ':' :: r) = ⟨w.text, ':' :: r, false⟩ := by
      intro indent
      rw [Word.written, if_pos hplain, readPlain_append hw.all, readPlain_colon indent hr]
      simp [PlainReading.after]
    rw [if_pos hplain]
    simp [fetchPlain, saveKey, removeKey, resting, emitTo, emit, Except.map, bind, Except.bind, pure, Except.pure, hread,
      hmove, Word.token, hplain]
  · have hread : readQuotedToken '"' (w.written ++ ':' :: r) = .ok (w.token, ':' :: r) := by
      rw [Word.written, if_neg hplain]
      simp [readQuotedToken, readQuoted_append hw.all, Except.map, Word.token, hplain]
    rw [if_neg hplain]
    simp [fetchNode, saveKey, removeKey, resting, emitTo, emit, Except.map, bind, Except.bind, pure, Except.pure, hread,
      hmove]

/-- A word at the end of a line. -/
theorem fetchToken_value {behind next : Text} {column depth : Nat} (h : LineBreak behind column next)
    (hc : (column : Int) ≤ indentAt depth) (index line here : Nat) (tokens : List Token) :
    ∃ s', (resting ⟨w.written ++ behind, index, line, here⟩ depth false tokens).fetchToken = .ok s' ∧
      s'.finished = false ∧ Ready s' next column depth (tokens ++ [w.token]) := by
  rw [fetchToken_word hw rfl rfl]
  -- a plain word is read over the line break, and a quoted one ends at its quote
  by_cases hplain : w.plain = true
  · have hread : readPlain false (indentAt depth + 1) .word (w.written ++ behind) =
        ⟨w.text, next, !behind.isEmpty⟩ := by
      rw [Word.written, if_pos hplain, readPlain_append hw.all, readPlain_behind h (by omega)]
      simp [PlainReading.after]
    rw [if_pos hplain]
    refine ⟨resting ((⟨w.written ++ behind, index, line, here⟩ : Place).moveTo next) depth (!behind.isEmpty)
      (tokens ++ [w.token]), ?_, rfl, ?_⟩
    · simp [fetchPlain, saveKey, resting, emitTo, emit, bind, Except.bind, pure, Except.pure, hread, Word.token, hplain]
    · obtain ⟨rfl, rfl⟩ | ⟨rfl, hnext⟩ := h
      · rw [Place.moveTo_inline hw.all_isInline]
        exact ready_behind (.inl ⟨rfl, rfl⟩) _ _ _ _ _ _
      · rw [Place.moveTo_nextLine hw.all_isInline]
        exact ready_word hnext _ _ _ _ _ (fun _ => rfl) _
  · have hread : readQuotedToken '"' (w.written ++ behind) = .ok (w.token, behind) := by
      rw [Word.written, if_neg hplain]
      simp [readQuotedToken, readQuoted_append hw.all, Except.map, Word.token, hplain]
    rw [if_neg hplain]
    refine ⟨resting ⟨behind, index + w.written.length, line, here + w.written.length⟩ depth false
      (tokens ++ [w.token]), ?_, rfl, ready_behind h _ _ _ _ _ _⟩
    simp [fetchNode, saveKey, resting, emitTo, emit, bind, Except.bind, pure, Except.pure, hread,
      Place.moveTo_inline hw.all_isInline]

end

/-! ## Keys -/

def opening (depth level : Nat) : List Token := if depth ≤ level then [.blockMappingStart] else []

theorem startBlock_resting {level depth : Nat} (h : level ≤ depth) (h' : depth ≤ level + 1) (place : Place)
    (keyAllowed : Bool) (tokens more : List Token) :
    (resting place depth keyAllowed (tokens ++ more)).startBlock (2 * level) .blockMappingStart tokens.length =
      resting place (level + 1) keyAllowed (tokens ++ opening depth level ++ more) := by
  have hcolumn : ((2 * level : Nat) : Int) = indentAt (level + 1) := by simp [indentAt]
  unfold startBlock opening
  rw [hcolumn]
  obtain rfl | rfl : depth = level ∨ depth = level + 1 := by omega
  · have hlt : indentAt depth < indentAt (depth + 1) := indentAt_lt (Nat.lt_succ_self depth)
    simp [resting, hlt, outerAt]
  · simp [resting]

/-- The colon behind a word makes it a key, the first one of a block if the word is deeper than all blocks. -/
theorem step_colon {level depth : Nat} (h : level ≤ depth) (h' : depth ≤ level + 1) {r : Text} (hr : atGap r = true)
    {length : Nat} (hl : length ≤ maxKeyLength) (token : Token) (required : Bool) (index line : Nat)
    (tokens : List Token) :
    ({ resting ⟨':' :: r, index + length, line, 2 * level + length⟩ depth false (tokens ++ [token]) with
        keys := [⟨0, tokens.length, required, index, line, 2 * level⟩] } : Scanner).step = .ok
      (resting ⟨r, index + length + 1, line, 2 * level + length + 1⟩ (level + 1) false
        (tokens ++ opening depth level ++ [.key, token, .value])) := by
  have hindent : indentAt depth ≤ 2 * level := by
    cases depth with
    | zero => simp only [indentAt]; omega
    | succ depth => simp only [indentAt]; omega
  have hfiller : skipFiller false (':' :: r) = (':' :: r, false) := by simp [skipFiller, isBreak]
  have hcolon : (⟨':' :: r, index + length, line, 2 * level + length⟩ : Place).moveTo r =
      ⟨r, index + length + 1, line, 2 * level + length + 1⟩ :=
    Place.moveTo_inline (w := [':']) (List.all_eq_true.mp rfl) r _ _ _
  have hstay : ∀ place : Place, place.moveTo place.rest = place := fun place => by simp [Place.moveTo, Place.advance]
  unfold step
  rw [toNextToken_eq (by simp [resting])]
  simp only [resting, hfiller, hstay, Bool.false_and, Bool.or_false]
  -- the key is still possible: on this line, and not too long
  have hlate : ¬ maxKeyLength < index + length - index := by omega
  simp only [dropStale, isStale, List.any_cons, List.any_nil, bne_self_eq_false, hlate, decide_false, Bool.or_false,
    Bool.false_and, Bool.false_eq_true, if_false, List.filter_cons, Bool.not_false, if_true, List.filter_nil, bind,
    Except.bind, unwind, unwound_of_le (show indentAt depth ≤ ((2 * level + length : Nat) : Int) by omega),
    List.replicate_zero, List.append_nil]
  have hopen := startBlock_resting h h' ⟨':' :: r, index + length, line, 2 * level + length⟩ false tokens [.key, token]
  rw [resting] at hopen
  simp [fetchToken, fetchValue, hr, hopen, emitTo, emit, hcolon, resting]

/-! ## Runs -/

/-- A scanner goes on to another one in the given number of steps, and is not finished by then. -/
inductive Steps : Nat → Scanner → Scanner → Prop where
  | refl {s : Scanner} : Steps 0 s s
  | step {s s' s'' : Scanner} {n : Nat} : s.step = .ok s' → s'.finished = false → Steps n s' s'' → Steps (n + 1) s s''

theorem Steps.trans {m n : Nat} {s s' s'' : Scanner} (h : Steps m s s') (h' : Steps n s' s'') :
    Steps (m + n) s s'' := by
  induction h with
  | refl => rwa [Nat.zero_add]
  | step hstep hfinished _ ih =>
    rw [Nat.add_right_comm]
    exact .step hstep hfinished (ih h')

theorem Steps.run {n : Nat} {s s' : Scanner} (h : Steps n s s') (limit : Nat) :
    Scanner.run true (n + limit) s = Scanner.run true limit s' := by
  induction h with
  | refl => rw [Nat.zero_add]
  | step hstep hfinished _ ih =>
    rw [Nat.add_right_comm, Scanner.run, hstep]
    simp [hfinished, ih]

/-- On the way from one text to another, a scanner takes no more steps than characters. -/
def Reaches (s : Scanner) (t : Text) (s' : Scanner) (t' : Text) : Prop :=
  ∃ n, Steps n s s' ∧ n + t'.length ≤ t.length

theorem Reaches.trans {s s' s'' : Scanner} {t t' t'' : Text} (h : Reaches s t s' t') (h' : Reaches s' t' s'' t'') :
    Reaches s t s'' t'' := by
  obtain ⟨m, hm, hlm⟩ := h
  obtain ⟨n, hn, hln⟩ := h'
  exact ⟨m + n, hm.trans hn, by omega⟩

/-! ## Lines -/

def closings (depth level : Nat) : List Token := List.replicate (depth - level) .blockEnd

section
variable {s : Scanner} {k : Word} (hk : k.IsSimple) (hl : k.written.length ≤ maxKeyLength) {level depth : Nat}
  (hd : level ≤ depth) {tokens : List Token}
include hk hl hd

theorem steps_key {r : Text} (hs : s.Ready (k.written ++ ':' :: r) (2 * level) depth tokens) (hr : atGap r = true) :
    ∃ index line column, 2 * level ≤ column ∧
      Steps 2 s (resting ⟨r, index, line, column⟩ (level + 1) false
        (tokens ++ closings depth (level + 1) ++ opening depth level ++ [.key, k.token, .value])) := by
  obtain ⟨⟨rest, index, line, column⟩, keyAllowed, hnext, rfl, hplace⟩ := hs
  obtain ⟨rfl, rfl⟩ := hplace (by simp)
  -- the first step reads a word, and only the second one finds that it is a key
  have hfirst := step_of_ready hnext (show ((2 * level : Nat) : Int) = indentAt (level + 1) by simp [indentAt])
  rw [fetchToken_key hk hr] at hfirst
  have hopening : opening (min depth (level + 1)) level = opening depth level := by
    have hle : min depth (level + 1) ≤ level ↔ depth ≤ level := by omega
    simp only [opening, hle]
  have hcolon := step_colon (show level ≤ min depth (level + 1) by omega) (Nat.min_le_right _ _) hr hl k.token
    (indentAt (min depth (level + 1)) == ((2 * level : Nat) : Int)) index line (tokens ++ closings depth (level + 1))
  rw [hopening] at hcolon
  exact ⟨_, _, _, by omega, .step hfirst rfl (.step hcolon rfl .refl)⟩

variable {behind next : Text} {column : Nat} (hb : LineBreak behind column next)
include hb

/-- A key alone on its line. -/
theorem reaches_key (hs : s.Ready (k.written ++ ':' :: behind) (2 * level) depth tokens) :
    ∃ s', Reaches s (k.written ++ ':' :: behind) s' next ∧ s'.Ready next column (level + 1)
      (tokens ++ closings depth (level + 1) ++ opening depth level ++ [.key, k.token, .value]) := by
  obtain ⟨index, line, here, -, hsteps⟩ := steps_key hk hl hd hs hb.atGap
  refine ⟨_, ⟨2, hsteps, ?_⟩, ready_behind hb _ _ _ _ _ _⟩
  have hpos := hk.length_written_pos
  have hle := hb.length_le
  simp only [List.length_append, List.length_cons]
  omega

/-- A key and a value. -/
theorem reaches_entry {v : Word} (hv : v.IsSimple) (hc : column ≤ 2 * level)
    (hs : s.Ready (k.written ++ ':' :: ' ' :: (v.written ++ behind)) (2 * level) depth tokens) :
    ∃ s', Reaches s (k.written ++ ':' :: ' ' :: (v.written ++ behind)) s' next ∧ s'.Ready next column (level + 1)
      (tokens ++ closings depth (level + 1) ++ opening depth level ++ [.key, k.token, .value, v.token]) := by
  obtain ⟨index, line, here, hhere, hsteps⟩ := steps_key hk hl hd hs rfl
  generalize htokens : tokens ++ closings depth (level + 1) ++ opening depth level = above at hsteps ⊢
  have hindent : indentAt (level + 1) = ((2 * level : Nat) : Int) := by simp [indentAt]
  have hstep : (resting ⟨' ' :: (v.written ++ behind), index, line, here⟩ (level + 1) false
        (above ++ [.key, k.token, .value])).step =
      (resting ⟨v.written ++ behind, index + 1, line, here + 1⟩ (level + 1) false
        (above ++ [.key, k.token, .value])).fetchToken := by
    have hfiller : skipFiller false (' ' :: (v.written ++ behind)) = (v.written ++ behind, false) :=
      skipFiller_margin (startsWord_written hv) 1
    have hmove : (⟨' ' :: (v.written ++ behind), index, line, here⟩ : Place).moveTo (v.written ++ behind) =
        ⟨v.written ++ behind, index + 1, line, here + 1⟩ :=
      Place.moveTo_inline (w := [' ']) (List.all_eq_true.mp rfl) _ _ _ _
    unfold step
    rw [toNextToken_eq (by simp [resting])]
    simp only [resting, hfiller, hmove, Bool.false_and, Bool.or_false]
    have hle : indentAt (level + 1) ≤ (here : Int) + 1 := by omega
    simp [dropStale, unwind, unwound_of_le hle, bind, Except.bind]
  obtain ⟨s', hfetch, hfinished, hready⟩ := fetchToken_value hv hb (show (column : Int) ≤ indentAt (level + 1) by omega)
    (index + 1) line (here + 1) (above ++ [.key, k.token, .value])
  rw [hfetch] at hstep
  refine ⟨s', ⟨3, hsteps.trans (.step hstep hfinished .refl), ?_⟩, ?_⟩
  · have hpos := hk.length_written_pos
    have hle := hb.length_le
    simp only [List.length_append, List.length_cons]
    omega
  · rw [List.append_assoc] at hready
    exact hready

end

end Scanner

end CursorDoc.Yaml
