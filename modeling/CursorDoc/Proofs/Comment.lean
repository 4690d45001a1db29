import CursorDoc.Proofs.DocBlock
import CursorDoc.Proofs.Text.Lines

/-!
# One block comment

A text is one block comment if it opens with `/*` and the first `*/` behind
that ends it. The search for a comment above a header only looks at how whole
lines start and end, so what it finds may hold further closers, and code behind
them. It is one comment exactly when no closer stands before the last one.
-/

namespace CursorDoc

open Text

def afterCloser? : Text → Option Text
  | [] => none
  | c :: r => if startsWith (c :: r) ['*', '/'] then some r.tail else afterCloser? r

/-- One block comment: it opens with `/*`, and the first `*/` behind that is its end. -/
def isOneComment : Text → Bool
  | '/' :: '*' :: r => afterCloser? r == some []
  | _ => false

def closesAtEnd : List Text → Bool
  | [] => false
  | [line] => (afterCloser? line).any isBlank
  | line :: lines => (afterCloser? line).isNone && closesAtEnd lines

/-- Behind the `/*` that the first line starts with, no `*/` stands before the end of the last line. -/
def closesOnce : List Text → Bool
  | [] => false
  | first :: rest => closesAtEnd ((first.dropWhile isSpace).drop 2 :: rest)

/-! ## The first closer -/

theorem afterCloser?_of_blank : ∀ {e : Text}, isBlank e = true → ∀ t, afterCloser? (e ++ t) = afterCloser? t
  | [], _, _ => rfl
  | c :: e, he, t => by
    rw [isBlank_cons, Bool.and_eq_true] at he
    have hc : startsWith (c :: (e ++ t)) ['*', '/'] = false := by
      have hne : ('*' == c) = false := by
        rw [beq_eq_false_iff_ne]
        rintro rfl
        exact absurd he.1 (by decide)
      simp [startsWith, List.isPrefixOf, hne]
    rw [List.cons_append, afterCloser?, hc, afterCloser?_of_blank he.2]
    rfl

theorem afterCloser?_append {e : Text} (he : isBlank e = true) (hne : e ≠ []) (u : Text) : ∀ t : Text,
    afterCloser? (t ++ (e ++ u)) = ((afterCloser? t).map (· ++ (e ++ u))).or (afterCloser? u)
  | [] => by
    rw [List.nil_append, afterCloser?_of_blank he]
    rfl
  | c :: t => by
    -- white space cannot complete a closer, so `t` holds the same closers with and without it
    have hstart : startsWith (c :: (t ++ (e ++ u))) ['*', '/'] = startsWith (c :: t) ['*', '/'] := by
      cases t with
      | nil =>
        obtain ⟨d, e, rfl⟩ := List.exists_cons_of_ne_nil hne
        rw [isBlank_cons, Bool.and_eq_true] at he
        have hd : ('/' == d) = false := by
          rw [beq_eq_false_iff_ne]
          rintro rfl
          exact absurd he.1 (by decide)
        simp [startsWith, List.isPrefixOf, hd]
      | cons d t => simp [startsWith, List.isPrefixOf]
    rw [List.cons_append, afterCloser?, afterCloser?, hstart]
    split
    · rename_i hc
      cases t with
      | nil => simp [startsWith, List.isPrefixOf] at hc
      | cons d t => rfl
    · exact afterCloser?_append he hne u t

theorem any_afterCloser?_append {e : Text} (he : isBlank e = true) (t : Text) :
    (afterCloser? (t ++ e)).any isBlank = (afterCloser? t).any isBlank := by
  by_cases hne : e = []
  · rw [hne, List.append_nil]
  · have h := afterCloser?_append he hne [] t
    rw [List.append_nil] at h
    rw [h]
    cases afterCloser? t with
    | none => rfl
    | some r =>
      have hall : isBlank (r ++ e) = isBlank r := by
        unfold isBlank at he ⊢
        rw [List.all_append, he, Bool.and_true]
      simpa using hall

/-! ## Lines with line ends between them -/

/-- The text is made of the lines, with white space behind each and some between any two. -/
inductive Laid : List Text → Text → Prop where
  | last {line e : Text} : isBlank e = true → Laid [line] (line ++ e)
  | cons {line e t : Text} {lines : List Text} : isBlank e = true → e ≠ [] → Laid lines t →
      Laid (line :: lines) (line ++ (e ++ t))

theorem Laid.isBlank_eq_false {lines : List Text} {t : Text} (h : Laid lines t) :
    (∀ last ∈ lines.getLast?, last.isBlank = false) → t.isBlank = false := by
  unfold isBlank
  induction h with
  | @last line e _ =>
    intro hlast
    rw [List.all_append, hlast line rfl, Bool.false_and]
  | @cons line e t lines _ _ hlaid ih =>
    intro hlast
    have ht : t.all isSpace = false := by
      apply ih
      cases hlaid <;> exact hlast
    rw [List.all_append, List.all_append, ht, Bool.and_false, Bool.and_false]

theorem Laid.any_afterCloser? {lines : List Text} {t : Text} (h : Laid lines t) :
    (∀ last ∈ lines.tail.getLast?, last.isBlank = false) → (afterCloser? t).any isBlank = closesAtEnd lines := by
  induction h with
  | last he => exact fun _ => any_afterCloser?_append he _
  | @cons line e t lines he hne hlaid ih =>
    intro hlast
    have ht : t.isBlank = false := hlaid.isBlank_eq_false hlast
    have hrest : (afterCloser? t).any isBlank = closesAtEnd lines := by
      apply ih
      intro last hl
      apply hlast last
      cases lines with
      | nil => cases hl
      | cons next rest =>
        cases rest with
        | nil => cases hl
        | cons third rest => exact hl
    have hcons : closesAtEnd (line :: lines) = ((afterCloser? line).isNone && closesAtEnd lines) := by
      cases hlaid <;> rfl
    rw [afterCloser?_append he hne, hcons, ← hrest]
    cases afterCloser? line with
    | none => rfl
    | some r =>
      -- the closer in the first line has the later lines behind it, which are not blank
      unfold isBlank at ht ⊢
      simp [List.all_append, ht]

theorem Laid.of_append {w first : Text} {rest : List Text} {t : Text} (h : Laid ((w ++ first) :: rest) t) :
    ∃ t', t = w ++ t' ∧ Laid (first :: rest) t' := by
  cases h with
  | last he => exact ⟨_, List.append_assoc .., .last he⟩
  | cons he hne hlaid => exact ⟨_, List.append_assoc .., .cons he hne hlaid⟩

theorem laid_joinLines : ∀ {lines : List Text}, lines ≠ [] → Laid lines (joinLines lines)
  | [], h => absurd rfl h
  | [line], _ => by
    have hj : joinLines [line] = line ++ [] := by rw [joinLines_singleton, List.append_nil]
    rw [hj]
    exact .last rfl
  | line :: next :: lines, _ => by
    have hj : joinLines (line :: next :: lines) = line ++ (['\n'] ++ joinLines (next :: lines)) :=
      joinLines_cons line (by simp)
    rw [hj]
    exact .cons rfl (by simp) (laid_joinLines (by simp))

theorem isBlank_lineEnd (line : Text) : isBlank (lineEnd line) = true := by
  unfold isBlank
  rw [List.all_eq_true]
  intro c hc
  have hend := isLineEnd_of_mem_lineEnd hc
  rw [isLineEnd, Bool.or_eq_true, beq_iff_eq, beq_iff_eq] at hend
  obtain rfl | rfl := hend <;> rfl

theorem laid_flatten : ∀ {lines : List Text}, lines ≠ [] → (∀ line ∈ lines, lineEnd line ≠ []) →
    Laid (lines.map stripLineEnd) lines.flatten
  | [], h, _ => absurd rfl h
  | [line], _, _ => by
    have h : Laid [stripLineEnd line] (stripLineEnd line ++ lineEnd line) := .last (isBlank_lineEnd line)
    rw [stripLineEnd_append_lineEnd] at h
    simpa using h
  | line :: next :: lines, _, hne => by
    have ih : Laid ((next :: lines).map stripLineEnd) (next :: lines).flatten :=
      laid_flatten (by simp) fun l hl => hne l (List.mem_cons_of_mem _ hl)
    have h : Laid (stripLineEnd line :: (next :: lines).map stripLineEnd)
        (stripLineEnd line ++ (lineEnd line ++ (next :: lines).flatten)) :=
      .cons (isBlank_lineEnd line) (hne line (by simp)) ih
    rw [← List.append_assoc, stripLineEnd_append_lineEnd] at h
    exact h

/-! ## Trimmed texts -/

theorem afterCloser?_suffix : ∀ {t u : Text}, afterCloser? t = some u → u <:+ t
  | [], _, h => by cases h
  | c :: r, u, h => by
    rw [afterCloser?] at h
    split at h
    · obtain rfl := Option.some.inj h
      exact (List.tail_suffix r).trans (List.suffix_cons c r)
    · exact (afterCloser?_suffix h).trans (List.suffix_cons c r)

theorem isOneComment_trim {w : Text} (hw : isBlank w = true) (r : Text) :
    isOneComment (trim (w ++ '/' :: '*' :: r)) = (afterCloser? r).any isBlank := by
  obtain ⟨e, he, hr⟩ := exists_dropEndWhile_append isSpace r
  have htrim : trim (w ++ '/' :: '*' :: r) = '/' :: '*' :: dropEndWhile isSpace r := by
    rw [trim_append hw]
    exact dropEndWhile_append_cons (c := '*') (by decide) ['/'] r
  have hany := any_afterCloser?_append (List.all_eq_true.mpr he) (dropEndWhile isSpace r)
  rw [hr] at hany
  rw [htrim, isOneComment, hany]
  cases hafter : afterCloser? (dropEndWhile isSpace r) with
  | none => rfl
  | some u =>
    rw [Bool.eq_iff_iff, beq_iff_eq, Option.some.injEq, Option.any_some]
    constructor
    · rintro rfl
      rfl
    · -- what follows the closer cannot end in white space any more
      intro hu
      obtain ⟨d, hd⟩ := afterCloser?_suffix hafter
      have hidem := dropEndWhile_idem isSpace r
      rw [← hd, dropEndWhile_append_of_all (List.all_eq_true.mp hu)] at hidem
      obtain ⟨f, -, hf⟩ := exists_dropEndWhile_append isSpace d
      have hlen := congrArg List.length hidem
      have hlen' := congrArg List.length hf
      rw [List.length_append] at hlen hlen'
      exact List.eq_nil_of_length_eq_zero (by omega)

/-! ## Found blocks -/

theorem exists_of_opensComment {line : Text} (h : opensComment line = true) :
    ∃ w r, isBlank w = true ∧ line = w ++ '/' :: '*' :: r ∧ line.dropWhile isSpace = '/' :: '*' :: r := by
  obtain ⟨u, hu⟩ := startsWith_iff.mp h
  obtain ⟨e, -, he⟩ := exists_dropEndWhile_append isSpace (line.dropWhile isSpace)
  have hdrop : line.dropWhile isSpace = '/' :: '*' :: (u ++ e) := by
    rw [← he]
    show trim line ++ e = _
    rw [← hu]
    rfl
  refine ⟨indentation line, u ++ e, isBlank_indentation line, ?_, hdrop⟩
  rw [← hdrop, indentation_append_rest]

/-- The text of a comment that was found is one comment exactly when no line of it closes a comment before the
end of the last one. -/
theorem isOneComment_of_laid {lines : List Text} {t : Text} (hc : isComment lines = true) (ht : Laid lines t) :
    isOneComment t.trim = closesOnce lines := by
  unfold isComment at hc
  rw [Bool.and_eq_true, Bool.and_eq_true] at hc
  obtain ⟨⟨hopen, hclose⟩, -⟩ := hc
  cases lines with
  | nil => cases hopen
  | cons first rest =>
    obtain ⟨w, r, hw, rfl, hdrop⟩ := exists_of_opensComment hopen
    obtain ⟨t, rfl, hlaid⟩ : ∃ t', t = w ++ t' ∧ Laid (('/' :: '*' :: r) :: rest) t' := ht.of_append
    obtain ⟨t, rfl, hbody⟩ := Laid.of_append (w := ['/', '*']) hlaid
    have hlast : ∀ last ∈ rest.getLast?, last.isBlank = false := by
      intro last hm
      rw [List.getLast?_cons, hm] at hclose
      exact isBlank_of_closesComment hclose
    have honce : closesOnce ((w ++ '/' :: '*' :: r) :: rest) = closesAtEnd (r :: rest) := by
      rw [closesOnce, hdrop]
      rfl
    rw [honce, ← hbody.any_afterCloser? hlast]
    exact isOneComment_trim hw t

end CursorDoc
