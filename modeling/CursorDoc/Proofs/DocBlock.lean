import CursorDoc.DocBlock
import CursorDoc.Proofs.Text.Indentation
import CursorDoc.Proofs.Text.Lines

/-!
# Blocks that are found again

A block comment is found from below: it is the run of lines that ends on the
nearest line that is not blank and goes up to the first line that opens a
comment. A documentation string is found from above. Lines of the right shape
that stand next to a header are therefore found as they stand there, whatever
comes before and after them.
-/

namespace CursorDoc

open Text

/-! ## The items up to the first hit -/

section
variable {α : Type} {p : α → Bool}

theorem takeThrough_append {a : α} (ha : p a = true) (rest : List α) : ∀ {init : List α},
    (∀ x ∈ init, p x = false) → takeThrough p (init ++ a :: rest) = some (init ++ [a])
  | [], _ => by simp [takeThrough, ha]
  | x :: init, h => by
    have hx : p x = false := h x (by simp)
    have ih := takeThrough_append ha rest fun y hy => h y (List.mem_cons_of_mem x hy)
    simp [takeThrough, hx, ih]

theorem takeThrough_eq_some_iff : ∀ {l r : List α}, takeThrough p l = some r ↔
    ∃ init a rest, l = init ++ a :: rest ∧ r = init ++ [a] ∧ p a = true ∧ ∀ x ∈ init, p x = false
  | [], r => by simp [takeThrough]
  | x :: l, r => by
    constructor
    · intro h
      rw [takeThrough] at h
      split at h
      · rename_i hx
        simp only [Option.some.injEq] at h
        exact ⟨[], x, l, rfl, h.symm, hx, by simp⟩
      · rename_i hx
        obtain ⟨r', hr', rfl⟩ := Option.map_eq_some_iff.mp h
        obtain ⟨init, a, rest, rfl, rfl, ha, hi⟩ := takeThrough_eq_some_iff.mp hr'
        refine ⟨x :: init, a, rest, rfl, rfl, ha, ?_⟩
        intro y hy
        rcases List.mem_cons.mp hy with rfl | hy
        · simpa using hx
        · exact hi y hy
    · rintro ⟨init, a, rest, hl, rfl, ha, hi⟩
      rw [hl]
      exact takeThrough_append ha rest hi

theorem takeThrough_eq_none_iff : ∀ {l : List α}, takeThrough p l = none ↔ ∀ x ∈ l, p x = false
  | [] => by simp [takeThrough]
  | x :: l => by
    by_cases hx : p x = true
    · simp [takeThrough, hx]
    · rw [takeThrough, if_neg hx, Option.map_eq_none_iff, takeThrough_eq_none_iff, List.forall_mem_cons,
        and_iff_right (Bool.eq_false_iff.mpr hx)]

end

/-! ## Block comments -/

/-- Lines that read as one block comment: the first one opens it, no later one opens another, and the
last one closes it. -/
def isComment (lines : List Text) : Bool :=
  lines.head?.any opensComment && lines.getLast?.any closesComment && lines.tail.all (!opensComment ·)

theorem ne_nil_of_isComment {lines : List Text} (h : isComment lines = true) : lines ≠ [] := by
  rintro rfl
  cases h

theorem any_opensComment_of_isComment {lines : List Text} (h : isComment lines = true) :
    lines.any opensComment = true := by
  unfold isComment at h
  rw [Bool.and_eq_true, Bool.and_eq_true] at h
  cases lines with
  | nil => cases h.1.1
  | cons first rest =>
    have hfirst : opensComment first = true := h.1.1
    rw [List.any_cons, hfirst, Bool.true_or]

theorem isComment_append {block lines : List Text} (hb : isComment block = true)
    (hopen : lines.any opensComment = false) (hclose : lines.getLast?.any closesComment = true) :
    isComment (block ++ lines) = true := by
  unfold isComment at hb ⊢
  rw [Bool.and_eq_true, Bool.and_eq_true] at hb ⊢
  obtain ⟨⟨hfirst, -⟩, htail⟩ := hb
  cases block with
  | nil => cases hfirst
  | cons first rest =>
    refine ⟨⟨hfirst, ?_⟩, ?_⟩
    · rw [List.getLast?_append]
      cases hl : lines.getLast? with
      | none => rw [hl] at hclose; cases hclose
      | some last => rwa [hl] at hclose
    · rw [List.cons_append, List.tail_cons, List.all_append, Bool.and_eq_true]
      refine ⟨htail, ?_⟩
      rw [List.any_eq_false] at hopen
      rw [List.all_eq_true]
      intro line hm
      simpa using hopen line hm

theorem isBlank_of_closesComment {line : Text} (h : closesComment line = true) : line.isBlank = false := by
  by_cases hb : line.isBlank = true
  · rw [closesComment, trim_eq_nil_of_isBlank hb] at h
    cases h
  · simpa using hb

theorem isComment_reverse_iff {lines : List Text} : isComment lines = true ↔
    ∃ init first last above, lines.reverse = init ++ [first] ∧ lines.reverse = last :: above ∧
      closesComment last = true ∧ opensComment first = true ∧ ∀ line ∈ init, opensComment line = false := by
  unfold isComment
  cases lines with
  | nil => simp
  | cons first tail =>
    obtain ⟨last, above, hr⟩ : ∃ last above, (first :: tail).reverse = last :: above :=
      List.exists_cons_of_ne_nil (by simp)
    have hlast : (first :: tail).getLast? = some last := by
      rw [List.getLast?_eq_head?_reverse, hr]
      rfl
    rw [hlast]
    simp only [List.head?_cons, Option.any_some, List.tail_cons, Bool.and_eq_true, List.all_eq_true,
      Bool.not_eq_true']
    constructor
    · rintro ⟨⟨ho, hc⟩, ht⟩
      refine ⟨tail.reverse, first, last, above, List.reverse_cons, hr, hc, ho, ?_⟩
      intro line hm
      exact ht line (List.mem_reverse.mp hm)
    · rintro ⟨init, first', last', above', hf, hl, hc, ho, hi⟩
      rw [hr] at hl
      obtain ⟨rfl, rfl⟩ := List.cons.inj hl
      rw [List.reverse_cons] at hf
      obtain ⟨rfl, hff⟩ := List.append_inj' hf rfl
      obtain ⟨rfl, -⟩ := List.cons.inj hff
      exact ⟨⟨ho, hc⟩, fun line hm => hi line (List.mem_reverse.mpr hm)⟩

theorem commentBlock?_eq_some_iff {lines : List Text} {start : Nat} {block : DocBlock} :
    commentBlock? lines start = some block ↔
      ∃ above gap, lines.take start = above ++ (block.lines ++ gap) ∧ block.first = above.length ∧
        (∀ line ∈ gap, line.isBlank = true) ∧ isComment block.lines = true := by
  unfold commentBlock?
  constructor
  · intro h
    have hsplit : (lines.take start).reverse.takeWhile isBlank ++ (lines.take start).reverse.dropWhile isBlank =
        (lines.take start).reverse := List.takeWhile_append_dropWhile
    have hgap : ∀ line ∈ (lines.take start).reverse.takeWhile isBlank, line.isBlank = true :=
      List.all_eq_true.mp List.all_takeWhile
    split at h
    · cases h
    · rename_i last upward hd
      split at h
      · rename_i hc
        obtain ⟨found, hfound, rfl⟩ := Option.map_eq_some_iff.mp h
        obtain ⟨init, first, rest, hup, rfl, ho, hi⟩ := takeThrough_eq_some_iff.mp hfound
        rw [hd, hup] at hsplit
        have ht := congrArg List.reverse hsplit
        rw [List.reverse_reverse] at ht
        refine ⟨rest.reverse, ((lines.take start).reverse.takeWhile isBlank).reverse, ?_, ?_, ?_, ?_⟩
        · exact ht.symm.trans (by simp)
        · rw [hup]; simp; omega
        · intro line hm
          exact hgap line (List.mem_reverse.mp hm)
        · refine isComment_reverse_iff.mpr ⟨init, first, last, (init ++ [first]).tail, ?_, ?_, hc, ho, hi⟩
          · rw [List.reverse_reverse]
          · rw [List.reverse_reverse]
            cases init <;> simp_all
      · cases h
  · rintro ⟨above, gap, ht, hf, hgap, hcom⟩
    obtain ⟨init, first, last, upward, hi', hl', hc, ho, hi⟩ := isComment_reverse_iff.mp hcom
    have hdrop : (lines.take start).reverse.dropWhile isBlank = last :: (upward ++ above.reverse) := by
      rw [ht, List.reverse_append, List.reverse_append, List.append_assoc, hl',
        List.dropWhile_append_of_pos fun line hm => hgap line (List.mem_reverse.mp hm), List.cons_append,
        List.dropWhile_cons_of_neg (by simp [isBlank_of_closesComment hc])]
    have hrun : last :: (upward ++ above.reverse) = init ++ first :: above.reverse := by
      rw [← List.cons_append, ← hl', hi', List.append_assoc, List.singleton_append]
    rw [hdrop]
    simp only [hc, ite_true]
    rw [hrun, takeThrough_append ho _ hi, ← hi']
    obtain ⟨blockFirst, blockLines⟩ := block
    simp only at hf hi' ⊢
    subst hf
    have hlen : (init ++ first :: above.reverse).length = blockLines.length + above.length := by
      have := congrArg List.length hi'
      simp at this ⊢
      omega
    simp [hlen]

theorem isComment_of_commentBlock? {lines : List Text} {start : Nat} {block : DocBlock}
    (h : commentBlock? lines start = some block) : isComment block.lines = true := by
  obtain ⟨-, -, -, -, -, hcom⟩ := commentBlock?_eq_some_iff.mp h
  exact hcom

theorem commentBlock?_append (front below : List Text) :
    commentBlock? (front ++ below) front.length = commentBlock? front front.length := by
  unfold commentBlock?
  rw [List.take_left, List.take_length]

theorem isBlank_of_opensComment {line : Text} (h : opensComment line = true) : line.isBlank = false := by
  by_cases hb : line.isBlank = true
  · rw [opensComment, trim_eq_nil_of_isBlank hb] at h
    cases h
  · simpa using hb

def nearestAbove? (lines : List Text) (start : Nat) : Option Text :=
  (lines.take start).reverse.find? fun line => !line.isBlank

theorem nearestAbove?_eq {lines upper gap : List Text} {start : Nat} (ht : lines.take start = upper ++ gap)
    (hgap : ∀ line ∈ gap, line.isBlank = true) (hlast : ∀ last ∈ upper.getLast?, last.isBlank = false) :
    nearestAbove? lines start = upper.getLast? := by
  have hnone : gap.reverse.find? (fun line => !line.isBlank) = none := by
    rw [List.find?_eq_none]
    intro line hm
    simp [hgap line (List.mem_reverse.mp hm)]
  unfold nearestAbove?
  rw [ht, List.reverse_append, List.find?_append, hnone, Option.none_or]
  rcases List.eq_nil_or_concat upper with rfl | ⟨init, last, rfl⟩
  · rfl
  · rw [List.concat_eq_append] at hlast ⊢
    have hb : last.isBlank = false := hlast last (by simp)
    simp [hb]

theorem nearestAbove?_append {line : Text} (hb : line.isBlank = false) (front mid below : List Text) :
    nearestAbove? (front ++ line :: mid ++ below) (front ++ line :: mid).length =
      nearestAbove? (line :: mid) (line :: mid).length := by
  have htake : (line :: mid).take (line :: mid).length = line :: mid := List.take_length
  have hline : [line].find? (fun line => !line.isBlank) = some line := by
    simp [hb]
  unfold nearestAbove?
  rw [List.take_left, htake, List.reverse_append, List.find?_append, List.reverse_cons, List.find?_append, hline]
  cases mid.reverse.find? fun line => !line.isBlank <;> rfl

theorem exists_isComment_suffix : ∀ {lines : List Text}, lines.getLast?.any closesComment = true →
    lines.any opensComment = true → ∃ above block, lines = above ++ block ∧ isComment block = true
  | [], hc, _ => by cases hc
  | line :: lines, hc, ho => by
    by_cases hl : lines.any opensComment = true
    · cases lines with
      | nil => cases hl
      | cons next lines =>
        have ih : ∃ above block, next :: lines = above ++ block ∧ isComment block = true :=
          exists_isComment_suffix hc hl
        obtain ⟨above, block, hlines, hcom⟩ := ih
        exact ⟨line :: above, block, by rw [hlines, List.cons_append], hcom⟩
    · rw [List.any_cons, Bool.or_eq_true, or_iff_left hl] at ho
      refine ⟨[], line :: lines, rfl, ?_⟩
      rw [List.any_eq_true, not_exists] at hl
      unfold isComment
      rw [hc, List.head?_cons, Option.any_some, ho, List.tail_cons, Bool.and_self, Bool.true_and, List.all_eq_true]
      intro other hm
      simpa [hm] using hl other

/-- A comment is found exactly if the nearest line above that is not blank closes one and some line above opens
one. -/
theorem isSome_commentBlock? (lines : List Text) (start : Nat) : (commentBlock? lines start).isSome =
    ((nearestAbove? lines start).any closesComment && (lines.take start).any opensComment) := by
  rw [Bool.eq_iff_iff, Bool.and_eq_true, Option.isSome_iff_exists]
  constructor
  · rintro ⟨block, hblock⟩
    obtain ⟨above, gap, ht, -, hgap, hcom⟩ := commentBlock?_eq_some_iff.mp hblock
    have hopen := any_opensComment_of_isComment hcom
    unfold isComment at hcom
    rw [Bool.and_eq_true, Bool.and_eq_true] at hcom
    obtain ⟨⟨-, hclose⟩, -⟩ := hcom
    cases hl : block.lines.getLast? with
    | none => simp [hl] at hclose
    | some closer =>
      rw [hl, Option.any_some] at hclose
      rw [← List.append_assoc] at ht
      have hcloser : (above ++ block.lines).getLast? = some closer := by
        rw [List.getLast?_append, hl, Option.some_or]
      have hnear := nearestAbove?_eq ht hgap fun last hm => by
        rw [hcloser, Option.mem_some_iff] at hm
        exact hm ▸ isBlank_of_closesComment hclose
      rw [hnear, hcloser, ht, List.any_append, List.any_append, hopen, Bool.or_true, Bool.true_or]
      exact ⟨hclose, rfl⟩
  · rintro ⟨hclose, hopen⟩
    obtain ⟨upper, gap, ht, hgap, hlast⟩ := exists_last_run isBlank (lines.take start)
    rw [nearestAbove?_eq ht hgap hlast] at hclose
    rw [ht, List.any_append, Bool.or_eq_true] at hopen
    have hupper : upper.any opensComment = true := by
      refine hopen.resolve_right fun hany => ?_
      obtain ⟨line, hm, ho⟩ := List.any_eq_true.mp hany
      have hb := isBlank_of_opensComment ho
      rw [hgap line hm] at hb
      cases hb
    obtain ⟨above, block, rfl, hcom⟩ := exists_isComment_suffix hclose hupper
    rw [List.append_assoc] at ht
    exact ⟨⟨above.length, block⟩, commentBlock?_eq_some_iff.mpr ⟨above, gap, ht, rfl, hgap, hcom⟩⟩

/-! ## Documentation strings -/

/-- Lines that read as one documentation string: the first one opens it, and the last one, but none before
it, closes it. -/
def isDocstring : List Text → Bool
  | [] => false
  | first :: rest =>
    match docstringOpening? first.trim with
    | none => false
    | some (delimiter, content) =>
      if content < first.trim.length && first.trim.endsWith delimiter then rest.isEmpty
      else rest.getLast?.any (·.trim.endsWith delimiter) && rest.dropLast.all (!·.trim.endsWith delimiter)

theorem ne_nil_of_isDocstring {lines : List Text} (h : isDocstring lines = true) : lines ≠ [] := by
  rintro rfl
  cases h

theorem docstring?_of_isDocstring {lines block below : List Text} {header : Nat} (hb : isDocstring block = true)
    (h : lines.drop (header + 1) = block ++ below) :
    docstring? lines header = some { first := header + 1, lines := block } := by
  cases block with
  | nil => cases hb
  | cons first rest =>
    unfold isDocstring at hb
    unfold docstring?
    rw [h, List.cons_append]
    cases ho : docstringOpening? first.trim with
    | none => simp [ho] at hb
    | some opening =>
      obtain ⟨delimiter, content⟩ := opening
      simp only [ho] at hb
      by_cases hin : (content < first.trim.length && first.trim.endsWith delimiter) = true
      · rw [if_pos hin] at hb
        have hrest : rest = [] := List.isEmpty_iff.mp hb
        simp only [ho, Option.bind_eq_bind, Option.bind_some, hin, ite_true, hrest]
        rfl
      · rw [if_neg hin] at hb
        cases hlast : rest.getLast? with
        | none => simp [hlast] at hb
        | some last =>
          obtain ⟨init, rfl⟩ := List.getLast?_eq_some_iff.mp hlast
          simp only [hlast, Option.any_some, List.dropLast_concat, Bool.and_eq_true, List.all_eq_true,
            Bool.not_eq_true'] at hb
          obtain ⟨hclose, hopen⟩ := hb
          have hthrough : takeThrough (·.trim.endsWith delimiter) (init ++ [last] ++ below) =
              some (init ++ [last]) := by
            rw [List.append_assoc, List.singleton_append]
            exact takeThrough_append (p := (·.trim.endsWith delimiter)) hclose below hopen
          simp only [ho, Option.bind_eq_bind, Option.bind_some, if_neg hin, hthrough, Option.getD_some]
          rfl

def isOpenDocstring : List Text → Bool
  | [] => false
  | first :: rest =>
    match docstringOpening? first.trim with
    | none => false
    | some (delimiter, content) =>
      !(content < first.trim.length && first.trim.endsWith delimiter) && rest.all (!·.trim.endsWith delimiter)

theorem ne_nil_of_isOpenDocstring {lines : List Text} (h : isOpenDocstring lines = true) : lines ≠ [] := by
  rintro rfl
  cases h

theorem docstring?_of_isOpenDocstring {lines block : List Text} {header : Nat} (hb : isOpenDocstring block = true)
    (h : lines.drop (header + 1) = block) : docstring? lines header = some { first := header + 1, lines := block } := by
  cases block with
  | nil => cases hb
  | cons first rest =>
    unfold isOpenDocstring at hb
    unfold docstring?
    rw [h]
    cases ho : docstringOpening? first.trim with
    | none => simp [ho] at hb
    | some opening =>
      obtain ⟨delimiter, content⟩ := opening
      simp only [ho, Bool.and_eq_true, Bool.not_eq_true', List.all_eq_true] at hb
      obtain ⟨hin, hrest⟩ := hb
      have hthrough : takeThrough (·.trim.endsWith delimiter) rest = none := takeThrough_eq_none_iff.mpr hrest
      simp only [ho, Option.bind_eq_bind, Option.bind_some, hin, Bool.false_eq_true, ite_false, hthrough,
        Option.getD_none]
      rfl

theorem ne_nil_of_docstringOpening? {opening delimiter : Text} {content : Nat}
    (h : docstringOpening? opening = some (delimiter, content)) : delimiter ≠ [] := by
  rintro rfl
  simp only [docstringOpening?] at h
  generalize (if (opening.head?.any fun c => ['r', 'R', 'u', 'U'].contains c) = true then 1 else 0) = letters at h
  split at h
  · cases h
  · split at h <;> cases h

theorem isOpenDocstring_append {lines blanks : List Text} (hne : lines ≠ [])
    (hb : ∀ line ∈ blanks, line.isBlank = true) : isOpenDocstring (lines ++ blanks) = isOpenDocstring lines := by
  cases lines with
  | nil => exact absurd rfl hne
  | cons first rest =>
    unfold isOpenDocstring
    simp only [List.cons_append]
    cases ho : docstringOpening? first.trim with
    | none => rfl
    | some opening =>
      obtain ⟨delimiter, content⟩ := opening
      have hall : blanks.all (fun line => !line.trim.endsWith delimiter) = true := by
        rw [List.all_eq_true]
        intro line hm
        rw [trim_eq_nil_of_isBlank (hb line hm)]
        cases delimiter with
        | nil => exact absurd rfl (ne_nil_of_docstringOpening? ho)
        | cons c delimiter => simp [endsWith]
      simp only [List.all_append, hall, Bool.and_true]

theorem isBlank_of_isDocstring {first : Text} {rest : List Text} (h : isDocstring (first :: rest) = true) :
    first.isBlank = false := by
  by_cases hb : first.isBlank = true
  · rw [isDocstring, trim_eq_nil_of_isBlank hb] at h
    cases h
  · simpa using hb

theorem isBlank_of_isOpenDocstring {first : Text} {rest : List Text} (h : isOpenDocstring (first :: rest) = true) :
    first.isBlank = false := by
  by_cases hb : first.isBlank = true
  · rw [isOpenDocstring, trim_eq_nil_of_isBlank hb] at h
    cases h
  · simpa using hb

theorem isBlank_getLast?_of_isDocstring {lines : List Text} (h : isDocstring lines = true) :
    ∀ last ∈ lines.getLast?, last.isBlank = false := by
  cases lines with
  | nil => cases h
  | cons first rest =>
    have hfirst := isBlank_of_isDocstring h
    unfold isDocstring at h
    cases ho : docstringOpening? first.trim with
    | none => simp [ho] at h
    | some opening =>
      obtain ⟨delimiter, content⟩ := opening
      simp only [ho] at h
      intro last hm
      split at h
      · obtain rfl := List.isEmpty_iff.mp h
        obtain rfl := Option.some.inj hm
        exact hfirst
      · rw [Bool.and_eq_true] at h
        cases hl : rest.getLast? with
        | none =>
          rw [hl] at h
          cases h.1
        | some closer =>
          rw [hl, Option.any_some] at h
          rw [List.getLast?_cons, hl] at hm
          obtain rfl := Option.some.inj hm
          by_cases hb : closer.isBlank = true
          · have hnil := ne_nil_of_docstringOpening? ho
            rw [trim_eq_nil_of_isBlank hb, endsWith, List.isSuffixOf_iff_suffix, List.suffix_nil] at h
            exact absurd h.1 hnil
          · simpa using hb

/-- What is found below a header is a documentation string, or lines that open one and go on to the end. -/
theorem docstring?_eq_some_iff {lines : List Text} {header : Nat} {block : DocBlock} :
    docstring? lines header = some block ↔ block.first = header + 1 ∧ ∃ below,
      lines.drop (header + 1) = block.lines ++ below ∧
        (isDocstring block.lines = true ∨ isOpenDocstring block.lines = true ∧ below = []) := by
  constructor
  · intro h
    unfold docstring? at h
    split at h
    · cases h
    · rename_i first below hd
      obtain ⟨⟨delimiter, content⟩, ho, h⟩ := Option.bind_eq_some_iff.mp h
      simp only [Option.pure_def, Option.some.injEq] at h
      subst h
      rw [hd]
      refine ⟨rfl, ?_⟩
      by_cases hin : (content < first.trim.length && first.trim.endsWith delimiter) = true
      · exact ⟨below, by simp [hin], .inl (by simp [isDocstring, ho, hin])⟩
      · cases hr : takeThrough (·.trim.endsWith delimiter) below with
        | none =>
          have hopen := takeThrough_eq_none_iff.mp hr
          refine ⟨[], by simp [hin], .inr ⟨?_, rfl⟩⟩
          simp only [hin, Bool.false_eq_true, ite_false, Option.getD_none, isOpenDocstring, ho, Bool.not_false,
            Bool.true_and, List.all_eq_true, Bool.not_eq_true']
          exact hopen
        | some through =>
          obtain ⟨init, last, rest, rfl, rfl, hlast, hinit⟩ := takeThrough_eq_some_iff.mp hr
          refine ⟨rest, by simp [hin], .inl ?_⟩
          simp only [hin, Bool.false_eq_true, ite_false, Option.getD_some, isDocstring, ho, List.getLast?_concat,
            Option.any_some, hlast, List.dropLast_concat, Bool.true_and, List.all_eq_true, Bool.not_eq_true']
          exact hinit
  · obtain ⟨first, lines⟩ := block
    rintro ⟨rfl, below, hd, hb | ⟨hb, rfl⟩⟩
    · exact docstring?_of_isDocstring hb hd
    · exact docstring?_of_isOpenDocstring hb (hd.trans (List.append_nil _))

def opensDocstring (line : Text) : Bool := (docstringOpening? line.trim).isSome

def LeadsWith (old below : List Text) : Prop :=
  (old = [] ∧ below.head?.any opensDocstring = false) ∨ isDocstring old = true ∨
    (isOpenDocstring old = true ∧ below = [])

theorem LeadsWith.replace {old front : List Text} {line : Text} {below : List Text}
    (h : LeadsWith old (front ++ line :: below)) {line' : Text} (hline : opensDocstring line' = false)
    (below' : List Text) : LeadsWith old (front ++ line' :: below') := by
  obtain ⟨rfl, hhead⟩ | hstring | ⟨-, hnil⟩ := h
  · refine .inl ⟨rfl, ?_⟩
    cases front with
    | nil => exact hline
    | cons first front => exact hhead
  · exact .inr (.inl hstring)
  · simp at hnil

theorem isSome_docstring? (lines : List Text) (header : Nat) :
    (docstring? lines header).isSome = (lines.drop (header + 1)).head?.any opensDocstring := by
  unfold docstring? opensDocstring
  cases lines.drop (header + 1) with
  | nil => rfl
  | cons first below => cases ho : docstringOpening? first.trim <;> simp [ho]

end CursorDoc
