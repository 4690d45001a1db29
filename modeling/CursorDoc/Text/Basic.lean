/-!
# Texts

A text is a list of code points. Files, lines, names and messages are all
texts; nothing in this library looks at bytes except `CursorDoc.Text.Utf8`.
-/

namespace CursorDoc

/-- A sequence of code points. -/
abbrev Text := List Char

namespace Text

/-- Leave out the longest run of characters satisfying `p` at the end. -/
def dropEndWhile (p : Char → Bool) (t : Text) : Text := (t.reverse.dropWhile p).reverse

/-- Leave out the longest runs of characters satisfying `p` at both ends. -/
def trimWhile (p : Char → Bool) (t : Text) : Text := dropEndWhile p (t.dropWhile p)

def startsWith (t start : Text) : Bool := start.isPrefixOf t

def endsWith (t finish : Text) : Bool := finish.isSuffixOf t

/-- The parts between separators; one more than there are separators. -/
def splitOn (separator : Char) : Text → List Text
  | [] => [[]]
  | c :: r =>
    if c = separator then [] :: splitOn separator r
    else match splitOn separator r with
      | [] => [[c]]
      | part :: parts => (c :: part) :: parts

def joinWith (separator : Text) (parts : List Text) : Text := separator.intercalate parts

@[simp] theorem dropEndWhile_nil (p : Char → Bool) : dropEndWhile p [] = [] := rfl

theorem startsWith_iff {t start : Text} : startsWith t start = true ↔ ∃ r, start ++ r = t := by
  rw [startsWith, List.isPrefixOf_iff_prefix]
  exact Iff.rfl

theorem splitOn_ne_nil (separator : Char) (t : Text) : splitOn separator t ≠ [] := by
  cases t with
  | nil => simp [splitOn]
  | cons c r =>
    rw [splitOn]
    split
    · simp
    · split <;> simp

theorem joinWith_cons (separator part : Text) (parts : List Text) :
    joinWith separator (part :: parts) = part ++ parts.flatMap (separator ++ ·) := by
  induction parts generalizing part with
  | nil => simp [joinWith]
  | cons next parts ih =>
    unfold joinWith at ih ⊢
    rw [List.intercalate_cons_cons, ih, List.flatMap_cons, List.append_assoc, List.append_assoc]

theorem joinWith_splitOn (separator : Char) (t : Text) :
    joinWith [separator] (splitOn separator t) = t := by
  induction t with
  | nil => simp [splitOn, joinWith]
  | cons c r ih =>
    rw [splitOn]
    have hne := splitOn_ne_nil separator r
    cases hr : splitOn separator r with
    | nil => exact absurd hr hne
    | cons part parts =>
      rw [hr] at ih
      by_cases h : c = separator
      · simp only [h, ite_true]
        simp only [joinWith, List.intercalate] at ih ⊢
        simp [ih]
      · simp only [h, ite_false]
        simp only [joinWith, List.intercalate] at ih ⊢
        cases parts <;> simp_all

end Text
end CursorDoc
