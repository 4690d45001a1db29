import CursorDoc.Text.Blank

/-!
# Lines

A text is cut into lines after every `\n` and nowhere else, the way editors
number lines: form feeds, carriage returns and Unicode separators stay inside
their line. `splitLines` keeps the terminators, `asLines` drops them, and
`joinBody` writes lines back with one `\n` each.
-/

namespace CursorDoc.Text

/-- Cut a text after every `\n`, keeping it. A text that ends in `\n` has no empty line after it. -/
def splitLines : Text → List Text
  | [] => []
  | c :: r =>
    if c = '\n' then [c] :: splitLines r
    else match splitLines r with
      | [] => [[c]]
      | line :: lines => (c :: line) :: lines

/-- Line terminators are made of carriage returns and newlines. -/
def isLineEnd (c : Char) : Bool := c == '\r' || c == '\n'

def stripLineEnd (line : Text) : Text := dropEndWhile isLineEnd line

def lineEnd (line : Text) : Text := line.drop (stripLineEnd line).length

/-- Every line followed by one newline. -/
def joinBody (lines : List Text) : Text := lines.flatMap (· ++ ['\n'])

def joinLines (lines : List Text) : Text := joinWith ['\n'] lines

/-- The pieces between newlines; one more than there are newlines. -/
def pieces (t : Text) : List Text := splitOn '\n' t

theorem flatten_splitLines (t : Text) : (splitLines t).flatten = t := by
  induction t with
  | nil => rfl
  | cons c r ih =>
    by_cases h : c = '\n'
    · simp [splitLines, h, ih]
    · simp only [splitLines, h, ite_false]
      cases hr : splitLines r with
      | nil => rw [hr] at ih; simp at ih; simp [← ih]
      | cons line lines => rw [hr] at ih; simp at ih; simp [← ih]

end CursorDoc.Text

namespace CursorDoc

/-- What a caller hands over: a whole text, or lines that were already split. -/
inductive Buffer where
  | text (content : Text)
  | lines (content : List Text)

def Buffer.asLines : Buffer → List Text
  | .text t => (Text.splitLines t).map Text.stripLineEnd
  | .lines ls => ls.map Text.stripLineEnd

end CursorDoc
