import CursorDoc.Text.Basic

/-!
# Literals and comments

`stripLiterals` takes string literals, character literals and comments out of
lines of C-style source, so that what is left can be searched for braces.
Quotes `'` and `"` end with their line at the latest; templates (backtick) and
block comments run on into the lines below.
-/

namespace CursorDoc

/-- What the reading position of a source text stands in. -/
inductive Inside where
  | code
  | comment
  | quoted (quote : Char)
deriving DecidableEq, Repr

def templateQuote : Char := Char.ofNat 0x60

def isQuote (c : Char) : Bool := c == '\'' || c == '"' || c == templateQuote

/-- What is still open when a line ends: block comments and templates. -/
def Inside.afterLineEnd : Inside → Inside
  | .code => .code
  | .comment => .comment
  | .quoted q => if q = templateQuote then .quoted q else .code

/-- The characters of a line outside literals and comments, and what is open after the line. -/
def stripLine : Inside → Text → Text × Inside
  | inside, [] => ([], inside.afterLineEnd)
  | .comment, '*' :: '/' :: r => stripLine .code r
  | .comment, _ :: r => stripLine .comment r
  | .quoted q, ['\\'] => ([], (Inside.quoted q).afterLineEnd)
  | .quoted q, '\\' :: _ :: r => stripLine (.quoted q) r
  | .quoted q, c :: r => stripLine (if c = q then .code else .quoted q) r
  | .code, '/' :: '/' :: _ => ([], .code)
  | .code, '/' :: '*' :: r => stripLine .comment r
  | .code, c :: r =>
    if isQuote c then stripLine (.quoted c) r
    else
      let rest := stripLine .code r
      (c :: rest.1, rest.2)

/-- One stripped line for each line, read from the given position on. -/
def stripLinesFrom : Inside → List Text → List Text
  | _, [] => []
  | inside, line :: lines =>
    let stripped := stripLine inside line
    stripped.1 :: stripLinesFrom stripped.2 lines

def stripLiterals (lines : List Text) : List Text := stripLinesFrom .code lines

theorem length_stripLinesFrom (inside : Inside) (lines : List Text) :
    (stripLinesFrom inside lines).length = lines.length := by
  induction lines generalizing inside with
  | nil => rfl
  | cons line lines ih => simp [stripLinesFrom, ih]

theorem stripLinesFrom_take (inside : Inside) (lines : List Text) (n : Nat) :
    stripLinesFrom inside (lines.take n) = (stripLinesFrom inside lines).take n := by
  induction lines generalizing inside n with
  | nil => simp [stripLinesFrom]
  | cons line lines ih =>
    cases n with
    | zero => rfl
    | succ n => simp [stripLinesFrom, ih]

end CursorDoc
