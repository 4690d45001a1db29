import CursorDoc.Text.Basic

/-!
# Terminal escapes

Output that does not go to a terminal is written without the escape sequences
that set colours and move the cursor.
-/

namespace CursorDoc.Text

/-- Parameters of an escape sequence: digits, semicolons and question marks. -/
def isEscapeParameter (c : Char) : Bool := c.isDigit || c == ';' || c == '?'

/-- The length of the escape sequence a text starts with: the escape character, a bracket,
parameters and a letter. -/
def escapeLength? : Text → Option Nat
  | '\x1b' :: '[' :: r =>
    if (r.dropWhile isEscapeParameter).head?.any Char.isAlpha then
      some ((r.takeWhile isEscapeParameter).length + 3)
    else none
  | _ => none

/-- Leave out `skip` characters, and every escape sequence after them. -/
def stripEscapesFrom : Nat → Text → Text
  | _, [] => []
  | skip + 1, _ :: r => stripEscapesFrom skip r
  | 0, c :: r =>
    match escapeLength? (c :: r) with
    | some n => stripEscapesFrom (n - 1) r
    | none => c :: stripEscapesFrom 0 r

def stripEscapes (t : Text) : Text := stripEscapesFrom 0 t

end CursorDoc.Text
