import CursorDoc.Text.Lines

/-!
# Removing a common margin

`dedent` removes from every line the longest run of spaces and tabs that all
lines share. Lines made of spaces and tabs alone have no say in the margin and
become empty.
-/

namespace CursorDoc.Text

def isMarginChar (c : Char) : Bool := c == ' ' || c == '\t'

def commonStart : Text → Text → Text
  | a :: s, b :: t => if a = b then a :: commonStart s t else []
  | _, _ => []

/-- The margin shared by all lines that hold something else than spaces and tabs. -/
def margin (lines : List Text) : Text :=
  match (lines.filter (!·.all isMarginChar)).map (·.takeWhile isMarginChar) with
  | [] => []
  | first :: rest => rest.foldl commonStart first

def dedentLines (lines : List Text) : List Text :=
  let width := (margin lines).length
  lines.map fun line => if line.all isMarginChar then [] else line.drop width

def dedent (t : Text) : Text := joinLines (dedentLines (pieces t))

end CursorDoc.Text
