import CursorDoc.Text.Basic

/-!
# Tables

Tables of texts, drawn with box characters: a title in the middle above, heavy
lines around the head, light ones around the rows.
-/

namespace CursorDoc

structure Table where
  title : Text
  head : List Text
  rows : List (List Text)

namespace Table

/-- The characters of a rule: its left end, its line, its crossings and its right end. -/
structure Rule where
  left : Char
  line : Char
  crossing : Char
  right : Char

def widths (table : Table) : List Nat :=
  table.rows.foldl (fun widths row => List.zipWith max widths (row.map List.length))
    (table.head.map List.length)

def rule (widths : List Nat) (r : Rule) : Text :=
  [r.left] ++ Text.joinWith [r.crossing] (widths.map fun w => List.replicate (w + 2) r.line) ++
    [r.right]

/-- A cell with blanks up to the width of its column and one at each side. -/
def cell (width : Nat) (t : Text) : Text :=
  [' '] ++ t ++ List.replicate (width - t.length) ' ' ++ [' ']

def row (widths : List Nat) (bar : Char) (cells : List Text) : Text :=
  [bar] ++ Text.joinWith [bar] (List.zipWith cell widths cells) ++ [bar]

/-- A text in the middle of a line; a blank too many goes to the right. -/
def centred (width : Nat) (t : Text) : Text :=
  let left := (width - t.length) / 2
  List.replicate left ' ' ++ t ++ List.replicate (width - t.length - left) ' '

def lines (table : Table) : List Text :=
  let widths := table.widths
  let top := rule widths ⟨'┏', '━', '┳', '┓'⟩
  [centred top.length table.title, top, row widths '┃' table.head,
    rule widths ⟨'┡', '━', '╇', '┩'⟩] ++
    table.rows.map (row widths '│') ++ [rule widths ⟨'└', '─', '┴', '┘'⟩]

def text (table : Table) : Text := table.lines.flatMap (· ++ ['\n'])

end Table
end CursorDoc
