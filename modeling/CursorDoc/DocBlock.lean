import CursorDoc.Span

/-!
# Documentation blocks

The documentation of a function is either the block comment right above its
header, blank lines between the two left aside, or the triple-quoted string
that starts on the line right below.
-/

namespace CursorDoc

/-- A run of whole lines, with the number of its first one. -/
structure DocBlock where
  first : Nat
  lines : List Text
deriving DecidableEq, Repr

def DocBlock.stop (block : DocBlock) : Nat := block.first + block.lines.length

def DocBlock.text (block : DocBlock) : Text := Text.joinLines block.lines

/-- The items up to and including the first one satisfying `p`. -/
def takeThrough {α : Type} (p : α → Bool) : List α → Option (List α)
  | [] => none
  | a :: as => if p a then some [a] else (takeThrough p as).map (a :: ·)

/-! ## Comments above a header -/

def opensComment (line : Text) : Bool := line.trim.startsWith ['/', '*']

def closesComment (line : Text) : Bool := line.trim.endsWith ['*', '/']

/-- The block comment above line `start`. The nearest line above that is not blank has to end a
comment; the block goes up from there to the first line that starts one. -/
def commentBlock? (lines : List Text) (start : Nat) : Option DocBlock :=
  match (lines.take start).reverse.dropWhile Text.isBlank with
  | [] => none
  | last :: above =>
    if closesComment last then
      (takeThrough opensComment (last :: above)).map fun block =>
        { first := (last :: above).length - block.length, lines := block.reverse }
    else none

/-- The text of the block comment above line `start`; the line before `start` has to exist. -/
def commentText? (lines : List Text) (start : Int) : Except LineError (Option Text) :=
  if lines.length < start then .error .outOfRange
  else .ok ((commentBlock? lines start.toNat).map DocBlock.text)

/-! ## Strings below a header -/

/-- The delimiter that a trimmed line opens a documentation string with, and where its content
starts: three quotes of one kind after at most one of the letters `r` and `u`. -/
def docstringOpening? (opening : Text) : Option (Text × Nat) :=
  let letters := if opening.head?.any (['r', 'R', 'u', 'U'].contains ·) then 1 else 0
  let rest : Text := opening.drop letters
  if rest.startsWith ['"', '"', '"'] then some (['"', '"', '"'], letters + 3)
  else if rest.startsWith ['\'', '\'', '\''] then some (['\'', '\'', '\''], letters + 3)
  else none

/-- The documentation string on the line below the header. It ends on its own line, on the first
later line that ends with its delimiter, or with the lines. -/
def docstring? (lines : List Text) (header : Nat) : Option DocBlock :=
  match lines.drop (header + 1) with
  | [] => none
  | first :: below => do
    let opening := first.trim
    let (delimiter, content) ← docstringOpening? opening
    let rest :=
      if content < opening.length && opening.endsWith delimiter then []
      else (takeThrough (·.trim.endsWith delimiter) below).getD below
    return { first := header + 1, lines := first :: rest }

def docstringText? (lines : List Text) (header : Nat) : Option Text :=
  (docstring? lines header).map DocBlock.text

end CursorDoc
