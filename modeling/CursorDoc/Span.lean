import CursorDoc.Literals
import CursorDoc.Text.Lines

/-!
# Spans

The lines a function takes up, header included. A brace-delimited function
ends where the first brace on or below its header is closed; an indented one
goes on while lines are blank or deeper than the header. Neither knows more of
the language than that.
-/

namespace CursorDoc

/-- A range of lines, both ends included, and its text with every line terminated. -/
structure Span where
  body : Text
  startLine : Nat
  endLine : Nat
deriving DecidableEq, Repr

/-- The span from `start` to `stop`, or of the line `start` alone if `stop` comes before it. -/
def Span.ofLines (lines : List Text) (start stop : Nat) : Span :=
  let stop := max start stop
  { body := Text.joinBody ((lines.drop start).take (stop + 1 - start))
    startLine := start
    endLine := stop }

/-! ## Braces -/

/-- Follow the braces of a line from `depth` open ones on. A closing brace counts only below an
open one; `none` when it closes the last. -/
def followBraces : Nat → Text → Option Nat
  | depth, [] => some depth
  | depth, c :: r =>
    if c = '{' then followBraces (depth + 1) r
    else if c = '}' then
      match depth with
      | 0 => followBraces 0 r
      | 1 => none
      | depth + 2 => followBraces (depth + 1) r
    else followBraces depth r

/-- How many lines below the first the brace that was opened first is closed. -/
def closingLine? : Nat → List Text → Option Nat
  | _, [] => none
  | depth, line :: lines =>
    match followBraces depth line with
    | none => some 0
    | some depth => (closingLine? depth lines).map (· + 1)

/-- The span of a function in braces; to the end of the lines if they never balance.
With `skipLiterals` braces in strings and comments do not count. -/
def Span.ofBraces (lines : List Text) (header : Nat) (skipLiterals : Bool) : Span :=
  let below := lines.drop header
  let counted := if skipLiterals then stripLiterals below else below
  match closingLine? 0 counted with
  | some offset => .ofLines lines header (header + offset)
  | none => .ofLines lines header (lines.length - 1)

/-! ## Indentation -/

/-- Whether a line below a header of the given indentation still belongs to it. -/
def continuesBody (width : Nat) (line : Text) : Bool :=
  line.isBlank || decide (width < line.indentWidth)

def Span.ofIndentation (lines : List Text) (header : Nat) : Span :=
  let width := (lines.getD header []).indentWidth
  let body := (lines.drop (header + 1)).takeWhile (continuesBody width)
  .ofLines lines header (header + body.length)

inductive LineError where
  | outOfRange
deriving DecidableEq, Repr

def LineError.message : LineError → Text
  | .outOfRange => "list index out of range".toList

def Span.ofIndentation? (lines : List Text) (header : Nat) : Except LineError Span :=
  if header < lines.length then .ok (.ofIndentation lines header) else .error .outOfRange

end CursorDoc
