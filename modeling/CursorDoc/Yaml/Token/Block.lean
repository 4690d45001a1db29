import CursorDoc.Yaml.Character
import CursorDoc.Yaml.Fault

/-!
# Block scalars

A block scalar is introduced by a bar, which keeps line breaks, or by a greater
sign, which folds them. A header may say how its last line breaks are treated
and how deep its lines are indented; else its first line that is not empty does.
-/

namespace CursorDoc.Yaml

/-- What happens to the line breaks at the end. -/
inductive Chomping where
  | strip
  | clip
  | keep
deriving DecidableEq, Repr

structure BlockHeader where
  chomping : Chomping
  /-- Indentation relative to the surrounding block, if it is given. -/
  indent : Option Nat
deriving DecidableEq, Repr

def chompingOf? (c : Char) : Option Chomping :=
  if c = '+' then some .keep else if c = '-' then some .strip else none

def blockIndentOf? (c : Char) : Option Nat :=
  if '0' ≤ c ∧ c ≤ '9' then some (c.toNat - 0x30) else none

/-- The two indicators in either order, each at most once. -/
def readIndicators (t : Text) : BlockHeader × Text :=
  let chomping := t.head?.bind chompingOf?
  let t' := if chomping.isSome then t.tail else t
  let indent := t'.head?.bind blockIndentOf?
  let t'' := if indent.isSome then t'.tail else t'
  match chomping with
  | some chomping => (⟨chomping, indent⟩, t'')
  | none =>
    let late := if indent.isSome then t''.head?.bind chompingOf? else none
    (⟨late.getD .clip, indent⟩, if late.isSome then t''.tail else t'')

/-- The text after a comment and the line break, where nothing else is on the line. -/
def endOfLine? (t : Text) : Option Text :=
  let t := t.dropWhile (· == ' ')
  let t := if t.head? == some '#' then t.dropWhile (!isBreak ·) else t
  if atBreak t then some t.tail else none

def readBlockHeader (t : Text) : Except Fault (BlockHeader × Text) :=
  let (header, rest) := readIndicators t
  if header.indent == some 0 || !atSpace rest then .error .malformed
  else match endOfLine? rest with
    | some rest => .ok (header, rest)
    | none => .error .malformed

/-- Empty lines: their breaks, the column that is reached, and what follows. Of a line that is not
empty at most `indent` spaces are skipped. -/
def skipMargin (indent : Nat) : Nat → Text → Text × Nat × Text
  | column, [] => ([], column, [])
  | column, c :: r =>
    if c = ' ' ∧ column < indent then skipMargin indent (column + 1) r
    else if isBreak c then
      let (breaks, column, rest) := skipMargin indent 0 r
      (breakText c :: breaks, column, rest)
    else ([], column, c :: r)

/-- The greatest column that the spaces of the first lines reach, empty lines included. -/
def widestMargin : Nat → Text → Nat
  | column, [] => column
  | column, c :: r =>
    if c = ' ' then widestMargin (column + 1) r
    else if isBreak c then max column (widestMargin 0 r)
    else column

/-- The lines of a scalar at the given indentation, and what follows. `limit` bounds the number of
lines. -/
def readBlockLines (folded : Bool) (indent : Nat) (chomping : Chomping) :
    Nat → Text × Nat × Text → Text × Text
  | 0, (_, _, t) => ([], t)
  | limit + 1, (breaks, column, t) =>
    if column = indent ∧ t ≠ [] then
      let content := t.takeWhile (!isBreak ·)
      let rest := t.dropWhile (!isBreak ·)
      let lineBreak := (rest.take 1).map breakText
      let next := skipMargin indent 0 rest.tail
      if next.2.1 = indent ∧ next.2.2 ≠ [] then
        let join :=
          if folded && lineBreak == ['\n'] && !t.head?.any isGap && !next.2.2.head?.any isGap then
            if next.1.isEmpty then [' '] else []
          else lineBreak
        let (text, rest) := readBlockLines folded indent chomping limit next
        (breaks ++ content ++ join ++ text, rest)
      else
        let tail := match chomping with
          | .strip => []
          | .clip => lineBreak
          | .keep => lineBreak ++ next.1
        (breaks ++ content ++ tail, next.2.2)
    else (if chomping = .keep then breaks else [], t)

/-- Read a block scalar after its first character, inside a block of the given indentation. -/
def readBlock (folded : Bool) (outer : Int) (t : Text) : Except Fault (Text × Text) :=
  match readBlockHeader t with
  | .error fault => .error fault
  | .ok (header, t) =>
    let least := (max 1 (outer + 1)).toNat
    let indent := match header.indent with
      | some n => least + n - 1
      | none => max least (widestMargin 0 t)
    .ok (readBlockLines folded indent header.chomping (t.length + 1) (skipMargin indent 0 t))

end CursorDoc.Yaml
