import CursorDoc.Locate
import CursorDoc.Text.Dedent

/-!
# Splicing documentation

`splice` puts a documentation block next to the header of a function, in the
place of the block that is there. The block is written as it is given, apart
from its indentation and its line terminators, which follow the header.
-/

namespace CursorDoc

inductive SpliceError where
  | outside (startLine endLine : Int) (lineCount : Nat)
  | documentationGone (name : Text) (startLine : Int)
deriving DecidableEq, Repr

open Text.Piece in
def SpliceError.pieces : SpliceError → List Text.Piece
  | .outside startLine endLine lineCount =>
    [words "Function lines ".toList, number startLine, words ['-'], number endLine,
      words " are outside the source (".toList, number lineCount, words " lines)".toList]
  | .documentationGone name startLine =>
    [words ("Documentation of '".toList ++ name ++ "' no longer found next to line ".toList), number startLine]

def SpliceError.message (error : SpliceError) : Text := Text.shown error.pieces

/-- What one level of indentation adds below a header whose body gives no example. -/
def defaultIndent : Text := [' ', ' ', ' ', ' ']

/-- The terminator of a line, for lines that are put next to it. -/
def newlineOf (line : Text) : Text :=
  match line.lineEnd with
  | [] => ['\n']
  | terminator => terminator

/-- A block without its margin and its outer blank lines, one text for each line. -/
def blockLines (doc : Text) : List Text :=
  (Buffer.text (doc.trimWhile (· == '\n')).dedent).asLines

/-- A block at a new indentation; blank lines are emptied, all lines are terminated. -/
def indentBlock (doc indent newline : Text) : List Text :=
  (blockLines doc).map fun line => (if line.isBlank then [] else indent ++ line) ++ newline

/-- The indentation of an indented body: that of the first line in it that is deeper than the
header, or one level more than the header. -/
def bodyIndent (lines : List Text) (startLine endLine : Nat) : Text :=
  let header := (lines.getD startLine []).indentation
  let body := (lines.take (endLine + 1)).drop (startLine + 1)
  match body.find? fun line => !line.isBlank && decide (header.length < line.indentWidth) with
  | some line => line.indentation
  | none => header ++ defaultIndent

/-- Put `lines` in the place of the lines from `start` up to `stop`. -/
def replaceLines (source : List Text) (start stop : Nat) (lines : List Text) : List Text :=
  source.take start ++ lines ++ source.drop stop

/-- The line with a terminator, if it has none. -/
def terminated (line : Text) : Text := if line.lineEnd.isEmpty then line ++ ['\n'] else line

/-- The source with the block put at a header that is one of its lines. -/
def spliceAt (source : List Text) (family : Family) (startLine endLine : Nat)
    (existing : Option DocBlock) (doc : Text) : List Text :=
  let plain := source.map Text.stripLineEnd
  let header := source.getD startLine []
  let newline := newlineOf header
  if family.isIndented then
    let source := source.set startLine (terminated header)
    let block := indentBlock doc (bodyIndent plain startLine endLine) newline
    let stop := (existing.map DocBlock.stop).getD (startLine + 1)
    replaceLines source (startLine + 1) stop block
  else
    let block := indentBlock doc (plain.getD startLine []).indentation newline
    match existing with
    | none => replaceLines source startLine startLine block
    | some old => replaceLines source old.first old.stop block

/-- Put `doc` next to the function of the record, in the place of the old documentation. -/
def splice (source : Text) (record : Record) (doc : Text) : Except SpliceError Text :=
  let lines := source.splitLines
  if 0 ≤ record.startLine ∧ record.startLine ≤ record.endLine ∧ record.endLine < lines.length then
    let family := Family.ofTag record.language
    let startLine := record.startLine.toNat
    let existing := family.docBlock? (lines.map Text.stripLineEnd) startLine
    if record.documentation.isSome && existing.isNone then
      .error (.documentationGone record.name record.startLine)
    else
      .ok (spliceAt lines family startLine record.endLine.toNat existing doc).flatten
  else .error (.outside record.startLine record.endLine lines.length)

end CursorDoc
