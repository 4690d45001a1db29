import CursorDoc.DocBlock
import CursorDoc.Record
import CursorDoc.Settings
import CursorDoc.Signature
import CursorDoc.Text.Message

/-!
# Locating the function at a cursor

The function at a cursor is the one with the nearest signature at or above it,
within the lookback of its language family. A search also leaves a trail of
entries that say what it did; it fails if one of them names a number that is too
long to be written.
-/

namespace CursorDoc

/-! ## The trail of a search -/

inductive LogLevel where
  | debug
  | info
deriving DecidableEq, Repr

inductive LogEntry where
  | emptyBuffer
  | clamped (cursor : Int) (line : Nat)
  | searching (line : Nat) (language : Text)
  | found (family : Family) (name : Text) (line : Nat)
  /-- No signature from line `stop` to line `line`. -/
  | notFound (family : Family) (stop : Int) (line : Nat)
deriving DecidableEq, Repr

namespace LogEntry

def level : LogEntry → LogLevel
  | emptyBuffer => .debug
  | clamped .. => .debug
  | searching .. => .info
  | found .. => .info
  | notFound .. => .debug

open Text.Piece in
def message : LogEntry → List Text.Piece
  | emptyBuffer => [words "Empty buffer, nothing to locate".toList]
  | clamped cursor line =>
    [words "Cursor line ".toList, number cursor, words " clamped to ".toList, number line]
  | searching line language =>
    [words "Attempting to find function at line ".toList, number line, words ", language: ".toList,
      words language]
  | found family name line =>
    [words ("Found ".toList ++ family.label.toList ++ " function: ".toList ++ name ++ " at line ".toList),
      number line]
  | notFound family stop line =>
    [words ("No ".toList ++ family.label.toList ++ " signature between lines ".toList), number stop,
      words " and ".toList, number line]

end LogEntry

/-! ## What a family does with a header -/

def Family.span (family : Family) (skipLiterals : Bool) (lines : List Text) (header : Nat) : Span :=
  if family.isIndented then .ofIndentation lines header else .ofBraces lines header skipLiterals

def Family.docBlock? (family : Family) (lines : List Text) (header : Nat) : Option DocBlock :=
  if family.isIndented then docstring? lines header else commentBlock? lines header

/-! ## The search -/

/-- The cursor moved to the nearest line of a buffer that has any. -/
def clampCursor (cursor : Int) (lines : List Text) : Nat := min cursor.toNat (lines.length - 1)

def windowStart (lookback : Int) (line : Nat) : Int := max 0 (line - lookback)

/-- The nearest signature at or above `line`: its line and the name in it. -/
def nearestSignature? (family : Family) (lines : List Text) (start : Int) (line : Nat) :
    Option (Nat × Text) :=
  ((lines.zipIdx.take (line + 1)).drop start.toNat).reverse.findSome? fun (text, index) =>
    (family.signatureName? text).map (index, ·)

/-- The record of the function whose signature is on line `header`. -/
def recordAt (family : Family) (settings : Settings) (language : Text) (lines : List Text)
    (header : Nat) (name : Text) : Record :=
  let span := family.span settings.skipLiterals lines header
  { name := name
    signature := (lines.getD header []).trim
    body := span.body
    startLine := span.startLine
    endLine := span.endLine
    language := language
    documentation := (family.docBlock? lines span.startLine).map DocBlock.text }

structure Search where
  record : Option Record
  log : List LogEntry
deriving DecidableEq, Repr

def searchLines (lines : List Text) (cursor : Int) (language : Text) (settings : Settings) :
    Search :=
  if lines.isEmpty then { record := none, log := [.emptyBuffer] }
  else
    let family := Family.ofTag language
    let line := clampCursor cursor lines
    let start := windowStart (settings.lookbackOf family) line
    let moved := if line = cursor then [] else [.clamped cursor line]
    let log := moved ++ [.searching line language]
    match nearestSignature? family lines start line with
    | some (header, name) =>
      { record := some (recordAt family settings language lines header name)
        log := log ++ [.found family name header] }
    | none => { record := none, log := log ++ [.notFound family start line] }

def Search.messages (search : Search) : Except Text.NumberFault (List Text) :=
  search.log.mapM fun entry => Text.writeAll entry.message

def search (buffer : Buffer) (cursor : Int) (language : Text) (settings : Settings) : Search :=
  searchLines buffer.asLines cursor language settings

/-- The function at the cursor, which counts lines from zero. -/
def locate? (buffer : Buffer) (cursor : Int) (language : Text) (settings : Settings) :
    Option Record :=
  (search buffer cursor language settings).record

/-- The function at the cursor, with a trail that is written as the search goes on. -/
def locate (buffer : Buffer) (cursor : Int) (language : Text) (settings : Settings) :
    Except Text.NumberFault (Option Record) := do
  let _ ← (search buffer cursor language settings).messages
  pure (locate? buffer cursor language settings)

end CursorDoc
