import CursorDoc.Text.Newlines
import CursorDoc.Text.Utf8
import CursorDoc.Yaml.Token.Depth
import CursorDoc.Yaml.Value

/-!
# Loading a document

A document is read from the bytes of a file piece by piece, so a reading may
come to an end before it meets the bytes that cannot be read. How much is read
before that, and how deep a reader can go, depends on where it runs.
-/

namespace CursorDoc

/-- The text of the bytes in front of the first fault. -/
def Utf8.start (content : Bytes) : Text :=
  match decode content with
  | .ok t => t
  | .error fault => ((decode (content.take fault.first)).toOption).getD []

namespace Yaml

/-- The bytes that are taken from a file at once. -/
def chunkSize : Nat := 8192

/-- The characters that are handed out at once. -/
def pieceSize : Nat := 4096

/-- The characters that are handed out of a file before its first fault is met, if no chunk of it
has more than one byte for a character. -/
def handedOut (content : Bytes) : Nat :=
  let chunks := match Utf8.decode content with
    | .ok _ => content
    | .error fault => content.take (fault.first / chunkSize * chunkSize)
  ((Utf8.start chunks).unifyNewlines.takeWhile isAllowed).length / pieceSize * pieceSize

/-- What the reading of documents depends on beside the file. -/
structure Loader where
  /-- How many collections can be inside one another. -/
  depth : Nat := 480
  /-- How many value keys, or mappings that are merged into one another, can be followed. -/
  chain : Nat := 960
  /-- How many characters of a file that has a fault are handed out before it is met. -/
  handed : Bytes → Nat := handedOut

/-- The text of a file in which everything can be read. -/
def readable? (content : Bytes) : Option Text :=
  match Utf8.decode content with
  | .ok t => if t.unifyNewlines.all isAllowed then some t.unifyNewlines else none
  | .error _ => none

/-- A text without the number at its end, if that has too many digits. -/
def withoutNumber (t : Text) : Text :=
  let start := t.dropEndWhile Char.isDigit
  if Text.maxDigits < t.length - start.length then start else t

namespace Loader

/-- What is read of a file that has a fault. Where it ends, a number cannot be known to end. -/
def startOf (loader : Loader) (content : Bytes) : Text :=
  withoutNumber
    (((Utf8.start content).unifyNewlines.takeWhile isAllowed).take (loader.handed content))

def document (loader : Loader) (scan : Scan) : Except Fault Document :=
  let scan := scan.within loader.depth
  Document.ofTokens scan.tokens scan.fault

/-- The values of a text, if it is a document with content. -/
def values? (loader : Loader) (t : Text) : Except Fault (Option Values) := do
  Values.ofDocument? loader.chain (← loader.document (scan t))

end Loader

end Yaml
end CursorDoc
