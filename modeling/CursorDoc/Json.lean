import CursorDoc.Record
import CursorDoc.Text.Message
import CursorDoc.Text.Quoted

/-!
# Records as JSON

A record is written as a JSON object, one field on a line. All characters
beyond ASCII are written as escapes of UTF-16 units. Line numbers that are too
long to be written make it fail.
-/

namespace CursorDoc.Json

/-- The escape of a UTF-16 unit. -/
def unitEscape (unit : Nat) : Text := ['\\', 'u'] ++ Text.hex 4 unit

/-- The UTF-16 units of a character: one, or a pair beyond the first plane. -/
def units (c : Char) : List Nat :=
  let n := c.toNat
  if n < 0x10000 then [n] else [0xD800 + (n - 0x10000) / 0x400, 0xDC00 + (n - 0x10000) % 0x400]

def escapedChar (c : Char) : Text :=
  match c with
  | '"' => ['\\', '"']
  | '\\' => ['\\', '\\']
  | '\n' => ['\\', 'n']
  | '\r' => ['\\', 'r']
  | '\t' => ['\\', 't']
  | '\x0c' => ['\\', 'f']
  | '\x08' => ['\\', 'b']
  | c => if 0x20 ≤ c.toNat && c.toNat ≤ 0x7E then [c] else (units c).flatMap unitEscape

def string (t : Text) : Text := ['"'] ++ t.flatMap escapedChar ++ ['"']

def field (name : String) (value : Text) : Text :=
  [' ', ' '] ++ string name.toList ++ [':', ' '] ++ value

def object (fields : List Text) : Text :=
  ['\x7b', '\n'] ++ Text.joinWith [',', '\n'] fields ++ ['\n', '\x7d']

def record (r : Record) : Except Text.NumberFault Text := do
  let startLine ← Text.numeral r.startLine
  let endLine ← Text.numeral r.endLine
  pure (object ([field "name" (string r.name), field "signature" (string r.signature),
    field "body" (string r.body), field "start_line" startLine, field "end_line" endLine,
    field "language" (string r.language)] ++
    (r.documentation.map fun d => field "documentation" (string d)).toList))

end CursorDoc.Json
