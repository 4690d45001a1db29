import CursorDoc.Text.Basic

/-!
# Newlines

Reading a text whose lines may end in `\r\n`, in `\r` or in `\n` as one whose
lines all end in `\n`.
-/

namespace CursorDoc.Text

def unifyNewlines : Text → Text
  | [] => []
  | '\r' :: '\n' :: r => '\n' :: unifyNewlines r
  | c :: r => (if c = '\r' then '\n' else c) :: unifyNewlines r

end CursorDoc.Text
