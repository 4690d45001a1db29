import CursorDoc.Text.Basic

/-!
# Records

What is reported about a located function.
-/

namespace CursorDoc

structure Record where
  name : Text
  /-- The trimmed line of the signature. -/
  signature : Text
  /-- All lines of the function, each with one newline. -/
  body : Text
  /-- The line of the header, counted from zero. -/
  startLine : Int
  endLine : Int
  /-- The language tag as the caller gave it. -/
  language : Text
  documentation : Option Text
deriving DecidableEq, Repr

end CursorDoc
