import CursorDoc.Text.Basic

/-!
# Blank characters

The twenty-nine characters that count as white space, and what they mean for a
line: whether it is blank, what is left after trimming, how far it is indented.
-/

namespace CursorDoc.Text

/-- White space: the tab to the carriage return, the four separators of ASCII, and every
character that Unicode calls a space, a line separator or a next-line control. -/
def isSpace (c : Char) : Bool :=
  let n := c.toNat
  (0x09 ≤ n && n ≤ 0x0D) || (0x1C ≤ n && n ≤ 0x20) || n == 0x85 || n == 0xA0 || n == 0x1680 ||
    (0x2000 ≤ n && n ≤ 0x200A) || n == 0x2028 || n == 0x2029 || n == 0x202F || n == 0x205F ||
    n == 0x3000

def isBlank (line : Text) : Bool := line.all isSpace

def trim (line : Text) : Text := trimWhile isSpace line

def indentation (line : Text) : Text := line.takeWhile isSpace

/-- Column of the first character that is not white space; a tab counts as one column. -/
def indentWidth (line : Text) : Nat := (indentation line).length

@[simp] theorem isSpace_newline : isSpace '\n' = true := rfl
@[simp] theorem isSpace_blank : isSpace ' ' = true := rfl
@[simp] theorem isSpace_tab : isSpace '\t' = true := rfl
@[simp] theorem isSpace_return : isSpace '\r' = true := rfl

@[simp] theorem isBlank_nil : isBlank [] = true := rfl

@[simp] theorem isBlank_cons (c : Char) (line : Text) :
    isBlank (c :: line) = (isSpace c && isBlank line) := by simp [isBlank]

theorem indentation_append_rest (line : Text) :
    indentation line ++ line.dropWhile isSpace = line := List.takeWhile_append_dropWhile

end CursorDoc.Text
