import CursorDoc.Text.Basic

/-!
# Characters of documents

Which characters a document may hold, and which ones separate and break its
lines. Carriage returns have been read as newlines before.
-/

namespace CursorDoc.Yaml

/-- Characters that may stand in a document. -/
def isAllowed (c : Char) : Bool :=
  let n := c.toNat
  n == 0x09 || n == 0x0A || n == 0x0D || (0x20 ≤ n && n ≤ 0x7E) || n == 0x85 ||
    (0xA0 ≤ n && n ≤ 0xFFFD) || 0x10000 ≤ n

/-- Line breaks: the newline, the next-line control, the line and the paragraph separator. -/
def isBreak (c : Char) : Bool :=
  let n := c.toNat
  n == 0x0A || n == 0x85 || n == 0x2028 || n == 0x2029

/-- What a line break stands for in a scalar. -/
def breakText (c : Char) : Char := if c.toNat = 0x85 then '\n' else c

def isGap (c : Char) : Bool := c == ' ' || c == '\t'

/-- Whether a text is over or goes on with a space, a tab or a line break. -/
def atGap (t : Text) : Bool := t.head?.all fun c => isGap c || isBreak c

def atSpace (t : Text) : Bool := t.head?.all fun c => c == ' ' || isBreak c

def atBreak (t : Text) : Bool := t.head?.all isBreak

/-- Whether a line starts with one of the marks that separate documents. -/
def atSeparator (t : Text) : Bool :=
  (t.startsWith ['-', '-', '-'] || t.startsWith ['.', '.', '.']) && atGap (t.drop 3)

def isWordChar (c : Char) : Bool := c.isAlphanum || c == '-' || c == '_'

end CursorDoc.Yaml
