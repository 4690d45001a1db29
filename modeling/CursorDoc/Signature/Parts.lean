import CursorDoc.Pattern
import CursorDoc.Text.Blank

/-!
# Parts of signatures

Character sets and short patterns that the signatures of several language
families share.
-/

namespace CursorDoc.Signature

open Pattern

def isNameChar : CharSet := fun c => c.isAlphanum || c == '_'

def allBut (c : Char) : CharSet := (· != c)

def gap : Pattern := manyOf Text.isSpace

def space : Pattern := someOf Text.isSpace

/-- A parameter list: from an opening parenthesis to the next closing one. -/
def parameters : Pattern := all [char '(', manyOf (allBut ')'), char ')']

/-- Words that look like a call in front of a block but are none. -/
def keywords : List String :=
  ["if", "else", "for", "foreach", "while", "do", "switch", "catch", "with", "function", "return",
   "typeof", "await", "new", "sizeof", "using", "lock", "fixed"]

/-- Nothing, unless one of the words follows as a whole word. -/
def notWord (words : List String) : Pattern := notAhead (seq (oneWord words) wordEdge)

end CursorDoc.Signature
