import CursorDoc.Signature.Parts

/-!
# Signatures of the C family

Definitions of Java, C#, C and C++: modifiers, type parameters, a result type,
the name, the parameters, and what may stand between them and the body. A line
that ends in a semicolon outside braces declares and does not define.
-/

namespace CursorDoc.Signature

open Pattern

def modifiers : List String :=
  ["public", "private", "protected", "internal", "static", "final", "abstract", "virtual",
   "override", "async", "synchronized", "native", "inline", "extern", "const", "constexpr",
   "unsafe", "sealed", "partial", "explicit"]

/-- Words that start a statement, not a result type. -/
def statementWords : List String :=
  ["return", "new", "else", "throw", "case", "goto", "delete", "await"]

def isTypeChar : CharSet := fun c =>
  isNameChar c || ['<', '>', '[', ']', ':', '.', '?', ','].contains c

def isPointerChar : CharSet := fun c => Text.isSpace c || c == '*' || c == '&'

def isThrownChar : CharSet := fun c => isNameChar c || c == '.' || c == ',' || Text.isSpace c

def isNameStart : CharSet := fun c => c.isAlpha || c == '_'

def identifier : Pattern := seq (one isNameStart) (manyOf isNameChar)

/-- A name with its scopes, and a tilde for a destructor. -/
def scopedName : Pattern :=
  all [many (seq identifier (word "::")), optional (char '~'), identifier]

/-- A definition: `public static int add(int a, int b) throws IOException {` -/
def cFamilyDefinition : Pattern :=
  all [atStart, gap, many (seq (oneWord modifiers) space),
    optional (all [char '<', manyOf (allBut '>'), char '>', space]),
    notWord statementWords, someOf isTypeChar, someOf isPointerChar,
    notWord keywords, named scopedName, gap, parameters, gap,
    optional (seq (word "const") gap), optional (seq (word "noexcept") gap),
    optional (seq (word "override") gap),
    optional (all [word "throws", space, fewOf isThrownChar]), gap,
    either (seq (char '\x7b') (manyOf (allBut '\n'))) (manyOf (allBut ';')), atEnd]

def cFamilyPatterns : List Pattern := [cFamilyDefinition]

end CursorDoc.Signature
