import CursorDoc.Signature.Script
import CursorDoc.Signature.CFamily
import CursorDoc.Signature.Python
import CursorDoc.Signature.Generic
import CursorDoc.Language

/-!
# Signatures

A line is a signature in a language family if one of the family's patterns can
be read in it; the first pattern that can wins.
-/

namespace CursorDoc

def Family.patterns : Family → List Pattern
  | .script => Signature.scriptPatterns
  | .cFamily => Signature.cFamilyPatterns
  | .python => Signature.pythonPatterns
  | .generic => Signature.genericPatterns

/-- The reading of the first pattern that finds one in the line. -/
def Family.reading? (family : Family) (line : Text) : Option Reading :=
  family.patterns.findSome? (·.search? line)

def Family.signatureName? (family : Family) (line : Text) : Option Text :=
  (family.reading? line).map (·.name)

end CursorDoc
