import CursorDoc.Signature.Parts

/-!
# Signatures of unknown languages

Anything that has the form of a call counts, so false hits are expected.
-/

namespace CursorDoc.Signature

open Pattern

/-- A call: `name(parameters)` -/
def genericCall : Pattern := all [named (someOf isNameChar), gap, parameters]

def genericPatterns : List Pattern := [genericCall]

end CursorDoc.Signature
