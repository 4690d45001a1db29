import CursorDoc.Signature.Parts

/-!
# Signatures of Python

A definition starts its line, runs from `def` over the parameters to a colon,
and may have a result annotation before the colon.
-/

namespace CursorDoc.Signature

open Pattern

/-- A definition: `async def name(parameters) -> result:` -/
def pythonDefinition : Pattern :=
  all [atStart, gap, optional (seq (word "async") space), word "def", space,
    named (someOf isNameChar), gap, parameters, gap,
    optional (seq (word "->") (fewestOf (allBut '\n'))), char ':']

def pythonPatterns : List Pattern := [pythonDefinition]

end CursorDoc.Signature
