import CursorDoc.Signature.Parts

/-!
# Signatures of the script family

JavaScript and TypeScript functions: declarations, arrow functions bound to a
variable, and methods without and with a result type. The shapes are tried in
this order; each one ends with the brace that opens the body.
-/

namespace CursorDoc.Signature

open Pattern

def isScriptNameChar : CharSet := fun c => isNameChar c || c == '$'

def scriptName : Pattern := named (someOf isScriptNameChar)

/-- The opening brace of the body, after an optional result type. -/
def typedBody : Pattern :=
  all [gap, optional (all [char ':', gap, someOf (allBut '\x7b')]), char '\x7b']

/-- A declaration: `function name(parameters) {` -/
def scriptDeclaration : Pattern :=
  all [wordEdge, word "function", gap, optional (char '*'), space, scriptName, gap, parameters,
    typedBody]

/-- An arrow function: `const name = (parameters) => {` -/
def scriptArrow : Pattern :=
  all [wordEdge, oneWord ["const", "let", "var"], space, scriptName, gap,
    optional (seq (char ':') (someOf (allBut '='))), char '=', gap,
    optional (seq (word "async") gap), parameters, gap,
    optional (all [char ':', gap, someOf (allBut '=')]), word "=>", gap, char '\x7b']

/-- The name of a method, which neither continues another name nor is a keyword. -/
def methodName : Pattern := all [notAfter isScriptNameChar, notWord keywords, scriptName]

/-- A method: `name(parameters) {` -/
def scriptMethod : Pattern := all [methodName, gap, parameters, gap, char '\x7b']

/-- A method with modifiers and result type: `public static async name(parameters): Type {` -/
def scriptTypedMethod : Pattern :=
  all [optional (seq (oneWord ["public", "private", "protected"]) space),
    optional (seq (word "static") space), optional (seq (word "async") space),
    methodName, gap, parameters, typedBody]

def scriptPatterns : List Pattern :=
  [scriptDeclaration, scriptArrow, scriptMethod, scriptTypedMethod]

end CursorDoc.Signature
