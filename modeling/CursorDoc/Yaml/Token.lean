import CursorDoc.Text.Basic

/-!
# Tokens of a document
-/

namespace CursorDoc.Yaml

/-- A written tag: the handle, if it has one, and the rest. -/
structure TagName where
  handle : Option Text
  suffix : Text
deriving DecidableEq, Repr

inductive Directive where
  /-- The version of the language; only the first number matters. -/
  | version (major : Nat)
  /-- What a tag handle stands for. -/
  | tagHandle (handle start : Text)
  | other
deriving DecidableEq, Repr

inductive Token where
  | directive (directive : Directive)
  | documentStart
  | documentEnd
  | streamEnd
  | blockSequenceStart
  | blockMappingStart
  | blockEnd
  | flowSequenceStart
  | flowSequenceEnd
  | flowMappingStart
  | flowMappingEnd
  | flowEntry
  | blockEntry
  | key
  | value
  | alias (name : Text)
  | anchor (name : Text)
  | tag (name : TagName)
  | scalar (text : Text) (plain : Bool)
deriving DecidableEq, Repr

end CursorDoc.Yaml
