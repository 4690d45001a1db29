import CursorDoc.Yaml.Token.Scanner

/-!
# Collections inside one another

Which collections are open behind some tokens. Where more of them are open than
a reader can be in at once, the reader gets no further.
-/

namespace CursorDoc.Yaml

/-- A collection that is open. -/
inductive Level where
  | sequence
  /-- A sequence in a block mapping that has no indentation of its own, and no end. -/
  | looseSequence
  | flowSequence
  /-- A key and its value among the items of a flow sequence. -/
  | pair
  | mapping
deriving DecidableEq, Repr

/-- The collections that are open behind a token, innermost first. -/
def Token.levels : Token → List Level → List Level
  | .blockSequenceStart, levels => .sequence :: levels
  | .flowSequenceStart, levels => .flowSequence :: levels
  | .blockMappingStart, levels => .mapping :: levels
  | .flowMappingStart, levels => .mapping :: levels
  | .blockEntry, .mapping :: levels => .looseSequence :: .mapping :: levels
  | .key, .looseSequence :: levels => levels
  | .key, .flowSequence :: levels => .pair :: .flowSequence :: levels
  | .value, .looseSequence :: levels => levels
  | .flowEntry, .pair :: levels => levels
  | .flowSequenceEnd, .pair :: levels => levels.tail
  | .flowSequenceEnd, levels => levels.tail
  | .flowMappingEnd, levels => levels.tail
  | .blockEnd, .looseSequence :: levels => levels.tail
  | .blockEnd, levels => levels.tail
  | _, levels => levels

/-- The tokens in front of the first collection that is inside `depth` others, if there is one. -/
def tokensWithin? (depth : Nat) : List Level → List Token → Option (List Token)
  | _, [] => none
  | levels, token :: tokens =>
    let levels := token.levels levels
    if depth < levels.length then some []
    else (tokensWithin? depth levels tokens).map (token :: ·)

/-- What a reader gets of a scan that can be in `depth` collections at once. -/
def Scan.within (depth : Nat) (scan : Scan) : Scan :=
  match tokensWithin? depth [] scan.tokens with
  | some tokens => ⟨tokens, some (.scalar .tooDeep)⟩
  | none => scan

end CursorDoc.Yaml
