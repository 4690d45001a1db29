import CursorDoc.Yaml.Character

/-!
# Plain scalars

A plain scalar is written without quotes. It ends at a colon or a comment with
a space around, in flow context also at an indicator, in block context at a
line that is not indented deep enough. Line breaks inside it are folded.
-/

namespace CursorDoc.Yaml

/-- Line breaks between two parts of a scalar: a single one becomes a space, of several the first
is left out unless it is a separator of Unicode. -/
def foldBreaks (first : Char) (more : Text) : Text :=
  if first ≠ '\n' then first :: more else if more.isEmpty then [' '] else more

/-- Indicators that end a plain scalar in flow context. -/
def isFlowIndicator (c : Char) : Bool := [',', '?', '[', ']', '\x7b', '\x7d'].contains c

/-- Indicators that a colon in flow context may stand before to be one itself. -/
def isFlowBound (c : Char) : Bool := [',', '[', ']', '\x7b', '\x7d'].contains c

/-- Whether `c` ends a plain scalar when `r` follows it. -/
def endsPlain (flow : Bool) (c : Char) (r : Text) : Bool :=
  isGap c || isBreak c ||
    (c == ':' && (atGap r || (flow && r.head?.any isFlowBound))) || (flow && isFlowIndicator c)

/-- Where the reading of a plain scalar stands. -/
inductive PlainState where
  | word
  /-- After spaces. -/
  | spaces (run : Text)
  /-- After line breaks, and spaces up to a column. -/
  | broken (first : Char) (more : Text) (column : Nat)

/-- Whether lines were broken since the last word. -/
def PlainState.isBroken : PlainState → Bool
  | .broken .. => true
  | _ => false

/-- What a reading leaves: the text of the scalar, what follows it, and whether a line break comes
between the two. -/
structure PlainReading where
  text : Text
  rest : Text
  broken : Bool
deriving DecidableEq, Repr

def PlainReading.after (read : Text) (reading : PlainReading) : PlainReading :=
  { reading with text := read ++ reading.text }

/-- Read a plain scalar whose lines have to be indented by at least `indent`, unless in flow
context. -/
def readPlain (flow : Bool) (indent : Int) : PlainState → Text → PlainReading
  | state, [] => ⟨[], [], state.isBroken⟩
  | state, c :: r =>
    if isBreak c then
      let state := match state with
        | .broken first more _ => .broken first (more ++ [breakText c]) 0
        | _ => .broken (breakText c) [] 0
      if atSeparator r then ⟨[], r, true⟩ else readPlain flow indent state r
    else match state with
      | .word =>
        if c = ' ' then readPlain flow indent (.spaces [c]) r
        else if endsPlain flow c r then ⟨[], c :: r, false⟩
        else (readPlain flow indent .word r).after [c]
      | .spaces run =>
        if c = ' ' then readPlain flow indent (.spaces (run ++ [c])) r
        else if c = '#' || endsPlain flow c r then ⟨[], c :: r, false⟩
        else (readPlain flow indent .word r).after (run ++ [c])
      | .broken first more column =>
        if c = ' ' then readPlain flow indent (.broken first more (column + 1)) r
        else if c = '#' || (!flow && decide (column < indent)) || endsPlain flow c r then
          ⟨[], c :: r, true⟩
        else (readPlain flow indent .word r).after (foldBreaks first more ++ [c])

end CursorDoc.Yaml
