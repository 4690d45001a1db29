import CursorDoc.Text.Basic
import CursorDoc.Text.Word

/-!
# Patterns

Patterns describe the shape of a line, and say which of several ways to read
it comes first: `first`, `optional`, `many` and `manyOf` prefer the earlier
alternative or the longer reading, `fewestOf` the shorter one. `Pattern.run`
hands the end of each reading, in that order, to what follows, until that
succeeds. One part of a pattern can be named; its text comes with the result.
-/

namespace CursorDoc

/-- A set of characters. -/
abbrev CharSet := Char → Bool

/-- The shape of a stretch of text. -/
inductive Pattern where
  /-- The empty stretch. -/
  | empty
  /-- One character of the set. -/
  | one (set : CharSet)
  /-- A stretch of the first shape, then one of the second. -/
  | seq (p q : Pattern)
  /-- Either shape; the first one is tried first. -/
  | either (p q : Pattern)
  /-- As many characters of the set as possible. -/
  | manyOf (set : CharSet)
  /-- As few characters of the set as possible. -/
  | fewestOf (set : CharSet)
  /-- As many non-empty stretches of the shape as possible. -/
  | many (p : Pattern)
  /-- The shape, whose text is the name of the reading. -/
  | named (p : Pattern)
  /-- The empty stretch, where the shape does not follow. -/
  | notAhead (p : Pattern)
  /-- The empty stretch, unless it comes right after a character of the set. -/
  | notAfter (set : CharSet)
  /-- The empty stretch at a word edge. -/
  | wordEdge
  /-- The empty stretch at the start of the text. -/
  | atStart
  /-- The empty stretch at the end of the text, or before a newline that ends it. -/
  | atEnd

/-- A stretch of a text, given by what follows its start and what follows its end. -/
structure Stretch where
  fromStart : Text
  fromStop : Text

def Stretch.text (stretch : Stretch) : Text :=
  stretch.fromStart.take (stretch.fromStart.length - stretch.fromStop.length)

/-- A place in a text: the character before it, what follows it, and the stretch that was named on
the way. -/
structure Place where
  before : Option Char
  rest : Text
  name : Option Stretch := none

namespace Pattern

/-- Characters of the set, longest run first. -/
def runManyOf {α : Type} (set : CharSet) (next : Place → Option α) (name : Option Stretch) :
    Option Char → Text → Option α
  | before, [] => next ⟨before, [], name⟩
  | before, c :: r =>
    if set c then
      match runManyOf set next name (some c) r with
      | some a => some a
      | none => next ⟨before, c :: r, name⟩
    else next ⟨before, c :: r, name⟩

/-- Characters of the set, shortest run first. -/
def runFewestOf {α : Type} (set : CharSet) (next : Place → Option α) (name : Option Stretch) :
    Option Char → Text → Option α
  | before, [] => next ⟨before, [], name⟩
  | before, c :: r =>
    match next ⟨before, c :: r, name⟩ with
    | some a => some a
    | none => if set c then runFewestOf set next name (some c) r else none

/-- Up to `limit` non-empty readings by `step`, most first. -/
def runMany {α : Type} (step : (Place → Option α) → Place → Option α)
    (next : Place → Option α) : Nat → Place → Option α
  | 0, here => next here
  | limit + 1, here =>
    match step (fun there =>
        if there.rest.length < here.rest.length then runMany step next limit there else none)
      here with
    | some a => some a
    | none => next here

/-- The result of `next` at the end of the first reading from `here` where it has one. -/
def run {α : Type} : Pattern → (Place → Option α) → Place → Option α
  | empty, next, here => next here
  | one set, next, here =>
    match here.rest with
    | [] => none
    | c :: r => if set c then next ⟨some c, r, here.name⟩ else none
  | seq p q, next, here => p.run (fun there => q.run next there) here
  | either p q, next, here =>
    match p.run next here with
    | some a => some a
    | none => q.run next here
  | manyOf set, next, here => runManyOf set next here.name here.before here.rest
  | fewestOf set, next, here => runFewestOf set next here.name here.before here.rest
  | many p, next, here => runMany (fun next here => p.run next here) next here.rest.length here
  | named p, next, here =>
    p.run (fun there => next { there with name := some ⟨here.rest, there.rest⟩ }) here
  | notAhead p, next, here =>
    match p.run (fun _ => some ()) here with
    | some () => none
    | none => next here
  | notAfter set, next, here => if here.before.any set then none else next here
  | wordEdge, next, here => if Text.isWordEdge here.before here.rest.head? then next here else none
  | atStart, next, here => if here.before.isNone then next here else none
  | atEnd, next, here => if here.rest == [] || here.rest == ['\n'] then next here else none

/-! ## Shorthands -/

/-- At least one character of the set, and as many as possible. -/
def someOf (set : CharSet) : Pattern := seq (one set) (manyOf set)

/-- At least one character of the set, and as few as possible. -/
def fewOf (set : CharSet) : Pattern := seq (one set) (fewestOf set)

/-- The shape or nothing; the shape is tried first. -/
def optional (p : Pattern) : Pattern := either p empty

def all : List Pattern → Pattern
  | [] => empty
  | [p] => p
  | p :: ps => seq p (all ps)

def first : List Pattern → Pattern
  | [] => notAhead empty
  | [p] => p
  | p :: ps => either p (first ps)

def char (c : Char) : Pattern := one (· == c)

def word (w : String) : Pattern := all (w.toList.map char)

def oneWord (words : List String) : Pattern := first (words.map word)

end Pattern

/-- A reading of part of a text: the name in it, and the column where it ends. -/
structure Reading where
  name : Text
  stop : Nat
deriving DecidableEq, Repr

namespace Pattern

/-- The first reading that starts right here, in a text of the given length. -/
def readingAt? (p : Pattern) (length : Nat) (here : Place) : Option Reading :=
  p.run (fun there =>
    some ⟨(there.name.map Stretch.text).getD [], length - there.rest.length⟩) here

def reads (p : Pattern) (t : Text) : Bool := (p.run (fun _ => some ()) ⟨none, t, none⟩).isSome

/-- The first reading that starts at the earliest place possible. -/
def searchFrom (p : Pattern) (length : Nat) : Option Char → Text → Option Reading
  | before, [] => p.readingAt? length ⟨before, [], none⟩
  | before, c :: r =>
    match p.readingAt? length ⟨before, c :: r, none⟩ with
    | some reading => some reading
    | none => searchFrom p length (some c) r

def search? (p : Pattern) (line : Text) : Option Reading := p.searchFrom line.length none line

end Pattern
end CursorDoc
