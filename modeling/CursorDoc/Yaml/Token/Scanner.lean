import CursorDoc.Yaml.Token.Plain
import CursorDoc.Yaml.Token.Quoted
import CursorDoc.Yaml.Token.Words

/-!
# Scanning a document into tokens

The scanner keeps track of indentation and of flow brackets. Whether a token
starts a mapping key is known only when a colon follows it, so the scanner
remembers the tokens that could be keys and puts key tokens in front of them
later. Such a key has to be followed by its colon on the same line and within
`maxKeyLength` characters.
-/

namespace CursorDoc.Yaml

/-- A place in a document. -/
structure Place where
  rest : Text
  index : Nat
  line : Nat
  column : Nat

namespace Place

/-- One character further. A byte order mark takes no column. -/
def next (p : Place) : Place :=
  match p.rest with
  | [] => p
  | c :: r =>
    if isBreak c then ⟨r, p.index + 1, p.line + 1, 0⟩
    else ⟨r, p.index + 1, p.line, if c = '\ufeff' then p.column else p.column + 1⟩

def advance : Nat → Place → Place
  | 0, p => p
  | n + 1, p => advance n p.next

/-- The later place where `rest` is all that is left. -/
def moveTo (p : Place) (rest : Text) : Place := p.advance (p.rest.length - rest.length)

end Place

/-- A token that is a mapping key if a colon follows it. -/
structure PossibleKey where
  /-- The number of flow brackets around it. -/
  level : Nat
  /-- The number of tokens before it. -/
  token : Nat
  /-- It stands where nothing but a key can. -/
  required : Bool
  index : Nat
  line : Nat
  column : Nat

structure Scanner where
  place : Place
  flowLevel : Nat := 0
  /-- The indentation of the innermost block; below zero outside all blocks. -/
  indent : Int := -1
  /-- The indentations of the blocks around it. -/
  outer : List Int := []
  keyAllowed : Bool := true
  keys : List PossibleKey := []
  tokens : List Token := []
  finished : Bool := false

def maxKeyLength : Nat := 1024

namespace Scanner

def emit (s : Scanner) (token : Token) : Scanner := { s with tokens := s.tokens ++ [token] }

/-- Go on to where `rest` is left, and emit a token. -/
def emitTo (s : Scanner) (token : Token) (rest : Text) : Scanner :=
  { s.emit token with place := s.place.moveTo rest }

/-! ## Possible keys -/

/-- Whether the colon of a key would come too late at the place. -/
def isStale (place : Place) (key : PossibleKey) : Bool :=
  key.line != place.line || decide (maxKeyLength < place.index - key.index)

/-- Forget the keys whose colon would come too late. -/
def dropStale (s : Scanner) : Except Fault Scanner :=
  if s.keys.any fun key => isStale s.place key && key.required then .error .malformed
  else .ok { s with keys := s.keys.filter (!isStale s.place ·) }

/-- Forget the possible key of the current level. -/
def removeKey (s : Scanner) : Except Fault Scanner :=
  if s.keys.any fun key => key.level == s.flowLevel && key.required then .error .malformed
  else .ok { s with keys := s.keys.filter (·.level != s.flowLevel) }

/-- Remember that the next token may be a key. -/
def saveKey (s : Scanner) : Except Fault Scanner :=
  if s.keyAllowed then
    s.removeKey.map fun s =>
      { s with keys := s.keys ++
          [{ level := s.flowLevel
             token := s.tokens.length
             required := s.flowLevel == 0 && s.indent == (s.place.column : Int)
             index := s.place.index
             line := s.place.line
             column := s.place.column }] }
  else .ok s

/-! ## Indentation -/

/-- Leave the blocks that are indented deeper than `column`: the indentations that stay, and how
many were left. -/
def unwound (column : Int) : Int → List Int → Int × List Int × Nat
  | indent, [] => (indent, [], 0)
  | indent, next :: outer =>
    if column < indent then
      let (indent, outer, count) := unwound column next outer
      (indent, outer, count + 1)
    else (indent, next :: outer, 0)

/-- End the blocks that are indented deeper than `column`. -/
def unwind (s : Scanner) (column : Int) : Scanner :=
  if s.flowLevel = 0 then
    let (indent, outer, count) := unwound column s.indent s.outer
    { s with indent, outer, tokens := s.tokens ++ List.replicate count .blockEnd }
  else s

/-- Start a block at a column that is deeper than the current one, with `token` as token number
`place`. -/
def startBlock (s : Scanner) (column : Nat) (token : Token) (place : Nat) : Scanner :=
  if s.flowLevel = 0 ∧ s.indent < column then
    { s with
      indent := column
      outer := s.indent :: s.outer
      tokens := s.tokens.take place ++ [token] ++ s.tokens.drop place }
  else s

/-! ## The tokens -/

/-- Skip spaces, comments and line breaks; whether there was a line break. -/
def skipFiller : Bool → Text → Text × Bool
  | _, [] => ([], false)
  | comment, c :: r =>
    if isBreak c then ((skipFiller false r).1, true)
    else if comment then skipFiller true r
    else if c = ' ' then skipFiller false r
    else if c = '#' then skipFiller true r
    else (c :: r, false)

/-- Go on to the next token. A byte order mark in front of everything is skipped. -/
def toNextToken (s : Scanner) : Scanner :=
  let start := match s.place.rest with
    | '\ufeff' :: r => if s.place.index = 0 then r else s.place.rest
    | rest => rest
  let (rest, broken) := skipFiller false start
  { s with
    place := s.place.moveTo rest
    keyAllowed := s.keyAllowed || (broken && s.flowLevel == 0) }

def fetchEnd (s : Scanner) : Except Fault Scanner := do
  let s ← (s.unwind (-1)).removeKey
  pure { s.emit .streamEnd with keyAllowed := false, keys := [], finished := true }

/-- A directive, or a mark that separates documents. -/
def fetchOutside (s : Scanner) (read : Text → Except Fault (Token × Text)) :
    Except Fault Scanner := do
  let s ← (s.unwind (-1)).removeKey
  let (token, rest) ← read s.place.rest
  pure ({ s with keyAllowed := false }.emitTo token rest)

def fetchFlowStart (s : Scanner) (token : Token) : Except Fault Scanner := do
  let s ← s.saveKey
  pure ({ s with flowLevel := s.flowLevel + 1, keyAllowed := true }.emitTo token s.place.rest.tail)

def fetchFlowEnd (s : Scanner) (token : Token) : Except Fault Scanner := do
  let s ← s.removeKey
  pure ({ s with flowLevel := s.flowLevel - 1, keyAllowed := false }.emitTo token
    s.place.rest.tail)

def fetchFlowEntry (s : Scanner) : Except Fault Scanner := do
  let s ← s.removeKey
  pure ({ s with keyAllowed := true }.emitTo .flowEntry s.place.rest.tail)

def fetchBlockEntry (s : Scanner) : Except Fault Scanner := do
  if s.flowLevel = 0 ∧ !s.keyAllowed then throw .malformed
  let s := s.startBlock s.place.column .blockSequenceStart s.tokens.length
  let s ← s.removeKey
  pure ({ s with keyAllowed := true }.emitTo .blockEntry s.place.rest.tail)

/-- The question mark in front of a key that is more than one token on a line. -/
def fetchKey (s : Scanner) : Except Fault Scanner := do
  if s.flowLevel = 0 ∧ !s.keyAllowed then throw .malformed
  let s := s.startBlock s.place.column .blockMappingStart s.tokens.length
  let s ← s.removeKey
  pure ({ s with keyAllowed := s.flowLevel == 0 }.emitTo .key s.place.rest.tail)

/-- The colon in front of a value. It makes a key of the possible key on its level. -/
def fetchValue (s : Scanner) : Except Fault Scanner :=
  match s.keys.find? (·.level == s.flowLevel) with
  | some key =>
    let s := { s with
      keys := s.keys.filter (·.level != s.flowLevel)
      tokens := s.tokens.take key.token ++ [Token.key] ++ s.tokens.drop key.token
      keyAllowed := false }
    let s := s.startBlock key.column .blockMappingStart key.token
    .ok (s.emitTo .value s.place.rest.tail)
  | none => do
    if s.flowLevel = 0 ∧ !s.keyAllowed then throw .malformed
    let s := s.startBlock s.place.column .blockMappingStart s.tokens.length
    let s ← s.removeKey
    pure ({ s with keyAllowed := s.flowLevel == 0 }.emitTo .value s.place.rest.tail)

/-- A token that may be a key itself. -/
def fetchNode (s : Scanner) (read : Text → Except Fault (Token × Text)) :
    Except Fault Scanner := do
  let s ← s.saveKey
  let (token, rest) ← read s.place.rest
  pure ({ s with keyAllowed := false }.emitTo token rest)

def fetchBlockScalar (s : Scanner) (folded : Bool) : Except Fault Scanner := do
  let s ← s.removeKey
  let (text, rest) ← readBlock folded s.indent s.place.rest.tail
  pure ({ s with keyAllowed := true }.emitTo (.scalar text false) rest)

def fetchPlain (s : Scanner) : Except Fault Scanner := do
  let s ← s.saveKey
  let reading := readPlain (s.flowLevel != 0) (s.indent + 1) .word s.place.rest
  pure ({ s with keyAllowed := reading.broken }.emitTo (.scalar reading.text true) reading.rest)

def isIndicator (c : Char) : Bool :=
  ['-', '?', ':', ',', '[', ']', '\x7b', '\x7d', '#', '&', '*', '!', '|', '>', '\'', '"', '%', '@',
    Char.ofNat 0x60].contains c

/-- Whether a plain scalar starts with `c` when `r` follows it. -/
def startsPlain (flow : Bool) (c : Char) (r : Text) : Bool :=
  !(isGap c || isBreak c || isIndicator c) ||
    (!atGap r && (c == '-' || (!flow && (c == '?' || c == ':'))))

def readAlias (t : Text) : Except Fault (Token × Text) :=
  (readName t.tail).map fun (name, rest) => (.alias name, rest)

def readAnchor (t : Text) : Except Fault (Token × Text) :=
  (readName t.tail).map fun (name, rest) => (.anchor name, rest)

def readTagToken (t : Text) : Except Fault (Token × Text) :=
  (readTag t).map fun (name, rest) => (.tag name, rest)

def readQuotedToken (quote : Char) (t : Text) : Except Fault (Token × Text) :=
  (readQuoted quote .text t.tail).map fun (text, rest) => (.scalar text false, rest)

def readDirectiveToken (t : Text) : Except Fault (Token × Text) :=
  (readDirective t.tail).map fun (directive, rest) => (.directive directive, rest)

/-- The token that starts at the place of the scanner. -/
def fetchToken (s : Scanner) : Except Fault Scanner :=
  let flow := s.flowLevel != 0
  match s.place.rest with
  | [] => s.fetchEnd
  | c :: r =>
    if s.place.column = 0 ∧ c = '%' then s.fetchOutside readDirectiveToken
    else if s.place.column = 0 ∧ c = '-' ∧ atSeparator (c :: r) then
      s.fetchOutside fun t => .ok (.documentStart, t.drop 3)
    else if s.place.column = 0 ∧ c = '.' ∧ atSeparator (c :: r) then
      s.fetchOutside fun t => .ok (.documentEnd, t.drop 3)
    else if c = '[' then s.fetchFlowStart .flowSequenceStart
    else if c = '\x7b' then s.fetchFlowStart .flowMappingStart
    else if c = ']' then s.fetchFlowEnd .flowSequenceEnd
    else if c = '\x7d' then s.fetchFlowEnd .flowMappingEnd
    else if c = ',' then s.fetchFlowEntry
    else if c = '-' ∧ atGap r then s.fetchBlockEntry
    else if c = '?' ∧ (flow || atGap r) then s.fetchKey
    else if c = ':' ∧ (flow || atGap r) then s.fetchValue
    else if c = '*' then s.fetchNode readAlias
    else if c = '&' then s.fetchNode readAnchor
    else if c = '!' then s.fetchNode readTagToken
    else if c = '|' ∧ !flow then s.fetchBlockScalar false
    else if c = '>' ∧ !flow then s.fetchBlockScalar true
    else if c = '\'' ∨ c = '"' then s.fetchNode (readQuotedToken c)
    else if startsPlain flow c r then s.fetchPlain
    else .error .malformed

def step (s : Scanner) : Except Fault Scanner := do
  let s ← s.toNextToken.dropStale
  (s.unwind s.place.column).fetchToken

/-- The tokens that are settled: those before every token that may still become a key. -/
def settled (s : Scanner) : List Token :=
  s.keys.foldl (fun tokens key =>
    if isStale s.place key && !key.required then tokens else tokens.take key.token) s.tokens

end Scanner

/-- The tokens of a text, and what ended them before the text did. -/
structure Scan where
  tokens : List Token
  fault : Option Fault

/-- Up to `limit` steps of a scanner. The end of a text that is not the whole one is no end of its
tokens: what comes there cannot be read. -/
def Scanner.run (whole : Bool) : Nat → Scanner → Scan
  | 0, s => ⟨s.tokens, some .malformed⟩
  | limit + 1, s =>
    match s.step with
    | .error fault => ⟨s.settled, some fault⟩
    | .ok next =>
      if !next.finished then run whole limit next
      else if whole then ⟨next.tokens, none⟩
      else ⟨s.settled, some .malformed⟩

/-- Every step but the last takes at least one character, so their number is bounded. -/
def scan (t : Text) (whole : Bool := true) : Scan :=
  Scanner.run whole (t.length + 1) { place := ⟨t, 0, 0, 0⟩ }

end CursorDoc.Yaml
