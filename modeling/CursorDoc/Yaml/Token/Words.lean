import CursorDoc.Text.Utf8
import CursorDoc.Yaml.Fault
import CursorDoc.Yaml.Token
import CursorDoc.Yaml.Token.Block

/-!
# Names, tags and directives

The tokens that start with an ampersand, a star, an exclamation mark or a per
cent sign. Each reader returns what it read and the text after it.
-/

namespace CursorDoc.Yaml

/-- What may follow the name of an anchor or an alias directly. -/
def mayFollowName (t : Text) : Bool :=
  atGap t || t.head?.any ['?', ':', ',', ']', '\x7d', '%', '@', Char.ofNat 0x60].contains

def readName (t : Text) : Except Fault (Text × Text) :=
  let name := t.takeWhile isWordChar
  let rest := t.dropWhile isWordChar
  if name.isEmpty || !mayFollowName rest then .error .malformed else .ok (name, rest)

/-! ## Tags -/

def isUriChar (c : Char) : Bool :=
  c.isAlphanum || ['-', ';', '/', '?', ':', '@', '&', '=', '+', '$', ',', '_', '.', '!', '~', '*',
    '\'', '(', ')', '[', ']'].contains c

/-- Text in front of a reading, from bytes that were written as escapes. -/
def afterBytes (bytes : Bytes) : Except Fault (Text × Text) → Except Fault (Text × Text)
  | .error fault => .error fault
  | .ok (text, rest) =>
    match Utf8.decode bytes with
    | .ok read => .ok (read ++ text, rest)
    | .error _ => .error .malformed

/-- The longest run of address characters and escapes, with the bytes of the escapes so far. -/
def readUriFrom : Bytes → Text → Except Fault (Text × Text)
  | bytes, [] => afterBytes bytes (.ok ([], []))
  | bytes, '%' :: a :: b :: r =>
    match Text.hexValue? a, Text.hexValue? b with
    | some high, some low => readUriFrom (bytes ++ [UInt8.ofNat (high * 16 + low)]) r
    | _, _ => .error .malformed
  | bytes, c :: r =>
    if c = '%' then .error .malformed
    else if isUriChar c then
      afterBytes bytes (match readUriFrom [] r with
        | .ok (text, rest) => .ok (c :: text, rest)
        | .error fault => .error fault)
    else afterBytes bytes (.ok ([], c :: r))

/-- An address of at least one character or escape. -/
def readUri (t : Text) : Except Fault (Text × Text) :=
  if t.head?.any fun c => c == '%' || isUriChar c then readUriFrom [] t else .error .malformed

/-- A tag handle: one exclamation mark, or a word between two. -/
def readHandle (t : Text) : Except Fault (Text × Text) :=
  match t with
  | '!' :: r =>
    if r.head? == some ' ' then .ok (['!'], r)
    else match r.dropWhile isWordChar with
      | '!' :: rest => .ok (['!'] ++ r.takeWhile isWordChar ++ ['!'], rest)
      | _ => .error .malformed
  | _ => .error .malformed

/-- A tag, from its exclamation mark on; a space or the end has to follow. -/
def readTag (t : Text) : Except Fault (TagName × Text) := do
  let body := t.drop 1
  let (name, rest) ←
    if body.head? == some '<' then do
      let (suffix, rest) ← readUri (body.drop 1)
      match rest with
      | '>' :: rest => pure (TagName.mk none suffix, rest)
      | _ => throw .malformed
    else if atGap body then pure (TagName.mk none ['!'], body)
    else do
      let word := body.takeWhile fun c => !(c == ' ' || isBreak c)
      let (handle, rest) ← if word.contains '!' then readHandle t else pure (['!'], body)
      let (suffix, rest) ← readUri rest
      pure (TagName.mk (some handle) suffix, rest)
  if atSpace rest then pure (name, rest) else throw .malformed

/-! ## Directives -/

def readVersionPart (t : Text) : Except Fault (Nat × Text) :=
  let digits := t.takeWhile Char.isDigit
  if digits.isEmpty then .error .malformed
  else match Text.integer? 10 digits with
    | .ok n => .ok (n.toNat, t.dropWhile Char.isDigit)
    | .error fault => .error (.scalar (.integer fault))

def skipSpaces (t : Text) : Text := t.dropWhile (· == ' ')

/-- What stands after the name of a directive. -/
def readDirectiveValue (name t : Text) : Except Fault (Directive × Text) :=
  if name = "YAML".toList then do
    let (major, rest) ← readVersionPart (skipSpaces t)
    match rest with
    | '.' :: rest =>
      let (_, rest) ← readVersionPart rest
      if atSpace rest then pure (.version major, rest) else throw .malformed
    | _ => throw .malformed
  else if name = "TAG".toList then do
    let (handle, rest) ← readHandle (skipSpaces t)
    if rest.head? == some ' ' then
      let (start, rest) ← readUri (skipSpaces rest)
      if atSpace rest then pure (.tagHandle handle start, rest) else throw .malformed
    else throw .malformed
  else .ok (.other, t.dropWhile (!isBreak ·))

def readDirective (t : Text) : Except Fault (Directive × Text) := do
  let name := t.takeWhile isWordChar
  let rest := t.dropWhile isWordChar
  if name.isEmpty || !atSpace rest then throw .malformed
  let (directive, rest) ← readDirectiveValue name rest
  match endOfLine? rest with
  | some rest => pure (directive, rest)
  | none => throw .malformed

end CursorDoc.Yaml
