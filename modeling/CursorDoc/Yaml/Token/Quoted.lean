import CursorDoc.Yaml.Fault
import CursorDoc.Yaml.Token.Plain

/-!
# Quoted scalars

Between single quotes a doubled quote stands for one; between double quotes a
backslash starts an escape. Line breaks are folded, and a mark that separates
documents may not start a line.
-/

namespace CursorDoc.Yaml

/-- What the character after a backslash stands for, where it is one character. -/
def escapeValue? (c : Char) : Option Char :=
  match c with
  | '0' => some '\x00'
  | 'a' => some '\x07'
  | 'b' => some '\x08'
  | 't' => some '\t'
  | '\t' => some '\t'
  | 'n' => some '\n'
  | 'v' => some '\x0b'
  | 'f' => some '\x0c'
  | 'r' => some '\r'
  | 'e' => some '\x1b'
  | ' ' => some ' '
  | '"' => some '"'
  | '\\' => some '\\'
  | '/' => some '/'
  | 'N' => some '\u0085'
  | '_' => some '\u00a0'
  | 'L' => some '\u2028'
  | 'P' => some '\u2029'
  | _ => none

/-- How many hexadecimal digits follow the character after a backslash. -/
def escapeDigits? (c : Char) : Option Nat :=
  match c with
  | 'x' => some 2
  | 'u' => some 4
  | 'U' => some 8
  | _ => none

/-- Where the reading of a quoted scalar stands. -/
inductive QuotedState where
  | text
  /-- After spaces and tabs. -/
  | gap (run : Text)
  /-- After line breaks; the first one is left out if it was escaped. -/
  | broken (first : Option Char) (more : Text)
  /-- After a backslash. -/
  | escape
  /-- Inside an escape with hexadecimal digits, of which some are still to come. -/
  | code (left value : Nat)

/-- The text of the line breaks and gaps before the next character. -/
def QuotedState.pending : QuotedState → Text
  | .gap run => run
  | .broken (some first) more => foldBreaks first more
  | .broken none more => more
  | _ => []

/-- The text of a reading with more text in front. -/
def readAfter (read : Text) : Except Fault (Text × Text) → Except Fault (Text × Text)
  | .ok (text, rest) => .ok (read ++ text, rest)
  | .error fault => .error fault

/-- The character of a code; the codes of half pairs stand for none and give a replacement. -/
def codeChar? (code : Nat) : Except Fault Char :=
  if code < 0x110000 then
    .ok (if 0xD800 ≤ code ∧ code ≤ 0xDFFF then '\ufffd' else Char.ofNat code)
  else .error (.scalar (.codePoint code))

/-- Read a scalar up to its closing quote: its text, and what follows the quote. -/
def readQuoted (quote : Char) : QuotedState → Text → Except Fault (Text × Text)
  | _, [] => .error .malformed
  | .escape, c :: r =>
    match escapeValue? c, escapeDigits? c with
    | some value, _ => readAfter [value] (readQuoted quote .text r)
    | none, some digits => readQuoted quote (.code digits 0) r
    | none, none =>
      if isBreak c && !atSeparator r then readQuoted quote (.broken none []) r
      else .error .malformed
  | .code left value, c :: r =>
    match Text.hexValue? c with
    | none => .error .malformed
    | some digit =>
      let value := value * 16 + digit
      if left ≤ 1 then
        match codeChar? value with
        | .ok char => readAfter [char] (readQuoted quote .text r)
        | .error fault => .error fault
      else readQuoted quote (.code (left - 1) value) r
  | state, c :: r =>
    if isBreak c then
      if atSeparator r then .error .malformed
      else
        let state := match state with
          | .broken first more => .broken first (more ++ [breakText c])
          | _ => .broken (some (breakText c)) []
        readQuoted quote state r
    else if isGap c then
      match state with
      | .broken .. => readQuoted quote state r
      | .gap run => readQuoted quote (.gap (run ++ [c])) r
      | _ => readQuoted quote (.gap [c]) r
    else if c = quote then
      match r with
      | next :: r' =>
        if quote = '\'' ∧ next = '\'' then
          readAfter (state.pending ++ [c]) (readQuoted quote .text r')
        else .ok (state.pending, r)
      | [] => .ok (state.pending, [])
    else if quote = '"' ∧ c = '\\' then readAfter state.pending (readQuoted quote .escape r)
    else readAfter (state.pending ++ [c]) (readQuoted quote .text r)

end CursorDoc.Yaml
