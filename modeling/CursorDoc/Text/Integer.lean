import CursorDoc.Text.Blank
import CursorDoc.Text.Quoted

/-!
# Reading integers

An integer may have white space around it, a sign, and single underscores
between its digits. In base two, eight and sixteen it may start with `0b`, `0o`
or `0x`. Digits of any script count by their value.
-/

namespace CursorDoc.Text

/-- White space of ASCII, its four separators left out. -/
def isPlainSpace (c : Char) : Bool := c == ' ' || (0x09 ≤ c.toNat && c.toNat ≤ 0x0D)

/-- A text with the digits and spaces of all scripts in their ASCII form. A text that is ASCII
throughout stays as it is. -/
def asciiDigits (t : Text) : Text :=
  if t.all (·.toNat < 0x80) then t
  else t.map fun c =>
    if c.toNat < 0x7F then c
    else if isSpace c then ' '
    else match digitValue? c with
      | some d => digitChar d
      | none => '?'

/-- The value of a digit in bases up to sixteen. -/
def hexValue? (c : Char) : Option Nat :=
  let n := c.toNat
  if 0x30 ≤ n && n ≤ 0x39 then some (n - 0x30)
  else if 0x61 ≤ n && n ≤ 0x66 then some (n - 0x57)
  else if 0x41 ≤ n && n ≤ 0x46 then some (n - 0x37)
  else none

def isDigitOf (base : Nat) (c : Char) : Bool := (hexValue? c).any (· < base)

inductive IntegerFault where
  | invalid (base : Nat) (text : Text)
  /-- Decimal numbers of more digits than can be read. -/
  | tooManyDigits (count : Nat)
deriving DecidableEq, Repr

def IntegerFault.message : IntegerFault → Text
  | .invalid base text =>
    "invalid literal for int() with base ".toList ++ decimal base ++ ": ".toList ++
      (quoted text).take 200
  | .tooManyDigits count =>
    "Exceeds the limit (".toList ++ decimal maxDigits ++
      " digits) for integer string conversion: value has ".toList ++ decimal count ++
      " digits; use sys.set_int_max_str_digits() to increase the limit".toList

def splitSign : Text → Bool × Text
  | '-' :: r => (true, r)
  | '+' :: r => (false, r)
  | t => (false, t)

/-- The letters that may follow a zero in front of the digits. -/
def baseLetters (base : Nat) : Text :=
  if base = 2 then ['b', 'B'] else if base = 8 then ['o', 'O'] else if base = 16 then ['x', 'X']
  else []

/-- Leave out the mark of the base, and one underscore after it. -/
def dropBaseMark (base : Nat) : Text → Text
  | '0' :: c :: r =>
    if (baseLetters base).contains c then
      match r with
      | '_' :: r => r
      | r => r
    else '0' :: c :: r
  | t => t

/-- Underscores stand alone and between digits. -/
def goodUnderscores : Text → Bool
  | [] => true
  | ['_'] => false
  | '_' :: '_' :: _ => false
  | _ :: r => goodUnderscores r

/-- The integer that a text stands for in base two, eight, ten or sixteen. -/
def integer? (base : Nat) (t : Text) : Except IntegerFault Int :=
  let (negative, unsigned) := splitSign ((asciiDigits t).dropWhile isPlainSpace)
  let start := dropBaseMark base unsigned
  let run := start.takeWhile fun c => isDigitOf base c || c == '_'
  let rest := start.dropWhile fun c => isDigitOf base c || c == '_'
  let digits := run.filterMap hexValue?
  if run.head? == some '_' || !goodUnderscores run then .error (.invalid base t)
  else if base = 10 && maxDigits < digits.length then .error (.tooManyDigits digits.length)
  else if digits.isEmpty || !rest.all isPlainSpace then .error (.invalid base t)
  else
    let n : Int := ofDigits base digits
    .ok (if negative then -n else n)

end CursorDoc.Text
