import CursorDoc.Text.Lowercase
import CursorDoc.Yaml.Fault

/-!
# Numbers in documents

Integers in base two, eight, ten, sixteen and sixty, and the texts that are
floating point numbers. Underscores are left out before a number is read.
-/

namespace CursorDoc.Yaml

def integerIn (base : Nat) (t : Text) : Except ScalarFault Int :=
  (Text.integer? base t).mapError .integer

/-- The number with the given places in base sixty. -/
def ofSixtieths (places : List Int) : Int := places.foldl (fun n d => n * 60 + d) 0

/-- An integer without sign. A leading zero makes it octal. -/
def unsignedInteger (t : Text) : Except ScalarFault Int :=
  if t = ['0'] then .ok 0
  else if t.startsWith ['0', 'b'] then integerIn 2 (t.drop 2)
  else if t.startsWith ['0', 'x'] then integerIn 16 (t.drop 2)
  else if t.isEmpty then .error .emptyNumber
  else if t.startsWith ['0'] then integerIn 8 t
  else if t.contains ':' then (Text.splitOn ':' t).mapM (integerIn 10) |>.map ofSixtieths
  else integerIn 10 t

def readInteger (t : Text) : Except ScalarFault Int :=
  let t : Text := t.filter (· != '_')
  if t.isEmpty then .error .emptyNumber
  else
    let (negative, unsigned) := Text.splitSign t
    (unsignedInteger unsigned).map fun n => if negative then -n else n

/-! ## Floating point numbers -/

/-- Leave out an exponent that has digits. -/
def dropExponent : Text → Text
  | c :: r =>
    if c = 'e' ∨ c = 'E' then
      let digits := (Text.splitSign r).2
      if digits.head?.any Char.isDigit then digits.dropWhile Char.isDigit else c :: r
    else c :: r
  | [] => []

/-- Whether an ASCII text without sign is a decimal number with an optional exponent. -/
def isDecimal (t : Text) : Bool :=
  let whole := t.takeWhile Char.isDigit
  let rest := t.dropWhile Char.isDigit
  let fraction := if rest.head? == some '.' then rest.tail.takeWhile Char.isDigit else []
  let rest := if rest.head? == some '.' then rest.tail.dropWhile Char.isDigit else rest
  !(whole.isEmpty && fraction.isEmpty) && (dropExponent rest).isEmpty

/-- Whether a text, white space around it left out, is a floating point number. -/
def isFloat (t : Text) : Bool :=
  let unsigned := (Text.splitSign ((Text.asciiDigits t).trimWhile Text.isPlainSpace)).2
  isDecimal unsigned ||
    ["inf".toList, "infinity".toList, "nan".toList].contains (unsigned.map Char.toLower)

/-- A number in base sixty has a value as a float up to this many places. -/
def maxFloatPlaces : Nat := 174

/-- Check that a scalar is a floating point number; its value is of no use here. -/
def checkFloat (t : Text) : Except ScalarFault Unit :=
  let t := Text.lower (t.filter (· != '_'))
  if t.isEmpty then .error .emptyNumber
  else
    let unsigned := (Text.splitSign t).2
    if unsigned = ".inf".toList ∨ unsigned = ".nan".toList then .ok ()
    else if unsigned.contains ':' then
      let places := Text.splitOn ':' unsigned
      match places.find? (!isFloat ·) with
      | some place => .error (.float place)
      | none => if maxFloatPlaces < places.length then .error .floatRange else .ok ()
    else if isFloat unsigned then .ok ()
    else .error (.float unsigned)

end CursorDoc.Yaml
