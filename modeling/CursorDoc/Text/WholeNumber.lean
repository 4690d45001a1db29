import CursorDoc.Text.Integer

/-!
# Whole numbers as users write them

A whole number may have white space around it, a plus sign, zeros in front,
single underscores between its digits, and a decimal point with zeros after it.
Its digits are those of ASCII.
-/

namespace CursorDoc.Text

/-- White space as Unicode has it, without the four separators of ASCII. -/
def isUnicodeSpace (c : Char) : Bool := isSpace c && !(0x1C ≤ c.toNat && c.toNat ≤ 0x1F)

/-- Leave out a decimal point that only zeros follow, at least one of them. -/
def dropZeroFraction (t : Text) : Text :=
  match t.dropWhile (· != '.') with
  | _ :: '0' :: r => if r.all (· == '0') then t.takeWhile (· != '.') else t
  | _ => t

/-- Digits, and single underscores between them. -/
def isDigitRun : Text → Bool
  | [] => false
  | [c] => c.isDigit
  | c :: '_' :: r => c.isDigit && isDigitRun r
  | c :: r => c.isDigit && isDigitRun r

/-- The whole number that a text stands for. Zeros in front of it do not count as digits that are
too many. -/
def wholeNumber? (t : Text) : Option Nat :=
  let trimmed := t.trimWhile isUnicodeSpace
  let run := dropZeroFraction (if trimmed.head? == some '+' then trimmed.tail else trimmed)
  let digits := (run.filter (· != '_')).dropWhile (· == '0')
  if isDigitRun run && decide (digits.length ≤ maxDigits) then
    some (ofDigits 10 (digits.filterMap hexValue?))
  else none

example : wholeNumber? [' ', '+', '0', '_', '4', '2', '.', '0', '0'] = some 42 := by decide
example : wholeNumber? ['4', '2', '.'] = none := by decide
example : wholeNumber? ['4', '_', '_', '2'] = none := by decide

end CursorDoc.Text
