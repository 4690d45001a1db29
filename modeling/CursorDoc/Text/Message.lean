import CursorDoc.Text.Decimal

/-!
# Messages with numbers

A message is put together from texts and numbers. Numbers of more than
`maxDigits` digits are not written, and neither is a message that names one.
-/

namespace CursorDoc.Text

/-- Whether a number is written with at most `count` digits. -/
def hasDigits : Nat → Nat → Bool
  | 0, n => n == 0
  | count + 1, n => n < 10 || hasDigits count (n / 10)

inductive NumberFault where
  | tooLong
deriving DecidableEq, Repr

def NumberFault.message : NumberFault → Text
  | .tooLong =>
    "Exceeds the limit (".toList ++ decimal maxDigits ++ " digits) for integer string conversion; ".toList ++
      "use sys.set_int_max_str_digits() to increase the limit".toList

def isWritable (n : Int) : Bool := hasDigits maxDigits n.natAbs

def numeral (n : Int) : Except NumberFault Text :=
  if isWritable n then .ok (decimalInt n) else .error .tooLong

inductive Piece where
  | words (t : Text)
  | number (n : Int)
deriving DecidableEq, Repr

def Piece.write : Piece → Except NumberFault Text
  | words t => .ok t
  | number n => numeral n

def writeAll : List Piece → Except NumberFault Text
  | [] => .ok []
  | piece :: rest => do
    let front ← piece.write
    let back ← writeAll rest
    pure (front ++ back)

/-- A message that is to be shown: if one of its numbers is not written, that is said instead. -/
def shown (message : List Piece) : Text :=
  match writeAll message with
  | .ok t => t
  | .error fault => fault.message

end CursorDoc.Text
