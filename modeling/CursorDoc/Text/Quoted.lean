import CursorDoc.Text.Decimal
import CursorDoc.Text.Printable

/-!
# Quoted texts

How a text is shown inside a message: between single quotes, or between double
quotes if it holds single ones only, with escapes for the quote, the backslash
and everything that cannot be printed.
-/

namespace CursorDoc.Text

/-- A number in lower-case hexadecimal with at least `width` digits. -/
def hex (width n : Nat) : Text :=
  let digits := (Nat.toDigits 16 n)
  List.replicate (width - digits.length) '0' ++ digits

/-- A character between the given quotes. -/
def escaped (quote c : Char) : Text :=
  if c = quote || c = '\\' then ['\\', c]
  else if c = '\n' then ['\\', 'n']
  else if c = '\r' then ['\\', 'r']
  else if c = '\t' then ['\\', 't']
  else if isPrintable c then [c]
  else if c.toNat < 0x100 then ['\\', 'x'] ++ hex 2 c.toNat
  else if c.toNat < 0x10000 then ['\\', 'u'] ++ hex 4 c.toNat
  else ['\\', 'U'] ++ hex 8 c.toNat

/-- The quote that surrounds a text in messages. -/
def quoteFor (t : Text) : Char := if t.contains '\'' && !t.contains '"' then '"' else '\''

def quoted (t : Text) : Text :=
  let quote := quoteFor t
  [quote] ++ t.flatMap (escaped quote) ++ [quote]

end CursorDoc.Text
