import CursorDoc.Pattern

/-!
# Tags

The tag of a node says what kind of value it is. A scalar without a tag that is
not quoted gets one from its text.
-/

namespace CursorDoc.Yaml

open Pattern

inductive Tag where
  | null
  | bool
  | int
  | float
  | binary
  | timestamp
  | orderedMap
  | pairs
  | set
  | text
  | sequence
  | mapping
  /-- A key that takes in the entries of another mapping. -/
  | merge
  /-- A key for the value that stands for the whole mapping. -/
  | value
  | other
deriving DecidableEq, Repr

namespace Tag

/-- What the names of all known tags start with. -/
def start : Text := "tag:yaml.org,2002:".toList

def names : List (String × Tag) :=
  [("null", null), ("bool", bool), ("int", int), ("float", float), ("binary", binary),
   ("timestamp", timestamp), ("omap", orderedMap), ("pairs", pairs), ("set", set), ("str", text),
   ("seq", sequence), ("map", mapping), ("merge", merge), ("value", value)]

def ofName (name : Text) : Tag :=
  match names.find? fun (short, _) => start ++ short.toList == name with
  | some (_, tag) => tag
  | none => other

/-! ## Tags from the text of a scalar -/

def whole (p : Pattern) : Pattern := all [atStart, p, atEnd]

def sign : Pattern := optional (one fun c => c == '-' || c == '+')

def digits : Pattern := seq (one Char.isDigit) (manyOf fun c => c.isDigit || c == '_')

def moreDigits : Pattern := manyOf fun c => c.isDigit || c == '_'

def sixtieths : Pattern :=
  let place := all [char ':', optional (one fun c => '0' ≤ c && c ≤ '5'), one Char.isDigit]
  seq place (many place)

def boolPattern : Pattern :=
  whole (oneWord ["yes", "Yes", "YES", "no", "No", "NO", "true", "True", "TRUE", "false", "False",
    "FALSE", "on", "On", "ON", "off", "Off", "OFF"])

def nullPattern : Pattern := whole (oneWord ["~", "null", "Null", "NULL"])

def intPattern : Pattern :=
  let positive := seq (one fun c => '1' ≤ c && c ≤ '9') moreDigits
  whole (seq sign (first [
    seq (word "0b") (someOf fun c => c == '0' || c == '1' || c == '_'),
    seq (char '0') (someOf fun c => ('0' ≤ c && c ≤ '7') || c == '_'),
    char '0',
    positive,
    seq (word "0x") (someOf fun c =>
      c.isDigit || ('a' ≤ c && c ≤ 'f') || ('A' ≤ c && c ≤ 'F') || c == '_'),
    seq positive sixtieths]))

def floatPattern : Pattern :=
  let exponent := optional (all [one fun c => c == 'e' || c == 'E',
    one fun c => c == '-' || c == '+', someOf Char.isDigit])
  whole (first [
    all [sign, digits, char '.', moreDigits, exponent],
    all [char '.', digits, exponent],
    all [sign, digits, sixtieths, char '.', moreDigits],
    all [sign, char '.', oneWord ["inf", "Inf", "INF"]],
    all [char '.', oneWord ["nan", "NaN", "NAN"]]])

def timestampPattern : Pattern :=
  let digit := one Char.isDigit
  let oneOrTwo := seq digit (optional digit)
  let two := seq digit digit
  let year := seq two two
  let zone := optional (seq (manyOf fun c => c == ' ' || c == '\t') (first [
    char 'Z',
    all [one fun c => c == '-' || c == '+', oneOrTwo, optional (seq (char ':') two)]]))
  let gap := first [one fun c => c == 'T' || c == 't', someOf fun c => c == ' ' || c == '\t']
  whole (first [
    all [year, char '-', two, char '-', two],
    all [year, char '-', oneOrTwo, char '-', oneOrTwo, gap, oneOrTwo, char ':', two, char ':', two,
      optional (seq (char '.') (manyOf Char.isDigit)), zone]])

/-- The patterns of scalar texts and the tags they stand for; no two fit the same text. -/
def textPatterns : List (Pattern × Tag) :=
  [(boolPattern, bool), (floatPattern, float), (intPattern, int), (whole (word "<<"), merge),
   (nullPattern, null), (timestampPattern, timestamp), (whole (word "="), value),
   (whole (oneWord ["!", "&", "*"]), other)]

def ofText (content : Text) : Tag :=
  if content.isEmpty then null
  else match textPatterns.find? fun (p, _) => p.reads content with
    | some (_, tag) => tag
    | none => text

end Tag
end CursorDoc.Yaml
