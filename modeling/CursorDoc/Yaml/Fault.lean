import CursorDoc.Text.Integer

/-!
# What is wrong with a document

A document is either malformed, or well formed with a scalar that has no value
of its type. Malformed documents need no further words: nobody is told.
-/

namespace CursorDoc.Yaml

inductive ScalarFault where
  /-- An escape names no character. -/
  | codePoint (code : Nat)
  | integer (fault : Text.IntegerFault)
  | float (text : Text)
  /-- A number with nothing in it but underscores and a sign. -/
  | emptyNumber
  /-- A number in base sixty has too many places for a float. -/
  | floatRange
  | bool (text : Text)
  | timestamp
  /-- A mapping stands where the text of a timestamp is needed. -/
  | timestampKind
  | year (n : Nat)
  | month
  | day
  | hour
  | minute
  | second
  /-- The distance from universal time is a day or more, in seconds. -/
  | zone (seconds : Int)
  /-- Collections, merged mappings or value keys lead deeper than can be followed. -/
  | tooDeep
deriving DecidableEq, Repr

/-- Days and seconds of a span of time, the seconds never negative. -/
def daysAndSeconds (seconds : Int) : Text :=
  let days := Text.decimalInt (seconds.fdiv 86400)
  let rest := seconds.fmod 86400
  "datetime.timedelta(days=".toList ++ days ++
    (if rest = 0 then [] else ", seconds=".toList ++ Text.decimalInt rest) ++ [')']

namespace ScalarFault

/-- Codes from here on are not even looked at as codes of characters. -/
def codeLimit : Nat := 0x80000000

def message : ScalarFault → Text
  | codePoint code =>
    if code < codeLimit then "chr() arg not in range(0x110000)".toList
    else "Python int too large to convert to C int".toList
  | integer fault => fault.message
  | float text => "could not convert string to float: ".toList ++ Text.quoted text
  | emptyNumber => "string index out of range".toList
  | floatRange => "int too large to convert to float".toList
  | bool text => Text.quoted text
  | timestamp => "'NoneType' object has no attribute 'groupdict'".toList
  | timestampKind => "expected string or bytes-like object, got 'list'".toList
  | year n => "year ".toList ++ Text.decimal n ++ " is out of range".toList
  | month => "month must be in 1..12".toList
  | day => "day is out of range for month".toList
  | hour => "hour must be in 0..23".toList
  | minute => "minute must be in 0..59".toList
  | second => "second must be in 0..59".toList
  | zone seconds =>
    "offset must be a timedelta strictly between -timedelta(hours=24) and ".toList ++
      "timedelta(hours=24), not ".toList ++ daysAndSeconds seconds ++ ['.']
  | tooDeep => "maximum recursion depth exceeded".toList

end ScalarFault

inductive Fault where
  | malformed
  | scalar (fault : ScalarFault)
deriving DecidableEq, Repr

end CursorDoc.Yaml
