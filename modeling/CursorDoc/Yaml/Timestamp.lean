import CursorDoc.Yaml.Character
import CursorDoc.Yaml.Fault

/-!
# Timestamps

A date, or a date with a time of day, with an optional distance from universal
time. `read` takes the text apart, `check` says which part is out of range.
-/

namespace CursorDoc.Yaml

structure TimeOfDay where
  hour : Nat
  minute : Nat
  second : Nat
  /-- Minutes ahead of universal time, if a distance is given. -/
  zone : Option Int
deriving DecidableEq, Repr

structure Timestamp where
  year : Nat
  month : Nat
  day : Nat
  time : Option TimeOfDay
deriving DecidableEq, Repr

namespace Timestamp

/-- A number of at least `least` and at most `most` digits, as many as there are. -/
def readNumber? (least most : Nat) (t : Text) : Option (Nat × Text) :=
  let digits := (t.take most).takeWhile Char.isDigit
  if digits.length < least then none
  else some (Text.ofDigits 10 (digits.filterMap Text.hexValue?), t.drop digits.length)

def readChar? (c : Char) (t : Text) : Option Text :=
  if t.head? == some c then some t.tail else none

/-- What stands between date and time: the letter T, or spaces and tabs. -/
def readTimeMark? (t : Text) : Option Text :=
  match t with
  | 'T' :: r => some r
  | 't' :: r => some r
  | c :: _ => if isGap c then some (t.dropWhile isGap) else none
  | [] => none

/-- The distance from universal time, in minutes; nothing for universal time itself. -/
def readZone? (t : Text) : Option (Option Int × Text) :=
  match t with
  | 'Z' :: r => some (none, r)
  | c :: r =>
    if c = '+' ∨ c = '-' then do
      let (hours, rest) ← readNumber? 1 2 r
      let (minutes, rest) :=
        ((readChar? ':' rest).bind (readNumber? 2 2)).getD (0, rest)
      let ahead : Int := hours * 60 + minutes
      some (some (if c = '-' then -ahead else ahead), rest)
    else none
  | [] => none

def readTime? (t : Text) : Option (TimeOfDay × Text) := do
  let (hour, rest) ← readNumber? 1 2 t
  let (minute, rest) ← readNumber? 2 2 (← readChar? ':' rest)
  let (second, rest) ← readNumber? 2 2 (← readChar? ':' rest)
  let rest := match readChar? '.' rest with
    | some r => r.dropWhile Char.isDigit
    | none => rest
  match readZone? (rest.dropWhile isGap) with
  | some (zone, rest) => some (⟨hour, minute, second, zone⟩, rest)
  | none => some (⟨hour, minute, second, none⟩, rest)

/-- Take a timestamp apart. One newline at the end is allowed. -/
def read? (t : Text) : Option Timestamp := do
  let (year, rest) ← readNumber? 4 4 t
  let (month, rest) ← readNumber? 1 2 (← readChar? '-' rest)
  let (day, rest) ← readNumber? 1 2 (← readChar? '-' rest)
  let (time, rest) :=
    match (readTimeMark? rest).bind readTime? with
    | some (time, rest) => (some time, rest)
    | none => (none, rest)
  if rest = [] ∨ rest = ['\n'] then some ⟨year, month, day, time⟩ else none

def isLeapYear (year : Nat) : Bool := (year % 4 == 0 && year % 100 != 0) || year % 400 == 0

def daysIn (year month : Nat) : Nat :=
  if month = 2 then if isLeapYear year then 29 else 28
  else if month = 4 ∨ month = 6 ∨ month = 9 ∨ month = 11 then 30
  else 31

/-- The distance from universal time is less than a day. -/
def checkZone (t : Timestamp) : Except ScalarFault Unit :=
  match t.time.bind (·.zone) with
  | some minutes => if minutes.natAbs < 1440 then .ok () else .error (.zone (minutes * 60))
  | none => .ok ()

def checkDate (t : Timestamp) : Except ScalarFault Unit :=
  if t.year = 0 then .error (.year t.year)
  else if t.month = 0 ∨ 12 < t.month then .error .month
  else if t.day = 0 ∨ daysIn t.year t.month < t.day then .error .day
  else .ok ()

def checkTime (t : Timestamp) : Except ScalarFault Unit :=
  match t.time with
  | none => .ok ()
  | some time =>
    if 23 < time.hour then .error .hour
    else if 59 < time.minute then .error .minute
    else if 59 < time.second then .error .second
    else .ok ()

def check (text : Text) : Except ScalarFault Unit :=
  match read? text with
  | none => .error .timestamp
  | some t => do
    t.checkZone
    t.checkDate
    t.checkTime

end Timestamp
end CursorDoc.Yaml
