import CursorDoc.Json
import CursorDoc.Proofs.Text.Decimal

/-!
# Reading JSON

A reader for all of JSON, as any other program has one. A text is cut into
tokens, and the tokens are put together to a value. Strings are read as UTF-16
units; the two halves of a pair of units are one character again.
-/

namespace CursorDoc.Json

inductive Value where
  | null
  | bool (b : Bool)
  /-- The coefficient, times ten to the power of the exponent. -/
  | number (coefficient exponent : Int)
  | string (t : Text)
  | array (items : List Value)
  /-- The fields in the order in which they stand; a name may occur twice. -/
  | object (fields : List (Text × Value))

inductive Token where
  /-- A bracket, a brace, a colon or a comma. -/
  | mark (c : Char)
  | scalar (v : Value)

def isBlank (c : Char) : Bool := c == ' ' || c == '\n' || c == '\r' || c == '\t'

def isMark (c : Char) : Bool :=
  c == '[' || c == ']' || c == '\x7b' || c == '\x7d' || c == ':' || c == ','

def isWordChar (c : Char) : Bool := !isBlank c && !isMark c && c != '"'

/-! ## Strings -/

def escapedUnit? : Char → Option Nat
  | '"' => some 0x22
  | '\\' => some 0x5C
  | '/' => some 0x2F
  | 'b' => some 0x08
  | 'f' => some 0x0C
  | 'n' => some 0x0A
  | 'r' => some 0x0D
  | 't' => some 0x09
  | _ => none

def withUnits (us : List Nat) (read : List Nat × Text) : List Nat × Text := (us ++ read.1, read.2)

def readUnits : Text → Option (List Nat × Text)
  | [] => none
  | '"' :: r => some ([], r)
  | '\\' :: 'u' :: a :: b :: c :: d :: r =>
    ([a, b, c, d].mapM Text.hexValue?).bind fun digits => (readUnits r).map (withUnits [Text.ofDigits 16 digits])
  | '\\' :: c :: r => (escapedUnit? c).bind fun unit => (readUnits r).map (withUnits [unit])
  | c :: r => if c.toNat < 0x20 then none else (readUnits r).map (withUnits (units c))

/-- The text that units stand for. Halves of pairs that stand alone are no characters. -/
def ofUnits? : List Nat → Option Text
  | [] => some []
  | u :: us =>
    if 0xD800 ≤ u ∧ u < 0xDC00 then
      match us with
      | l :: us =>
        if 0xDC00 ≤ l ∧ l < 0xE000 then
          (ofUnits? us).map (Char.ofNat (0x10000 + (u - 0xD800) * 0x400 + (l - 0xDC00)) :: ·)
        else none
      | [] => none
    else if 0xDC00 ≤ u ∧ u < 0xE000 then none
    else (ofUnits? us).map (Char.ofNat u :: ·)

/-! ## Numbers and words -/

def numberOfDigits (digits : Text) : Nat := Text.ofDigits 10 (digits.filterMap Text.hexValue?)

def isWhole (digits : Text) : Bool := !digits.isEmpty && (digits.head? != some '0' || digits.length == 1)

def fraction? : Text → Option (Text × Text)
  | '.' :: r =>
    let digits := r.takeWhile Char.isDigit
    if digits.isEmpty then none else some (digits, r.dropWhile Char.isDigit)
  | r => some ([], r)

def exponent? : Text → Option Int
  | [] => some 0
  | e :: r =>
    let (negative, digits) := Text.splitSign r
    if (e == 'e' || e == 'E') && !digits.isEmpty && digits.all Char.isDigit then
      some (if negative then -numberOfDigits digits else numberOfDigits digits)
    else none

def unsigned? (t : Text) : Option (Nat × Int) :=
  let whole := t.takeWhile Char.isDigit
  if isWhole whole then
    (fraction? (t.dropWhile Char.isDigit)).bind fun (behind, rest) =>
      (exponent? rest).map fun exponent => (numberOfDigits (whole ++ behind), exponent - behind.length)
  else none

def number? : Text → Option Value
  | '-' :: r => (unsigned? r).map fun (n, exponent) => .number (-n) exponent
  | t => (unsigned? t).map fun (n, exponent) => .number n exponent

def ofWord? (word : Text) : Option Value :=
  if word = "null".toList then some .null
  else if word = "true".toList then some (.bool true)
  else if word = "false".toList then some (.bool false)
  else number? word

/-! ## Values -/

theorem length_readUnits {t rest : Text} {us : List Nat} (h : readUnits t = some (us, rest)) :
    rest.length < t.length := by
  fun_induction readUnits t generalizing us with
  | case1 => cases h
  | case2 r =>
    cases h
    exact Nat.lt_succ_self _
  | case3 a b c d r ih =>
    obtain ⟨digits, -, h⟩ := Option.bind_eq_some_iff.mp h
    obtain ⟨⟨us, rest⟩, hr, h⟩ := Option.map_eq_some_iff.mp h
    cases h
    exact Nat.lt_of_lt_of_le (ih hr) (Nat.le_add_right r.length 6)
  | case4 c r _ ih =>
    obtain ⟨unit, -, h⟩ := Option.bind_eq_some_iff.mp h
    obtain ⟨⟨us, rest⟩, hr, h⟩ := Option.map_eq_some_iff.mp h
    cases h
    exact Nat.lt_of_lt_of_le (ih hr) (Nat.le_add_right r.length 2)
  | case5 => cases h
  | case6 c r _ _ _ _ ih =>
    obtain ⟨⟨us, rest⟩, hr, h⟩ := Option.map_eq_some_iff.mp h
    cases h
    exact Nat.lt_succ_of_lt (ih hr)

def tokens? : Text → Option (List Token)
  | [] => some []
  | c :: r =>
    if isBlank c then tokens? r
    else if isMark c then (tokens? r).map (.mark c :: ·)
    else if c = '"' then
      match _h : readUnits r with
      | some (us, rest) => (ofUnits? us).bind fun t => (tokens? rest).map (.scalar (.string t) :: ·)
      | none => none
    else
      (ofWord? (c :: r.takeWhile isWordChar)).bind fun v =>
        (tokens? (r.dropWhile isWordChar)).map (.scalar v :: ·)
termination_by t => t.length
decreasing_by
  · simp
  · simp
  · have := length_readUnits _h
    simp
    omega
  · have := (List.dropWhile_sublist isWordChar (l := r)).length_le
    simp
    omega

/-- What stands around a value: an array with the items before it, or an object with the fields before it and the name
of the value. -/
inductive Frame where
  | array (items : List Value)
  | object (fields : List (Text × Value)) (name : Text)

mutual

def read (frames : List Frame) : List Token → Option Value
  | .scalar v :: ts => resume v frames ts
  | .mark '[' :: .mark ']' :: ts => resume (.array []) frames ts
  | .mark '[' :: ts => read (.array [] :: frames) ts
  | .mark '\x7b' :: .mark '\x7d' :: ts => resume (.object []) frames ts
  | .mark '\x7b' :: .scalar (.string name) :: .mark ':' :: ts => read (.object [] name :: frames) ts
  | _ => none

def resume (v : Value) : List Frame → List Token → Option Value
  | [], [] => some v
  | .array items :: frames, .mark ',' :: ts => read (.array (items ++ [v]) :: frames) ts
  | .array items :: frames, .mark ']' :: ts => resume (.array (items ++ [v])) frames ts
  | .object fields name :: frames, .mark ',' :: .scalar (.string next) :: .mark ':' :: ts =>
    read (.object (fields ++ [(name, v)]) next :: frames) ts
  | .object fields name :: frames, .mark '\x7d' :: ts => resume (.object (fields ++ [(name, v)])) frames ts
  | _, _ => none

end

def decode (t : Text) : Option Value := (tokens? t).bind (read [])

end CursorDoc.Json
