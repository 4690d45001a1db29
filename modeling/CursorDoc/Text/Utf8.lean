import CursorDoc.Text.Decimal
import CursorDoc.Text.Quoted

/-!
# UTF-8

Texts as bytes. Reading is strict: overlong forms, half pairs and cut-off
sequences are refused, and the refusal says which bytes are at fault.
-/

namespace CursorDoc

abbrev Bytes := List UInt8

namespace Utf8

inductive FaultKind where
  | invalidStart
  | invalidContinuation
  | unexpectedEnd
deriving DecidableEq, Repr

/-- Bytes that are no text: which ones, counted from zero, and why. -/
structure Fault where
  first : Nat
  /-- The number of bytes at fault, at least one. -/
  count : Nat
  /-- The first byte at fault. -/
  byte : UInt8
  kind : FaultKind
deriving DecidableEq, Repr

def FaultKind.message : FaultKind → Text
  | .invalidStart => "invalid start byte".toList
  | .invalidContinuation => "invalid continuation byte".toList
  | .unexpectedEnd => "unexpected end of data".toList

open Text in
def Fault.message (fault : Fault) : Text :=
  let place :=
    if fault.count = 1 then
      "byte 0x".toList ++ hex 2 fault.byte.toNat ++ " in position ".toList ++ decimal fault.first
    else
      "bytes in position ".toList ++ decimal fault.first ++ ['-'] ++
        decimal (fault.first + fault.count - 1)
  "'utf-8' codec can't decode ".toList ++ place ++ ": ".toList ++ fault.kind.message

def isContinuation (b : UInt8) : Bool := 0x80 ≤ b && b ≤ 0xBF

/-- Whether `b` may follow the first byte `a` of a sequence. -/
def isSecond (a b : UInt8) : Bool :=
  if a = 0xE0 then 0xA0 ≤ b && b ≤ 0xBF
  else if a = 0xED then 0x80 ≤ b && b ≤ 0x9F
  else if a = 0xF0 then 0x90 ≤ b && b ≤ 0xBF
  else if a = 0xF4 then 0x80 ≤ b && b ≤ 0x8F
  else isContinuation b

/-- The length of the sequence that a byte starts, if it starts one. -/
def lengthOf? (a : UInt8) : Option Nat :=
  if a < 0x80 then some 1
  else if 0xC2 ≤ a && a ≤ 0xDF then some 2
  else if 0xE0 ≤ a && a ≤ 0xEF then some 3
  else if 0xF0 ≤ a && a ≤ 0xF4 then some 4
  else none

/-- The character of a sequence: the first byte has one of `heads` values, each other one six
bits. -/
def charOf (heads : Nat) (a : UInt8) (more : List UInt8) : Char :=
  Char.ofNat (more.foldl (fun n b => n * 64 + b.toNat % 64) (a.toNat % heads))

/-- Read bytes of which the first has the number `first`. -/
def decodeFrom (first : Nat) : Bytes → Except Fault Text
  | [] => .ok []
  | a :: r =>
    match lengthOf? a, r with
    | none, _ => .error ⟨first, 1, a, .invalidStart⟩
    | some 1, r => (decodeFrom (first + 1) r).map (charOf 128 a [] :: ·)
    | some _, [] => .error ⟨first, 1, a, .unexpectedEnd⟩
    | some 2, b :: r =>
      if isSecond a b then (decodeFrom (first + 2) r).map (charOf 32 a [b] :: ·)
      else .error ⟨first, 1, a, .invalidContinuation⟩
    | some 3, [b] =>
      if isSecond a b then .error ⟨first, 2, a, .unexpectedEnd⟩
      else .error ⟨first, 1, a, .invalidContinuation⟩
    | some 3, b :: c :: r =>
      if isSecond a b then
        if isContinuation c then (decodeFrom (first + 3) r).map (charOf 16 a [b, c] :: ·)
        else .error ⟨first, 2, a, .invalidContinuation⟩
      else .error ⟨first, 1, a, .invalidContinuation⟩
    | some _, [b] =>
      if isSecond a b then .error ⟨first, 2, a, .unexpectedEnd⟩
      else .error ⟨first, 1, a, .invalidContinuation⟩
    | some _, [b, c] =>
      if isSecond a b then
        if isContinuation c then .error ⟨first, 3, a, .unexpectedEnd⟩
        else .error ⟨first, 2, a, .invalidContinuation⟩
      else .error ⟨first, 1, a, .invalidContinuation⟩
    | some _, b :: c :: d :: r =>
      if isSecond a b then
        if isContinuation c then
          if isContinuation d then (decodeFrom (first + 4) r).map (charOf 8 a [b, c, d] :: ·)
          else .error ⟨first, 3, a, .invalidContinuation⟩
        else .error ⟨first, 2, a, .invalidContinuation⟩
      else .error ⟨first, 1, a, .invalidContinuation⟩

def decode (bytes : Bytes) : Except Fault Text := decodeFrom 0 bytes

def encode (t : Text) : Bytes := t.flatMap String.utf8EncodeChar

end Utf8
end CursorDoc
