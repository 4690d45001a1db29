import CursorDoc.Text.Basic
import CursorDoc.Text.Case

/-!
# Lower case

Full lower casing of a text. All characters are lowered on their own, except
that a capital sigma at the end of a word becomes the final small sigma, and
that the dotted capital I becomes two characters.
-/

namespace CursorDoc.Text

/-- The lower case of a character regardless of its neighbours. -/
def lowerChar (c : Char) : Char :=
  let n := c.toNat
  match lowerBlocks.find? fun (first, last, step, _) =>
      first ≤ n && n ≤ last && (n - first) % step == 0 with
  | some (_, _, _, shift) => Char.ofNat (Int.toNat (n + shift))
  | none => c

/-- Whether the nearest character that is not ignorable has a case. -/
def facesCased (t : Text) : Bool := ((t.dropWhile isCaseIgnorable).head?).any isCased

/-- Lower a text, given the characters before it, nearest first. -/
def lowerAfter (before : Text) : Text → Text
  | [] => []
  | c :: r =>
    let lowered :=
      if c = 'Σ' then [if facesCased before && !facesCased r then 'ς' else 'σ']
      else if c = 'İ' then ['i', Char.ofNat 0x307]
      else [lowerChar c]
    lowered ++ lowerAfter (c :: before) r

def lower (t : Text) : Text := lowerAfter [] t

end CursorDoc.Text
