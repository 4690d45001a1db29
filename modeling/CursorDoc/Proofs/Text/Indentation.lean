import CursorDoc.Text.Blank
import CursorDoc.Text.Lines

/-!
# Text behind an indentation

Putting white space in front of a line changes neither what the line is
trimmed to nor whether it is blank; it only adds to the indentation.
-/

namespace CursorDoc.Text

section
variable {w : Text} (hw : isBlank w = true)
include hw

theorem isSpace_of_mem_blank : ∀ c ∈ w, isSpace c = true := List.all_eq_true.mp hw

theorem trim_append (line : Text) : trim (w ++ line) = trim line := by
  unfold trim trimWhile
  rw [List.dropWhile_append_of_pos (isSpace_of_mem_blank hw)]

theorem isBlank_append (line : Text) : isBlank (w ++ line) = isBlank line := by
  unfold isBlank at hw ⊢
  rw [List.all_append, hw, Bool.true_and]

theorem indentation_append (line : Text) : indentation (w ++ line) = w ++ indentation line :=
  List.takeWhile_append_of_pos (isSpace_of_mem_blank hw)

theorem indentWidth_append (line : Text) : indentWidth (w ++ line) = w.length + indentWidth line := by
  unfold indentWidth
  rw [indentation_append hw, List.length_append]

end

theorem newline_not_mem_indentation {line : Text} (hn : '\n' ∉ line) : '\n' ∉ indentation line :=
  fun hm => hn ((List.takeWhile_prefix _).subset hm)

theorem isBlank_indentation (line : Text) : isBlank (indentation line) = true := List.all_takeWhile

theorem trim_eq_nil_of_isBlank {line : Text} (h : isBlank line = true) : trim line = [] := by
  have := trim_append h []
  rw [List.append_nil] at this
  exact this

end CursorDoc.Text
