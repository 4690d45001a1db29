import CursorDoc.Proofs.Splice.ReadBack

/-!
# What a documentation string leaves alone

Splicing below an indented header keeps every line above the header and every
line below both the body and the old documentation string. The string may end
below the body: it goes on to its delimiter or to the end of the lines, while
the body ends with its indentation. What the string takes up below the body is
replaced with it.
-/

namespace CursorDoc

open Text

def Record.docStop (r : Record) : Nat :=
  max (r.endLine.toNat + 1) (r.startLine.toNat + 1 + docLineCount r.documentation)

theorem splitLines_append_flatten {t : Text} {lines : List Text} (hs : IsSplit lines)
    (ht : lines ≠ [] → ∃ front : List Text, (∀ line ∈ front, IsTerminated line) ∧ t = front.flatten) :
    splitLines (t ++ lines.flatten) = splitLines t ++ lines := by
  cases lines with
  | nil => simp
  | cons line lines =>
    obtain ⟨front, hfront, rfl⟩ := ht (by simp)
    have hself := splitLines_flatten_append [] hfront
    rw [List.append_nil] at hself
    rw [splitLines_flatten_append _ hfront, hself, splitLines_flatten hs]
    simp [splitLines]

section
variable {s language name : Text} {settings : Settings} {r : Record} {above : List Text} {header : Text}
  {old below : List Text} (hf : (Family.ofTag language).isIndented = true)
  (site : DocstringSite s.splitLines above header old below)
  (hrec : r = recordAt (.ofTag language) settings language (s.splitLines.map stripLineEnd) above.length name)
include hf site hrec

theorem DocstringSite.splice_frame (doc : Text) (k : Nat) :
    ∃ t inserted, splice s r doc = .ok t ∧ t.splitLines = above ++ (inserted ++ below.drop k) := by
  have hsplit := isSplit_splitLines s
  have hindent := newline_not_mem_bodyIndent (newline_not_mem_asLines s) above.length r.endLine.toNat
  have hsplice := site.splice_eq hf doc hrec
  generalize hw : bodyIndent (s.splitLines.map stripLineEnd) above.length r.endLine.toNat = w at hsplice
  have hw' : '\n' ∉ w := hw ▸ hindent
  have hlines : s.splitLines = above ++ (header :: (old ++ below.take k) ++ below.drop k) := by
    rw [site.lines]
    simp
  rw [hlines] at hsplit
  have habove := hsplit.terminated_of_append (by simp)
  have hbelow := hsplit.of_append
  -- where lines are left below, the header and all that stands between are terminated
  have hmiddle : below.drop k ≠ [] → ∃ front : List Text, (∀ line ∈ front, IsTerminated line) ∧
      (terminated header :: (indentBlock doc w (newlineOf header) ++ below.take k)).flatten = front.flatten := by
    intro hne
    have hall := hbelow.terminated_of_append hne
    have hheader : IsTerminated header := hall header (by simp)
    refine ⟨_, ?_, rfl⟩
    intro line hm
    rcases List.mem_cons.mp hm with rfl | hm
    · rw [terminated_of_isTerminated hheader]
      exact hheader
    · rcases List.mem_append.mp hm with hm | hm
      · exact isTerminated_of_mem_indentBlock hw' (isTerminated_newlineOf (.inl hheader)) line hm
      · exact hall line (by simp [hm])
  refine ⟨_, splitLines (terminated header :: (indentBlock doc w (newlineOf header) ++ below.take k)).flatten,
    hsplice, ?_⟩
  rw [← splitLines_append_flatten hbelow.of_append hmiddle, ← splitLines_flatten_append _ habove]
  apply congrArg splitLines
  rw [← List.flatten_append, ← List.flatten_append]
  apply congrArg List.flatten
  rw [List.cons_append, List.append_assoc, List.append_assoc, List.take_append_drop]
  rfl

theorem DocstringSite.drop_docStop : ∃ k, s.splitLines.drop r.docStop = below.drop k := by
  have hlines : s.splitLines = (above ++ header :: old) ++ below := by
    rw [site.lines]
    simp
  have hge : (above ++ header :: old).length ≤ r.docStop := by
    unfold Record.docStop
    rw [site.docLineCount_eq hf hrec, (site.startLine_eq hf hrec).1]
    simp
    omega
  obtain ⟨k, hk⟩ := Nat.exists_eq_add_of_le hge
  refine ⟨k, ?_⟩
  rw [hlines, hk, ← List.drop_drop, List.drop_left]

end

/-- Splicing at an indented header keeps, as they are and in order, the lines above the header and those below
both the body and the old documentation string. These are all lines below the body if and only if the string ends
within it. -/
theorem splice_docstring_frame {s doc : Text} {cursor : Int} {settings : Settings} {r : Record}
    (hr : locate? (.text s) cursor "python".toList settings = some r) :
    ∃ t inserted, splice s r doc = .ok t ∧
      t.splitLines = s.splitLines.take r.startLine.toNat ++ (inserted ++ s.splitLines.drop r.docStop) ∧
      t = (s.splitLines.take r.startLine.toNat).flatten ++
        (inserted.flatten ++ (s.splitLines.drop r.docStop).flatten) ∧
      (r.docStop = r.endLine.toNat + 1 ↔ r.startLine + docLineCount r.documentation ≤ r.endLine) := by
  have hf : (Family.ofTag "python".toList).isIndented = true := by decide +kernel
  obtain ⟨-, above, header, old, below, name, site, -, hrec⟩ := exists_docstringSite_of_locate? hr
  obtain ⟨k, hk⟩ := site.drop_docStop hf hrec
  obtain ⟨t, inserted, hsplice, ht⟩ := site.splice_frame hf hrec doc k
  have hstart := (site.startLine_eq hf hrec).1
  have habove : s.splitLines.take r.startLine.toNat = above := by
    rw [hstart, Int.toNat_natCast, site.lines, List.take_left]
  rw [← hk, ← habove] at ht
  refine ⟨t, inserted, hsplice, ht, ?_, ?_⟩
  · rw [← List.flatten_append, ← List.flatten_append, ← ht, flatten_splitLines]
  · have hend := congrArg Record.endLine (hrec.trans (site.record_eq hf))
    dsimp only at hend
    unfold Record.docStop
    omega

theorem splice_docstring_frame_closed :
    let s : Text := "x = 1\ndef f():\n    \"\"\"\n    Old.\n    \"\"\"\n    return x\ny = 2".toList
    let r : Record :=
      { name := "f".toList, signature := "def f():".toList
        body := "def f():\n    \"\"\"\n    Old.\n    \"\"\"\n    return x\n".toList, startLine := 1, endLine := 5
        language := "python".toList, documentation := some "    \"\"\"\n    Old.\n    \"\"\"".toList }
    let doc : Text := "\"\"\"New.\"\"\"".toList
    locate? (.text s) 3 "python".toList {} = some r ∧
      ∃ t inserted, splice s r doc = .ok t ∧ t.splitLines = ["x = 1\n".toList] ++ (inserted ++ ["y = 2".toList]) := by
  intro s r doc
  have hr : locate? (.text s) 3 "python".toList {} = some r := by decide +kernel
  obtain ⟨t, inserted, hsplice, ht, -⟩ := @splice_docstring_frame s doc 3 {} r hr
  have habove : s.splitLines.take r.startLine.toNat = ["x = 1\n".toList] := by decide +kernel
  have hbelow : s.splitLines.drop r.docStop = ["y = 2".toList] := by decide +kernel
  rw [habove, hbelow] at ht
  exact ⟨hr, t, inserted, hsplice, ht⟩

/-- A string that a comment follows is not closed there, so that it runs on below the body, and the function
below goes with it. -/
theorem splice_docstring_takes_next_function :
    let s : Text := "def f():\n    \"\"\"A\n    \"\"\"  # c\n    return 1\ndef g():\n    \"\"\"B\"\"\"\n".toList
    let r : Record :=
      { name := "f".toList, signature := "def f():".toList
        body := "def f():\n    \"\"\"A\n    \"\"\"  # c\n    return 1\n".toList, startLine := 0, endLine := 3
        language := "python".toList
        documentation := some
          "    \"\"\"A\n    \"\"\"  # c\n    return 1\ndef g():\n    \"\"\"B\"\"\"".toList }
    locate? (.text s) 0 "python".toList {} = some r ∧
      ∃ t, splice s r "\"\"\"N\"\"\"".toList = .ok t ∧
        ¬ ∃ x, t = (s.splitLines.take r.startLine.toNat).flatten ++
          (x ++ (s.splitLines.drop (r.endLine.toNat + 1)).flatten) := by
  intro s r
  refine ⟨by decide +kernel, "def f():\n    \"\"\"N\"\"\"\n".toList, by rfl, ?_⟩
  rintro ⟨x, hx⟩
  rw [← List.append_assoc] at hx
  have hsuffix : (s.splitLines.drop (r.endLine.toNat + 1)).flatten <:+ "def f():\n    \"\"\"N\"\"\"\n".toList :=
    ⟨_, hx.symm⟩
  exact absurd hsuffix (by decide +kernel)

end CursorDoc
