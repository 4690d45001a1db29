import CursorDoc.Proofs.Splice.ReadBack
import CursorDoc.Proofs.Splice.Run

/-!
# Documentation on lines of its own

The lines of a spliced text are the lines that were edited, so the documentation
adds as many lines as it has and takes away those of the old one. The exception
is a last line that ends in a bare carriage return: the lines written next to
it end in the same character, which ends no line.
-/

namespace CursorDoc

open Text

/-! ## Texts that run into a line -/

theorem isSplit_cons_append {t line : Text} {lines : List Text} (ht : '\n' ∉ t) (h : IsSplit (line :: lines)) :
    IsSplit ((t ++ line) :: lines) := by
  obtain ⟨rfl, hne, hn⟩ | ⟨⟨u, hu, rfl⟩, hlines⟩ := isSplit_cons_iff.mp h
  · refine .last (by simp [hne]) ?_
    rw [List.mem_append, not_or]
    exact ⟨ht, hn⟩
  · refine .cons ⟨t ++ u, ?_, by rw [List.append_assoc]⟩ hlines
    rw [List.mem_append, not_or]
    exact ⟨ht, hu⟩

/-- A text without newlines in front of some lines adds no line. -/
theorem length_splitLines_append_flatten {t : Text} {lines : List Text} (ht : '\n' ∉ t) (h : IsSplit lines)
    (hne : lines ≠ []) : (splitLines (t ++ lines.flatten)).length = lines.length := by
  obtain ⟨first, rest, rfl⟩ := List.exists_cons_of_ne_nil hne
  have hmerged : t ++ (first :: rest).flatten = ((t ++ first) :: rest).flatten := by simp
  rw [hmerged, splitLines_flatten (isSplit_cons_append ht h)]
  rfl

/-! ## Open headers -/

section
variable {header : Text} (hn : IsTerminated header ∨ '\n' ∉ header) (hopen : header.getLast? = some '\r')
include hn hopen

theorem newline_not_mem_of_open : '\n' ∉ header := hn.resolve_left fun h => getLast?_ne_return h hopen

omit hn in
theorem terminated_of_open : terminated header = header := by
  have hend : lineEnd header ≠ [] := fun h => getLast?_of_lineEnd_eq_nil h hopen
  unfold terminated
  rw [List.isEmpty_eq_false_iff.mpr hend]
  rfl

theorem newline_not_mem_block_of_open (doc : Text) {indent : Text} (hi : '\n' ∉ indent) :
    '\n' ∉ (indentBlock doc indent (newlineOf header)).flatten := by
  have hend : lineEnd header ≠ [] := fun h => getLast?_of_lineEnd_eq_nil h hopen
  have hnewline : '\n' ∉ newlineOf header := by
    unfold newlineOf
    split
    · contradiction
    · intro hm
      apply newline_not_mem_of_open hn hopen
      rw [← stripLineEnd_append_lineEnd header]
      exact List.mem_append_right _ hm
  intro hm
  obtain ⟨line, hline, hm⟩ := List.mem_flatten.mp hm
  obtain ⟨body, hbody, rfl⟩ := List.mem_map.mp hline
  rcases List.mem_append.mp hm with hm | hm
  · exact newline_not_mem_behind hi (newline_not_mem_asLines _ body hbody) hm
  · exact hnewline hm

end

theorem eq_nil_of_open {header : Text} {below : List Text} (h : IsSplit (header :: below))
    (hopen : header.getLast? = some '\r') : below = [] := by
  obtain ⟨hnil, -⟩ | ⟨hterm, -⟩ := isSplit_cons_iff.mp h
  · exact hnil
  · exact absurd hopen (getLast?_ne_return hterm)

/-! ## Comments -/

section
variable {s : Text} {above old gap : List Text} {header : Text} {below : List Text}
  (site : CommentSite s.splitLines above old gap header below)
include site

theorem CommentSite.splitLines_written {doc : Text} (hdoc : header.getLast? = some '\r' → blockLines doc = []) :
    splitLines (above ++ (indentBlock doc (stripLineEnd header).indentation (newlineOf header) ++
        (gap ++ header :: below))).flatten =
      above ++ (indentBlock doc (stripLineEnd header).indentation (newlineOf header) ++ (gap ++ header :: below)) := by
  by_cases hopen : header.getLast? = some '\r'
  · obtain ⟨habove, hback⟩ := site.isSplit_parts
    unfold indentBlock
    rw [hdoc hopen]
    exact splitLines_flatten (.append habove hback)
  · exact site.splitLines_write hopen doc

theorem CommentSite.length_splitLines_of_open (hopen : header.getLast? = some '\r') (doc : Text) :
    (splitLines (above ++ (indentBlock doc (stripLineEnd header).indentation (newlineOf header) ++
        (gap ++ header :: below))).flatten).length = (above ++ (gap ++ header :: below)).length := by
  obtain ⟨habove, hback⟩ := site.isSplit_parts
  have hn := hback.of_append.terminated_or header (by simp)
  have hindent : '\n' ∉ (stripLineEnd header).indentation := newline_not_mem_indentation (newline_not_mem_stripLineEnd hn)
  -- the block has no newline at all, so it runs into the first of the lines behind it
  rw [List.flatten_append, splitLines_flatten_append _ habove, List.flatten_append, List.length_append,
    length_splitLines_append_flatten (newline_not_mem_block_of_open hn hopen doc hindent) hback (by simp)]
  simp

end

/-! ## Documentation strings -/

section
variable {s : Text} {above : List Text} {header : Text} {old below : List Text}
  (site : DocstringSite s.splitLines above header old below)
include site

theorem DocstringSite.splitLines_written (endLine : Nat) {doc : Text}
    (hdoc : header.getLast? = some '\r' → blockLines doc = []) :
    splitLines ((above ++ [terminated header]) ++
        (indentBlock doc (bodyIndent (s.splitLines.map stripLineEnd) above.length endLine)
          (newlineOf header) ++ below)).flatten =
      (above ++ [terminated header]) ++
        (indentBlock doc (bodyIndent (s.splitLines.map stripLineEnd) above.length endLine)
          (newlineOf header) ++ below) := by
  by_cases hopen : header.getLast? = some '\r'
  · obtain ⟨habove, hback⟩ := site.isSplit_parts
    have hn := hback.terminated_or header (by simp)
    obtain ⟨rfl, rfl⟩ := List.append_eq_nil_iff.mp (eq_nil_of_open hback hopen)
    unfold indentBlock
    rw [hdoc hopen, terminated_of_open hopen]
    exact splitLines_flatten (by simpa using IsSplit.append habove hback)
  · rw [site.splitLines_write hopen]
    simp

theorem DocstringSite.length_splitLines_of_open (hopen : header.getLast? = some '\r') (endLine : Nat) (doc : Text) :
    old = [] ∧ (splitLines ((above ++ [terminated header]) ++
        (indentBlock doc (bodyIndent (s.splitLines.map stripLineEnd) above.length endLine)
          (newlineOf header) ++ below)).flatten).length = s.splitLines.length := by
  obtain ⟨habove, hback⟩ := site.isSplit_parts
  have hn := hback.terminated_or header (by simp)
  have hindent := newline_not_mem_bodyIndent (newline_not_mem_asLines s) above.length endLine
  have hblock := newline_not_mem_block_of_open hn hopen doc hindent
  have hheader := newline_not_mem_of_open hn hopen
  obtain ⟨rfl, rfl⟩ := List.append_eq_nil_iff.mp (eq_nil_of_open hback hopen)
  refine ⟨rfl, ?_⟩
  -- the header is the last line, and the block goes on in it
  rw [terminated_of_open hopen, List.append_nil, List.append_assoc, List.flatten_append,
    splitLines_flatten_append _ habove, List.singleton_append, List.flatten_cons, splitLines_of_not_mem]
  · rw [site.lines]
    simp
  · rintro hnil
    rw [(List.append_eq_nil_iff.mp hnil).1] at hopen
    cases hopen
  · rw [List.mem_append, not_or]
    exact ⟨hheader, hblock⟩

end

/-! ## Located functions -/

structure Record.KeepsLines (r : Record) (s doc : Text) (lines : List Text) : Prop where
  length : lines.length + docLineCount r.documentation = s.splitLines.length + (blockLines doc).length
  header : ∃ k : Nat, r.headerAfter doc = k ∧ (lines.map stripLineEnd)[k]? = some (stripLineEnd (r.header s))
  split : ((r.header s).getLast? = some '\r' → blockLines doc = []) → splitLines lines.flatten = lines
  merged : (r.header s).getLast? = some '\r' →
    (splitLines lines.flatten).length + docLineCount r.documentation = s.splitLines.length

theorem length_indentBlock (doc indent newline : Text) :
    (indentBlock doc indent newline).length = (blockLines doc).length := List.length_map _

theorem length_normalLines (doc : Text) : (normalLines doc).length = (blockLines doc).length := List.length_map _

theorem Record.replacing_eq_spliceAt {s : Text} {r : Record} {header : Nat} (hstart : r.startLine = header)
    (hlt : header < s.splitLines.length) (doc : Text) :
    r.replacing s (r.written s doc) = spliceAt s.splitLines (.ofTag r.language) header r.endLine.toNat
      ((Family.ofTag r.language).docBlock? (s.splitLines.map stripLineEnd) header) doc := by
  obtain rfl : r.startLine.toNat = header := by rw [hstart, Int.toNat_natCast]
  exact (Record.spliceAt_eq hlt doc).symm

section
variable {s : Text} {above old gap : List Text} {header : Text} {below : List Text} {language name : Text}
  {settings : Settings} {r : Record} (hf : (Family.ofTag language).isIndented = false)
  (site : CommentSite s.splitLines above old gap header below)
  (hrec : r = recordAt (.ofTag language) settings language (s.splitLines.map stripLineEnd)
    (above ++ (old ++ gap)).length name)
include hf site hrec

theorem CommentSite.replacing_eq (doc : Text) : r.replacing s (r.written s doc) =
    above ++ (indentBlock doc (stripLineEnd header).indentation (newlineOf header) ++ (gap ++ header :: below)) := by
  have hstart := (site.startLine_eq hf hrec).1
  have hlang : r.language = language := by
    rw [hrec]
    rfl
  have hlt : (above ++ (old ++ gap)).length < s.splitLines.length := by
    rw [site.lines]
    simp
  rw [Record.replacing_eq_spliceAt hstart hlt, hlang, site.docBlock?_eq hf, site.spliceAt_eq hf]

theorem CommentSite.keepsLines (doc : Text) : r.KeepsLines s doc (r.replacing s (r.written s doc)) := by
  have hheader : r.header s = header := (site.startLine_eq hf hrec).2
  have hcount := site.docLineCount_eq hf hrec
  have hlength := congrArg List.length site.lines
  have hblock := length_indentBlock doc (stripLineEnd header).indentation (newlineOf header)
  rw [site.replacing_eq hf hrec]
  constructor
  · rw [hcount, hlength]
    simp only [List.length_append, hblock]
    omega
  · refine ⟨_, site.headerAfter_eq hf hrec (hblock.trans (length_normalLines doc).symm), ?_⟩
    rw [hheader, ← List.append_assoc, ← List.append_assoc, List.append_assoc above, List.getElem?_map,
      List.getElem?_append_right (Nat.le_refl _), Nat.sub_self]
    rfl
  · rw [hheader]
    exact site.splitLines_written
  · rw [hheader, hcount, hlength]
    intro hopen
    rw [site.length_splitLines_of_open hopen]
    simp only [List.length_append]
    omega

end

section
variable {s : Text} {above : List Text} {header : Text} {old below : List Text} {language name : Text}
  {settings : Settings} {r : Record} (hf : (Family.ofTag language).isIndented = true)
  (site : DocstringSite s.splitLines above header old below)
  (hrec : r = recordAt (.ofTag language) settings language (s.splitLines.map stripLineEnd) above.length name)
include hf site hrec

theorem DocstringSite.replacing_eq (doc : Text) : r.replacing s (r.written s doc) =
    (above ++ [terminated header]) ++
      (indentBlock doc (bodyIndent (s.splitLines.map stripLineEnd) above.length r.endLine.toNat)
        (newlineOf header) ++ below) := by
  have hstart := (site.startLine_eq hf hrec).1
  have hlang : r.language = language := by
    rw [hrec]
    rfl
  have hlt : above.length < s.splitLines.length := by
    rw [site.lines]
    simp
  rw [Record.replacing_eq_spliceAt hstart hlt, hlang, site.docBlock?_eq hf, site.spliceAt_eq hf]

theorem DocstringSite.keepsLines (doc : Text) : r.KeepsLines s doc (r.replacing s (r.written s doc)) := by
  have hheader : r.header s = header := (site.startLine_eq hf hrec).2
  have hcount := site.docLineCount_eq hf hrec
  have hlength := congrArg List.length site.lines
  rw [site.replacing_eq hf hrec]
  constructor
  · rw [hcount, hlength]
    simp only [List.length_append, List.length_cons, List.length_nil, length_indentBlock]
    omega
  · refine ⟨_, site.headerAfter_eq hf hrec, ?_⟩
    rw [hheader, List.append_assoc, List.getElem?_map, List.getElem?_append_right (Nat.le_refl _), Nat.sub_self]
    exact congrArg some stripLineEnd_terminated
  · rw [hheader]
    exact site.splitLines_written r.endLine.toNat
  · rw [hheader, hcount]
    intro hopen
    obtain ⟨rfl, hmerged⟩ := site.length_splitLines_of_open hopen r.endLine.toNat doc
    exact hmerged

end

theorem Record.keepsLines_of_locate? {s language : Text} {cursor : Int} {settings : Settings} {r : Record}
    (hr : locate? (.text s) cursor language settings = some r) (doc : Text) :
    r.KeepsLines s doc (r.replacing s (r.written s doc)) := by
  cases hf : (Family.ofTag language).isIndented with
  | false =>
    obtain ⟨-, above, old, gap, header, below, name, site, -, hrec⟩ := exists_commentSite_of_locate? hr
    exact site.keepsLines hf hrec doc
  | true =>
    obtain ⟨-, above, header, old, below, name, site, -, hrec⟩ := exists_docstringSite_of_locate? hr
    exact site.keepsLines hf hrec doc

/-- **Documentation is on lines of its own.** A splice at a located function adds as many lines as the documentation
has and takes away those of the old one, the lines of the result are the lines that were edited, and the header is one
of them. Only next to a header that ends in a bare carriage return what is written adds no line. -/
theorem length_splitLines_splice {s language : Text} {cursor : Int} {settings : Settings} {r : Record}
    (hr : locate? (.text s) cursor language settings = some r) (doc : Text) :
    ∃ t, splice s r doc = .ok t ∧
      t.splitLines.length + docLineCount r.documentation = s.splitLines.length +
        (if (r.header s).getLast? = some '\r' then 0 else (blockLines doc).length) ∧
      (t.splitLines = r.replacing s (r.written s doc) ↔
        ((r.header s).getLast? = some '\r' → blockLines doc = [])) ∧
      (t.splitLines = r.replacing s (r.written s doc) → ∃ k : Nat, r.headerAfter doc = k ∧
        (t.splitLines.map stripLineEnd)[k]? = some (stripLineEnd (r.header s))) := by
  have hkeeps := Record.keepsLines_of_locate? hr doc
  refine ⟨_, Record.splice_eq_of_locate? hr doc, ?_, ⟨fun heq hopen => ?_, hkeeps.split⟩, fun heq => ?_⟩
  · split
    · rename_i hopen
      exact hkeeps.merged hopen
    · rename_i hopen
      rw [hkeeps.split fun h => absurd h hopen]
      exact hkeeps.length
  · have hmerged := hkeeps.merged hopen
    rw [heq, hkeeps.length] at hmerged
    exact List.eq_nil_of_length_eq_zero (by omega)
  · rw [heq]
    exact hkeeps.header

theorem length_splitLines_splice_replaced_comment :
    let s : Text := "\t/* Old\r\n\t */\n\r\n\tfunction add() \x7b\x7d".toList
    let r : Record :=
      { name := "add".toList, signature := "function add() \x7b\x7d".toList
        body := "\tfunction add() \x7b\x7d\n".toList, startLine := 3, endLine := 3, language := "javascript".toList
        documentation := some "\t/* Old\n\t */".toList }
    let doc : Text := "/**\n * Adds.\r\n *\n */".toList
    locate? (.text s) 3 r.language {} = some r ∧ s.splitLines.length = 4 ∧
      ∃ t, splice s r doc = .ok t ∧ t.splitLines.length = 6 ∧
        (t.splitLines.map stripLineEnd)[5]? = some "\tfunction add() \x7b\x7d".toList := by
  repeat rw [String.toList_ofList]
  intro s r doc
  have hr : locate? (.text s) 3 r.language {} = some r := by decide +kernel
  have hlen : s.splitLines.length = 4 := by decide +kernel
  have hclosed : (r.header s).getLast? ≠ some '\r' := by decide +kernel
  have hcount : docLineCount r.documentation = 2 := by decide +kernel
  have hblock : (blockLines doc).length = 4 := by decide +kernel
  have hafter : r.headerAfter doc = (5 : Nat) := by decide +kernel
  obtain ⟨t, hsplice, hlines, hedited, hheader⟩ := length_splitLines_splice hr doc
  rw [if_neg hclosed, hcount, hlen, hblock] at hlines
  obtain ⟨k, hk, hline⟩ := hheader (hedited.mpr fun hopen => absurd hopen hclosed)
  obtain rfl : 5 = k := Int.ofNat.inj (hafter.symm.trans hk)
  exact ⟨hr, hlen, t, hsplice, Nat.add_right_cancel hlines, hline⟩

/-- The line written below a header that ends in a bare carriage return is a part of the header. -/
theorem splice_open_header_merges_lines :
    let s : Text := "def f():\r".toList
    let r : Record :=
      { name := "f".toList, signature := "def f():".toList, body := "def f():\n".toList, startLine := 0, endLine := 0
        language := "python".toList, documentation := none }
    let doc : Text := "\"\"\"D.\"\"\"".toList
    locate? (.text s) 0 r.language {} = some r ∧ s.splitLines.length = 1 ∧ (blockLines doc).length = 1 ∧
      ∃ t, splice s r doc = .ok t ∧ t.splitLines.length = 1 := by
  repeat rw [String.toList_ofList]
  intro s r doc
  refine ⟨by decide +kernel, by decide +kernel, by decide +kernel,
    "def f():\r    \"\"\"D.\"\"\"\r".toList, by rfl, by decide +kernel⟩

end CursorDoc
