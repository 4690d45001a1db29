import CursorDoc.Proofs.Splice.Run
import CursorDoc.Proofs.Text.Crlf
import Mathlib.Data.List.GetD

/-!
# Terminators of written lines

The lines that a splice writes end as the header of the function does. So a
splice does the same to a text and to the text with carriage returns put in,
where the header is terminated, and a text whose newlines all come behind
carriage returns stays one. A header on the last line may have no terminator;
then the written lines end in bare newlines.
-/

namespace CursorDoc

open Text

/-! ## Carriage returns put in -/

theorem newlineOf_crlf {line : Text} (h : IsTerminated line) : newlineOf (crlf line) = crlf (newlineOf line) := by
  rw [newlineOf_of_isTerminated h, newlineOf_of_isTerminated h.crlf, lineEnd_crlf (.inl h)]

theorem indentBlock_crlf (doc : Text) {indent : Text} (hi : '\n' ∉ indent) (newline : Text) :
    indentBlock doc indent (crlf newline) = (indentBlock doc indent newline).map crlf := by
  unfold indentBlock
  rw [List.map_map]
  apply List.map_congr_left
  intro line hm
  have hline : '\n' ∉ behind indent line := newline_not_mem_behind hi (newline_not_mem_asLines _ line hm)
  unfold behind at hline
  rw [Function.comp_apply, crlf_append, crlf_of_not_mem hline]

theorem map_replaceLines (f : Text → Text) (source : List Text) (start stop : Nat) (lines : List Text) :
    (replaceLines source start stop lines).map f = replaceLines (source.map f) start stop (lines.map f) := by
  simp [replaceLines]

/-- The same lines are written at the same places, all of them with carriage returns. -/
theorem spliceAt_crlf {source : List Text} (hs : IsSplit source) {startLine : Nat}
    (hend : IsTerminated (source.getD startLine [])) (family : Family) (endLine : Nat) (existing : Option DocBlock)
    (doc : Text) : spliceAt (source.map crlf) family startLine endLine existing doc =
      (spliceAt source family startLine endLine existing doc).map crlf := by
  have hheader : (source.map crlf).getD startLine [] = crlf (source.getD startLine []) := List.getD_map source [] crlf
  have hplain : (source.map stripLineEnd).getD startLine [] = stripLineEnd (source.getD startLine []) :=
    List.getD_map source [] stripLineEnd
  have hindent : '\n' ∉ (stripLineEnd (source.getD startLine [])).indentation :=
    newline_not_mem_indentation (newline_not_mem_stripLineEnd (.inl hend))
  unfold spliceAt
  simp only [map_stripLineEnd_crlf hs, hheader, hplain, newlineOf_crlf hend, terminated_of_isTerminated hend,
    terminated_of_isTerminated hend.crlf]
  split
  · rw [indentBlock_crlf doc (newline_not_mem_bodyIndent hs.newline_not_mem _ _), map_replaceLines, List.map_set]
  · rw [indentBlock_crlf doc hindent]
    cases existing with
    | none => exact (map_replaceLines crlf source _ _ _).symm
    | some old => exact (map_replaceLines crlf source _ _ _).symm

theorem splice_crlf {s : Text} {r : Record} (hend : (r.header s).getLast? = some '\n') (doc : Text) :
    splice (crlf s) r doc = (splice s r doc).map crlf := by
  have hs := isSplit_splitLines s
  have hheader : IsTerminated (s.splitLines.getD r.startLine.toNat []) :=
    (hs.terminated_or_getD _).resolve_right fun hn => hn (List.mem_of_getLast? hend)
  unfold splice
  simp only [splitLines_crlf, List.length_map, map_stripLineEnd_crlf hs, spliceAt_crlf hs hheader, ← crlf_flatten]
  split
  · split <;> rfl
  · rfl

theorem locate?_crlf (s : Text) (cursor : Int) (language : Text) (settings : Settings) :
    locate? (.text (crlf s)) cursor language settings = locate? (.text s) cursor language settings := by
  have hlines : (Buffer.text (crlf s)).asLines = (Buffer.text s).asLines := by
    unfold Buffer.asLines
    simp only [splitLines_crlf, map_stripLineEnd_crlf (isSplit_splitLines s)]
  unfold locate? search
  rw [hlines]

/-- **Carriage returns in front of newlines make no difference.** The same functions are located, and a splice at a
terminated header does to the text with carriage returns what it does to the text without. -/
theorem locate?_splice_crlf (s : Text) (cursor : Int) (language : Text) (settings : Settings) :
    locate? (.text (crlf s)) cursor language settings = locate? (.text s) cursor language settings ∧
      ∀ r, locate? (.text s) cursor language settings = some r → (r.header s).getLast? = some '\n' →
        ∀ doc, ∃ t, splice s r doc = .ok t ∧ splice (crlf s) r doc = .ok (crlf t) := by
  refine ⟨locate?_crlf s cursor language settings, fun r hr hend doc => ?_⟩
  obtain ⟨indent, hsplice⟩ := Record.splice_of_locate? hr doc
  refine ⟨_, hsplice, ?_⟩
  rw [splice_crlf hend, hsplice]
  rfl

theorem locate?_splice_crlf_replaced_comment :
    let s : Text := "/* Old. */\n\n\tfunction add() \x7b\n\x7d".toList
    let r : Record :=
      { name := "add".toList, signature := "function add() \x7b".toList, body := "\tfunction add() \x7b\n\x7d\n".toList
        startLine := 2, endLine := 3, language := "javascript".toList, documentation := some "/* Old. */".toList }
    let doc : Text := "/**\n * Adds\r.\n */".toList
    locate? (.text (crlf s)) 3 r.language {} = some r ∧ (r.header s).getLast? = some '\n' ∧
      splice (crlf s) r doc = .ok "\t/**\r\n\t * Adds\r.\r\n\t */\r\n\r\n\tfunction add() \x7b\r\n\x7d".toList := by
  intro s r doc
  have hr : locate? (.text s) 3 r.language {} = some r := by decide +kernel
  have hend : (r.header s).getLast? = some '\n' := by decide +kernel
  obtain ⟨hlocate, hsplice⟩ := locate?_splice_crlf s 3 r.language {}
  obtain ⟨t, ht, hcrlf⟩ := hsplice r hr hend doc
  have hplain : (splice s r doc).toOption =
      some "\t/**\n\t * Adds\r.\n\t */\n\n\tfunction add() \x7b\n\x7d".toList := by decide +kernel
  rw [ht] at hplain
  obtain rfl := Option.some.inj hplain
  exact ⟨hlocate.trans hr, hend, hcrlf⟩

/-! ## Carriage returns kept -/

theorem isCrlf_newlineOf {line : Text} (h : IsCrlf line) (hend : lineEnd line ≠ []) : IsCrlf (newlineOf line) := by
  rw [← stripLineEnd_append_lineEnd line] at h
  unfold newlineOf
  split
  · contradiction
  · exact h.of_append (getLast?_stripLineEnd line)

theorem isCrlf_of_mem_indentBlock (doc : Text) {indent newline : Text} (hi : '\n' ∉ indent) (hn : IsCrlf newline) :
    ∀ line ∈ indentBlock doc indent newline, IsCrlf line := by
  intro line hm
  obtain ⟨body, hb, rfl⟩ := List.mem_map.mp hm
  have hbody : '\n' ∉ behind indent body := newline_not_mem_behind hi (newline_not_mem_asLines _ body hb)
  exact (isCrlf_of_not_mem hbody).append hn

theorem isCrlf_indentBlock_newline_iff {doc indent : Text} (hi : '\n' ∉ indent) :
    (∀ line ∈ indentBlock doc indent ['\n'], IsCrlf line) ↔ blockLines doc = [] := by
  constructor
  · intro h
    apply List.eq_nil_iff_forall_not_mem.mpr
    intro line hm
    have hcrlf : IsCrlf (behind indent line ++ ['\n']) := h _ (List.mem_map_of_mem hm)
    rw [isCrlf_newline_iff (newline_not_mem_behind hi (newline_not_mem_asLines _ line hm)),
      ← stripLineEnd_behind hm] at hcrlf
    exact getLast?_stripLineEnd _ hcrlf
  · intro h line hm
    unfold indentBlock at hm
    rw [h] at hm
    cases hm

section
variable {s : Text} (hs : IsCrlf s)
include hs

theorem CommentSite.isCrlf_write_iff {above old gap : List Text} {header : Text} {below : List Text}
    (site : CommentSite s.splitLines above old gap header below) (doc : Text) :
    IsCrlf (above ++ (indentBlock doc (stripLineEnd header).indentation (newlineOf header) ++
        (gap ++ header :: below))).flatten ↔ lineEnd header ≠ [] ∨ blockLines doc = [] := by
  have hplain := newline_not_mem_stripLineEnd ((isSplit_splitLines s).terminated_or header (by rw [site.lines]; simp))
  have hindent : '\n' ∉ (stripLineEnd header).indentation := newline_not_mem_indentation hplain
  have hlines := isCrlf_iff_splitLines.mp hs
  rw [site.lines] at hlines
  simp only [List.forall_mem_append, List.forall_mem_cons] at hlines
  obtain ⟨habove, -, hgap, hheader, hbelow⟩ := hlines
  have hwritten {block : List Text} (hblock : ∀ line ∈ block, IsCrlf line) :
      ∀ line ∈ above ++ (block ++ (gap ++ header :: below)), IsCrlf line := by
    simp only [List.forall_mem_append, List.forall_mem_cons]
    exact ⟨habove, hblock, hgap, hheader, hbelow⟩
  by_cases hend : lineEnd header = []
  · rw [isCrlf_iff_splitLines, site.splitLines_write (getLast?_of_lineEnd_eq_nil hend), newlineOf_eq_newline hend,
      ← isCrlf_indentBlock_newline_iff hindent]
    constructor
    · intro h
      exact .inr fun line hm => h line (by simp [hm])
    · intro h
      exact hwritten (h.resolve_left fun hne => hne hend)
  · have hblock := isCrlf_of_mem_indentBlock doc hindent (isCrlf_newlineOf hheader hend)
    exact iff_of_true (isCrlf_flatten (hwritten hblock)) (.inl hend)

theorem DocstringSite.isCrlf_write_iff {above : List Text} {header : Text} {old below : List Text}
    (site : DocstringSite s.splitLines above header old below) (endLine : Nat) (doc : Text) :
    IsCrlf ((above ++ [terminated header]) ++
        (indentBlock doc (bodyIndent (s.splitLines.map stripLineEnd) above.length endLine)
          (newlineOf header) ++ below)).flatten ↔ lineEnd header ≠ [] := by
  have hplain := newline_not_mem_stripLineEnd ((isSplit_splitLines s).terminated_or header (by rw [site.lines]; simp))
  have hindent := newline_not_mem_bodyIndent (newline_not_mem_asLines s) above.length endLine
  have hlines := isCrlf_iff_splitLines.mp hs
  rw [site.lines] at hlines
  simp only [List.forall_mem_append, List.forall_mem_cons] at hlines
  obtain ⟨habove, hheader, -, hbelow⟩ := hlines
  by_cases hend : lineEnd header = []
  · rw [stripLineEnd_of_lineEnd_eq_nil hend] at hplain
    have hopen : terminated header = header ++ ['\n'] := by
      unfold terminated
      rw [hend]
      rfl
    rw [isCrlf_iff_splitLines, site.splitLines_write (getLast?_of_lineEnd_eq_nil hend)]
    apply iff_of_false
    · intro h
      have hcrlf := h (terminated header) (by simp)
      rw [hopen, isCrlf_newline_iff hplain] at hcrlf
      exact getLast?_of_lineEnd_eq_nil hend hcrlf
    · exact fun hne => hne hend
  · have hclosed : terminated header = header := by
      unfold terminated
      rw [List.isEmpty_eq_false_iff.mpr hend]
      rfl
    have hblock := isCrlf_of_mem_indentBlock doc hindent (isCrlf_newlineOf hheader hend)
    refine iff_of_true (isCrlf_flatten ?_) hend
    simp only [hclosed, List.forall_mem_append, List.forall_mem_singleton]
    exact ⟨⟨habove, hheader⟩, hblock, hbelow⟩

/-- **A text whose newlines all come behind carriage returns stays one**, unless its last line is a header without
a terminator and the splice writes a line there or closes the header. -/
theorem isCrlf_splice_iff {language : Text} {cursor : Int} {settings : Settings} {r : Record}
    (hr : locate? (.text s) cursor language settings = some r) (doc : Text) :
    ∃ t, splice s r doc = .ok t ∧ (IsCrlf t ↔ lineEnd (r.header s) ≠ [] ∨
      ((Family.ofTag r.language).isIndented = false ∧ blockLines doc = [])) := by
  cases hf : (Family.ofTag language).isIndented with
  | false =>
    obtain ⟨-, above, old, gap, header, below, name, site, -, hrec⟩ := exists_commentSite_of_locate? hr
    have hlang : r.language = language := by
      rw [hrec]
      rfl
    have hheader : r.header s = header := (site.startLine_eq hf hrec).2
    refine ⟨_, hrec ▸ site.splice_eq hf doc, ?_⟩
    rw [site.isCrlf_write_iff hs, hheader, hlang, hf]
    simp
  | true =>
    obtain ⟨-, above, header, old, below, name, site, -, hrec⟩ := exists_docstringSite_of_locate? hr
    have hlang : r.language = language := by
      rw [hrec]
      rfl
    have hheader : r.header s = header := (site.startLine_eq hf hrec).2
    refine ⟨_, site.splice_eq hf doc hrec, ?_⟩
    rw [site.isCrlf_write_iff hs, hheader, hlang, hf]
    simp

end

theorem isCrlf_splice_closed_header :
    let s : Text := "x = 1\r\ndef f():\r\n    return x".toList
    let r : Record :=
      { name := "f".toList, signature := "def f():".toList, body := "def f():\n    return x\n".toList, startLine := 1
        endLine := 2, language := "python".toList, documentation := none }
    IsCrlf s ∧ locate? (.text s) 2 r.language {} = some r ∧
      ∃ t, splice s r "\"\"\"Doc.\"\"\"".toList = .ok t ∧ IsCrlf t := by
  intro s r
  have hs : IsCrlf s := by decide +kernel
  have hr : locate? (.text s) 2 r.language {} = some r := by decide +kernel
  have hend : lineEnd (r.header s) ≠ [] := by decide +kernel
  obtain ⟨t, hsplice, ht⟩ := isCrlf_splice_iff hs hr "\"\"\"Doc.\"\"\"".toList
  exact ⟨hs, hr, t, hsplice, ht.mpr (.inl hend)⟩

/-- Above a header without a terminator the written line ends in a bare newline, in a text that has none. -/
theorem splice_open_header_writes_bare_newline :
    let s : Text := "const x = 1;\r\nfunction add() \x7b\x7d".toList
    let r : Record :=
      { name := "add".toList, signature := "function add() \x7b\x7d".toList
        body := "function add() \x7b\x7d\n".toList, startLine := 1, endLine := 1, language := "javascript".toList
        documentation := none }
    IsCrlf s ∧ '\n' ∈ s ∧ locate? (.text s) 1 r.language {} = some r ∧
      ∃ t, splice s r "/** Adds. */".toList = .ok t ∧ ¬ IsCrlf t := by
  intro s r
  refine ⟨by decide +kernel, by decide +kernel, by decide +kernel,
    "const x = 1;\r\n/** Adds. */\nfunction add() \x7b\x7d".toList, by rfl, by decide +kernel⟩

end CursorDoc
