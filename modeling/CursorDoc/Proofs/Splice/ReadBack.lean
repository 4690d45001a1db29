import CursorDoc.Proofs.Splice.Located

/-!
# Reading back what was written

Locating a function again after documentation was spliced in gives the same
function with just that documentation. Above a brace-delimited function only
line numbers move. Below an indented header the body is the new block followed
by what continues the body after the old one.
-/

namespace CursorDoc

open Text

def Record.headerAfter (r : Record) (doc : Text) : Int :=
  if (Family.ofTag r.language).isIndented then r.startLine
  else r.startLine + (normalLines doc).length - docLineCount r.documentation

/-- The record of a brace-delimited function after `doc` was spliced in above its header. -/
def Record.withComment (r : Record) (header doc : Text) : Record :=
  { r with
    startLine := r.startLine + (normalLines doc).length - docLineCount r.documentation
    endLine := r.endLine + (normalLines doc).length - docLineCount r.documentation
    documentation := some (joinLines ((normalLines doc).map (behind header.indentation))) }

def Record.bodyRest (r : Record) (lines : List Text) (header : Text) : List Text :=
  (lines.drop (r.startLine.toNat + 1 + docLineCount r.documentation)).takeWhile (continuesBody header.indentWidth)

def Record.withDocstring (r : Record) (lines : List Text) (header doc : Text) : Record :=
  let block := (normalLines doc).map (behind (bodyIndent lines r.startLine.toNat r.endLine.toNat))
  { r with
    body := joinBody (header :: (block ++ r.bodyRest lines header))
    endLine := r.startLine + block.length + (r.bodyRest lines header).length
    documentation := some (joinLines block) }

theorem getD_map_stripLineEnd (lines : List Text) (k : Nat) :
    (lines.map stripLineEnd).getD k [] = stripLineEnd (lines.getD k []) := by
  rw [List.getD_eq_getElem?_getD, List.getD_eq_getElem?_getD, List.getElem?_map]
  cases lines[k]? <;> rfl

/-! ## Comments -/

section
variable {s : Text} {above old gap : List Text} {header : Text} {below : List Text} {language name doc : Text}
  {settings : Settings} {r : Record} (hf : (Family.ofTag language).isIndented = false)
  (site : CommentSite s.splitLines above old gap header below)
  (hrec : r = recordAt (.ofTag language) settings language (s.splitLines.map stripLineEnd)
    (above ++ (old ++ gap)).length name)
include hf site hrec

theorem CommentSite.docLineCount_eq : docLineCount r.documentation = old.length := by
  rw [hrec, site.record_eq hf]
  apply docLineCount_reported (s := s)
  intro line hm
  rw [site.lines]
  simp [hm]

theorem CommentSite.headerAfter_eq {block : List Text} (hlen : block.length = (normalLines doc).length) :
    r.headerAfter doc = (above ++ (block ++ gap)).length := by
  unfold Record.headerAfter
  rw [site.docLineCount_eq hf hrec, hrec.trans (site.record_eq hf), hf, ← hlen]
  simp only [Bool.false_eq_true, ite_false, List.length_append]
  omega

theorem CommentSite.read_back (hr : header.getLast? ≠ some '\r') (hdoc : isComment (normalLines doc) = true)
    (hn : (Family.ofTag language).signatureName? (stripLineEnd header) = some name)
    (hk : 0 ≤ settings.lookbackOf (.ofTag language)) :
    ∃ s₁, splice s r doc = .ok s₁ ∧
      locate? (.text s₁) (r.headerAfter doc) language settings = some (r.withComment (stripLineEnd header) doc) := by
  obtain ⟨s₁, block, hblock, site₁, hsplice, hlocate⟩ := site.locate_write hf hr hdoc hn hk
  have hr' := hrec.trans (site.record_eq hf)
  have hlen : block.length = (normalLines doc).length := by
    simpa using congrArg List.length hblock
  have hne : block ≠ [] := by
    rintro rfl
    exact ne_nil_of_isComment hdoc (List.eq_nil_of_length_eq_zero hlen.symm)
  refine ⟨s₁, hrec ▸ hsplice, ?_⟩
  rw [site.headerAfter_eq hf hrec hlen, hlocate, site₁.record_eq hf]
  unfold Record.withComment
  rw [site.docLineCount_eq hf hrec, hr', ← hlen, ← hblock, reported_of_ne_nil hne]
  simp only [Option.some.injEq, Record.mk.injEq, List.length_append, true_and]
  refine ⟨by omega, by omega, rfl⟩

end

/-! ## Documentation strings -/

theorem takeWhile_append_of_le {α : Type} {p : α → Bool} {front back : List α}
    (h : front.length ≤ ((front ++ back).takeWhile p).length) :
    (front ++ back).takeWhile p = front ++ back.takeWhile p := by
  rw [List.takeWhile_append] at h ⊢
  by_cases hall : (front.takeWhile p).length = front.length
  · rw [if_pos hall]
  · rw [if_neg hall] at h
    have hle := (List.takeWhile_prefix (l := front) p).length_le
    omega

theorem continuesBody_behind {width : Nat} {indent : Text} (hi : isBlank indent = true) (hw : width < indent.length)
    (line : Text) : continuesBody width (behind indent line) = true := by
  unfold continuesBody behind
  split
  · rfl
  · rw [indentWidth_append hi, Bool.or_eq_true, decide_eq_true_eq]
    exact .inr (Nat.lt_add_right _ hw)

section
variable {s : Text} {above : List Text} {header : Text} {old below : List Text} {language name doc : Text}
  {settings : Settings} {r : Record} (hf : (Family.ofTag language).isIndented = true)
  (site : DocstringSite s.splitLines above header old below)
  (hrec : r = recordAt (.ofTag language) settings language (s.splitLines.map stripLineEnd) above.length name)
include hf site hrec

omit hf hrec in
theorem DocstringSite.continuesBody_written (endLine : Nat) :
    ∀ line ∈ (normalLines doc).map (behind (bodyIndent (s.splitLines.map stripLineEnd) above.length endLine)),
      continuesBody (stripLineEnd header).indentWidth line = true := by
  have hheader : (s.splitLines.map stripLineEnd).getD above.length [] = stripLineEnd header := by
    rw [site.lines]
    simp
  intro line hm
  obtain ⟨normal, -, rfl⟩ := List.mem_map.mp hm
  apply continuesBody_behind (isBlank_bodyIndent _ _ _)
  rw [← hheader]
  exact lt_length_bodyIndent _ _ _

theorem DocstringSite.headerAfter_eq : r.headerAfter doc = above.length := by
  unfold Record.headerAfter
  rw [hrec.trans (site.record_eq hf), hf]
  rfl

theorem DocstringSite.docLineCount_eq : docLineCount r.documentation = old.length := by
  rw [hrec, site.record_eq hf]
  apply docLineCount_reported (s := s)
  intro line hm
  rw [site.lines]
  simp [hm]

theorem DocstringSite.bodyRest_eq :
    r.bodyRest (s.splitLines.map stripLineEnd) (stripLineEnd header) =
      (below.map stripLineEnd).takeWhile (continuesBody (stripLineEnd header).indentWidth) := by
  have hdrop : s.splitLines.drop (above.length + 1 + old.length) = below := by
    have hlines : s.splitLines = (above ++ header :: old) ++ below := by
      rw [site.lines]
      simp
    have hlen : above.length + 1 + old.length = (above ++ header :: old).length := by
      simp
      omega
    rw [hlines, hlen, List.drop_left]
  unfold Record.bodyRest
  rw [(site.startLine_eq hf hrec).1, Int.toNat_natCast, site.docLineCount_eq hf hrec, ← List.map_drop, hdrop]

theorem DocstringSite.body_eq (hin : r.startLine + docLineCount r.documentation ≤ r.endLine) :
    r.body = joinBody (stripLineEnd header :: (old.map stripLineEnd ++
        r.bodyRest (s.splitLines.map stripLineEnd) (stripLineEnd header))) ∧
      r.endLine = r.startLine + old.length +
        (r.bodyRest (s.splitLines.map stripLineEnd) (stripLineEnd header)).length := by
  have hr' := hrec.trans (site.record_eq hf)
  have hlong : old.length ≤
      (((old ++ below).map stripLineEnd).takeWhile (continuesBody (stripLineEnd header).indentWidth)).length := by
    rw [site.docLineCount_eq hf hrec, hr'] at hin
    simp only at hin
    omega
  rw [List.map_append, ← List.length_map stripLineEnd] at hlong
  have hkept := takeWhile_append_of_le hlong
  rw [site.bodyRest_eq hf hrec, hr', List.map_append, hkept, List.length_append, List.length_map]
  exact ⟨rfl, by simp only; omega⟩

theorem DocstringSite.take_eq :
    ((s.splitLines.map stripLineEnd).drop (r.startLine.toNat + 1)).take (docLineCount r.documentation) =
      old.map stripLineEnd := by
  have hdrop : s.splitLines.drop (above.length + 1) = old ++ below := by
    rw [site.lines]
    simp
  rw [(site.startLine_eq hf hrec).1, Int.toNat_natCast, site.docLineCount_eq hf hrec, ← List.map_drop, hdrop,
    ← List.map_take, List.take_left]

theorem DocstringSite.endLine_withDocstring (hin : r.startLine + docLineCount r.documentation ≤ r.endLine) :
    (r.withDocstring (s.splitLines.map stripLineEnd) (stripLineEnd header) doc).endLine =
      r.endLine + (normalLines doc).length - docLineCount r.documentation := by
  have hlast := (site.body_eq hf hrec hin).2
  unfold Record.withDocstring
  simp only [List.length_map]
  rw [hlast, site.docLineCount_eq hf hrec]
  omega

theorem DocstringSite.read_back (hr : header.getLast? ≠ some '\r') (hdoc : isDocstring (normalLines doc) = true)
    (hn : (Family.ofTag language).signatureName? (stripLineEnd header) = some name)
    (hk : 0 ≤ settings.lookbackOf (.ofTag language)) :
    ∃ s₁, splice s r doc = .ok s₁ ∧
      locate? (.text s₁) (r.headerAfter doc) language settings =
        some (r.withDocstring (s.splitLines.map stripLineEnd) (stripLineEnd header) doc) := by
  obtain ⟨s₁, block, hblock, site₁, hsplice, hlocate⟩ := site.locate_write hf hr hdoc hn hk hrec
  have hr' := hrec.trans (site.record_eq hf)
  have hstart := (site.startLine_eq hf hrec).1
  have hne : block ≠ [] := by
    rintro rfl
    exact ne_nil_of_isDocstring hdoc (List.map_eq_nil_iff.mp hblock.symm)
  have hkept : ((block ++ below).map stripLineEnd).takeWhile (continuesBody (stripLineEnd header).indentWidth) =
      block.map stripLineEnd ++ r.bodyRest (s.splitLines.map stripLineEnd) (stripLineEnd header) := by
    rw [List.map_append, site.bodyRest_eq hf hrec, List.takeWhile_append_of_pos]
    rw [hblock]
    exact site.continuesBody_written r.endLine.toNat
  refine ⟨s₁, hsplice, ?_⟩
  rw [site.headerAfter_eq hf hrec, hlocate, site₁.record_eq hf, stripLineEnd_terminated, hkept, reported_of_ne_nil hne]
  unfold Record.withDocstring
  rw [hstart, Int.toNat_natCast, ← hblock]
  generalize r.bodyRest (s.splitLines.map stripLineEnd) (stripLineEnd header) = rest
  rw [hr']
  simp only [Option.some.injEq, Record.mk.injEq, List.length_append, true_and, Option.map_some]
  exact ⟨by omega, rfl⟩

end

/-! ## Either kind -/

/-- **Read after write.** Once documentation of the right shape was spliced in, the function is found again on its
shifted header, with the same name, signature and language and with that documentation. The body of a
brace-delimited function stays as it is; in an indented body the new block takes the place of the old one. -/
theorem locate?_splice {s doc language : Text} {cursor : Int} {settings : Settings} {r : Record}
    (hr : locate? (.text s) cursor language settings = some r)
    (hend : (s.splitLines.getD r.startLine.toNat []).getLast? ≠ some '\r')
    (hdoc : (Family.ofTag language).isBlock (normalLines doc) = true) :
    let lines := (Buffer.text s).asLines
    let header := lines.getD r.startLine.toNat []
    ∃ s₁, splice s r doc = .ok s₁ ∧
      locate? (.text s₁) (r.headerAfter doc) language settings =
        some (if (Family.ofTag language).isIndented then r.withDocstring lines header doc
          else r.withComment header doc) ∧
      ((Family.ofTag language).isIndented = true → r.startLine + docLineCount r.documentation ≤ r.endLine →
        r.body = joinBody (header :: ((lines.drop (r.startLine.toNat + 1)).take (docLineCount r.documentation) ++
          r.bodyRest lines header)) ∧
        (r.withDocstring lines header doc).endLine =
          r.endLine + (normalLines doc).length - docLineCount r.documentation) := by
  intro lines plain
  cases hf : (Family.ofTag language).isIndented with
  | false =>
    rw [Family.isBlock, hf] at hdoc
    obtain ⟨hk, above, old, gap, header, below, name, site, hn, hrec⟩ := exists_commentSite_of_locate? hr
    have hheader := (site.startLine_eq hf hrec).2
    have hplain : plain = stripLineEnd header := hheader ▸ getD_map_stripLineEnd _ _
    rw [hheader] at hend
    obtain ⟨s₁, hsplice, hlocate⟩ := site.read_back hf hrec hend hdoc hn hk
    refine ⟨s₁, hsplice, ?_, by simp⟩
    rw [hlocate, hplain]
    rfl
  | true =>
    rw [Family.isBlock, hf] at hdoc
    obtain ⟨hk, above, header, old, below, name, site, hn, hrec⟩ := exists_docstringSite_of_locate? hr
    have hheader := (site.startLine_eq hf hrec).2
    have hplain : plain = stripLineEnd header := hheader ▸ getD_map_stripLineEnd _ _
    rw [hheader] at hend
    obtain ⟨s₁, hsplice, hlocate⟩ := site.read_back hf hrec hend hdoc hn hk
    refine ⟨s₁, hsplice, ?_, fun _ hin => ?_⟩
    · rw [hlocate, hplain]
      rfl
    · rw [hplain, show lines = s.splitLines.map stripLineEnd from rfl, site.take_eq hf hrec]
      exact ⟨(site.body_eq hf hrec hin).1, site.endLine_withDocstring hf hrec hin⟩

theorem locate?_splice_replaced_comment :
    let s : Text := "x();\n/* Old. */\n\n\tfunction add() \x7b\r\n\x7d".toList
    let r : Record :=
      { name := "add".toList, signature := "function add() \x7b".toList, body := "\tfunction add() \x7b\n\x7d\n".toList
        startLine := 3, endLine := 4, language := "javascript".toList, documentation := some "/* Old. */".toList }
    let doc : Text := "/**\n * Adds.\n */".toList
    locate? (.text s) 4 r.language {} = some r ∧
      (s.splitLines.getD r.startLine.toNat []).getLast? ≠ some '\r' ∧
      (Family.ofTag r.language).isBlock (normalLines doc) = true ∧
      ∃ s₁, splice s r doc = .ok s₁ ∧ locate? (.text s₁) 5 r.language {} =
        some { r with startLine := 5, endLine := 6, documentation := some "\t/**\n\t * Adds.\n\t */".toList } := by
  intro s r doc
  have hr : locate? (.text s) 4 r.language {} = some r := by decide +kernel
  have hend : (s.splitLines.getD r.startLine.toNat []).getLast? ≠ some '\r' := by decide +kernel
  have hdoc : (Family.ofTag r.language).isBlock (normalLines doc) = true := by decide +kernel
  have hafter : r.headerAfter doc = 5 := by decide +kernel
  obtain ⟨s₁, hs, hl, -⟩ := locate?_splice hr hend hdoc
  rw [hafter] at hl
  exact ⟨hr, hend, hdoc, s₁, hs, hl.trans (by decide +kernel)⟩

end CursorDoc
