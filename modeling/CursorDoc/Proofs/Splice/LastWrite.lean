import CursorDoc.Proofs.Splice.ReadBack

/-!
# The last write wins

Splicing a second text at a function that was found again after a first splice
gives what splicing the second text alone gives. The second splice finds the
first block at the site of the header and computes the same indentation and
the same terminator for it.
-/

namespace CursorDoc

open Text

theorem indentBlock_nil (indent newline : Text) : indentBlock [] indent newline = [] := rfl

/-! ## Comments -/

section
variable {s : Text} {above old gap : List Text} {header : Text} {below : List Text} {language name doc : Text}
  {settings : Settings} {r : Record} (hf : (Family.ofTag language).isIndented = false)
  (site : CommentSite s.splitLines above old gap header below)
  (hrec : r = recordAt (.ofTag language) settings language (s.splitLines.map stripLineEnd)
    (above ++ (old ++ gap)).length name)
include hf site hrec

theorem CommentSite.splice_write (hr : header.getLast? ≠ some '\r') (hdoc : isComment (normalLines doc) = true)
    (hn : (Family.ofTag language).signatureName? (stripLineEnd header) = some name)
    (hk : 0 ≤ settings.lookbackOf (.ofTag language)) :
    ∃ s₁ r₁, splice s r doc = .ok s₁ ∧ locate? (.text s₁) (r.headerAfter doc) language settings = some r₁ ∧
      ∀ doc₂, splice s₁ r₁ doc₂ = splice s r doc₂ := by
  obtain ⟨s₁, block, hblock, site₁, hsplice, hlocate⟩ := site.locate_write hf hr hdoc hn hk
  have hlen : block.length = (normalLines doc).length := by
    simpa using congrArg List.length hblock
  rw [← site.headerAfter_eq hf hrec hlen] at hlocate
  refine ⟨s₁, _, hrec ▸ hsplice, hlocate, fun doc₂ => ?_⟩
  rw [site₁.splice_eq hf, hrec, site.splice_eq hf]

theorem CommentSite.splice_nil (hnone : r.documentation = none) : splice s r [] = .ok s := by
  have hold := site.docLineCount_eq hf hrec
  rw [hnone] at hold
  obtain rfl := List.eq_nil_of_length_eq_zero hold.symm
  rw [hrec, site.splice_eq hf, indentBlock_nil, ← site.lines, flatten_splitLines]

end

/-! ## Documentation strings -/

section
variable {s : Text} {above : List Text} {header : Text} {old below : List Text} {language name doc : Text}
  {settings : Settings} {r : Record} (hf : (Family.ofTag language).isIndented = true)
  (site : DocstringSite s.splitLines above header old below)
  (hrec : r = recordAt (.ofTag language) settings language (s.splitLines.map stripLineEnd) above.length name)
include hf site hrec

theorem DocstringSite.bodyIndent_write {w first : Text} {rest : List Text} (hw : isBlank w = true)
    (hdeep : (stripLineEnd header).indentWidth < w.length) (hfirst : first.isBlank = false)
    (hold : old.map stripLineEnd = (first :: rest).map (behind w)) :
    bodyIndent (s.splitLines.map stripLineEnd) above.length r.endLine.toNat = w ++ first.indentation := by
  have hbehind : behind w first = w ++ first := by
    rw [behind, hfirst]
    rfl
  have hblank : (w ++ first).isBlank = false := by
    rw [isBlank_append hw, hfirst]
  have hdeeper : (stripLineEnd header).indentWidth < (w ++ first).indentWidth := by
    rw [indentWidth_append hw]
    exact Nat.lt_add_right _ hdeep
  rw [site.bodyIndent_eq hf hrec, List.map_append, hold, List.map_cons, hbehind, List.cons_append,
    indentBelow_of_deeper hblank hdeeper, indentation_append hw]

theorem DocstringSite.splice_write (hr : header.getLast? ≠ some '\r') (hdoc : isDocstring (normalLines doc) = true)
    (hflush : ((normalLines doc).headD []).indentWidth = 0)
    (hn : (Family.ofTag language).signatureName? (stripLineEnd header) = some name)
    (hk : 0 ≤ settings.lookbackOf (.ofTag language)) :
    ∃ s₁ r₁, splice s r doc = .ok s₁ ∧ locate? (.text s₁) (r.headerAfter doc) language settings = some r₁ ∧
      ∀ doc₂, splice s₁ r₁ doc₂ = splice s r doc₂ := by
  obtain ⟨s₁, block, hblock, site₁, hsplice, hlocate⟩ := site.locate_write hf hr hdoc hn hk hrec
  have hheader : (s.splitLines.map stripLineEnd).getD above.length [] = stripLineEnd (terminated header) := by
    rw [site.lines, stripLineEnd_terminated]
    simp
  have hdeep := lt_length_bodyIndent (s.splitLines.map stripLineEnd) above.length r.endLine.toNat
  rw [hheader] at hdeep
  rw [← site.headerAfter_eq hf hrec] at hlocate
  -- the first line of the string is flush with its margin, so its indentation is that of the block
  obtain ⟨first, rest, hnormal⟩ := List.exists_cons_of_ne_nil (ne_nil_of_isDocstring hdoc)
  rw [hnormal] at hdoc hflush hblock
  have hfirst := isBlank_of_isDocstring hdoc
  have hflat : first.indentation = [] := List.eq_nil_of_length_eq_zero hflush
  refine ⟨s₁, _, hsplice, hlocate, fun doc₂ => ?_⟩
  rw [site₁.splice_eq hf doc₂ rfl, site.splice_eq hf doc₂ hrec, terminated_terminated, newlineOf_terminated,
    site₁.bodyIndent_write hf rfl (isBlank_bodyIndent _ _ _) hdeep hfirst hblock, hflat, List.append_nil]

theorem DocstringSite.splice_nil (hnone : r.documentation = none) (hend : header.getLast? = some '\n') :
    splice s r [] = .ok s := by
  have hold := site.docLineCount_eq hf hrec
  rw [hnone] at hold
  obtain rfl := List.eq_nil_of_length_eq_zero hold.symm
  have hmem : header ∈ s.splitLines := by
    rw [site.lines]
    simp
  have hheader : IsTerminated header := by
    obtain h | hn := (isSplit_splitLines s).terminated_or header hmem
    · exact h
    · exact absurd (List.mem_of_getLast? hend) hn
  have hlines : above ++ [header] ++ ([] ++ below) = s.splitLines := by
    rw [site.lines]
    simp
  rw [site.splice_eq hf [] hrec, indentBlock_nil, terminated_of_isTerminated hheader, hlines, flatten_splitLines]

end

/-! ## Either kind -/

/-- **Last write wins.** After documentation of the right shape was spliced in, splicing any other text at the
function that is found again gives what splicing that text in the first place gives; so a second splice of the
same text changes nothing, and splicing nothing undoes the first splice where there was no documentation. -/
theorem splice_splice {s doc language : Text} {cursor : Int} {settings : Settings} {r : Record}
    (hr : locate? (.text s) cursor language settings = some r)
    (hend : (s.splitLines.getD r.startLine.toNat []).getLast? ≠ some '\r')
    (hdoc : (Family.ofTag language).isBlock (normalLines doc) = true)
    (hflush : (Family.ofTag language).isIndented = true → ((normalLines doc).headD []).indentWidth = 0) :
    ∃ s₁ r₁, splice s r doc = .ok s₁ ∧ locate? (.text s₁) (r.headerAfter doc) language settings = some r₁ ∧
      (∀ doc₂, splice s₁ r₁ doc₂ = splice s r doc₂) ∧ splice s₁ r₁ doc = .ok s₁ ∧
      (r.documentation = none → (s.splitLines.getD r.startLine.toNat []).getLast? = some '\n' →
        splice s₁ r₁ [] = .ok s) := by
  cases hf : (Family.ofTag language).isIndented with
  | false =>
    rw [Family.isBlock, hf] at hdoc
    obtain ⟨hk, above, old, gap, header, below, name, site, hn, hrec⟩ := exists_commentSite_of_locate? hr
    rw [(site.startLine_eq hf hrec).2] at hend ⊢
    obtain ⟨s₁, r₁, hsplice, hlocate, hlast⟩ := site.splice_write hf hrec hend hdoc hn hk
    refine ⟨s₁, r₁, hsplice, hlocate, hlast, (hlast doc).trans hsplice, ?_⟩
    intro hnone _
    exact (hlast []).trans (site.splice_nil hf hrec hnone)
  | true =>
    rw [Family.isBlock, hf] at hdoc
    obtain ⟨hk, above, header, old, below, name, site, hn, hrec⟩ := exists_docstringSite_of_locate? hr
    rw [(site.startLine_eq hf hrec).2] at hend ⊢
    obtain ⟨s₁, r₁, hsplice, hlocate, hlast⟩ := site.splice_write hf hrec hend hdoc (hflush hf) hn hk
    refine ⟨s₁, r₁, hsplice, hlocate, hlast, (hlast doc).trans hsplice, ?_⟩
    intro hnone hnewline
    exact (hlast []).trans (site.splice_nil hf hrec hnone hnewline)

theorem splice_splice_docstring :
    let s : Text := "def f(x):\n    \"\"\"Old.\"\"\"\n    return x".toList
    let r : Record :=
      { name := "f".toList, signature := "def f(x):".toList
        body := "def f(x):\n    \"\"\"Old.\"\"\"\n    return x\n".toList, startLine := 0, endLine := 2
        language := "python".toList, documentation := some "    \"\"\"Old.\"\"\"".toList }
    let doc : Text := "  \"\"\"New.\n\n    More.\n  \"\"\"\n".toList
    locate? (.text s) 2 r.language {} = some r ∧
      (s.splitLines.getD r.startLine.toNat []).getLast? ≠ some '\r' ∧
      (Family.ofTag r.language).isBlock (normalLines doc) = true ∧
      ((normalLines doc).headD []).indentWidth = 0 ∧
      ∃ s₁ r₁, splice s r doc = .ok s₁ ∧ locate? (.text s₁) 0 r.language {} = some r₁ ∧
        ∀ doc₂, splice s₁ r₁ doc₂ = splice s r doc₂ := by
  intro s r doc
  have hr : locate? (.text s) 2 r.language {} = some r := by decide +kernel
  have hend : (s.splitLines.getD r.startLine.toNat []).getLast? ≠ some '\r' := by decide +kernel
  have hdoc : (Family.ofTag r.language).isBlock (normalLines doc) = true := by decide +kernel
  have hflush : ((normalLines doc).headD []).indentWidth = 0 := by decide +kernel
  have hafter : r.headerAfter doc = 0 := by decide +kernel
  obtain ⟨s₁, r₁, hs, hl, hlast, -⟩ := splice_splice hr hend hdoc fun _ => hflush
  rw [hafter] at hl
  exact ⟨hr, hend, hdoc, hflush, s₁, r₁, hs, hl, hlast⟩

end CursorDoc
