import CursorDoc.Proofs.Splice.Edit
import CursorDoc.Proofs.Splice.LastWrite
import CursorDoc.Proofs.Splice.Normal

/-!
# Saving back what was read

Documentation that is read from a source and spliced in again loses its margin
and is put behind the indentation of its place. For a comment that is the
indentation of the header, so a second round changes nothing. For a
documentation string it is the indentation of the nearest line below the
header, which is the first line of the string itself. So the string moves on
with every round, unless its first line is flush with its margin.
-/

namespace CursorDoc

open Text

/-! ## Texts without other white space than spaces, tabs and newlines -/

section
variable {s : Text} (hs : ∀ c ∈ s, isSpace c = true → c = ' ' ∨ c = '\t' ∨ c = '\n')
include hs

theorem isTidy_of_mem_asLines : ∀ line ∈ (Buffer.text s).asLines, isTidy line = true := by
  intro line hm
  have hn := newline_not_mem_asLines s line hm
  obtain ⟨raw, hraw, rfl⟩ := List.mem_map.mp hm
  unfold isTidy
  rw [List.all_eq_true]
  intro c hc
  have hmem : c ∈ s := by
    rw [← flatten_splitLines s]
    exact List.mem_flatten.mpr ⟨raw, hraw, mem_of_mem_dropEndWhile hc⟩
  cases hspace : isSpace c with
  | false => rfl
  | true =>
    obtain rfl | rfl | rfl := hs c hmem hspace
    · rfl
    · rfl
    · exact absurd hc hn

theorem getLast?_ne_return_of_mem : ∀ line ∈ s.splitLines, line.getLast? ≠ some '\r' := by
  intro line hm hlast
  have hmem : '\r' ∈ s := by
    rw [← flatten_splitLines s]
    exact List.mem_flatten.mpr ⟨line, hm, List.mem_of_getLast? hlast⟩
  obtain h | h | h := hs '\r' hmem rfl <;> cases h

end

theorem all_isMarginChar_indentation {line : Text} (h : isTidy line = true) :
    line.indentation.all isMarginChar = true := by
  have ht : isTidy line.indentation = true := isTidy_of_subset h (List.takeWhile_prefix _).subset
  rw [all_isMarginChar_of_isTidy ht]
  exact isBlank_indentation line

theorem all_isMarginChar_bodyIndent {lines : List Text} (h : ∀ line ∈ lines, isTidy line = true)
    (startLine endLine : Nat) : (bodyIndent lines startLine endLine).all isMarginChar = true := by
  obtain ⟨line, hm, -, hindent⟩ | hindent := bodyIndent_cases lines startLine endLine
  · rw [hindent]
    exact all_isMarginChar_indentation (h line hm)
  · have hheader : (lines.getD startLine []).indentation.all isMarginChar = true := by
      rw [List.getD_eq_getElem?_getD]
      cases hget : lines[startLine]? with
      | none => rfl
      | some line => exact all_isMarginChar_indentation (h line (List.mem_of_getElem? hget))
    rw [hindent, List.all_append, hheader]
    rfl

/-! ## Blocks that were read -/

theorem isFilled_of_isComment {lines : List Text} (ht : ∀ line ∈ lines, isTidy line = true)
    (h : isComment lines = true) : IsFilled lines := by
  unfold isComment at h
  rw [Bool.and_eq_true, Bool.and_eq_true] at h
  obtain ⟨⟨hopen, hclose⟩, -⟩ := h
  refine ⟨ht, ?_, ?_⟩
  · cases lines with
    | nil => cases hopen
    | cons first rest => rw [List.map_cons, List.head?_cons, isBlank_of_opensComment hopen]
  · rw [List.getLast?_map]
    cases hl : lines.getLast? with
    | none =>
      rw [hl] at hclose
      cases hclose
    | some last =>
      rw [hl] at hclose
      rw [Option.map_some, isBlank_of_closesComment hclose]

theorem isComment_dedentLines {lines : List Text} (ht : ∀ line ∈ lines, isTidy line = true) :
    isComment (dedentLines lines) = isComment lines := by
  have hblank := isBlank_of_all_isMarginChar (all_isMarginChar_margin lines)
  rw [← isComment_map (trim_behind hblank), map_behind_dedentLines ht, isComment_map (trim_behind isBlank_nil)]

/-! ## Comments -/

section
variable {s : Text} {above old gap : List Text} {header : Text} {below : List Text} {language name d : Text}
  {settings : Settings} {r : Record} (hf : (Family.ofTag language).isIndented = false)
  (site : CommentSite s.splitLines above old gap header below)
  (hrec : r = recordAt (.ofTag language) settings language (s.splitLines.map stripLineEnd)
    (above ++ (old ++ gap)).length name)
include hf site hrec

theorem CommentSite.save_back (hs : ∀ c ∈ s, isSpace c = true → c = ' ' ∨ c = '\t' ∨ c = '\n')
    (hn : (Family.ofTag language).signatureName? (stripLineEnd header) = some name)
    (hk : 0 ≤ settings.lookbackOf (.ofTag language)) (hd : r.documentation = some d) :
    ∃ s₁ r₁ d₁, splice s r d = .ok s₁ ∧ locate? (.text s₁) (r.headerAfter d) language settings = some r₁ ∧
      r₁.documentation = some d₁ ∧ splice s₁ r₁ d₁ = .ok s₁ := by
  rw [hrec.trans (site.record_eq hf)] at hd
  obtain ⟨hne, rfl⟩ := text_reported hd
  have htidy : ∀ line ∈ s.splitLines.map stripLineEnd, isTidy line = true := isTidy_of_mem_asLines hs
  have hr : header.getLast? ≠ some '\r' := getLast?_ne_return_of_mem hs header (by rw [site.lines]; simp)
  have hold : ∀ line ∈ old.map stripLineEnd, isTidy line = true := by
    intro line hm
    apply htidy
    rw [site.lines, List.map_append, List.map_append]
    exact List.mem_append_right _ (List.mem_append_left _ hm)
  have hheader : isTidy (stripLineEnd header) = true := htidy _ (List.mem_map_of_mem (by rw [site.lines]; simp))
  have hw := all_isMarginChar_indentation hheader
  have hcom := site.isComment_old hne
  have hfilled := isFilled_of_isComment hold hcom
  have hnormal := hfilled.normalLines_joinLines
  have hdoc : isComment (normalLines (joinLines (old.map stripLineEnd))) = true := by
    rw [hnormal, isComment_dedentLines hold, hcom]
  obtain ⟨s₁, block, hblock, site₁, hsplice, hlocate⟩ := site.locate_write hf hr hdoc hn hk
  have hlen : block.length = (normalLines (joinLines (old.map stripLineEnd))).length := by
    simpa using congrArg List.length hblock
  have hneb : block ≠ [] := by
    rintro rfl
    exact ne_nil_of_isComment hdoc (List.eq_nil_of_length_eq_zero hlen.symm)
  rw [← site.headerAfter_eq hf hrec hlen] at hlocate
  refine ⟨s₁, _, joinLines (block.map stripLineEnd), hrec ▸ hsplice, hlocate, ?_, ?_⟩
  · rw [site₁.record_eq hf, reported_of_ne_nil hneb]
    rfl
  · have hsame := hfilled.normalLines_behind hw 0
    rw [List.replicate_zero, List.append_nil, ← hnormal, ← hblock] at hsame
    rw [site.splice_eq hf, indentBlock_eq] at hsplice
    rw [site₁.splice_eq hf, indentBlock_eq, hsame, hsplice]

end

/-! ## Documentation strings -/

theorem exists_first_of_docstring {lines : List Text} {p : Prop}
    (h : isDocstring lines = true ∨ isOpenDocstring lines = true ∧ p) :
    ∃ first rest, lines = first :: rest ∧ first.isBlank = false := by
  cases lines with
  | nil => obtain h | ⟨h, -⟩ := h <;> cases h
  | cons first rest =>
    refine ⟨first, rest, rfl, ?_⟩
    obtain h | ⟨h, -⟩ := h
    · exact isBlank_of_isDocstring h
    · exact isBlank_of_isOpenDocstring h

/-- What is found below a header is filled up to blank lines at the end, of which a closed string has none. -/
theorem exists_filled_of_docstring {lines below : List Text} (ht : ∀ line ∈ lines, isTidy line = true)
    (h : isDocstring lines = true ∨ isOpenDocstring lines = true ∧ below = []) :
    ∃ filled blanks, lines = filled ++ blanks ∧ IsFilled filled ∧ (∀ line ∈ blanks, line.isBlank = true) ∧
      (isDocstring filled = true ∧ blanks = [] ∨ isOpenDocstring filled = true ∧ below = []) := by
  obtain ⟨filled, blanks, rfl, hblanks, hlast⟩ := exists_last_run isBlank lines
  obtain ⟨first, back, hlines, hb⟩ := exists_first_of_docstring h
  cases filled with
  | nil =>
    have hfirst := hblanks first (by rw [← List.nil_append blanks, hlines]; simp)
    rw [hb] at hfirst
    cases hfirst
  | cons line rest =>
    obtain ⟨rfl, -⟩ := List.cons.inj hlines
    refine ⟨line :: rest, blanks, rfl, ⟨fun line hm => ht line (List.mem_append_left _ hm), ?_, ?_⟩, hblanks, ?_⟩
    · rw [List.map_cons, List.head?_cons, hb]
    · rw [List.getLast?_map, List.getLast?_cons, Option.map_some]
      rw [hlast _ (by rw [List.getLast?_cons]; rfl)]
    · obtain h | ⟨h, hbelow⟩ := h
      · have hend : blanks = [] := by
          cases hl : blanks.getLast? with
          | none => exact List.getLast?_eq_none_iff.mp hl
          | some last =>
            have hfilled := isBlank_getLast?_of_isDocstring h last (by rw [List.getLast?_append, hl]; rfl)
            rw [hblanks last (List.mem_of_getLast? hl)] at hfilled
            cases hfilled
        rw [hend, List.append_nil] at h
        exact .inl ⟨h, hend⟩
      · rw [isOpenDocstring_append (by simp) hblanks] at h
        exact .inr ⟨h, hbelow⟩

theorem leadsWith_written {filled blanks below : List Text} (h : IsFilled filled)
    (hstring : isDocstring filled = true ∧ blanks = [] ∨ isOpenDocstring filled = true ∧ below = []) {w : Text}
    (hw : w.all isMarginChar = true) {n : Nat} (hn : (∀ line ∈ blanks, line = []) → n = 0) :
    LeadsWith ((dedentLines filled).map (behind w) ++ List.replicate n []) below := by
  have hmargin := isBlank_of_all_isMarginChar (all_isMarginChar_margin filled)
  have hblank := isBlank_of_all_isMarginChar hw
  obtain ⟨hclosed, rfl⟩ | ⟨hopen, rfl⟩ := hstring
  · rw [hn (by simp), List.replicate_zero, List.append_nil]
    refine .inr (.inl ?_)
    rw [isDocstring_map (trim_behind hblank), ← isDocstring_map (trim_behind hmargin), map_behind_dedentLines h.tidy,
      isDocstring_map (trim_behind isBlank_nil), hclosed]
  · refine .inr (.inr ⟨?_, rfl⟩)
    rw [isOpenDocstring_append (h.without_margin.indent hw).ne_nil
      fun line hm => by rw [(List.mem_replicate.mp hm).2]; rfl]
    rw [isOpenDocstring_map (trim_behind hblank), ← isOpenDocstring_map (trim_behind hmargin),
      map_behind_dedentLines h.tidy, isOpenDocstring_map (trim_behind isBlank_nil), hopen]

/-- Lines stay as they are behind a new indentation exactly if it is the old one and no blank lines were lost. -/
theorem map_behind_eq_iff {first : Text} {rest : List Text} (h : IsFilled (first :: rest)) (w : Text) (n : Nat) :
    (first :: rest).map (behind (w ++ first.indentation)) = (first :: rest).map (behind w) ++ List.replicate n [] ↔
      first.indentWidth = 0 ∧ (first :: rest ++ List.replicate n []).getLast? ≠ some [] := by
  have hb : first.isBlank = false := Option.some.inj h.first
  cases n with
  | zero =>
    rw [List.replicate_zero, List.append_nil, List.append_nil, and_iff_left h.getLast?_ne]
    constructor
    · intro heq
      rw [List.map_cons, List.map_cons, behind_of_not_isBlank hb, behind_of_not_isBlank hb, List.append_assoc] at heq
      have hline := List.append_cancel_left (List.cons.inj heq).1
      have hlen := congrArg List.length hline
      rw [List.length_append] at hlen
      show first.indentation.length = 0
      omega
    · intro hflat
      rw [List.eq_nil_of_length_eq_zero hflat, List.append_nil]
  | succ n =>
    constructor
    · intro heq
      have hlen := congrArg List.length heq
      rw [List.length_append, List.length_map, List.length_map, List.length_replicate] at hlen
      omega
    · rintro ⟨-, hlast⟩
      rw [List.replicate_succ', ← List.append_assoc, List.getLast?_concat] at hlast
      exact absurd rfl hlast

theorem flatten_indentBlock_eq_iff {d d₁ w newline first : Text} {rest front below : List Text} {n : Nat}
    (h : IsFilled (first :: rest)) (hd : normalLines d = first :: rest ++ List.replicate n [])
    (hd₁ : normalLines d₁ = first :: rest) (hw : w.all isMarginChar = true) (hnewline : IsTerminated newline) :
    (front ++ (indentBlock d₁ (w ++ first.indentation) newline ++ below)).flatten =
        (front ++ (indentBlock d w newline ++ below)).flatten ↔
      first.indentWidth = 0 ∧ (normalLines d).getLast? ≠ some [] := by
  have hdeep : (w ++ first.indentation).all isMarginChar = true := by
    rw [List.all_append, hw, all_isMarginChar_indentation (h.tidy first (by simp))]
    rfl
  have hterminated (doc : Text) {indent : Text} (hi : indent.all isMarginChar = true) :
      ∀ line ∈ indentBlock doc indent newline, IsTerminated line :=
    isTerminated_of_mem_indentBlock (newline_not_mem_of_isTidy (isTidy_of_all_isMarginChar hi)) hnewline
  rw [flatten_inj_of_terminated (hterminated d₁ hdeep) (hterminated d hw), indentBlock_eq_iff, hd, hd₁,
    List.map_append, List.map_replicate]
  exact map_behind_eq_iff h w n

section
variable {s : Text} {above : List Text} {header : Text} {old below : List Text} {language name d : Text}
  {settings : Settings} {r : Record} (hf : (Family.ofTag language).isIndented = true)
  (site : DocstringSite s.splitLines above header old below)
  (hrec : r = recordAt (.ofTag language) settings language (s.splitLines.map stripLineEnd) above.length name)
include hf site hrec

theorem DocstringSite.exists_saved (hs : ∀ c ∈ s, isSpace c = true → c = ' ' ∨ c = '\t' ∨ c = '\n')
    (hd : r.documentation = some d) :
    ∃ s₁ w filled n, w.all isMarginChar = true ∧ (stripLineEnd header).indentWidth < w.length ∧ IsFilled filled ∧
      normalLines d = dedentLines filled ++ List.replicate n [] ∧ splice s r d = .ok s₁ ∧
      s₁ = ((above ++ [terminated header]) ++ (indentBlock d w (newlineOf header) ++ below)).flatten ∧
      DocstringSite s₁.splitLines above (terminated header) (indentBlock d w (newlineOf header)) below := by
  rw [hrec.trans (site.record_eq hf)] at hd
  obtain ⟨hne, rfl⟩ := text_reported hd
  have htidy : ∀ line ∈ s.splitLines.map stripLineEnd, isTidy line = true := isTidy_of_mem_asLines hs
  have hr : header.getLast? ≠ some '\r' := getLast?_ne_return_of_mem hs header (by rw [site.lines]; simp)
  have hold : ∀ line ∈ old.map stripLineEnd, isTidy line = true := by
    intro line hm
    apply htidy
    rw [site.lines, List.map_append, List.map_cons, List.map_append]
    simp [hm]
  have hlead := (docstringSite_iff.mp site).2.resolve_left fun h => hne (List.map_eq_nil_iff.mp h.1)
  obtain ⟨filled, blanks, hlines, hfilled, hblanks, hstring⟩ := exists_filled_of_docstring hold hlead
  rw [hlines] at hold ⊢
  obtain ⟨n, hnormal, hn⟩ := hfilled.exists_normalLines hblanks fun line hm => hold line (List.mem_append_right _ hm)
  have hw := all_isMarginChar_bodyIndent htidy above.length r.endLine.toNat
  have hheader : (s.splitLines.map stripLineEnd).getD above.length [] = stripLineEnd header := by
    rw [site.lines]
    simp
  have hdeep := lt_length_bodyIndent (s.splitLines.map stripLineEnd) above.length r.endLine.toNat
  rw [hheader] at hdeep
  refine ⟨_, _, filled, n, hw, hdeep, hfilled, hnormal, site.splice_eq hf _ hrec, rfl, ?_⟩
  refine docstringSite_iff.mpr ⟨site.splitLines_write hr _ _, ?_⟩
  rw [plain_indentBlock _ _ _ isLineEnd_of_mem_newlineOf, hnormal, List.map_append, List.map_replicate]
  exact leadsWith_written hfilled hstring hw hn

theorem DocstringSite.save_back (hs : ∀ c ∈ s, isSpace c = true → c = ' ' ∨ c = '\t' ∨ c = '\n')
    (hn : (Family.ofTag language).signatureName? (stripLineEnd header) = some name)
    (hk : 0 ≤ settings.lookbackOf (.ofTag language)) (hd : r.documentation = some d) :
    ∃ s₁ r₁ d₁ s₂, splice s r d = .ok s₁ ∧ locate? (.text s₁) (r.headerAfter d) language settings = some r₁ ∧
      r₁.documentation = some d₁ ∧ splice s₁ r₁ d₁ = .ok s₂ ∧
      (s₂ = s₁ ↔ ((normalLines d).headD []).indentWidth = 0 ∧ (normalLines d).getLast? ≠ some []) := by
  obtain ⟨s₁, w, filled, n, hw, hdeep, hfilled, hnormal, hsplice, hs₁, site₁⟩ := site.exists_saved hf hrec hs hd
  have hblank := isBlank_of_all_isMarginChar hw
  have hblock := plain_indentBlock d w (newlineOf header) isLineEnd_of_mem_newlineOf
  generalize hgiven : indentBlock d w (newlineOf header) = block at hs₁ site₁ hblock
  have hkept := hfilled.without_margin
  have hagain : normalLines (joinLines (block.map stripLineEnd)) = dedentLines filled := by
    rw [hblock, hnormal, List.map_append, List.map_replicate]
    exact hfilled.normalLines_behind hw n
  obtain ⟨first, rest, hfirst⟩ := List.exists_cons_of_ne_nil hkept.ne_nil
  rw [hfirst] at hkept hnormal hagain
  have hb : first.isBlank = false := Option.some.inj hkept.first
  have hne : block ≠ [] := by
    rintro rfl
    rw [hnormal] at hblock
    cases hblock
  rw [← stripLineEnd_terminated] at hn hdeep
  have hlocate := locate?_of_header (block ++ below) site₁.lines hn hk
  have hafter : r.headerAfter d = above.length := site.headerAfter_eq hf hrec
  rw [← hafter] at hlocate
  generalize hrec₁ : recordAt (.ofTag language) settings language (s₁.splitLines.map stripLineEnd) above.length name =
    r₁ at hlocate
  -- the indentation is read from the block that the first round wrote
  rw [hnormal] at hblock
  have hrest : block.map stripLineEnd = (first :: (rest ++ List.replicate n [])).map (behind w) := hblock
  have hsplice₂ := site₁.splice_eq hf (joinLines (block.map stripLineEnd)) hrec₁.symm
  rw [site₁.bodyIndent_write hf hrec₁.symm hblank hdeep hb hrest, terminated_terminated, newlineOf_terminated] at hsplice₂
  refine ⟨s₁, r₁, joinLines (block.map stripLineEnd), _, hsplice, hlocate, ?_, hsplice₂, ?_⟩
  · rw [← hrec₁, site₁.record_eq hf, reported_of_ne_nil hne]
    rfl
  · have hheader := (isSplit_splitLines s).terminated_or header (by rw [site.lines]; simp)
    have hr : header.getLast? ≠ some '\r' := getLast?_ne_return_of_mem hs header (by rw [site.lines]; simp)
    have hnewline := isTerminated_newlineOf (isTerminated_or_lineEnd_eq_nil hheader hr)
    have hhead : (normalLines d).headD [] = first := by
      rw [hnormal]
      rfl
    rw [← hgiven] at hs₁
    rw [hs₁, hhead]
    exact flatten_indentBlock_eq_iff hkept hnormal hagain hw hnewline

end

/-! ## Either kind -/

/-- **Saving back what was read.** Documentation that was read can be spliced in again, and then again after it was
read a second time. The second round changes nothing for a comment; for a documentation string it changes nothing
exactly if, without its margin, its first line is flush and its last one is not blank. -/
theorem splice_read_back_iff {s d language : Text} {cursor : Int} {settings : Settings} {r : Record}
    (hs : ∀ c ∈ s, isSpace c = true → c = ' ' ∨ c = '\t' ∨ c = '\n')
    (hr : locate? (.text s) cursor language settings = some r) (hd : r.documentation = some d) :
    ∃ s₁ r₁ d₁ s₂, splice s r d = .ok s₁ ∧ locate? (.text s₁) (r.headerAfter d) language settings = some r₁ ∧
      r₁.documentation = some d₁ ∧ splice s₁ r₁ d₁ = .ok s₂ ∧
      (s₂ = s₁ ↔ ((Family.ofTag language).isIndented = true →
        ((normalLines d).headD []).indentWidth = 0 ∧ (normalLines d).getLast? ≠ some [])) := by
  cases hf : (Family.ofTag language).isIndented with
  | false =>
    obtain ⟨hk, above, old, gap, header, below, name, site, hn, hrec⟩ := exists_commentSite_of_locate? hr
    obtain ⟨s₁, r₁, d₁, hsplice, hlocate, hd₁, hsame⟩ := site.save_back hf hrec hs hn hk hd
    exact ⟨s₁, r₁, d₁, s₁, hsplice, hlocate, hd₁, hsame, iff_of_true rfl nofun⟩
  | true =>
    obtain ⟨hk, above, header, old, below, name, site, hn, hrec⟩ := exists_docstringSite_of_locate? hr
    obtain ⟨s₁, r₁, d₁, s₂, hsplice, hlocate, hd₁, hsplice₂, hiff⟩ := site.save_back hf hrec hs hn hk hd
    exact ⟨s₁, r₁, d₁, s₂, hsplice, hlocate, hd₁, hsplice₂, hiff.trans ⟨fun h _ => h, fun h => h rfl⟩⟩

theorem splice_read_back_iff_relative_indentation :
    let s : Text := "def f():\n    \"\"\"A\n\n      b\n    \"\"\"\n    return 1\n".toList
    let r : Record :=
      { name := "f".toList, signature := "def f():".toList
        body := "def f():\n    \"\"\"A\n\n      b\n    \"\"\"\n    return 1\n".toList, startLine := 0, endLine := 5
        language := "python".toList, documentation := some "    \"\"\"A\n\n      b\n    \"\"\"".toList }
    let d : Text := "    \"\"\"A\n\n      b\n    \"\"\"".toList
    (∀ c ∈ s, isSpace c = true → c = ' ' ∨ c = '\t' ∨ c = '\n') ∧
      locate? (.text s) 4 "python".toList {} = some r ∧ r.documentation = some d ∧
      ∃ s₁ r₁ d₁, splice s r d = .ok s₁ ∧ locate? (.text s₁) 0 "python".toList {} = some r₁ ∧
        r₁.documentation = some d₁ ∧ splice s₁ r₁ d₁ = .ok s₁ := by
  repeat rw [String.toList_ofList]
  intro s r d
  have hall : s.all (fun c => decide (isSpace c = true → c = ' ' ∨ c = '\t' ∨ c = '\n')) = true := by decide
  have hs : ∀ c ∈ s, isSpace c = true → c = ' ' ∨ c = '\t' ∨ c = '\n' := fun c hc =>
    of_decide_eq_true (List.all_eq_true.mp hall c hc)
  have hr : locate? (.text s) 4 "python".toList {} = some r := by decide
  have hflush : ((normalLines d).headD []).indentWidth = 0 ∧ (normalLines d).getLast? ≠ some [] := by decide
  have hafter : r.headerAfter d = 0 := by decide
  obtain ⟨s₁, r₁, d₁, s₂, hsplice, hlocate, hd₁, hsplice₂, hiff⟩ := splice_read_back_iff hs hr rfl
  obtain rfl := hiff.mpr fun _ => hflush
  rw [hafter] at hlocate
  exact ⟨hs, hr, rfl, _, r₁, d₁, hsplice, hlocate, hd₁, hsplice₂⟩

/-- A string whose margin is that of an inner line: each round indents it two columns more. -/
theorem splice_read_back_drifts :
    let s : Text := "def f():\n    \"\"\"A\n  b\n    \"\"\"\n    return 1\n".toList
    let s₁ : Text := "def f():\n      \"\"\"A\n    b\n      \"\"\"\n    return 1\n".toList
    let s₂ : Text := "def f():\n        \"\"\"A\n      b\n        \"\"\"\n    return 1\n".toList
    let d : Text := "    \"\"\"A\n  b\n    \"\"\"".toList
    let d₁ : Text := "      \"\"\"A\n    b\n      \"\"\"".toList
    (∀ c ∈ s, isSpace c = true → c = ' ' ∨ c = '\t' ∨ c = '\n') ∧
      (locate? (.text s) 0 "python".toList {}).map Record.documentation = some (some d) ∧
      (locate? (.text s₁) 0 "python".toList {}).map Record.documentation = some (some d₁) ∧
      document? "python".toList {} s 0 d = some s₁ ∧ document? "python".toList {} s₁ 0 d₁ = some s₂ ∧ s₂ ≠ s₁ := by
  repeat rw [String.toList_ofList]
  intro s s₁ s₂ d d₁
  have hall : s.all (fun c => decide (isSpace c = true → c = ' ' ∨ c = '\t' ∨ c = '\n')) = true := by decide
  refine ⟨fun c hc => of_decide_eq_true (List.all_eq_true.mp hall c hc), ?_⟩
  decide

end CursorDoc
