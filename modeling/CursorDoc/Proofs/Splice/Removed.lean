import CursorDoc.Proofs.Comment
import CursorDoc.Proofs.Splice.ReadBack

/-!
# What a splice removes

Above a brace-delimited function a splice takes out the lines of the comment
that was found there, and nothing else. They are one block comment exactly when
the found text is.
-/

namespace CursorDoc

open Text

theorem commentText?_eq_ok {lines : List Text} {start : Int} {found : Option Text}
    (h : commentText? lines start = .ok found) : (commentBlock? lines start.toNat).map DocBlock.text = found := by
  unfold commentText? at h
  split at h
  · cases h
  · exact Except.ok.inj h

theorem mem_of_commentBlock? {lines : List Text} {start : Nat} {block : DocBlock}
    (h : commentBlock? lines start = some block) : ∀ line ∈ block.lines, line ∈ lines := by
  obtain ⟨above, gap, htake, -, -, -⟩ := commentBlock?_eq_some_iff.mp h
  intro line hm
  apply List.mem_of_mem_take
  rw [htake]
  simp [hm]

theorem pieces_text_of_commentBlock? {lines : List Text} (hlines : ∀ line ∈ lines, '\n' ∉ line) {start : Nat}
    {block : DocBlock} (h : commentBlock? lines start = some block) : pieces block.text = block.lines :=
  pieces_joinLines (ne_nil_of_isComment (isComment_of_commentBlock? h))
    fun line hm => hlines line (mem_of_commentBlock? h line hm)

theorem isOneComment_commentBlock? {lines : List Text} {start : Nat} {block : DocBlock}
    (h : commentBlock? lines start = some block) : isOneComment block.text.trim = closesOnce block.lines :=
  have hcom := isComment_of_commentBlock? h
  isOneComment_of_laid hcom (laid_joinLines (ne_nil_of_isComment hcom))

section
variable {s : Text} {above old gap : List Text} {header : Text} {below : List Text}
  (site : CommentSite s.splitLines above old gap header below)
include site

theorem CommentSite.commentText?_eq : commentText? (Buffer.text s).asLines (above ++ (old ++ gap)).length =
    .ok ((reported above.length old).map DocBlock.text) := by
  have hlen : ¬ ((Buffer.text s).asLines.length : Int) < (above ++ (old ++ gap)).length := by
    show ¬ ((s.splitLines.map stripLineEnd).length : Int) < (above ++ (old ++ gap)).length
    rw [site.lines]
    simp
    omega
  unfold commentText?
  rw [if_neg hlen, Int.toNat_natCast]
  exact congrArg (fun found : Option DocBlock => Except.ok (found.map DocBlock.text)) site.found

theorem CommentSite.newline_not_mem_old : ∀ line ∈ old.map stripLineEnd, '\n' ∉ line := by
  intro line hm
  apply newline_not_mem_asLines s
  show line ∈ s.splitLines.map stripLineEnd
  rw [site.lines]
  simp only [List.map_append, List.mem_append]
  exact .inr (.inl hm)

variable (hne : old ≠ [])
include hne

theorem CommentSite.isOneComment_old : isOneComment (trim old.flatten) = closesOnce (old.map stripLineEnd) := by
  apply isOneComment_of_laid (site.isComment_old hne)
  apply laid_flatten hne
  intro line hm
  have hsplit := isSplit_splitLines s
  rw [site.lines] at hsplit
  have hold : ∀ line ∈ old, IsTerminated line := hsplit.of_append.terminated_of_append (by simp)
  obtain ⟨t, -, ht⟩ := lineEnd_of_isTerminated (hold line hm)
  rw [ht]
  simp

end

/-- **What counts as one comment.** The text that is reported above a line is one block comment exactly when no line
of it closes a comment before the end of the last one. A splice removes the lines of that text and no others, so
under the same condition it removes nothing but one comment. -/
theorem isOneComment_iff_closesOnce {lines : List Text} {start : Int} (hlines : ∀ line ∈ lines, '\n' ∉ line) :
    (∀ b, commentText? lines start = .ok (some b) → (isOneComment b.trim = true ↔ closesOnce (pieces b) = true)) ∧
    ∀ {s doc language : Text} {cursor : Int} {settings : Settings} {r : Record},
      (Buffer.text s).asLines = lines → r.startLine = start →
      locate? (.text s) cursor language settings = some r → (Family.ofTag language).isIndented = false →
      ∃ above old new below, s.splitLines = above ++ (old ++ below) ∧
        splice s r doc = .ok (above ++ (new ++ below)).flatten ∧
        (r.documentation = none → old = []) ∧
        ∀ b, r.documentation = some b → commentText? lines start = .ok (some b) ∧
          (isOneComment (trim old.flatten) = true ↔ closesOnce (pieces b) = true) := by
  constructor
  · intro b hb
    obtain ⟨block, hblock, rfl⟩ := Option.map_eq_some_iff.mp (commentText?_eq_ok hb)
    rw [isOneComment_commentBlock? hblock, pieces_text_of_commentBlock? hlines hblock]
  · intro s doc language cursor settings r hs hstart hr hf
    obtain ⟨-, above, old, gap, header, below, name, site, -, hrec⟩ := exists_commentSite_of_locate? hr
    have hdoc : r.documentation = (reported above.length old).map DocBlock.text := by
      rw [hrec.trans (site.record_eq hf)]
    refine ⟨above, old, _, gap ++ header :: below, site.lines, hrec ▸ site.splice_eq hf doc, fun hnone => ?_,
      fun b hb => ⟨?_, ?_⟩⟩
    · exact List.eq_nil_of_length_eq_zero ((site.docLineCount_eq hf hrec).symm.trans (by rw [hnone]; rfl))
    · rw [← hs, ← hstart, (site.startLine_eq hf hrec).1, site.commentText?_eq, ← hdoc, hb]
    · have hne : old ≠ [] := by
        rintro rfl
        rw [hdoc] at hb
        cases hb
      rw [hdoc, reported_of_ne_nil hne] at hb
      obtain rfl := Option.some.inj hb
      have hpieces : pieces (joinLines (old.map stripLineEnd)) = old.map stripLineEnd :=
        pieces_joinLines (by simpa using hne) site.newline_not_mem_old
      rw [site.isOneComment_old hne, DocBlock.text, hpieces]

theorem isOneComment_iff_closesOnce_two_lines :
    let s : Text := "x();\n/* Adds\n   two. */\r\n\n\tfunction add() \x7b\r\n\x7d".toList
    let b : Text := "/* Adds\n   two. */".toList
    let r : Record :=
      { name := "add".toList, signature := "function add() \x7b".toList, body := "\tfunction add() \x7b\n\x7d\n".toList
        startLine := 4, endLine := 5, language := "javascript".toList, documentation := some b }
    (∀ line ∈ (Buffer.text s).asLines, '\n' ∉ line) ∧ isOneComment b.trim = true ∧
      locate? (.text s) 4 r.language {} = some r ∧ ∃ above old new below, s.splitLines = above ++ (old ++ below) ∧
        splice s r [] = .ok (above ++ (new ++ below)).flatten ∧ isOneComment (trim old.flatten) = true := by
  repeat rw [String.toList_ofList]
  intro s b r
  have hlines : ∀ line ∈ (Buffer.text s).asLines, '\n' ∉ line := newline_not_mem_asLines s
  have hb : commentText? (Buffer.text s).asLines 4 = .ok (some b) := by rfl
  have honce : closesOnce (pieces b) = true := by decide
  have hr : locate? (.text s) 4 r.language {} = some r := by decide
  have hf : (Family.ofTag r.language).isIndented = false := by decide
  obtain ⟨hone, hsplice⟩ := @isOneComment_iff_closesOnce _ 4 hlines
  obtain ⟨above, old, new, below, hs, ht, -, hold⟩ := hsplice rfl rfl hr hf
  exact ⟨hlines, (hone b hb).mpr honce, hr, above, old, new, below, hs, ht, (hold b rfl).2.mpr honce⟩

/-- A comment behind code on the line above a header takes in the code and all lines up to an earlier comment; a
splice removes them. -/
theorem splice_removes_code_between_comments :
    let s : Text := "/** Counter. */\nlet count = 0; /* shared */\nfunction add() \x7b\n\x7d\n".toList
    let b : Text := "/** Counter. */\nlet count = 0; /* shared */".toList
    let r : Record :=
      { name := "add".toList, signature := "function add() \x7b".toList, body := "function add() \x7b\n\x7d\n".toList
        startLine := 2, endLine := 3, language := "javascript".toList, documentation := some b }
    commentText? (Buffer.text s).asLines 2 = .ok (some b) ∧ isOneComment b.trim = false ∧
      locate? (.text s) 2 r.language {} = some r ∧
      splice s r "/** Adds. */".toList = .ok "/** Adds. */\nfunction add() \x7b\n\x7d\n".toList := by
  repeat rw [String.toList_ofList]
  intro s b r
  exact ⟨by rfl, by decide, by decide, by rfl⟩

end CursorDoc
