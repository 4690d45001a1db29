import CursorDoc.Proofs.Splice.Site

/-!
# Splicing at located functions

A record that was located in a text fits it, so splicing succeeds, and what it
writes is given by the site of the header. Where the header does not end in a
bare carriage return, the written lines are again the lines of a text, and the
header that was located keeps its signature.
-/

namespace CursorDoc

open Text

def docLineCount : Option Text → Nat
  | none => 0
  | some doc => (pieces doc).length

theorem docLineCount_reported {s : Text} {first : Nat} {old : List Text} (h : ∀ line ∈ old, line ∈ s.splitLines) :
    docLineCount ((reported first old).map DocBlock.text) = old.length := by
  cases old with
  | nil => rfl
  | cons line lines =>
    have hp : pieces (joinLines ((line :: lines).map stripLineEnd)) = (line :: lines).map stripLineEnd := by
      apply pieces_joinLines (by simp)
      intro plain hm
      obtain ⟨raw, hraw, rfl⟩ := List.mem_map.mp hm
      exact newline_not_mem_asLines s _ (List.mem_map_of_mem (h raw hraw))
    rw [reported_of_ne_nil (by simp), Option.map_some, docLineCount, DocBlock.text, hp, List.length_map]

section
variable {s language : Text} {settings : Settings}

theorem exists_header_of_locate? {cursor : Int} {r : Record}
    (h : locate? (.text s) cursor language settings = some r) :
    0 ≤ settings.lookbackOf (.ofTag language) ∧ ∃ front header below name,
      s.splitLines = front ++ header :: below ∧
      (Family.ofTag language).signatureName? (stripLineEnd header) = some name ∧
      r = recordAt (.ofTag language) settings language (s.splitLines.map stripLineEnd) front.length name := by
  obtain ⟨hk, above, header, below, name, hl, hn, hr⟩ := exists_of_locate? h
  obtain ⟨front, rest, hs, rfl, hrest⟩ := List.map_eq_append_iff.mp hl
  obtain ⟨raw, back, rfl, rfl, rfl⟩ := List.map_eq_cons_iff.mp hrest
  rw [List.length_map] at hr
  exact ⟨hk, front, raw, back, name, hs, hn, hr⟩

theorem locate?_of_header {front : List Text} {header : Text} (below : List Text) {name : Text}
    (hs : s.splitLines = front ++ header :: below)
    (hn : (Family.ofTag language).signatureName? (stripLineEnd header) = some name)
    (hk : 0 ≤ settings.lookbackOf (.ofTag language)) :
    locate? (.text s) front.length language settings =
      some (recordAt (.ofTag language) settings language (s.splitLines.map stripLineEnd) front.length name) := by
  have hl : (Buffer.text s).asLines = front.map stripLineEnd ++ stripLineEnd header :: below.map stripLineEnd := by
    show s.splitLines.map stripLineEnd = _
    rw [hs, List.map_append, List.map_cons]
  have := locate?_of_signature hl hn hk
  rw [List.length_map] at this
  exact this

theorem splice_recordAt {header : Nat} (h : header < s.splitLines.length) (name doc : Text) {r : Record}
    (hr : r = recordAt (.ofTag language) settings language (s.splitLines.map stripLineEnd) header name) :
    splice s r doc = .ok (spliceAt s.splitLines (.ofTag language) header r.endLine.toNat
      ((Family.ofTag language).docBlock? (s.splitLines.map stripLineEnd) header) doc).flatten := by
  have hp : header < (s.splitLines.map stripLineEnd).length := by
    rw [List.length_map]; exact h
  obtain ⟨hstart, hle, hlt⟩ := Family.span_bounds (.ofTag language) settings.skipLiterals hp
  rw [List.length_map] at hlt
  have hs : r.startLine = header := by rw [hr]; exact congrArg Int.ofNat hstart
  have he : r.endLine =
      ((Family.ofTag language).span settings.skipLiterals (s.splitLines.map stripLineEnd) header).endLine := by
    rw [hr]; rfl
  have hl : r.language = language := by rw [hr]; rfl
  have hd : r.documentation =
      ((Family.ofTag language).docBlock? (s.splitLines.map stripLineEnd) header).map DocBlock.text := by
    rw [hr]
    unfold recordAt
    simp only [hstart]
  have hfits : 0 ≤ (header : Int) ∧ (header : Int) ≤ r.endLine ∧ r.endLine < s.splitLines.length := by
    rw [he]; omega
  have hstay : (r.documentation.isSome &&
      ((Family.ofTag language).docBlock? (s.splitLines.map stripLineEnd) header).isNone) = false := by
    rw [hd]
    cases (Family.ofTag language).docBlock? (s.splitLines.map stripLineEnd) header <;> rfl
  unfold splice
  simp only [hs, if_pos hfits, hl, Int.toNat_natCast, hstay]
  rfl

end

/-! ## Brace-delimited functions -/

theorem exists_commentSite_of_locate? {s language : Text} {cursor : Int} {settings : Settings} {r : Record}
    (h : locate? (.text s) cursor language settings = some r) :
    0 ≤ settings.lookbackOf (.ofTag language) ∧ ∃ above old gap header below name,
      CommentSite s.splitLines above old gap header below ∧
      (Family.ofTag language).signatureName? (stripLineEnd header) = some name ∧
      r = recordAt (.ofTag language) settings language (s.splitLines.map stripLineEnd)
        (above ++ (old ++ gap)).length name := by
  obtain ⟨hk, front, header, below, name, hs, hn, hrec⟩ := exists_header_of_locate? h
  obtain ⟨above, old, gap, rfl, site⟩ := exists_commentSite front header below
  rw [← hs] at site
  exact ⟨hk, above, old, gap, header, below, name, site, hn, hrec⟩

section
variable {s : Text} {above old gap : List Text} {header : Text} {below : List Text} {language name : Text}
  {settings : Settings} (hf : (Family.ofTag language).isIndented = false)
  (site : CommentSite s.splitLines above old gap header below)
include hf site

theorem CommentSite.record_eq :
    recordAt (.ofTag language) settings language (s.splitLines.map stripLineEnd) (above ++ (old ++ gap)).length name =
      { name := name
        signature := (stripLineEnd header).trim
        body := joinBody (((header :: below).map stripLineEnd).take
          (braceReach ((header :: below).map stripLineEnd) settings.skipLiterals + 1))
        startLine := (above ++ (old ++ gap)).length
        endLine := (above ++ (old ++ gap)).length +
          braceReach ((header :: below).map stripLineEnd) settings.skipLiterals
        language := language
        documentation := (reported above.length old).map DocBlock.text } := by
  have hplain : s.splitLines.map stripLineEnd =
      (above ++ (old ++ gap)).map stripLineEnd ++ stripLineEnd header :: below.map stripLineEnd := by
    rw [site.lines]; simp
  have hfound := site.found
  rw [hplain] at hfound ⊢
  rw [← List.length_map stripLineEnd] at hfound ⊢
  rw [recordAt_of_braces _ _ _ _ _ _ hf, hfound]
  rfl

theorem CommentSite.startLine_eq {r : Record}
    (hrec : r = recordAt (.ofTag language) settings language (s.splitLines.map stripLineEnd)
      (above ++ (old ++ gap)).length name) :
    r.startLine = (above ++ (old ++ gap)).length ∧ s.splitLines.getD r.startLine.toNat [] = header := by
  have hstart : r.startLine = (above ++ (old ++ gap)).length := by rw [hrec.trans (site.record_eq hf)]
  refine ⟨hstart, ?_⟩
  rw [hstart, Int.toNat_natCast, site.lines]
  simp

theorem CommentSite.docBlock?_eq :
    (Family.ofTag language).docBlock? (s.splitLines.map stripLineEnd) (above ++ (old ++ gap)).length =
      reported above.length old := by
  unfold Family.docBlock?
  rw [hf]
  exact site.found

theorem CommentSite.splice_eq (doc : Text) :
    splice s (recordAt (.ofTag language) settings language (s.splitLines.map stripLineEnd)
        (above ++ (old ++ gap)).length name) doc =
      .ok (above ++ (indentBlock doc (stripLineEnd header).indentation (newlineOf header) ++
        (gap ++ header :: below))).flatten := by
  have hlt : (above ++ (old ++ gap)).length < s.splitLines.length := by
    rw [site.lines]
    simp
  rw [splice_recordAt hlt name doc rfl, site.docBlock?_eq hf, site.spliceAt_eq hf]

omit hf in
theorem CommentSite.isSplit_parts : (∀ line ∈ above, IsTerminated line) ∧ IsSplit (gap ++ header :: below) := by
  have hsplit := isSplit_splitLines s
  rw [site.lines] at hsplit
  exact ⟨hsplit.terminated_of_append (by simp), hsplit.of_append.of_append⟩

omit hf in
theorem CommentSite.splitLines_write (hr : header.getLast? ≠ some '\r') (doc : Text) :
    splitLines (above ++ (indentBlock doc (stripLineEnd header).indentation (newlineOf header) ++
        (gap ++ header :: below))).flatten =
      above ++ (indentBlock doc (stripLineEnd header).indentation (newlineOf header) ++ (gap ++ header :: below)) := by
  obtain ⟨habove, hbelow⟩ := site.isSplit_parts
  have hheader := hbelow.of_append.terminated_or header (by simp)
  have hindent : '\n' ∉ (stripLineEnd header).indentation :=
    newline_not_mem_indentation (newline_not_mem_stripLineEnd hheader)
  have hnewline := isTerminated_newlineOf (isTerminated_or_lineEnd_eq_nil hheader hr)
  apply splitLines_flatten
  apply IsSplit.append
  · exact habove
  · exact IsSplit.append (isTerminated_of_mem_indentBlock hindent hnewline) hbelow

theorem CommentSite.locate_write (hr : header.getLast? ≠ some '\r') {doc : Text}
    (hdoc : isComment (normalLines doc) = true)
    (hn : (Family.ofTag language).signatureName? (stripLineEnd header) = some name)
    (hk : 0 ≤ settings.lookbackOf (.ofTag language)) :
    ∃ (s₁ : Text) (block : List Text),
      block.map stripLineEnd = (normalLines doc).map (behind (stripLineEnd header).indentation) ∧
      CommentSite s₁.splitLines above block gap header below ∧
      splice s (recordAt (.ofTag language) settings language (s.splitLines.map stripLineEnd)
        (above ++ (old ++ gap)).length name) doc = .ok s₁ ∧
      locate? (.text s₁) (above ++ (block ++ gap)).length language settings =
        some (recordAt (.ofTag language) settings language (s₁.splitLines.map stripLineEnd)
          (above ++ (block ++ gap)).length name) := by
  have hplain := plain_indentBlock doc (stripLineEnd header).indentation (newlineOf header) isLineEnd_of_mem_newlineOf
  have hcom : isComment ((indentBlock doc (stripLineEnd header).indentation (newlineOf header)).map stripLineEnd) =
      true := by
    rw [hplain, isComment_map (trim_behind (isBlank_indentation _))]
    exact hdoc
  have hsite := site.write hcom
  rw [← site.splitLines_write hr doc] at hsite
  refine ⟨_, _, hplain, hsite, site.splice_eq hf doc, locate?_of_header below ?_ hn hk⟩
  rw [site.splitLines_write hr doc]
  simp

end

/-! ## Indented functions -/

/-- The indentation of the lines below a header: that of the nearest line that is not blank if it is deeper than the
header, and otherwise one level more than the header. -/
def indentBelow (header : Text) (below : List Text) : Text :=
  match (below.find? fun line => !line.isBlank).filter fun line => header.indentWidth < line.indentWidth with
  | some line => line.indentation
  | none => header.indentation ++ defaultIndent

theorem find?_takeWhile_continuesBody (width : Nat) : ∀ lines : List Text,
    (lines.takeWhile (continuesBody width)).find? (fun line => !line.isBlank && decide (width < line.indentWidth)) =
      (lines.find? fun line => !line.isBlank).filter fun line => width < line.indentWidth
  | [] => rfl
  | line :: lines => by
    by_cases hb : line.isBlank = true
    · have hcont : continuesBody width line = true := by simp [continuesBody, hb]
      rw [List.takeWhile_cons_of_pos hcont, List.find?_cons_of_neg (by simp [hb]), List.find?_cons_of_neg (by simp [hb]),
        find?_takeWhile_continuesBody width lines]
    · by_cases hd : width < line.indentWidth
      · have hcont : continuesBody width line = true := by simp [continuesBody, hd]
        rw [List.takeWhile_cons_of_pos hcont, List.find?_cons_of_pos (by simp [hb, hd]),
          List.find?_cons_of_pos (by simp [hb]), Option.filter_some, if_pos (decide_eq_true hd)]
      · have hcont : ¬ continuesBody width line = true := by simp [continuesBody, hb, hd]
        rw [List.takeWhile_cons_of_neg hcont, List.find?_cons_of_pos (by simp [hb]), Option.filter_some,
          if_neg (by simpa using hd)]
        rfl

theorem indentBelow_of_deeper {header first : Text} (hb : first.isBlank = false)
    (hd : header.indentWidth < first.indentWidth) (below : List Text) :
    indentBelow header (first :: below) = first.indentation := by
  unfold indentBelow
  rw [List.find?_cons_of_pos (by simp [hb]), Option.filter_some, if_pos (decide_eq_true hd)]

theorem exists_docstringSite_of_locate? {s language : Text} {cursor : Int} {settings : Settings} {r : Record}
    (h : locate? (.text s) cursor language settings = some r) :
    0 ≤ settings.lookbackOf (.ofTag language) ∧ ∃ above header old below name,
      DocstringSite s.splitLines above header old below ∧
      (Family.ofTag language).signatureName? (stripLineEnd header) = some name ∧
      r = recordAt (.ofTag language) settings language (s.splitLines.map stripLineEnd) above.length name := by
  obtain ⟨hk, above, header, back, name, hs, hn, hrec⟩ := exists_header_of_locate? h
  obtain ⟨old, below, rfl, site⟩ := exists_docstringSite above header back
  rw [← hs] at site
  exact ⟨hk, above, header, old, below, name, site, hn, hrec⟩

section
variable {s : Text} {above : List Text} {header : Text} {old below : List Text} {language name : Text}
  {settings : Settings} (hf : (Family.ofTag language).isIndented = true)
  (site : DocstringSite s.splitLines above header old below)
include hf site

theorem DocstringSite.record_eq :
    recordAt (.ofTag language) settings language (s.splitLines.map stripLineEnd) above.length name =
      { name := name
        signature := (stripLineEnd header).trim
        body := joinBody (stripLineEnd header ::
          ((old ++ below).map stripLineEnd).takeWhile (continuesBody (stripLineEnd header).indentWidth))
        startLine := above.length
        endLine := above.length +
          (((old ++ below).map stripLineEnd).takeWhile (continuesBody (stripLineEnd header).indentWidth)).length
        language := language
        documentation := (reported (above.length + 1) old).map DocBlock.text } := by
  have hplain : s.splitLines.map stripLineEnd =
      above.map stripLineEnd ++ stripLineEnd header :: (old ++ below).map stripLineEnd := by
    rw [site.lines]; simp
  have hfound := site.found
  rw [hplain] at hfound ⊢
  rw [← List.length_map stripLineEnd] at hfound ⊢
  rw [recordAt_of_indentation _ _ _ _ _ _ hf, hfound]

theorem DocstringSite.startLine_eq {r : Record}
    (hrec : r = recordAt (.ofTag language) settings language (s.splitLines.map stripLineEnd) above.length name) :
    r.startLine = above.length ∧ s.splitLines.getD r.startLine.toNat [] = header := by
  have hstart : r.startLine = above.length := by rw [hrec.trans (site.record_eq hf)]
  refine ⟨hstart, ?_⟩
  rw [hstart, Int.toNat_natCast, site.lines]
  simp

theorem DocstringSite.bodyIndent_eq {r : Record}
    (hrec : r = recordAt (.ofTag language) settings language (s.splitLines.map stripLineEnd) above.length name) :
    bodyIndent (s.splitLines.map stripLineEnd) above.length r.endLine.toNat =
      indentBelow (stripLineEnd header) ((old ++ below).map stripLineEnd) := by
  have hplain : s.splitLines.map stripLineEnd =
      above.map stripLineEnd ++ stripLineEnd header :: (old ++ below).map stripLineEnd := by
    rw [site.lines]
    simp
  have hend := congrArg Record.endLine (hrec.trans (site.record_eq hf))
  simp only at hend
  generalize (old ++ below).map stripLineEnd = back at hplain hend ⊢
  have hheader : (s.splitLines.map stripLineEnd).getD above.length [] = stripLineEnd header := by
    rw [hplain]
    simp
  have hbody : ((s.splitLines.map stripLineEnd).take (r.endLine.toNat + 1)).drop (above.length + 1) =
      back.takeWhile (continuesBody (stripLineEnd header).indentWidth) := by
    have hlen : r.endLine.toNat + 1 - (above.length + 1) =
        (back.takeWhile (continuesBody (stripLineEnd header).indentWidth)).length := by
      omega
    have hdrop : (s.splitLines.map stripLineEnd).drop (above.length + 1) = back := by
      rw [hplain]
      simp [List.drop_append]
    rw [List.drop_take, hdrop, hlen]
    exact (List.prefix_iff_eq_take.mp (List.takeWhile_prefix _)).symm
  unfold bodyIndent indentBelow
  simp only [hheader, hbody]
  exact congrArg (fun found : Option Text => match found with
    | some line => line.indentation
    | none => (stripLineEnd header).indentation ++ defaultIndent) (find?_takeWhile_continuesBody _ back)

theorem DocstringSite.docBlock?_eq :
    (Family.ofTag language).docBlock? (s.splitLines.map stripLineEnd) above.length =
      reported (above.length + 1) old := by
  unfold Family.docBlock?
  rw [hf]
  exact site.found

theorem DocstringSite.splice_eq (doc : Text) {r : Record}
    (hr : r = recordAt (.ofTag language) settings language (s.splitLines.map stripLineEnd) above.length name) :
    splice s r doc =
      .ok ((above ++ [terminated header]) ++
        (indentBlock doc (bodyIndent (s.splitLines.map stripLineEnd) above.length r.endLine.toNat)
          (newlineOf header) ++ below)).flatten := by
  have hlt : above.length < s.splitLines.length := by
    rw [site.lines]
    simp
  rw [splice_recordAt hlt name doc hr, site.docBlock?_eq hf, site.spliceAt_eq hf]

omit hf in
theorem DocstringSite.isSplit_parts : (∀ line ∈ above, IsTerminated line) ∧ IsSplit (header :: (old ++ below)) := by
  have hsplit := isSplit_splitLines s
  rw [site.lines] at hsplit
  exact ⟨hsplit.terminated_of_append (by simp), hsplit.of_append⟩

omit hf in
theorem DocstringSite.splitLines_write (hr : header.getLast? ≠ some '\r') (endLine : Nat) (doc : Text) :
    splitLines ((above ++ [terminated header]) ++
        (indentBlock doc (bodyIndent (s.splitLines.map stripLineEnd) above.length endLine)
          (newlineOf header) ++ below)).flatten =
      above ++ terminated header ::
        (indentBlock doc (bodyIndent (s.splitLines.map stripLineEnd) above.length endLine)
          (newlineOf header) ++ below) := by
  obtain ⟨habove, hsplit⟩ := site.isSplit_parts
  have hindent := newline_not_mem_bodyIndent (newline_not_mem_asLines s) above.length endLine
  have hheader := hsplit.terminated_or header (by simp)
  have hend := isTerminated_or_lineEnd_eq_nil hheader hr
  have hbelow : IsSplit below := by
    rw [← List.singleton_append] at hsplit
    exact hsplit.of_append.of_append
  have hblock : ∀ line ∈ indentBlock doc _ (newlineOf header), IsTerminated line :=
    isTerminated_of_mem_indentBlock hindent (isTerminated_newlineOf hend)
  rw [List.append_assoc, List.singleton_append]
  exact splitLines_flatten (.append habove (.cons (isTerminated_terminated hheader hend) (.append hblock hbelow)))

theorem DocstringSite.locate_write (hr : header.getLast? ≠ some '\r') {doc : Text}
    (hdoc : isDocstring (normalLines doc) = true)
    (hn : (Family.ofTag language).signatureName? (stripLineEnd header) = some name)
    (hk : 0 ≤ settings.lookbackOf (.ofTag language)) {r : Record}
    (hrec : r = recordAt (.ofTag language) settings language (s.splitLines.map stripLineEnd) above.length name) :
    ∃ (s₁ : Text) (block : List Text),
      block.map stripLineEnd = (normalLines doc).map
        (behind (bodyIndent (s.splitLines.map stripLineEnd) above.length r.endLine.toNat)) ∧
      DocstringSite s₁.splitLines above (terminated header) block below ∧
      splice s r doc = .ok s₁ ∧
      locate? (.text s₁) above.length language settings =
        some (recordAt (.ofTag language) settings language (s₁.splitLines.map stripLineEnd) above.length name) := by
  have hplain := plain_indentBlock doc (bodyIndent (s.splitLines.map stripLineEnd) above.length r.endLine.toNat)
    (newlineOf header) isLineEnd_of_mem_newlineOf
  have hstring : isDocstring ((indentBlock doc (bodyIndent (s.splitLines.map stripLineEnd) above.length
      r.endLine.toNat) (newlineOf header)).map stripLineEnd) = true := by
    rw [hplain, isDocstring_map (trim_behind (isBlank_bodyIndent _ _ _))]
    exact hdoc
  have hsite := docstringSite_of_isDocstring above (terminated header) below hstring
  rw [← site.splitLines_write hr] at hsite
  rw [← stripLineEnd_terminated] at hn
  exact ⟨_, _, hplain, hsite, site.splice_eq hf doc hrec,
    locate?_of_header _ (site.splitLines_write hr _ doc) hn hk⟩

end

end CursorDoc
