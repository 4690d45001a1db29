import CursorDoc.Proofs.Signature
import CursorDoc.Proofs.Splice.Edit

/-!
# Documenting two indented functions

A documentation string is looked for below its header, and the body is read
downwards too. A splice at an upper header therefore moves what a lower one
sees without a change. A splice at the lower header changes only lines that
come after the string of the upper one, and the first of them still holds a
definition, which opens no string and keeps its indentation.
-/

namespace CursorDoc

open Text

/-! ## Lines that start with a definition -/

theorem opensDocstring_append_cons {w : Text} (hw : isBlank w = true) {c : Char} (hc : c = 'a' ∨ c = 'd') (rest : Text) :
    opensDocstring (w ++ c :: rest) = false := by
  have hspace : isSpace c = false := by
    cases hc with
    | inl h => rw [h]; decide
    | inr h => rw [h]; decide
  have htrim : trim (w ++ c :: rest) = c :: dropEndWhile isSpace rest := by
    rw [trim_append hw, trim, trimWhile, List.dropWhile_cons_of_neg (by simp [hspace])]
    exact dropEndWhile_append_cons hspace [] rest
  unfold opensDocstring
  rw [htrim]
  obtain rfl | rfl := hc
  · rfl
  · rfl

theorem indentation_append_cons {w : Text} (hw : isBlank w = true) {c : Char} (hc : isSpace c = false) (rest : Text) :
    indentation (w ++ c :: rest) = w := by
  rw [indentation_append hw, indentation, List.takeWhile_cons_of_neg (by simp [hc]), List.append_nil]

/-- Whatever is put behind a definition, its line opens no documentation string, is not blank and keeps its
indentation. -/
theorem stripLineEnd_header_append {header name : Text} (hn : Family.python.signatureName? (stripLineEnd header) = some name)
    (e : Text) :
    opensDocstring (stripLineEnd (header ++ e)) = false ∧ (stripLineEnd (header ++ e)).isBlank = false ∧
      (stripLineEnd (header ++ e)).indentation = (stripLineEnd header).indentation := by
  obtain ⟨w, c, rest, hw, hline, hc⟩ := exists_of_signatureName?_python hn
  have hend : isLineEnd c = false := by
    obtain rfl | rfl := hc <;> decide
  have hspace : isSpace c = false := by
    obtain rfl | rfl := hc <;> decide
  have hheader : header ++ e = w ++ c :: (rest ++ lineEnd header ++ e) := by
    have h := stripLineEnd_append_lineEnd header
    rw [hline] at h
    calc header ++ e = (w ++ c :: rest ++ lineEnd header) ++ e := by rw [h]
      _ = w ++ c :: (rest ++ lineEnd header ++ e) := by simp
  have hplain : stripLineEnd (header ++ e) = w ++ c :: dropEndWhile isLineEnd (rest ++ lineEnd header ++ e) :=
    hheader ▸ dropEndWhile_append_cons hend w _
  rw [hplain, hline]
  refine ⟨opensDocstring_append_cons hw hc _, ?_, ?_⟩
  · rw [isBlank_append hw, isBlank_cons, hspace, Bool.false_and]
  · rw [indentation_append_cons hw hspace, indentation_append_cons hw hspace]

theorem indentBelow_replace (header : Text) (front : List Text) {line line' : Text} (hb : line.isBlank = false)
    (hb' : line'.isBlank = false) (hw : line'.indentation = line.indentation) (below below' : List Text) :
    indentBelow header (front ++ line' :: below') = indentBelow header (front ++ line :: below) := by
  have hwidth : line'.indentWidth = line.indentWidth := congrArg List.length hw
  unfold indentBelow
  rw [List.find?_append, List.find?_append, List.find?_cons_of_pos (by simp [hb']),
    List.find?_cons_of_pos (by simp [hb])]
  cases front.find? fun line => !line.isBlank with
  | some found => rfl
  | none =>
    rw [Option.none_or, Option.none_or, Option.filter_some, Option.filter_some, hwidth]
    by_cases hd : header.indentWidth < line.indentWidth
    · simp [hd, hw]
    · simp [hd]

section
variable {lower name : Text} (hn : Family.python.signatureName? (stripLineEnd lower) = some name) (e : Text)
include hn

theorem indentBelow_header_append (upper : Text) (old mid below below' : List Text) :
    indentBelow upper ((old ++ (mid ++ (lower ++ e) :: below')).map stripLineEnd) =
      indentBelow upper ((old ++ (mid ++ lower :: below)).map stripLineEnd) := by
  obtain ⟨-, hb, hindent⟩ := stripLineEnd_header_append hn e
  rw [← List.append_assoc, ← List.append_assoc]
  simp only [List.map_append, List.map_cons]
  exact indentBelow_replace upper _ (isBlank_of_signatureName? hn) hb hindent _ _

theorem DocstringSite.of_header_append {source front : List Text} {upper : Text} {old mid below : List Text}
    (site : DocstringSite source front upper old (mid ++ lower :: below)) (below' : List Text) :
    DocstringSite (front ++ upper :: (old ++ (mid ++ (lower ++ e) :: below'))) front upper old
      (mid ++ (lower ++ e) :: below') := by
  have hlead := (docstringSite_iff.mp site).2
  refine docstringSite_iff.mpr ⟨rfl, ?_⟩
  rw [List.map_append, List.map_cons] at hlead ⊢
  exact hlead.replace (stripLineEnd_header_append hn e).1 _

end

/-! ## Either order -/

/-- Text below a header may end up on its line, but the line starts with the header. -/
theorem exists_splitLines_header {front : List Text} (hfront : ∀ line ∈ front, IsTerminated line) {header : Text}
    (hne : header ≠ []) (hheader : IsTerminated header ∨ '\n' ∉ header) (below : List Text) :
    ∃ e lines, splitLines (front ++ terminated header :: below).flatten = front ++ (header ++ e) :: lines := by
  have hterm : ∃ e, terminated header = header ++ e := by
    unfold terminated
    split
    · exact ⟨['\n'], rfl⟩
    · exact ⟨[], by simp⟩
  obtain ⟨e, he⟩ := hterm
  obtain ⟨e', lines, h⟩ := exists_splitLines_append hne hheader (e ++ below.flatten)
  refine ⟨e', lines, ?_⟩
  rw [List.flatten_append, splitLines_flatten_append _ hfront, List.flatten_cons, he, List.append_assoc, h]

theorem DocstringSite.exists_rest {source front : List Text} {upper : Text} {old back mid : List Text} {lower : Text}
    {below : List Text} (site : DocstringSite source front upper old back)
    (hback : mid ++ lower :: below = old ++ back)
    (hapart : ∀ block, docstring? (source.map stripLineEnd) front.length = some block →
      block.stop ≤ (front ++ upper :: mid).length) :
    ∃ m, mid = old ++ m ∧ back = m ++ lower :: below := by
  rw [site.found] at hapart
  obtain ⟨c, rfl, hc⟩ | ⟨m, rfl, rfl⟩ := List.append_eq_append_iff.mp hback
  · cases c with
    | nil => exact ⟨[], by simp, by simpa using hc.symm⟩
    | cons first c =>
      have hstop := hapart _ (reported_of_ne_nil (by simp))
      simp only [DocBlock.stop, List.length_map, List.length_append, List.length_cons] at hstop
      omega
  · exact ⟨m, rfl, rfl⟩

theorem exists_docstringSites {family : Family} {s : Text} {i j : Nat} (hij : i < j)
    (hi : family.isHeader (Buffer.text s).asLines i = true) (hj : family.isHeader (Buffer.text s).asLines j = true)
    (hapart : ∀ block, docstring? (Buffer.text s).asLines i = some block → block.stop ≤ j) :
    ∃ front upper oldᵢ mid lower oldⱼ below nameᵢ nameⱼ,
      DocstringSite s.splitLines front upper oldᵢ (mid ++ lower :: (oldⱼ ++ below)) ∧
      DocstringSite s.splitLines (front ++ upper :: (oldᵢ ++ mid)) lower oldⱼ below ∧
      front.length = i ∧ (front ++ upper :: (oldᵢ ++ mid)).length = j ∧
      family.signatureName? (stripLineEnd upper) = some nameᵢ ∧
      family.signatureName? (stripLineEnd lower) = some nameⱼ := by
  obtain ⟨front, upper, mid, lower, below, nameᵢ, nameⱼ, hlines, rfl, rfl, hnᵢ, hnⱼ⟩ := exists_of_isHeaders hij hi hj
  have hlower : s.splitLines = (front ++ upper :: mid) ++ lower :: below := by
    rw [hlines]
    simp
  obtain ⟨oldᵢ, belowᵢ, hback, siteᵢ⟩ := exists_docstringSite front upper (mid ++ lower :: below)
  obtain ⟨oldⱼ, belowⱼ, rfl, siteⱼ⟩ := exists_docstringSite (front ++ upper :: mid) lower below
  rw [← hlines] at siteᵢ
  rw [← hlower] at siteⱼ
  obtain ⟨m, rfl, rfl⟩ := siteᵢ.exists_rest hback hapart
  exact ⟨front, upper, oldᵢ, m, lower, oldⱼ, belowⱼ, nameᵢ, nameⱼ, siteᵢ, siteⱼ, rfl, rfl, hnᵢ, hnⱼ⟩

/-- **Two documentation strings, two orders.** Splicing any texts in at two headers gives the same text in either
order, if the string at the upper header ends above the lower one. -/
theorem document?_comm {s dᵢ dⱼ language : Text} {settings : Settings} {i j : Nat}
    (hf : (Family.ofTag language).isIndented = true) (hk : 0 ≤ settings.lookbackOf (.ofTag language)) (hij : i < j)
    (hi : (Family.ofTag language).isHeader (Buffer.text s).asLines i = true)
    (hj : (Family.ofTag language).isHeader (Buffer.text s).asLines j = true)
    (hapart : ∀ block, docstring? (Buffer.text s).asLines i = some block → block.stop ≤ j) :
    ∃ s₁ s₂ t, document? language settings s i dᵢ = some s₁ ∧
      document? language settings s₁ (j + s₁.splitLines.length - s.splitLines.length) dⱼ = some t ∧
      document? language settings s j dⱼ = some s₂ ∧ document? language settings s₂ i dᵢ = some t := by
  obtain ⟨front, upper, oldᵢ, mid, lower, oldⱼ, below, nameᵢ, nameⱼ, siteᵢ, siteⱼ, rfl, rfl, hnᵢ, hnⱼ⟩ :=
    exists_docstringSites hij hi hj hapart
  have hsplit := isSplit_splitLines s
  rw [siteⱼ.lines] at hsplit
  have hfront := hsplit.terminated_of_append (by simp)
  have hupper : IsTerminated upper := hfront upper (by simp)
  have hdefinition : Family.python.signatureName? (stripLineEnd lower) = some nameⱼ :=
    Family.eq_python_of_isIndented hf ▸ hnⱼ
  have hne : lower ≠ [] := by
    rintro rfl
    cases isBlank_of_signatureName? hdefinition
  -- the splice at the upper header only moves the lower site
  obtain ⟨s₁, hs₁, hlines₁⟩ := siteᵢ.exists_document? hf hk hnᵢ (getLast?_ne_return hupper) dᵢ
  generalize hblockᵢ : indentBlock dᵢ _ (newlineOf upper) = blockᵢ at hlines₁
  rw [terminated_of_isTerminated hupper] at hlines₁
  have site₁ : DocstringSite s₁.splitLines (front ++ upper :: (blockᵢ ++ mid)) lower oldⱼ below :=
    docstringSite_iff.mpr ⟨hlines₁.trans (by simp), (docstringSite_iff.mp siteⱼ).2⟩
  have ht₁ := site₁.document?_eq hf hk hnⱼ dⱼ
  rw [← shifted_index siteⱼ.lines site₁.lines] at ht₁
  -- the splice at the lower header keeps the upper site, but text may come to stand on the line of the lower header
  have hs₂ := siteⱼ.document?_eq hf hk hnⱼ dⱼ
  generalize indentBlock dⱼ _ (newlineOf lower) = blockⱼ at hs₂ ht₁
  obtain ⟨e, back, hlines₂⟩ := exists_splitLines_header hfront hne (hsplit.terminated_or lower (by simp))
    (blockⱼ ++ below)
  have site₂ := siteᵢ.of_header_append hdefinition e back
  rw [show front ++ upper :: (oldᵢ ++ (mid ++ (lower ++ e) :: back)) =
      front ++ upper :: (oldᵢ ++ mid) ++ (lower ++ e) :: back by simp, ← hlines₂] at site₂
  have ht₂ := site₂.document?_eq hf hk hnᵢ dᵢ
  rw [indentBelow_header_append hdefinition e, hblockᵢ, terminated_of_isTerminated hupper] at ht₂
  have hback : ((lower ++ e) :: back).flatten = (terminated lower :: (blockⱼ ++ below)).flatten := by
    apply @List.append_cancel_left _ (front ++ upper :: (oldᵢ ++ mid)).flatten
    rw [← List.flatten_append, ← List.flatten_append, ← hlines₂, flatten_splitLines]
  have hsame : (front ++ upper :: (blockᵢ ++ (mid ++ (lower ++ e) :: back))).flatten =
      (front ++ upper :: (blockᵢ ++ mid) ++ terminated lower :: (blockⱼ ++ below)).flatten := by
    calc _ = (front ++ upper :: (blockᵢ ++ mid)).flatten ++ ((lower ++ e) :: back).flatten := by simp
      _ = _ := by rw [hback, ← List.flatten_append]
  rw [hsame] at ht₂
  exact ⟨s₁, _, _, hs₁, ht₁, hs₂, ht₂⟩

theorem document?_comm_nested :
    let s : Text := "def f():\n  \"\"\"Old.\"\"\"\n  def g():\r\n    pass\n  return g\n".toList
    let language : Text := "python".toList
    let dᵢ : Text := "\"\"\"Upper.\n\n  More.\n\"\"\"".toList
    let dⱼ : Text := "no string".toList
    let t : Text :=
      "def f():\n  \"\"\"Upper.\n\n    More.\n  \"\"\"\n  def g():\r\n    no string\r\n    pass\n  return g\n".toList
    (Family.ofTag language).isIndented = true ∧ 0 ≤ ({} : Settings).lookbackOf (.ofTag language) ∧
      (Family.ofTag language).isHeader (Buffer.text s).asLines 0 = true ∧
      (Family.ofTag language).isHeader (Buffer.text s).asLines 2 = true ∧
      (∀ block, docstring? (Buffer.text s).asLines 0 = some block → block.stop ≤ 2) ∧
      ∃ s₁ s₂, document? language {} s (0 : Nat) dᵢ = some s₁ ∧
        document? language {} s₁ ((2 : Nat) + s₁.splitLines.length - s.splitLines.length) dⱼ = some t ∧
        document? language {} s (2 : Nat) dⱼ = some s₂ ∧ document? language {} s₂ (0 : Nat) dᵢ = some t := by
  repeat rw [String.toList_ofList]
  intro s language dᵢ dⱼ t
  have hf : (Family.ofTag language).isIndented = true := by decide
  have hk : 0 ≤ ({} : Settings).lookbackOf (.ofTag language) := by decide
  have hi : (Family.ofTag language).isHeader (Buffer.text s).asLines 0 = true := by decide
  have hj : (Family.ofTag language).isHeader (Buffer.text s).asLines 2 = true := by decide
  have hapart : ∀ block, docstring? (Buffer.text s).asLines 0 = some block → block.stop ≤ 2 := by
    intro block hblock
    have hfound : docstring? (Buffer.text s).asLines 0 = some ⟨1, ["  \"\"\"Old.\"\"\"".toList]⟩ := by
      decide
    obtain rfl := Option.some.inj (hfound.symm.trans hblock)
    decide
  have hboth : (document? language {} s (2 : Nat) dⱼ).bind (document? language {} · (0 : Nat) dᵢ) = some t := by decide
  obtain ⟨s₁, s₂, t', hs₁, ht₁, hs₂, ht₂⟩ := document?_comm hf hk (by decide) hi hj hapart
  rw [hs₂, Option.bind_some, ht₂] at hboth
  obtain rfl := Option.some.inj hboth
  exact ⟨hf, hk, hi, hj, hapart, s₁, s₂, hs₁, ht₁, hs₂, ht₂⟩

end CursorDoc
