import CursorDoc.Proofs.Signature
import CursorDoc.Proofs.Splice.Edit

/-!
# Documenting two brace-delimited functions

The comment of a function is looked for upwards, past any code, until a line
opens one. So a splice above one header changes what is found above a lower one
only if the line above the lower header closes a comment that nothing opens:
the new block then becomes its opener. In all other cases the two splices can
be made in either order.
-/

namespace CursorDoc

open Text

/-- The nearest line above that is not blank closes a comment, but no comment is found there. -/
def endsUnopened (lines : List Text) (start : Nat) : Bool :=
  (nearestAbove? lines start).any closesComment && (commentBlock? lines start).isNone

theorem isSome_commentBlock?_of_not_endsUnopened {lines : List Text} {start : Nat} (h : endsUnopened lines start = false) :
    (commentBlock? lines start).isSome = (nearestAbove? lines start).any closesComment := by
  unfold endsUnopened at h
  have hsome := isSome_commentBlock? lines start
  cases hb : commentBlock? lines start with
  | none =>
    rw [hb, Option.isNone_none, Bool.and_true] at h
    rw [h]
    rfl
  | some block =>
    rw [hb] at hsome
    exact (Bool.and_eq_true_iff.mp hsome.symm).1.symm

/-! ## Sites below another header -/

section
variable {source front : List Text} {upper : Text} {mid above old gap : List Text} {lower : Text} {below : List Text}
  (hb : (stripLineEnd upper).isBlank = false)
include hb

theorem CommentSite.exists_above (site : CommentSite source above old gap lower below)
    (hlines : above ++ (old ++ gap) = front ++ upper :: mid)
    (hapart : ∀ block, commentBlock? (source.map stripLineEnd) (front ++ upper :: mid).length = some block →
      ¬ (block.first ≤ front.length ∧ front.length < block.stop)) :
    ∃ m, above = front ++ upper :: m ∧ mid = m ++ (old ++ gap) := by
  rw [← hlines, site.found] at hapart
  -- unless the upper header stands in the comment or in the blank lines below it
  have hmem : ¬ ∃ a, front = above ++ a ∧ old ++ gap = a ++ upper :: mid := by
    rintro ⟨a, rfl, ha⟩
    have hle : old.length ≤ a.length := by
      by_cases hold : old = []
      · simp [hold]
      · have hblock := hapart _ (reported_of_ne_nil hold)
        simp only [DocBlock.stop, List.length_map, List.length_append] at hblock
        omega
    obtain ⟨c, hc, hgap⟩ | ⟨c, hc, hgap⟩ := List.append_eq_append_iff.mp ha
    · have hblank := site.blank upper (by simp [hgap])
      rw [hb] at hblank
      cases hblank
    · cases c with
      | nil =>
        have hblank := site.blank upper (by rw [show gap = upper :: mid from hgap.symm]; simp)
        rw [hb] at hblank
        cases hblank
      | cons line c =>
        rw [hc, List.length_append, List.length_cons] at hle
        omega
  obtain h | ⟨c, rfl, hc⟩ := List.append_eq_append_iff.mp hlines
  · exact absurd h hmem
  · cases c with
    | nil => exact absurd ⟨[], by simp, hc.symm⟩ hmem
    | cons line m =>
      obtain ⟨rfl, rfl⟩ := List.cons.inj hc
      exact ⟨m, rfl, rfl⟩

theorem nearestAbove?_map (front mid below : List Text) :
    nearestAbove? ((front ++ upper :: mid ++ below).map stripLineEnd) (front ++ upper :: mid).length =
      nearestAbove? ((upper :: mid).map stripLineEnd) (upper :: mid).length := by
  have h := nearestAbove?_append hb (front.map stripLineEnd) (mid.map stripLineEnd) (below.map stripLineEnd)
  rw [← List.map_cons, ← List.map_append, ← List.map_append, List.length_map, List.length_map] at h
  exact h

theorem CommentSite.move (site : CommentSite source (front ++ upper :: mid) old gap lower below)
    (hclosed : endsUnopened (source.map stripLineEnd) (front ++ upper :: mid ++ (old ++ gap)).length = false)
    (front' : List Text) :
    CommentSite (front' ++ upper :: mid ++ (old ++ (gap ++ lower :: below))) (front' ++ upper :: mid) old gap lower
      below := by
  by_cases hold : old = []
  · obtain rfl := hold
    obtain rfl := site.near rfl
    have hlines := site.lines
    have hfound := site.found
    have hnear := isSome_commentBlock?_of_not_endsUnopened hclosed
    simp only [List.append_nil, List.nil_append] at hlines hfound hnear ⊢
    have hnone : (reported (front ++ upper :: mid).length []).isSome = false := rfl
    rw [hfound, hnone, hlines, nearestAbove?_map hb] at hnear
    have hsome := isSome_commentBlock? ((front' ++ upper :: mid ++ lower :: below).map stripLineEnd)
      (front' ++ upper :: mid).length
    rw [nearestAbove?_map hb, ← hnear, Bool.false_and, Option.isSome_eq_false_iff, Option.isNone_iff_eq_none] at hsome
    refine ⟨by simp, by simp, fun _ => rfl, ?_⟩
    simp only [List.append_nil]
    exact hsome
  · exact commentSite_of_isComment _ lower below site.blank (site.isComment_old hold)

omit hb in
theorem CommentSite.old_eq_nil (site : CommentSite source above old gap lower below)
    (hnot : (old.map stripLineEnd).any opensComment = false) : old = [] := by
  by_cases hne : old = []
  · exact hne
  · rw [any_opensComment_of_isComment (site.isComment_old hne)] at hnot
    cases hnot

omit hb in
theorem not_opens_of_endsUnopened
    (hopen : endsUnopened ((front ++ lower :: below).map stripLineEnd) front.length = true) :
    (front.map stripLineEnd).any opensComment = false := by
  unfold endsUnopened at hopen
  rw [Bool.and_eq_true] at hopen
  have hsome := isSome_commentBlock? ((front ++ lower :: below).map stripLineEnd) front.length
  rw [hopen.1, Bool.true_and, ← List.map_take, List.take_left, Option.isNone_iff_eq_none.mp hopen.2] at hsome
  exact hsome.symm

/-- A block that is written above the upper header opens the comment that ends above the lower one. -/
theorem exists_site_of_endsUnopened
    (hopen : endsUnopened ((front ++ upper :: mid ++ lower :: below).map stripLineEnd) (front ++ upper :: mid).length =
      true) {block : List Text} (hblock : isComment (block.map stripLineEnd) = true) :
    ∃ m gap, mid = m ++ gap ∧
      CommentSite (front ++ (block ++ upper :: m ++ (gap ++ lower :: below))) front (block ++ upper :: m) gap lower
        below := by
  have hnot := not_opens_of_endsUnopened hopen
  unfold endsUnopened at hopen
  rw [Bool.and_eq_true] at hopen
  have hclose := hopen.1
  rw [nearestAbove?_map hb] at hclose
  obtain ⟨filled, blank, hsplit, hblank, hlast⟩ := exists_last_run isBlank ((upper :: mid).map stripLineEnd)
  have htake : ((upper :: mid).map stripLineEnd).take (upper :: mid).length = filled ++ blank := by
    rw [← hsplit, ← List.length_map stripLineEnd, List.take_length]
  rw [nearestAbove?_eq htake hblank hlast] at hclose
  obtain ⟨raw, gap, hraw, rfl, rfl⟩ := List.map_eq_append_iff.mp hsplit
  cases raw with
  | nil => cases hclose
  | cons first m =>
    obtain ⟨rfl, rfl⟩ := List.cons.inj hraw
    refine ⟨m, gap, rfl, ?_⟩
    apply commentSite_of_isComment
    · intro line hm
      exact hblank _ (List.mem_map_of_mem hm)
    · rw [List.map_append]
      refine isComment_append hblock ?_ hclose
      rw [List.any_eq_false] at hnot ⊢
      intro line hm
      apply hnot
      rw [List.map_append, hraw, List.map_append]
      exact List.mem_append_right _ (List.mem_append_left _ hm)

end

/-! ## Either order -/

theorem isComment_indentBlock {doc : Text} (hdoc : isComment (normalLines doc) = true) (header : Text) :
    isComment ((indentBlock doc (stripLineEnd header).indentation (newlineOf header)).map stripLineEnd) = true := by
  rw [plain_indentBlock _ _ _ isLineEnd_of_mem_newlineOf, isComment_map (trim_behind (isBlank_indentation _))]
  exact hdoc

theorem exists_commentSites {family : Family} {s : Text} {i j : Nat} (hij : i < j)
    (hi : family.isHeader (Buffer.text s).asLines i = true) (hj : family.isHeader (Buffer.text s).asLines j = true)
    (hapart : ∀ block, commentBlock? (Buffer.text s).asLines j = some block → ¬ (block.first ≤ i ∧ i < block.stop)) :
    ∃ above oldᵢ gapᵢ upper mid oldⱼ gapⱼ lower below nameᵢ nameⱼ,
      CommentSite s.splitLines above oldᵢ gapᵢ upper (mid ++ (oldⱼ ++ (gapⱼ ++ lower :: below))) ∧
      CommentSite s.splitLines (above ++ (oldᵢ ++ gapᵢ) ++ upper :: mid) oldⱼ gapⱼ lower below ∧
      (above ++ (oldᵢ ++ gapᵢ)).length = i ∧
      (above ++ (oldᵢ ++ gapᵢ) ++ upper :: mid ++ (oldⱼ ++ gapⱼ)).length = j ∧
      family.signatureName? (stripLineEnd upper) = some nameᵢ ∧
      family.signatureName? (stripLineEnd lower) = some nameⱼ := by
  obtain ⟨front, upper, mid, lower, below, nameᵢ, nameⱼ, hlines, rfl, rfl, hnᵢ, hnⱼ⟩ := exists_of_isHeaders hij hi hj
  have hlower : s.splitLines = front ++ upper :: mid ++ lower :: below := by
    rw [hlines]
    simp
  obtain ⟨above, oldᵢ, gapᵢ, rfl, siteᵢ⟩ := exists_commentSite front upper (mid ++ lower :: below)
  obtain ⟨aboveⱼ, oldⱼ, gapⱼ, hfront, siteⱼ⟩ := exists_commentSite (above ++ (oldᵢ ++ gapᵢ) ++ upper :: mid) lower below
  rw [← hlines] at siteᵢ
  rw [← hlower] at siteⱼ
  obtain ⟨m, rfl, rfl⟩ := siteⱼ.exists_above (isBlank_of_signatureName? hnᵢ) hfront.symm hapart
  refine ⟨above, oldᵢ, gapᵢ, upper, m, oldⱼ, gapⱼ, lower, below, nameᵢ, nameⱼ, ?_, siteⱼ, rfl, ?_, hnᵢ, hnⱼ⟩
  · simpa using siteᵢ
  · rw [hfront]

section
variable {source : List Text} {s language name : Text} {settings : Settings} {above old gap : List Text}
  {upper : Text} {mid : List Text} {lower : Text} {below : List Text}
  (hf : (Family.ofTag language).isIndented = false) (hk : 0 ≤ settings.lookbackOf (.ofTag language))
include hf hk

theorem CommentSite.exists_document?_of_below (site : CommentSite source above old gap upper below)
    (hn : (Family.ofTag language).signatureName? (stripLineEnd upper) = some name) (hr : upper.getLast? ≠ some '\r')
    {back : List Text} (hlines : s.splitLines = above ++ (old ++ gap) ++ upper :: back) (doc : Text) :
    ∃ t, document? language settings s (above ++ (old ++ gap)).length doc = some t ∧
      t.splitLines = above ++ (indentBlock doc (stripLineEnd upper).indentation (newlineOf upper) ++
        (gap ++ upper :: back)) := by
  have site' := site.of_below upper back
  rw [show above ++ (old ++ (gap ++ upper :: back)) = s.splitLines by rw [hlines]; simp] at site'
  exact site'.exists_document? hf hk hn hr doc

variable (hb : (stripLineEnd upper).isBlank = false)
  (hn : (Family.ofTag language).signatureName? (stripLineEnd lower) = some name) (hr : lower.getLast? ≠ some '\r')
include hb hn hr

theorem CommentSite.exists_document?_of_closed (site : CommentSite source (above ++ upper :: mid) old gap lower below)
    (hclosed : endsUnopened (source.map stripLineEnd) (above ++ upper :: mid ++ (old ++ gap)).length = false)
    {front : List Text} (hlines : s.splitLines = front ++ upper :: (mid ++ (old ++ (gap ++ lower :: below))))
    (doc : Text) :
    ∃ t, document? language settings s (front ++ upper :: mid ++ (old ++ gap)).length doc = some t ∧
      t.splitLines = front ++ upper :: mid ++
        (indentBlock doc (stripLineEnd lower).indentation (newlineOf lower) ++ (gap ++ lower :: below)) := by
  have site' := site.move hb hclosed front
  rw [show front ++ upper :: mid ++ (old ++ (gap ++ lower :: below)) = s.splitLines by rw [hlines]; simp] at site'
  exact site'.exists_document? hf hk hn hr doc

theorem exists_document?_of_endsUnopened
    (hopen : endsUnopened ((above ++ upper :: mid ++ lower :: below).map stripLineEnd) (above ++ upper :: mid).length =
      true) {block : List Text} (hblock : isComment (block.map stripLineEnd) = true)
    (hlines : s.splitLines = above ++ (block ++ upper :: (mid ++ lower :: below))) (doc : Text) :
    ∃ t gap, gap.length ≤ mid.length ∧
      document? language settings s (above ++ (block ++ upper :: mid)).length doc = some t ∧
      t.splitLines = above ++ (indentBlock doc (stripLineEnd lower).indentation (newlineOf lower) ++
        (gap ++ lower :: below)) := by
  obtain ⟨m, gap, rfl, site⟩ := exists_site_of_endsUnopened hb hopen hblock
  rw [show above ++ (block ++ upper :: m ++ (gap ++ lower :: below)) = s.splitLines by rw [hlines]; simp] at site
  obtain ⟨t, ht, hlast⟩ := site.exists_document? hf hk hn hr doc
  refine ⟨t, gap, by simp, ?_, hlast⟩
  rw [← ht]
  simp

end

/-- **Two comments, two orders.** Splicing comments in at two headers gives the same text in either order, unless the
line above the lower header closes a comment that no line above opens. In that case the splice at the upper header
makes its own comment and function part of the comment that is then found above the lower header, so that splicing
there removes them. -/
theorem document?_comm_iff {s dᵢ dⱼ language : Text} {settings : Settings} {i j : Nat}
    (hf : (Family.ofTag language).isIndented = false) (hk : 0 ≤ settings.lookbackOf (.ofTag language)) (hij : i < j)
    (hi : (Family.ofTag language).isHeader (Buffer.text s).asLines i = true)
    (hj : (Family.ofTag language).isHeader (Buffer.text s).asLines j = true)
    (hapart : ∀ block, commentBlock? (Buffer.text s).asLines j = some block → ¬ (block.first ≤ i ∧ i < block.stop))
    (hend : (s.splitLines.getD j []).getLast? ≠ some '\r')
    (hdᵢ : isComment (normalLines dᵢ) = true) :
    ∃ s₁ s₂ t₁ t₂, document? language settings s i dᵢ = some s₁ ∧
      document? language settings s₁ (j + s₁.splitLines.length - s.splitLines.length) dⱼ = some t₁ ∧
      document? language settings s j dⱼ = some s₂ ∧ document? language settings s₂ i dᵢ = some t₂ ∧
      (t₁ = t₂ ↔ endsUnopened (Buffer.text s).asLines j = false) := by
  obtain ⟨above, oldᵢ, gapᵢ, upper, mid, oldⱼ, gapⱼ, lower, below, nameᵢ, nameⱼ, siteᵢ, siteⱼ, rfl, rfl, hnᵢ, hnⱼ⟩ :=
    exists_commentSites hij hi hj hapart
  have hb := isBlank_of_signatureName? hnᵢ
  have hlines : s.splitLines = above ++ (oldᵢ ++ gapᵢ) ++ upper :: mid ++ (oldⱼ ++ gapⱼ) ++ lower :: below := by
    rw [siteⱼ.lines]
    simp
  have hrᵢ : upper.getLast? ≠ some '\r' := by
    have hsplit := isSplit_splitLines s
    rw [hlines] at hsplit
    exact getLast?_ne_return (hsplit.terminated_of_append (by simp) upper (by simp))
  have hrⱼ : lower.getLast? ≠ some '\r' := by
    rw [hlines] at hend
    simpa using hend
  obtain ⟨s₁, hs₁, hlines₁⟩ := siteᵢ.exists_document? hf hk hnᵢ hrᵢ dᵢ
  obtain ⟨s₂, hs₂, hlines₂⟩ := siteⱼ.exists_document? hf hk hnⱼ hrⱼ dⱼ
  -- the splice at the lower header leaves the site of the upper one as it is
  rw [List.append_assoc, List.cons_append] at hlines₂
  obtain ⟨t₂, ht₂, hlast₂⟩ := siteᵢ.exists_document?_of_below hf hk hnᵢ hrᵢ hlines₂ dᵢ
  have hblock := isComment_indentBlock hdᵢ upper
  generalize indentBlock dᵢ (stripLineEnd upper).indentation (newlineOf upper) = block at hlines₁ hlast₂ hblock
  cases hclosed : endsUnopened (Buffer.text s).asLines
      (above ++ (oldᵢ ++ gapᵢ) ++ upper :: mid ++ (oldⱼ ++ gapⱼ)).length with
  | false =>
    rw [← List.append_assoc block, ← List.append_assoc above] at hlines₁
    obtain ⟨t₁, ht₁, hlast₁⟩ := siteⱼ.exists_document?_of_closed hf hk hb hnⱼ hrⱼ hclosed hlines₁ dⱼ
    rw [← shifted_index hlines (hlines₁.trans (by simp))] at ht₁
    refine ⟨s₁, s₂, t₁, t₂, hs₁, ht₁, hs₂, ht₂, iff_of_true ?_ rfl⟩
    apply eq_of_splitLines
    rw [hlast₁, hlast₂]
    simp
  | true =>
    rw [show (Buffer.text s).asLines = s.splitLines.map stripLineEnd from rfl, hlines] at hclosed
    have hnot := not_opens_of_endsUnopened hclosed
    simp only [List.map_append, List.any_append, Bool.or_eq_false_iff] at hnot
    obtain ⟨⟨⟨-, hnotᵢ, -⟩, -⟩, hnotⱼ, -⟩ := hnot
    obtain rfl := siteᵢ.old_eq_nil hnotᵢ
    obtain rfl := siteᵢ.near rfl
    obtain rfl := siteⱼ.old_eq_nil hnotⱼ
    obtain rfl := siteⱼ.near rfl
    simp only [List.append_nil, List.nil_append] at hclosed hlines hlines₁ hlast₂ hs₁ hs₂ ht₂ ⊢
    obtain ⟨t₁, gap, hgap, ht₁, hlast₁⟩ := exists_document?_of_endsUnopened hf hk hb hnⱼ hrⱼ hclosed hblock hlines₁ dⱼ
    rw [← shifted_index hlines (hlines₁.trans (by simp))] at ht₁
    refine ⟨s₁, s₂, t₁, t₂, hs₁, ht₁, hs₂, ht₂, iff_of_false ?_ (by simp)⟩
    -- the upper header and its block are lines of one result only
    rintro rfl
    have hlen := congrArg List.length (hlast₁.symm.trans hlast₂)
    simp only [List.length_append, List.length_cons] at hlen
    omega

theorem document?_comm_replaced_comment :
    let s : Text := "/* F. */\nfunction f() \x7b\n\x7d\n\n/** Old.\n */\r\n\n  function g() \x7b\r\n\x7d".toList
    let language : Text := "javascript".toList
    let dᵢ : Text := "/**\n * First.\n */".toList
    let dⱼ : Text := "/* Second. */".toList
    (Family.ofTag language).isIndented = false ∧ 0 ≤ ({} : Settings).lookbackOf (.ofTag language) ∧
      (Family.ofTag language).isHeader (Buffer.text s).asLines 1 = true ∧
      (Family.ofTag language).isHeader (Buffer.text s).asLines 7 = true ∧
      (∀ block, commentBlock? (Buffer.text s).asLines 7 = some block → ¬ (block.first ≤ 1 ∧ 1 < block.stop)) ∧
      (s.splitLines.getD 7 []).getLast? ≠ some '\r' ∧ isComment (normalLines dᵢ) = true ∧
      ∃ s₁ s₂ t, document? language {} s (1 : Nat) dᵢ = some s₁ ∧
        document? language {} s₁ ((7 : Nat) + s₁.splitLines.length - s.splitLines.length) dⱼ = some t ∧
        document? language {} s (7 : Nat) dⱼ = some s₂ ∧ document? language {} s₂ (1 : Nat) dᵢ = some t := by
  repeat rw [String.toList_ofList]
  intro s language dᵢ dⱼ
  have hf : (Family.ofTag language).isIndented = false := by decide
  have hk : 0 ≤ ({} : Settings).lookbackOf (.ofTag language) := by decide
  have hi : (Family.ofTag language).isHeader (Buffer.text s).asLines 1 = true := by decide
  have hj : (Family.ofTag language).isHeader (Buffer.text s).asLines 7 = true := by decide
  have hapart : ∀ block, commentBlock? (Buffer.text s).asLines 7 = some block →
      ¬ (block.first ≤ 1 ∧ 1 < block.stop) := by
    intro block hblock
    have hfound : commentBlock? (Buffer.text s).asLines 7 = some ⟨4, ["/** Old.".toList, " */".toList]⟩ := by
      decide
    obtain rfl := Option.some.inj (hfound.symm.trans hblock)
    decide
  have hend : (s.splitLines.getD 7 []).getLast? ≠ some '\r' := by decide
  have hdᵢ : isComment (normalLines dᵢ) = true := by decide
  have hclosed : endsUnopened (Buffer.text s).asLines 7 = false := by decide
  obtain ⟨s₁, s₂, t₁, t₂, hs₁, ht₁, hs₂, ht₂, hiff⟩ :=
    @document?_comm_iff s dᵢ dⱼ language {} 1 7 hf hk (by decide) hi hj hapart hend hdᵢ
  obtain rfl := hiff.mpr hclosed
  exact ⟨hf, hk, hi, hj, hapart, hend, hdᵢ, s₁, s₂, t₁, hs₁, ht₁, hs₂, ht₂⟩

/-- A comment behind the body of a one-line function is taken for the end of the comment that was spliced in above
it: splicing at the next function then removes both. -/
theorem document?_removes_upper_function :
    let s : Text := "function f() \x7b return 1; \x7d /* one */\nfunction g() \x7b\n\x7d\n".toList
    let s₁ : Text := "/** F. */\nfunction f() \x7b return 1; \x7d /* one */\nfunction g() \x7b\n\x7d\n".toList
    let s₂ : Text := "function f() \x7b return 1; \x7d /* one */\n/** G. */\nfunction g() \x7b\n\x7d\n".toList
    let language : Text := "javascript".toList
    let dᵢ : Text := "/** F. */".toList
    let dⱼ : Text := "/** G. */".toList
    (Family.ofTag language).isHeader (Buffer.text s).asLines 0 = true ∧
      (Family.ofTag language).isHeader (Buffer.text s).asLines 1 = true ∧
      commentBlock? (Buffer.text s).asLines 0 = none ∧ commentBlock? (Buffer.text s).asLines 1 = none ∧
      isComment (normalLines dᵢ) = true ∧ isComment (normalLines dⱼ) = true ∧
      document? language {} s 0 dᵢ = some s₁ ∧
      document? language {} s₁ 2 dⱼ = some "/** G. */\nfunction g() \x7b\n\x7d\n".toList ∧
      document? language {} s 1 dⱼ = some s₂ ∧
      document? language {} s₂ 0 dᵢ = some
        "/** F. */\nfunction f() \x7b return 1; \x7d /* one */\n/** G. */\nfunction g() \x7b\n\x7d\n".toList := by
  repeat rw [String.toList_ofList]
  decide

end CursorDoc
