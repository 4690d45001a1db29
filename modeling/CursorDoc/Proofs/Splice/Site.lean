import CursorDoc.Proofs.Locate
import CursorDoc.Proofs.Splice.Block

/-!
# Sites of documentation

Around a located header a source falls into parts: the lines above, the
documentation that is there, and the lines below. Splicing any text replaces
the second part and keeps the others, up to the terminator of an unterminated
header above an indented body. A block of the right shape that was written to
a site is the documentation of that site from then on.
-/

namespace CursorDoc

open Text

/-- The documentation that is reported for `old`, the lines of a block that starts on line `first`. -/
def reported (first : Nat) (old : List Text) : Option DocBlock :=
  if old.isEmpty then none else some { first := first, lines := old.map stripLineEnd }

theorem reported_of_ne_nil {first : Nat} {old : List Text} (h : old ≠ []) :
    reported first old = some { first := first, lines := old.map stripLineEnd } := by
  unfold reported
  rw [List.isEmpty_eq_false_iff.mpr h]
  rfl

theorem text_reported {first : Nat} {old : List Text} {d : Text}
    (h : (reported first old).map DocBlock.text = some d) : old ≠ [] ∧ d = joinLines (old.map stripLineEnd) := by
  by_cases hne : old = []
  · rw [hne] at h
    cases h
  · rw [reported_of_ne_nil hne] at h
    exact ⟨hne, (Option.some.inj h).symm⟩

/-- A header with `old` for its comment, from which blank lines may part it. -/
structure CommentSite (source above old gap : List Text) (header : Text) (below : List Text) : Prop where
  lines : source = above ++ (old ++ (gap ++ header :: below))
  blank : ∀ line ∈ gap, (stripLineEnd line).isBlank = true
  near : old = [] → gap = []
  found : commentBlock? (source.map stripLineEnd) (above ++ (old ++ gap)).length = reported above.length old

structure DocstringSite (source above : List Text) (header : Text) (old below : List Text) : Prop where
  lines : source = above ++ header :: (old ++ below)
  found : docstring? (source.map stripLineEnd) above.length = reported (above.length + 1) old

/-! ## Every header has a site -/

theorem exists_commentSite (front : List Text) (header : Text) (below : List Text) :
    ∃ above old gap, front = above ++ (old ++ gap) ∧
      CommentSite (front ++ header :: below) above old gap header below := by
  cases hb : commentBlock? ((front ++ header :: below).map stripLineEnd) front.length with
  | none => exact ⟨front, [], [], by simp, by simp, by simp, fun _ => rfl, by simpa [reported] using hb⟩
  | some block =>
    obtain ⟨a, g, htake, hfirst, hgap, hcom⟩ := commentBlock?_eq_some_iff.mp hb
    have hfront : front.map stripLineEnd = a ++ (block.lines ++ g) := by
      rw [← htake, List.map_append]
      simp
    obtain ⟨above, rest, rfl, rfl, hrest⟩ := List.map_eq_append_iff.mp hfront
    obtain ⟨old, gap, rfl, hold, rfl⟩ := List.map_eq_append_iff.mp hrest
    have hne : old ≠ [] := by
      rintro rfl
      exact ne_nil_of_isComment hcom hold.symm
    refine ⟨above, old, gap, rfl, by simp, fun line hm => hgap _ (List.mem_map_of_mem hm),
      fun hnil => absurd hnil hne, ?_⟩
    rw [List.length_map] at hfirst
    rw [hb, reported_of_ne_nil hne, hold, ← hfirst]

theorem exists_docstringSite (above : List Text) (header : Text) (back : List Text) :
    ∃ old below, back = old ++ below ∧ DocstringSite (above ++ header :: back) above header old below := by
  cases hb : docstring? ((above ++ header :: back).map stripLineEnd) above.length with
  | none => exact ⟨[], back, rfl, rfl, by simpa [reported] using hb⟩
  | some block =>
    obtain ⟨hfirst, b, hdrop, hstring⟩ := docstring?_eq_some_iff.mp hb
    have hback : back.map stripLineEnd = block.lines ++ b := by
      rw [← hdrop, ← List.map_drop]
      simp
    obtain ⟨old, below, rfl, hold, rfl⟩ := List.map_eq_append_iff.mp hback
    have hne : old ≠ [] := by
      rintro rfl
      obtain hstring | ⟨hopen, -⟩ := hstring
      · exact ne_nil_of_isDocstring hstring hold.symm
      · exact ne_nil_of_isOpenDocstring hopen hold.symm
    refine ⟨old, below, rfl, rfl, ?_⟩
    rw [hb, reported_of_ne_nil hne, hold, ← hfirst]

/-! ## Blocks replaced at a site -/

section
variable {source above old gap : List Text} {header : Text} {below : List Text}

theorem CommentSite.spliceAt_eq (site : CommentSite source above old gap header below) {family : Family}
    (hf : family.isIndented = false) (endLine : Nat) (doc : Text) :
    spliceAt source family (above ++ (old ++ gap)).length endLine (reported above.length old) doc =
      above ++ (indentBlock doc (stripLineEnd header).indentation (newlineOf header) ++ (gap ++ header :: below)) := by
  have hsource : source = (above ++ (old ++ gap)) ++ header :: below := by
    rw [site.lines]; simp
  have hheader : source.getD (above ++ (old ++ gap)).length [] = header := by
    rw [hsource]; simp
  have hplain : (source.map stripLineEnd).getD (above ++ (old ++ gap)).length [] = stripLineEnd header := by
    rw [hsource]; simp
  unfold spliceAt
  simp only [hf, Bool.false_eq_true, ite_false, hheader, hplain]
  cases old with
  | nil =>
    have hgap : gap = [] := site.near rfl
    subst hgap
    simp only [reported, List.isEmpty_nil, ite_true, replaceLines]
    rw [hsource, List.take_left, List.drop_left]
    simp
  | cons first rest =>
    simp only [reported, List.isEmpty_cons, Bool.false_eq_true, ite_false, replaceLines, DocBlock.stop,
      List.length_map]
    rw [site.lines, List.take_left, ← List.length_append, ← List.append_assoc, List.drop_left]
    simp

theorem DocstringSite.spliceAt_eq (site : DocstringSite source above header old below) {family : Family}
    (hf : family.isIndented = true) (endLine : Nat) (doc : Text) :
    spliceAt source family above.length endLine (reported (above.length + 1) old) doc =
      (above ++ [terminated header]) ++
        (indentBlock doc (bodyIndent (source.map stripLineEnd) above.length endLine) (newlineOf header) ++ below) := by
  have hheader : source.getD above.length [] = header := by
    rw [site.lines]; simp
  have hset : source.set above.length (terminated header) = (above ++ [terminated header]) ++ (old ++ below) := by
    rw [site.lines, List.set_append_right _ _ (Nat.le_refl _)]
    simp
  have hstop : ((reported (above.length + 1) old).map DocBlock.stop).getD (above.length + 1) =
      above.length + 1 + old.length := by
    cases old <;> simp [reported, DocBlock.stop]
  have hlen : (above ++ [terminated header]).length = above.length + 1 := by simp
  unfold spliceAt
  simp only [hf, ite_true, hheader, hset, hstop, replaceLines]
  rw [← hlen, List.take_left, ← List.length_append, ← List.append_assoc _ old, List.drop_left]
  simp

end

/-! ## Blocks found again at their site -/

theorem commentSite_of_isComment (above : List Text) {block gap : List Text} (header : Text) (below : List Text)
    (hgap : ∀ line ∈ gap, (stripLineEnd line).isBlank = true) (hb : isComment (block.map stripLineEnd) = true) :
    CommentSite (above ++ (block ++ (gap ++ header :: below))) above block gap header below where
  lines := rfl
  blank := hgap
  near := by
    rintro rfl
    exact absurd rfl (ne_nil_of_isComment hb)
  found := by
    have hne : block ≠ [] := by
      rintro rfl
      exact ne_nil_of_isComment hb rfl
    have hfront : above ++ (block ++ (gap ++ header :: below)) = (above ++ (block ++ gap)) ++ header :: below := by
      simp
    rw [reported_of_ne_nil hne]
    refine commentBlock?_eq_some_iff.mpr ⟨above.map stripLineEnd, gap.map stripLineEnd, ?_, ?_, ?_, hb⟩
    · rw [← List.map_take, hfront, List.take_left]
      simp
    · simp
    · intro line hm
      obtain ⟨raw, hraw, rfl⟩ := List.mem_map.mp hm
      exact hgap raw hraw

section
variable {source above old gap : List Text} {header : Text} {below : List Text}
  (site : CommentSite source above old gap header below)
include site

theorem CommentSite.write {block : List Text} (hb : isComment (block.map stripLineEnd) = true) :
    CommentSite (above ++ (block ++ (gap ++ header :: below))) above block gap header below :=
  commentSite_of_isComment above header below site.blank hb

theorem CommentSite.of_below (header' : Text) (below' : List Text) :
    CommentSite (above ++ (old ++ (gap ++ header' :: below'))) above old gap header' below' where
  lines := rfl
  blank := site.blank
  near := site.near
  found := by
    have hfront (header : Text) (below : List Text) : (above ++ (old ++ (gap ++ header :: below))).map stripLineEnd =
        (above ++ (old ++ gap)).map stripLineEnd ++ (header :: below).map stripLineEnd := by
      simp
    have hfound := site.found
    rw [site.lines, hfront, ← List.length_map stripLineEnd, commentBlock?_append] at hfound
    rw [hfront, ← List.length_map stripLineEnd, commentBlock?_append, hfound]

theorem CommentSite.isComment_old (hne : old ≠ []) : isComment (old.map stripLineEnd) = true := by
  have h := site.found
  rw [reported_of_ne_nil hne] at h
  exact isComment_of_commentBlock? h

end

theorem docstringSite_iff {source above : List Text} {header : Text} {old below : List Text} :
    DocstringSite source above header old below ↔
      source = above ++ header :: (old ++ below) ∧ LeadsWith (old.map stripLineEnd) (below.map stripLineEnd) := by
  have hdrop : ((above ++ header :: (old ++ below)).map stripLineEnd).drop (above.length + 1) =
      old.map stripLineEnd ++ below.map stripLineEnd := by
    rw [← List.map_drop]
    simp
  constructor
  · rintro ⟨rfl, hfound⟩
    refine ⟨rfl, ?_⟩
    by_cases hold : old = []
    · obtain rfl := hold
      have hnone := isSome_docstring? ((above ++ header :: ([] ++ below)).map stripLineEnd) above.length
      rw [hfound, hdrop] at hnone
      exact .inl ⟨rfl, hnone.symm⟩
    · rw [reported_of_ne_nil hold] at hfound
      obtain ⟨-, b, hb, hstring⟩ := docstring?_eq_some_iff.mp hfound
      obtain rfl := List.append_cancel_left (hdrop.symm.trans hb)
      exact .inr hstring
  · rintro ⟨rfl, hlead⟩
    refine ⟨rfl, ?_⟩
    obtain ⟨hnil, hhead⟩ | hstring := hlead
    · obtain rfl := List.map_eq_nil_iff.mp hnil
      have hnone := isSome_docstring? ((above ++ header :: ([] ++ below)).map stripLineEnd) above.length
      rw [hdrop, List.map_nil, List.nil_append (below.map stripLineEnd), hhead] at hnone
      exact Option.isNone_iff_eq_none.mp (Option.isSome_eq_false_iff.mp hnone)
    · have hne : old ≠ [] := by
        rintro rfl
        obtain hstring | ⟨hopen, -⟩ := hstring
        · exact ne_nil_of_isDocstring hstring rfl
        · exact ne_nil_of_isOpenDocstring hopen rfl
      rw [reported_of_ne_nil hne]
      exact docstring?_eq_some_iff.mpr ⟨rfl, _, hdrop, hstring⟩

theorem docstringSite_of_isDocstring (above : List Text) (header : Text) {block : List Text} (below : List Text)
    (hb : isDocstring (block.map stripLineEnd) = true) :
    DocstringSite (above ++ header :: (block ++ below)) above header block below :=
  docstringSite_iff.mpr ⟨rfl, .inr (.inl hb)⟩

end CursorDoc
