import CursorDoc.Proofs.Splice.Located

/-!
# Edits with the cursor on a header

With the cursor on a header an edit finds the function of that header and
splices the documentation in at its site. What it writes below an indented
header depends on that header and on the lines below it only.
-/

namespace CursorDoc

open Text

/-- The text after `doc` was spliced in at the function that the cursor is on. -/
def document? (language : Text) (settings : Settings) (s : Text) (cursor : Int) (doc : Text) : Option Text :=
  (locate? (.text s) cursor language settings).bind fun r => (splice s r doc).toOption

def Family.isHeader (family : Family) (lines : List Text) (k : Nat) : Bool :=
  (lines[k]?.bind family.signatureName?).isSome

theorem document?_of_splice {language s doc t : Text} {settings : Settings} {cursor : Int} {r : Record}
    (hr : locate? (.text s) cursor language settings = some r) (ht : splice s r doc = .ok t) :
    document? language settings s cursor doc = some t := by
  unfold document?
  rw [hr, Option.bind_some, ht]
  rfl

theorem exists_of_isHeader {family : Family} {s : Text} {k : Nat} (h : family.isHeader (Buffer.text s).asLines k = true) :
    ∃ front header below name, s.splitLines = front ++ header :: below ∧ front.length = k ∧
      family.signatureName? (stripLineEnd header) = some name := by
  obtain ⟨name, hname⟩ := Option.isSome_iff_exists.mp h
  obtain ⟨plain, hplain, hname⟩ := Option.bind_eq_some_iff.mp hname
  have hk : (s.splitLines.map stripLineEnd)[k]? = some plain := hplain
  rw [List.getElem?_map] at hk
  obtain ⟨header, hheader, rfl⟩ := Option.map_eq_some_iff.mp hk
  obtain ⟨hlt, hget⟩ := List.getElem?_eq_some_iff.mp hheader
  refine ⟨s.splitLines.take k, header, s.splitLines.drop (k + 1), name, ?_, by rw [List.length_take]; omega, hname⟩
  rw [← hget, List.getElem_cons_drop, List.take_append_drop]

theorem exists_of_isHeaders {family : Family} {s : Text} {i j : Nat} (hij : i < j)
    (hi : family.isHeader (Buffer.text s).asLines i = true) (hj : family.isHeader (Buffer.text s).asLines j = true) :
    ∃ front upper mid lower below nameᵢ nameⱼ, s.splitLines = front ++ upper :: (mid ++ lower :: below) ∧
      front.length = i ∧ (front ++ upper :: mid).length = j ∧
      family.signatureName? (stripLineEnd upper) = some nameᵢ ∧
      family.signatureName? (stripLineEnd lower) = some nameⱼ := by
  obtain ⟨front, upper, back, nameᵢ, hlinesᵢ, rfl, hnᵢ⟩ := exists_of_isHeader hi
  obtain ⟨frontⱼ, lower, below, nameⱼ, hlinesⱼ, rfl, hnⱼ⟩ := exists_of_isHeader hj
  rw [hlinesᵢ] at hlinesⱼ
  obtain ⟨c, rfl, hc⟩ : ∃ c, frontⱼ = front ++ c ∧ upper :: back = c ++ lower :: below := by
    obtain ⟨a, rfl, -⟩ | h := List.append_eq_append_iff.mp hlinesⱼ.symm
    · rw [List.length_append] at hij
      omega
    · exact h
  cases c with
  | nil => simp at hij
  | cons first mid =>
    obtain ⟨rfl, rfl⟩ := List.cons.inj hc
    exact ⟨front, upper, mid, lower, below, nameᵢ, nameⱼ, hlinesᵢ, rfl, rfl, hnᵢ, hnⱼ⟩

/-- The index of a line moves by the number of lines that were added above it. -/
theorem shifted_index {lines lines₁ front front₁ back : List Text} (h : lines = front ++ back)
    (h₁ : lines₁ = front₁ ++ back) : (front.length : Int) + lines₁.length - lines.length = front₁.length := by
  rw [h, h₁, List.length_append, List.length_append]
  omega

/-! ## Brace-delimited functions -/

section
variable {s : Text} {above old gap : List Text} {header : Text} {below : List Text} {language name : Text}
  {settings : Settings} (hf : (Family.ofTag language).isIndented = false)
  (hk : 0 ≤ settings.lookbackOf (.ofTag language))
  (site : CommentSite s.splitLines above old gap header below)
  (hn : (Family.ofTag language).signatureName? (stripLineEnd header) = some name)
include hf hk site hn

theorem CommentSite.document?_eq (doc : Text) :
    document? language settings s (above ++ (old ++ gap)).length doc =
      some (above ++ (indentBlock doc (stripLineEnd header).indentation (newlineOf header) ++
        (gap ++ header :: below))).flatten := by
  have hlines : s.splitLines = (above ++ (old ++ gap)) ++ header :: below := by
    rw [site.lines]
    simp
  exact document?_of_splice (locate?_of_header below hlines hn hk) (site.splice_eq hf doc)

theorem CommentSite.exists_document? (hr : header.getLast? ≠ some '\r') (doc : Text) :
    ∃ t, document? language settings s (above ++ (old ++ gap)).length doc = some t ∧
      t.splitLines = above ++ (indentBlock doc (stripLineEnd header).indentation (newlineOf header) ++
        (gap ++ header :: below)) :=
  ⟨_, site.document?_eq hf hk hn doc, site.splitLines_write hr doc⟩

end

/-! ## Indented functions -/

section
variable {s : Text} {above : List Text} {header : Text} {old below : List Text} {language name : Text}
  {settings : Settings} (hf : (Family.ofTag language).isIndented = true)
  (site : DocstringSite s.splitLines above header old below)
include hf site

theorem DocstringSite.document?_eq (hk : 0 ≤ settings.lookbackOf (.ofTag language))
    (hn : (Family.ofTag language).signatureName? (stripLineEnd header) = some name) (doc : Text) :
    document? language settings s above.length doc =
      some (above ++ terminated header ::
        (indentBlock doc (indentBelow (stripLineEnd header) ((old ++ below).map stripLineEnd)) (newlineOf header) ++
          below)).flatten := by
  have hlocate := locate?_of_header (old ++ below) site.lines hn hk
  have hsplice := @DocstringSite.splice_eq s above header old below language name settings hf site doc _ rfl
  rw [site.bodyIndent_eq hf rfl, List.append_assoc, List.singleton_append] at hsplice
  exact document?_of_splice hlocate hsplice

theorem DocstringSite.exists_document? (hk : 0 ≤ settings.lookbackOf (.ofTag language))
    (hn : (Family.ofTag language).signatureName? (stripLineEnd header) = some name)
    (hr : header.getLast? ≠ some '\r') (doc : Text) :
    ∃ t, document? language settings s above.length doc = some t ∧
      t.splitLines = above ++ terminated header ::
        (indentBlock doc (indentBelow (stripLineEnd header) ((old ++ below).map stripLineEnd)) (newlineOf header) ++
          below) := by
  refine ⟨_, site.document?_eq hf hk hn doc, ?_⟩
  have hlines := @DocstringSite.splitLines_write s above header old below site hr
    (recordAt (.ofTag language) settings language (s.splitLines.map stripLineEnd) above.length name).endLine.toNat doc
  rw [site.bodyIndent_eq hf rfl, List.append_assoc, List.singleton_append] at hlines
  exact hlines

end

end CursorDoc
