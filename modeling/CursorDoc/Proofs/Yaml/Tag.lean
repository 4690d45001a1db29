import CursorDoc.Proofs.Pattern
import CursorDoc.Proofs.Text.Decimal
import CursorDoc.Proofs.Yaml.Word
import CursorDoc.Yaml.Tag

/-!
# Tags of words

A pattern that needs a character of some set reads no text without one. Words
have no characters that merge keys and value keys need, and decimal numbers
none that booleans and floating point numbers need.
-/

namespace CursorDoc

namespace Pattern

theorem reads_iff {p : Pattern} {t : Text} : p.reads t = true ↔ ∃ there, p.Reads ⟨none, t, none⟩ there := by
  constructor
  · intro h
    obtain ⟨_, ha⟩ := Option.isSome_iff_exists.mp h
    obtain ⟨there, hread, -⟩ := (meets p).sound ha
    exact ⟨there, hread⟩
  · rintro ⟨there, hread⟩
    exact (meets p).complete hread rfl

/-! ## Characters that a pattern needs -/

/-- Every reading comes by a character of the set. -/
def Needs (p : Pattern) (set : CharSet) : Prop :=
  ∀ here there : Place, p.Reads here there → ∃ c ∈ here.rest, set c = true

section
variable {p q : Pattern} {set : CharSet}

theorem Needs.of_reads (h : p.Needs set) {t : Text} (ht : p.reads t = true) : ∃ c ∈ t, set c = true := by
  obtain ⟨there, hread⟩ := reads_iff.mp ht
  exact h _ there hread

theorem needs_one {set' : CharSet} (h : ∀ c, set' c = true → set c = true) : (one set').Needs set := by
  intro here there hread
  obtain ⟨c, rest, hrest, hc, -⟩ := hread
  exact ⟨c, by rw [hrest]; exact List.mem_cons_self, h c hc⟩

theorem Needs.seq_left (hp : p.Needs set) (q : Pattern) : (seq p q).Needs set := by
  rintro here there ⟨mid, hmid, -⟩
  exact hp here mid hmid

theorem Needs.seq_right (hq : q.Needs set) (p : Pattern) : (seq p q).Needs set := by
  intro here there ⟨mid, hmid, hthere⟩
  obtain ⟨t, ht⟩ := hmid.exists_append
  obtain ⟨c, hc, hset⟩ := hq mid there hthere
  exact ⟨c, by rw [ht]; exact List.mem_append_right t hc, hset⟩

theorem Needs.either (hp : p.Needs set) (hq : q.Needs set) : (either p q).Needs set := by
  intro here there hread
  cases hread with
  | inl hread => exact hp here there hread
  | inr hread => exact hq here there hread

theorem needs_all : ∀ {ps : List Pattern}, (∃ p ∈ ps, p.Needs set) → (all ps).Needs set
  | [], h => by simp at h
  | [p], h => by simpa [all] using h
  | p :: q :: ps, h => by
    obtain ⟨p', hmem, hp'⟩ := h
    cases hmem with
    | head => exact hp'.seq_left _
    | tail _ hmem => exact (needs_all ⟨p', hmem, hp'⟩).seq_right p

theorem needs_first : ∀ {ps : List Pattern}, (∀ p ∈ ps, p.Needs set) → (first ps).Needs set
  | [], _ => fun here _ hread => absurd rfl (hread.2 here)
  | [p], h => h p List.mem_cons_self
  | p :: _ :: _, h =>
    (h p List.mem_cons_self).either (needs_first fun p' hp' => h p' (List.mem_cons_of_mem p hp'))

theorem needs_word {w : String} (h : w.toList.any set = true) : (word w).Needs set := by
  obtain ⟨c, hmem, hc⟩ := List.any_eq_true.mp h
  refine needs_all ⟨char c, List.mem_map_of_mem hmem, needs_one fun d hd => ?_⟩
  rwa [beq_iff_eq.mp hd]

theorem needs_oneWord {words : List String} (h : ∀ w ∈ words, w.toList.any set = true) :
    (oneWord words).Needs set := by
  apply needs_first
  intro p hp
  obtain ⟨w, hw, rfl⟩ := List.mem_map.mp hp
  exact needs_word (h w hw)

end

end Pattern

namespace Yaml

open Pattern

namespace Tag

theorem needs_whole {p : Pattern} {set : CharSet} (h : p.Needs set) : (whole p).Needs set :=
  needs_all ⟨p, by simp, h⟩

theorem needs_boolPattern : boolPattern.Needs Char.isAlpha := needs_whole (needs_oneWord (by decide))

theorem needs_floatPattern : floatPattern.Needs (· == '.') := by
  have hdot : (char '.').Needs (· == '.') := needs_one fun _ h => h
  refine needs_whole (needs_first fun p hp => ?_)
  simp only [List.mem_cons, List.not_mem_nil, or_false] at hp
  obtain rfl | rfl | rfl | rfl | rfl := hp <;> exact needs_all ⟨char '.', by simp, hdot⟩

/-- Where the tag of a text comes from. -/
theorem ofText_eq {t : Text} {tag : Tag} (h : ofText t = tag) :
    tag = null ∨ tag = text ∨ ∃ p, (p, tag) ∈ textPatterns ∧ p.reads t = true := by
  unfold ofText at h
  split at h
  · exact .inl h.symm
  · split at h
    · next p tag' hfind =>
      subst h
      have hreads := List.find?_some hfind
      exact .inr (.inr ⟨p, List.mem_of_find?_eq_some hfind, hreads⟩)
    · exact .inr (.inl h.symm)

/-- Words that are no numbers and no other words with a meaning are texts; none is a key with a meaning. -/
theorem ofText_mem {t : Text} (h : ∀ c ∈ t, isInnerChar c = true) :
    ofText t ∈ [null, bool, int, float, timestamp, text] := by
  obtain htag | htag | ⟨p, hp, hreads⟩ := ofText_eq (t := t) rfl
  · simp [htag]
  · simp [htag]
  · have hnot : ¬ p.Needs (!isInnerChar ·) := by
      intro hneeds
      obtain ⟨c, hc, hset⟩ := hneeds.of_reads hreads
      rw [h c hc] at hset
      cases hset
    simp only [textPatterns, List.mem_cons, Prod.mk.injEq, List.not_mem_nil, or_false] at hp
    obtain ⟨-, htag⟩ | ⟨-, htag⟩ | ⟨-, htag⟩ | ⟨rfl, -⟩ | ⟨-, htag⟩ | ⟨-, htag⟩ | ⟨rfl, -⟩ | ⟨rfl, -⟩ := hp
    · simp [htag]
    · simp [htag]
    · simp [htag]
    · exact absurd (needs_whole (needs_word (by decide))) hnot
    · simp [htag]
    · simp [htag]
    · exact absurd (needs_whole (needs_word (by decide))) hnot
    · exact absurd (needs_whole (needs_oneWord (by decide))) hnot

/-! ## Decimal numbers -/

theorem reads_intPattern {t : Text} (ht : ∀ c ∈ t, c.isDigit = true) (hne : t ≠ [])
    (hhead : t = ['0'] ∨ t.head? ≠ some '0') : intPattern.reads t = true := by
  obtain ⟨c, r, rfl⟩ := List.exists_cons_of_ne_nil hne
  have hr : ∀ d ∈ r, (d.isDigit || d == '_') = true := fun d hd => by
    rw [ht d (List.mem_cons_of_mem c hd)]
    rfl
  refine reads_iff.mpr ⟨Place.past ⟨some c, r, none⟩ r [], ⟨_, ⟨rfl, rfl⟩, _, ⟨_, .inr rfl, ?_⟩, rfl, rfl⟩⟩
  obtain heq | hhead := hhead
  · obtain ⟨rfl, rfl⟩ := List.cons.inj heq
    exact .inr (.inr (.inl ⟨'0', [], rfl, rfl, rfl⟩))
  · have hc := ht c List.mem_cons_self
    have hval : c.val.toNat ≠ 48 := by
      intro hval
      exact hhead (congrArg some (Char.ext (UInt32.toNat_inj.mp hval)))
    have hfirst : ('1' ≤ c && c ≤ '9') = true := by
      simp [Char.isDigit, Char.le_def, UInt32.le_iff_toNat_le] at hc hval ⊢
      omega
    exact .inr (.inr (.inr (.inl ⟨_, ⟨c, r, rfl, hfirst, rfl⟩, r, [], by simp, hr, rfl⟩)))

theorem ofText_decimal (n : Nat) : ofText (Text.decimal n) = int := by
  have hdigit := Text.isDigit_of_mem_decimal n
  have hne := Text.decimal_ne_nil n
  have hbool : ¬ boolPattern.reads (Text.decimal n) = true := by
    intro h
    obtain ⟨c, hc, halpha⟩ := needs_boolPattern.of_reads h
    rw [Text.isAlpha_of_isDigit (hdigit c hc)] at halpha
    cases halpha
  have hfloat : ¬ floatPattern.reads (Text.decimal n) = true := by
    intro h
    obtain ⟨c, hc, hdot⟩ := needs_floatPattern.of_reads h
    rw [beq_iff_eq.mp hdot] at hc
    cases hdigit '.' hc
  have hint : intPattern.reads (Text.decimal n) = true := by
    apply reads_intPattern hdigit hne
    obtain rfl | hpos := Nat.eq_zero_or_pos n
    · exact .inl (by rw [Text.decimal]; rfl)
    · exact .inr (Text.head?_decimal hpos)
  simp [ofText, textPatterns, hne, hbool, hfloat, hint]

end Tag

end Yaml
end CursorDoc
