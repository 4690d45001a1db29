import CursorDoc.Proofs.Text.Utf8
import CursorDoc.Proofs.Yaml.Depth
import CursorDoc.Proofs.Yaml.Value
import CursorDoc.Settings.Document

/-!
# Outlines as settings

The text of an outline is read to its values. A word without a value of its
tag, wherever it stands, makes the whole reading fail, and nothing else does:
the failure is that of the first such word.
-/

namespace CursorDoc

theorem Text.mem_joinLines {lines : List Text} {c : Char} (h : c ∈ joinLines lines) :
    c = '\n' ∨ ∃ line ∈ lines, c ∈ line := by
  cases lines with
  | nil => cases h
  | cons line lines =>
    rw [joinLines, joinWith_cons] at h
    rcases List.mem_append.mp h with h | h
    · exact .inr ⟨line, List.mem_cons_self, h⟩
    · obtain ⟨line', hline, h⟩ := List.mem_flatMap.mp h
      rcases List.mem_cons.mp h with rfl | h
      · exact .inl rfl
      · exact .inr ⟨line', List.mem_cons_of_mem line hline, h⟩

namespace Yaml

def isLineChar (c : Char) : Bool := isInnerChar c || c == '"' || c == ':' || c == ' '

theorem Word.IsSimple.all_isLineChar {w : Word} (h : w.IsSimple) : ∀ c ∈ w.written, isLineChar c = true := by
  have hinner : ∀ c ∈ w.text, isLineChar c = true := fun c hc => by simp [isLineChar, h.all c hc]
  intro c hc
  unfold written at hc
  split at hc
  · exact hinner c hc
  · simp only [List.mem_append, List.mem_singleton] at hc
    obtain (rfl | hc) | rfl := hc
    · rfl
    · exact hinner c hc
    · rfl

theorem Section.IsSimple.all_isLineChar {part : Section} (h : part.IsSimple) :
    ∀ line ∈ part.lines, ∀ c ∈ line, isLineChar c = true := by
  intro line hline c hc
  rcases List.mem_cons.mp hline with rfl | hline
  · rcases List.mem_append.mp hc with hc | hc
    · exact h.name.all_isLineChar c hc
    · rw [List.mem_singleton.mp hc]
      rfl
  · obtain ⟨entry, hentry, rfl⟩ := List.mem_map.mp hline
    obtain ⟨hkey, hvalue⟩ := h.entries entry hentry
    simp only [entryLine, List.mem_append, List.mem_cons, List.not_mem_nil, or_false] at hc
    obtain (((rfl | rfl) | hc) | rfl | rfl) | hc := hc
    · rfl
    · rfl
    · exact hkey.all_isLineChar c hc
    · rfl
    · rfl
    · exact hvalue.all_isLineChar c hc

theorem isAllowed_of_isLineChar {c : Char} (h : isLineChar c = true) : isAllowed c = true := by
  unfold isLineChar at h
  simp only [Bool.or_eq_true, beq_iff_eq] at h
  obtain ((h | rfl) | rfl) | rfl := h
  · exact of_isInnerChar (by decide) h
  · rfl
  · rfl
  · rfl

section
variable {parts : List Section} (hp : ∀ part ∈ parts, part.IsSimple) {last : Text} (hlast : last = [] ∨ last = ['\n'])
include hp hlast

theorem all_isAllowed_outline : (Text.joinLines (outlineLines parts) ++ last).all isAllowed = true := by
  simp only [List.all_eq_true, List.mem_append]
  rintro c (hc | hc)
  · obtain rfl | ⟨line, hline, hc⟩ := Text.mem_joinLines hc
    · rfl
    · obtain ⟨part, hpart, hline⟩ := List.mem_flatMap.mp hline
      exact isAllowed_of_isLineChar ((hp part hpart).all_isLineChar line hline c hc)
  · obtain rfl | rfl := hlast
    · cases hc
    · rw [List.mem_singleton.mp hc]
      rfl

/-- The values of the text of an outline. -/
theorem document_outline {loader : Loader} (hdepth : 2 ≤ loader.depth) (hne : parts ≠ []) :
    loader.document (scan (Text.joinLines (outlineLines parts) ++ last)) = .ok (outlineDocument parts) := by
  unfold Loader.document
  rw [scan_outline hne hp hlast, within_outline hdepth]
  exact ofTokens_outline parts

theorem values?_outline {loader : Loader} (hdepth : 2 ≤ loader.depth) (hne : parts ≠ []) :
    loader.values? (Text.joinLines (outlineLines parts) ++ last) = (outlineValues parts).map some := by
  unfold Loader.values?
  rw [document_outline hp hlast hdepth hne]
  exact ofDocument?_outline loader.chain hp

end

/-! ## The first word without a value -/

/-- The words of an outline in the order in which they are looked at. -/
def outlineWords (parts : List Section) : List Word :=
  parts.map Section.name ++ parts.flatMap fun part => part.entries.flatMap fun entry => [entry.1, entry.2]

theorem faultOf?_sectionValues (first : Nat) (parts : List Section) :
    faultOf? (sectionValues first parts) = (parts.map Section.name).findSome? fun word => faultOf? word.value := by
  induction parts generalizing first with
  | nil => rfl
  | cons part parts ih =>
    rw [sectionValues, List.map_cons, ← List.singleton_append, List.findSome?_append,
      List.findSome?_singleton, ← ih (first + (part.nodes first).length)]
    exact faultOf?_bind fun name => faultOf?_map _

theorem faultOf?_mapM_entryValues (entries : List (Word × Word)) :
    faultOf? (entries.mapM entryValues) =
      (entries.flatMap fun entry => [entry.1, entry.2]).findSome? fun word => faultOf? word.value := by
  have hentry : ∀ entry, faultOf? (entryValues entry) = [entry.1, entry.2].findSome? fun word =>
      faultOf? word.value := by
    intro entry
    unfold entryValues
    cases hkey : entry.1.value with
    | error fault => simp [hkey, faultOf?, bind, Except.bind]
    | ok key => cases hvalue : entry.2.value <;> simp [hkey, hvalue, faultOf?, bind, Except.bind, pure, Except.pure]
  induction entries with
  | nil => rfl
  | cons entry entries ih =>
    rw [List.mapM_cons, List.flatMap_cons, List.findSome?_append, ← hentry, ← ih]
    exact faultOf?_bind fun pair => faultOf?_map _

theorem faultOf?_sectionMappings (first : Nat) (parts : List Section) :
    faultOf? (sectionMappings first parts) =
      (parts.flatMap fun part => part.entries.flatMap fun entry => [entry.1, entry.2]).findSome? fun word =>
        faultOf? word.value := by
  induction parts generalizing first with
  | nil => rfl
  | cons part parts ih =>
    rw [sectionMappings, List.flatMap_cons, List.findSome?_append, ← ih (first + (part.nodes first).length)]
    split
    · next hempty =>
      rw [List.isEmpty_iff.mp hempty]
      rfl
    · rw [← faultOf?_mapM_entryValues]
      exact faultOf?_bind fun pairs => faultOf?_map _

/-- The values of an outline are missing for the first word that has none, and for nothing else. -/
theorem faultOf?_outlineValues (parts : List Section) :
    faultOf? (outlineValues parts) = (outlineWords parts).findSome? fun word => faultOf? word.value := by
  rw [outlineWords, List.findSome?_append, ← faultOf?_sectionValues 1, ← faultOf?_sectionMappings 1]
  exact faultOf?_bind fun sections => faultOf?_map _

end Yaml

/-- A text that was written to a file is read from it, if all of it can be in a document. -/
theorem Yaml.readable?_encode {t : Text} (h : t.unifyNewlines.all isAllowed = true) :
    readable? (Utf8.encode t) = some t.unifyNewlines := by
  unfold readable?
  simp only [Utf8.decode_encode, h, if_true]

theorem Settings.ofBytes_encode (loader : Yaml.Loader) {t : Text} (h : t.unifyNewlines.all Yaml.isAllowed = true) :
    ofBytes loader (Utf8.encode t) = ofText loader t.unifyNewlines := by
  unfold ofBytes
  rw [Yaml.readable?_encode h]

end CursorDoc
