import CursorDoc.Proofs.Yaml.Scan
import CursorDoc.Text.Lines

/-!
# Outlines

An outline is a document of two levels: sections, which are keys at the start
of a line, and in them entries, which are a key and a value on a line that is
indented by two spaces. The tokens of an outline are those of its keys and
values, section by section, and those that start and end its blocks.
-/

namespace CursorDoc.Yaml

structure Word.IsKey (w : Word) : Prop extends w.IsSimple where
  length_le : w.written.length ≤ maxKeyLength

/-- A key at the start of a line, and the keys and values below it. -/
structure Section where
  name : Word
  entries : List (Word × Word)

def entryLine (entry : Word × Word) : Text := [' ', ' '] ++ entry.1.written ++ [':', ' '] ++ entry.2.written

def entryTokens (entry : Word × Word) : List Token := [.key, entry.1.token, .value, entry.2.token]

def IsEntry (entry : Word × Word) : Prop := entry.1.IsKey ∧ entry.2.IsSimple

namespace Section

def lines (part : Section) : List Text := (part.name.written ++ [':']) :: part.entries.map entryLine

def inner (part : Section) : List Token :=
  if part.entries.isEmpty then [] else [.blockMappingStart] ++ part.entries.flatMap entryTokens ++ [.blockEnd]

def tokens (part : Section) : List Token := [.key, part.name.token, .value] ++ part.inner

structure IsSimple (part : Section) : Prop where
  name : part.name.IsKey
  entries : ∀ entry ∈ part.entries, IsEntry entry

end Section

def outlineLines (parts : List Section) : List Text := parts.flatMap Section.lines

def outlineTokens (parts : List Section) : List Token :=
  [.blockMappingStart] ++ parts.flatMap Section.tokens ++ [.blockEnd, .streamEnd]

/-- Lines that come behind another one, each on a line of its own, and what comes behind them. -/
def below (lines : List Text) (behind : Text) : Text := lines.flatMap (['\n'] ++ ·) ++ behind

theorem below_append (lines lines' : List Text) (behind : Text) :
    below (lines ++ lines') behind = below lines (below lines' behind) := by
  simp [below]

def entryStart (entry : Word × Word) (behind : Text) : Text :=
  entry.1.written ++ ':' :: ' ' :: (entry.2.written ++ behind)

def sectionStart (part : Section) (behind : Text) : Text :=
  part.name.written ++ ':' :: below (part.entries.map entryLine) behind

theorem lineBreak_entry {entry : Word × Word} (h : IsEntry entry) (lines : List Text) (behind : Text) :
    LineBreak (below (entryLine entry :: lines) behind) 2 (entryStart entry (below lines behind)) := by
  refine .inr ⟨?_, Scanner.startsWord_written h.1.toIsSimple⟩
  simp [below, entryLine, entryStart, List.replicate]

theorem lineBreak_section {part : Section} (h : part.IsSimple) (lines : List Text) (behind : Text) :
    LineBreak (below (part.lines ++ lines) behind) 0 (sectionStart part (below lines behind)) := by
  refine .inr ⟨?_, Scanner.startsWord_written h.name.toIsSimple⟩
  simp [below, Section.lines, sectionStart]

namespace Scanner

section
variable {behind next : Text} {column : Nat} (hb : LineBreak behind column next) (hc : column ≤ 2)
include hb hc

theorem reaches_entries {entry : Word × Word} {entries : List (Word × Word)}
    (h : ∀ e ∈ entry :: entries, IsEntry e) {s : Scanner} {depth : Nat} (hd : 1 ≤ depth) (hd' : depth ≤ 2)
    {tokens : List Token} (hs : s.Ready (entryStart entry (below (entries.map entryLine) behind)) 2 depth tokens) :
    ∃ s', Reaches s (entryStart entry (below (entries.map entryLine) behind)) s' next ∧
      s'.Ready next column 2 (tokens ++ opening depth 1 ++ (entry :: entries).flatMap entryTokens) := by
  have hclose : closings depth 2 = [] := by
    unfold closings
    rw [Nat.sub_eq_zero_of_le hd']
    rfl
  obtain ⟨hkey, hvalue⟩ := h entry List.mem_cons_self
  induction entries generalizing s depth tokens entry with
  | nil =>
    have hreach := reaches_entry hkey.toIsSimple hkey.length_le hd hb hvalue (show column ≤ 2 * 1 by omega) hs
    simpa [hclose, entryTokens, entryStart, below] using hreach
  | cons entry' entries ih =>
    have h' : ∀ e ∈ entry' :: entries, IsEntry e := fun e he => h e (List.mem_cons_of_mem entry he)
    have hbreak := lineBreak_entry (h' entry' List.mem_cons_self) (entries.map entryLine) behind
    obtain ⟨s', hreach, hready⟩ := reaches_entry hkey.toIsSimple hkey.length_le hd hbreak hvalue
      (show 2 ≤ 2 * 1 by omega) hs
    obtain ⟨hkey', hvalue'⟩ := h' entry' List.mem_cons_self
    obtain ⟨s'', hreach', hready'⟩ := ih h' (by omega) (by omega) hready rfl hkey' hvalue'
    refine ⟨s'', hreach.trans hreach', ?_⟩
    simpa [hclose, entryTokens, opening] using hready'

theorem reaches_section {part : Section} (h : part.IsSimple) {s : Scanner} {depth : Nat} {tokens : List Token}
    (hs : s.Ready (sectionStart part behind) 0 depth tokens) :
    ∃ s' depth' tokens', Reaches s (sectionStart part behind) s' next ∧ s'.Ready next column depth' tokens' ∧
      1 ≤ depth' ∧ tokens' ++ closings depth' 1 = tokens ++ closings depth 1 ++ opening depth 0 ++ part.tokens := by
  obtain ⟨name, entries⟩ := part
  cases entries with
  | nil =>
    obtain ⟨s', hreach, hready⟩ := reaches_key h.name.toIsSimple h.name.length_le (Nat.zero_le depth) hb hs
    exact ⟨s', 1, _, hreach, hready, Nat.le_refl 1, by simp [closings, Section.tokens, Section.inner]⟩
  | cons entry entries =>
    have hbreak := lineBreak_entry (h.entries entry List.mem_cons_self) (entries.map entryLine) behind
    obtain ⟨s', hreach, hready⟩ := reaches_key h.name.toIsSimple h.name.length_le (Nat.zero_le depth) hbreak hs
    obtain ⟨s'', hreach', hready'⟩ := reaches_entries hb hc h.entries (Nat.le_refl 1) (by omega) hready
    exact ⟨s'', 2, _, hreach.trans hreach', hready', by omega,
      by simp [closings, opening, Section.tokens, Section.inner]⟩

end

theorem reaches_sections {part : Section} {parts : List Section} (h : ∀ p ∈ part :: parts, p.IsSimple) {last : Text}
    (hlast : LineBreak last 0 []) {s : Scanner} {depth : Nat} {tokens : List Token}
    (hs : s.Ready (sectionStart part (below (outlineLines parts) last)) 0 depth tokens) :
    ∃ s' depth' tokens', Reaches s (sectionStart part (below (outlineLines parts) last)) s' [] ∧
      s'.Ready [] 0 depth' tokens' ∧ 1 ≤ depth' ∧
      tokens' ++ closings depth' 1 =
        tokens ++ closings depth 1 ++ opening depth 0 ++ (part :: parts).flatMap Section.tokens := by
  -- how deep a section ends depends on its entries, so the tokens are compared with the inner block closed
  induction parts generalizing s depth tokens part with
  | nil =>
    have hreach := reaches_section hlast (Nat.zero_le 2) (h part List.mem_cons_self) hs
    simpa [outlineLines, below] using hreach
  | cons part' parts ih =>
    have h' : ∀ p ∈ part' :: parts, p.IsSimple := fun p hp => h p (List.mem_cons_of_mem part hp)
    have hbreak := lineBreak_section (h' part' List.mem_cons_self) (outlineLines parts) last
    obtain ⟨s', depth', tokens', hreach, hready, hpos, htokens⟩ :=
      reaches_section hbreak (Nat.zero_le 2) (h part List.mem_cons_self) hs
    obtain ⟨s'', depth'', tokens'', hreach', hready', hpos', htokens'⟩ := ih h' hready
    refine ⟨s'', depth'', tokens'', hreach.trans hreach', hready', hpos', ?_⟩
    have hopen : opening depth' 0 = [] := if_neg (by omega)
    rw [htokens', htokens, hopen]
    simp

theorem step_end {s : Scanner} {column depth : Nat} {tokens : List Token} (hs : s.Ready [] column depth tokens) :
    ∃ s', s.step = .ok s' ∧ s'.finished = true ∧ s'.tokens = tokens ++ closings depth 0 ++ [.streamEnd] := by
  obtain ⟨⟨rest, index, line, here⟩, keyAllowed, hnext, rfl, -⟩ := hs
  obtain ⟨left, hle, hleft⟩ := exists_unwound here depth
  have hclose : closings depth left ++ closings left 0 = closings depth 0 := by
    unfold closings
    rw [List.replicate_append_replicate]
    congr 1
    omega
  have hfirst : ((resting ⟨[], index, line, here⟩ depth keyAllowed tokens).unwind here) =
      resting ⟨[], index, line, here⟩ left keyAllowed (tokens ++ closings depth left) := by
    simp only [unwind, resting, hleft, if_true, closings]
  -- the column of the end closes some blocks, and the end itself the others
  have hall := unwind_resting ⟨[], index, line, here⟩ left keyAllowed (tokens ++ closings depth left) 0
  rw [Nat.min_zero] at hall
  have hstep : s.step = (resting ⟨[], index, line, here⟩ left keyAllowed (tokens ++ closings depth left)).fetchEnd := by
    unfold step
    rw [hnext]
    change ((resting ⟨[], index, line, here⟩ depth keyAllowed tokens).unwind here).fetchToken = _
    rw [hfirst]
    rfl
  refine ⟨_, hstep.trans (by unfold fetchEnd; rw [show (-1 : Int) = indentAt 0 from rfl, hall]; rfl), rfl, ?_⟩
  change tokens ++ closings depth left ++ closings left 0 ++ [.streamEnd] = _
  rw [List.append_assoc tokens, hclose]

end Scanner

/-- The tokens of an outline. The last line may be terminated or not. -/
theorem scan_outline {parts : List Section} (hne : parts ≠ []) (h : ∀ part ∈ parts, part.IsSimple) {last : Text}
    (hlast : last = [] ∨ last = ['\n']) :
    scan (Text.joinLines (outlineLines parts) ++ last) = ⟨outlineTokens parts, none⟩ := by
  obtain ⟨part, parts, rfl⟩ := List.exists_cons_of_ne_nil hne
  have hbreak : LineBreak last 0 [] := by
    obtain rfl | rfl := hlast
    · exact .inl ⟨rfl, rfl⟩
    · exact .inr ⟨rfl, fun c hc => by cases hc⟩
  have htext : Text.joinLines (outlineLines (part :: parts)) ++ last =
      sectionStart part (below (outlineLines parts) last) := by
    have hlines : outlineLines (part :: parts) =
        (part.name.written ++ [':']) :: (part.entries.map entryLine ++ outlineLines parts) := rfl
    rw [hlines, Text.joinLines, Text.joinWith_cons, sectionStart, ← below_append]
    simp [below]
  rw [htext]
  have hstart : StartsWord (sectionStart part (below (outlineLines parts) last)) :=
    Scanner.startsWord_written (h part List.mem_cons_self).name.toIsSimple
  have hready := Scanner.ready_word hstart 0 0 0 0 true (fun _ => rfl) []
  obtain ⟨s, depth, tokens, ⟨n, hsteps, hle⟩, hready, hpos, htokens⟩ := Scanner.reaches_sections h hbreak hready
  obtain ⟨s', hstep, hfinished, hend⟩ := Scanner.step_end hready
  have hrun := hsteps.run ((sectionStart part (below (outlineLines parts) last)).length - n + 1)
  have hlimit : n + ((sectionStart part (below (outlineLines parts) last)).length - n + 1) =
      (sectionStart part (below (outlineLines parts) last)).length + 1 := by
    rw [List.length_nil] at hle
    omega
  rw [hlimit] at hrun
  refine hrun.trans ?_
  have hclose : Scanner.closings depth 0 = Scanner.closings depth 1 ++ [.blockEnd] := by
    unfold Scanner.closings
    rw [← List.replicate_succ']
    congr 1
    omega
  rw [Scanner.run, hstep]
  simp only [hfinished, if_true, hend, hclose]
  rw [← List.append_assoc tokens, htokens]
  simp [outlineTokens, Scanner.closings, Scanner.opening]

end CursorDoc.Yaml
