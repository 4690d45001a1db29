import CursorDoc.Settings.Document
import CursorDoc.Proofs.Text.Lines
import Mathlib.Data.List.Basic
import Mathlib.Data.List.Induction

/-!
# Languages of paths

The language of a path is decided by the end of its last component from the
last dot on; where the file lies and how its name begins do not matter. An
entry of the settings stands for a suffix if both are the same in lower case,
with or without the dot of the key. Of several such entries the last one
counts, and the built-in table is asked only if there is none.
-/

namespace CursorDoc

open Text

/-! ## Dots in lower case -/

namespace Text

theorem eq_toNat_of_ofNat_eq {n : Nat} {c : Char} (h : Char.ofNat n = c) (hc : c.toNat ≠ 0) : n = c.toNat := by
  by_cases hvalid : n.isValidChar
  · have hchar : Char.ofNat n = Char.ofNatAux n hvalid := dif_pos hvalid
    rw [← h, hchar]
    rfl
  · have hchar : Char.ofNat n = '\x00' := dif_neg hvalid
    rw [← h, hchar] at hc
    exact absurd rfl hc

theorem lowerChar_dot : lowerChar '.' = '.' := by decide +kernel

theorem lowerChar_ne_dot {c : Char} (h : c ≠ '.') : lowerChar c ≠ '.' := by
  -- whatever has another lower case gets one behind the dot
  have hblocks : ∀ block ∈ lowerBlocks, 46 < block.1 + block.2.2.2 := by decide +kernel
  unfold lowerChar
  dsimp only
  split
  · next first last step shift hfind =>
    have hblock := hblocks _ (List.mem_of_find?_eq_some hfind)
    have hfirst := List.find?_some hfind
    simp only [Bool.and_eq_true, decide_eq_true_eq] at hfirst hblock
    intro hdot
    have hvalue : Int.toNat (c.toNat + shift) = 46 := eq_toNat_of_ofNat_eq hdot (by decide)
    omega
  · exact h

theorem facesCased_concat_dot (before : Text) : facesCased (before ++ ['.']) = facesCased before := by
  have hdot : [('.' : Char)].dropWhile isCaseIgnorable = [] := by decide +kernel
  unfold facesCased
  rw [List.dropWhile_append, hdot]
  cases before.dropWhile isCaseIgnorable <;> rfl

theorem lowerAfter_concat_dot (before t : Text) : lowerAfter (before ++ ['.']) t = lowerAfter before t := by
  induction t generalizing before with
  | nil => rfl
  | cons c t ih => rw [lowerAfter, lowerAfter, facesCased_concat_dot, ← List.cons_append, ih]

theorem lower_cons_dot (t : Text) : lower ('.' :: t) = '.' :: lower t := by
  have hafter : lowerAfter ['.'] t = lowerAfter [] t := lowerAfter_concat_dot [] t
  rw [lower, lower, lowerAfter, hafter, if_neg (by decide), if_neg (by decide), lowerChar_dot]
  rfl

theorem startsWith_lower_cons {c : Char} (h : c ≠ '.') (t : Text) : (lower (c :: t)).startsWith ['.'] = false := by
  unfold lower lowerAfter startsWith
  dsimp only
  split
  · split <;> rfl
  · split
    · rfl
    · rw [List.singleton_append, List.isPrefixOf, beq_false_of_ne (Ne.symm (lowerChar_ne_dot h)), Bool.false_and]

end Text

/-! ## Keys -/

def withoutDot : Text → Text
  | '.' :: rest => rest
  | suffix => suffix

theorem suffixSpelling_eq (key : Text) : Settings.suffixSpelling key = '.' :: lower (withoutDot key) := by
  match key with
  | [] => rfl
  | c :: rest =>
    unfold Settings.suffixSpelling
    dsimp only
    by_cases hc : c = '.'
    · rw [hc, lower_cons_dot]
      rfl
    · have hkeep : withoutDot (c :: rest) = c :: rest := by
        unfold withoutDot
        split
        · next h => exact absurd (List.cons.inj h).1 hc
        · rfl
      rw [hkeep, startsWith_lower_cons hc]
      rfl

def configures (suffix : Text) : Yaml.Value × Yaml.Value → Bool
  | (.text key, .text _) => Settings.suffixSpelling key == suffix
  | _ => false

theorem eq_texts_of_configures {suffix : Text} {entry : Yaml.Value × Yaml.Value} (h : configures suffix entry = true) :
    ∃ key tag, entry = (.text key, .text tag) ∧ Settings.suffixSpelling key = suffix := by
  unfold configures at h
  split at h
  · next key tag => exact ⟨key, tag, rfl, eq_of_beq h⟩
  · cases h

theorem extensionsOf_concat (entries : Yaml.Entries) (entry : Yaml.Value × Yaml.Value) :
    Settings.extensionsOf (entries ++ [entry]) =
      match entry with
      | (.text key, .text tag) => (Settings.extensionsOf entries).insert (Settings.suffixSpelling key) tag
      | _ => Settings.extensionsOf entries := by
  unfold Settings.extensionsOf
  rw [List.foldl_append]
  rfl

theorem find?_extensionsOf_concat {suffix : Text} (entries : Yaml.Entries) {entry : Yaml.Value × Yaml.Value}
    (h : configures suffix entry = false) :
    (Settings.extensionsOf (entries ++ [entry])).find? suffix = (Settings.extensionsOf entries).find? suffix := by
  rw [extensionsOf_concat]
  split
  · next key tag =>
    rw [Dictionary.find?_insert, if_neg]
    intro hkey
    rw [configures, hkey] at h
    cases h
  · rfl

/-- Entries that do not stand for the suffix change nothing behind the last one that does. -/
theorem find?_extensionsOf_append {suffix : Text} (before : Yaml.Entries) {after : Yaml.Entries}
    (h : ∀ entry ∈ after, configures suffix entry = false) :
    (Settings.extensionsOf (before ++ after)).find? suffix = (Settings.extensionsOf before).find? suffix := by
  induction after using List.reverseRecOn with
  | nil => rw [List.append_nil]
  | append_singleton after entry ih =>
    obtain ⟨hafter, hentry⟩ := List.forall_mem_append.mp h
    rw [← List.append_assoc, find?_extensionsOf_concat _ (hentry entry List.mem_cons_self), ih hafter]

/-! ## Languages of suffixes -/

inductive IsLanguageOf (entries : Yaml.Entries) (suffix : Text) : Text → Prop
  | configured {before after : Yaml.Entries} {key tag : Text}
      (entries_eq : entries = before ++ (.text key, .text tag) :: after)
      (spelled : Settings.suffixSpelling key = suffix)
      (last : ∀ entry ∈ after, configures suffix entry = false) : IsLanguageOf entries suffix tag
  | builtIn {name tag : String} (unset : ∀ entry ∈ entries, configures suffix entry = false)
      (known : (name, tag) ∈ suffixTags) (spelled : name.toList = suffix) : IsLanguageOf entries suffix tag.toList
  | unknown (unset : ∀ entry ∈ entries, configures suffix entry = false)
      (unknown : ∀ pair ∈ suffixTags, pair.1.toList ≠ suffix) : IsLanguageOf entries suffix fallbackTag

theorem find?_suffixTags {pair : String × String} (h : pair ∈ suffixTags) :
    suffixTags.find? (·.1.toList == pair.1.toList) = some pair := by
  have hall : ∀ pair ∈ suffixTags, suffixTags.find? (·.1.toList == pair.1.toList) = some pair := by decide +kernel
  exact hall pair h

theorem IsLanguageOf.languageOfPath_eq {entries : Yaml.Entries} {path : Path} {tag : Text}
    (h : IsLanguageOf entries path.suffix.lower tag) : languageOfPath path (Settings.extensionsOf entries) = tag := by
  unfold languageOfPath
  dsimp only
  generalize path.suffix.lower = suffix at h
  cases h with
  | @configured before after key _ entries_eq spelled last =>
    have hlast : (Settings.extensionsOf (before ++ [(.text key, .text tag)])).find? suffix = some tag := by
      rw [extensionsOf_concat, Dictionary.find?_insert, if_pos (beq_iff_eq.mpr spelled)]
    rw [entries_eq, List.append_cons, find?_extensionsOf_append _ last, hlast]
  | builtIn unset known spelled =>
    have hnone : (Settings.extensionsOf entries).find? suffix = none := find?_extensionsOf_append [] unset
    rw [hnone, ← spelled, find?_suffixTags known]
  | unknown unset unknown =>
    have hnone : (Settings.extensionsOf entries).find? suffix = none := find?_extensionsOf_append [] unset
    have hfind : suffixTags.find? (·.1.toList == suffix) = none :=
      List.find?_eq_none.mpr fun pair hpair => by simpa using unknown pair hpair
    rw [hnone, hfind]

theorem exists_isLanguageOf (entries : Yaml.Entries) (suffix : Text) : ∃ tag, IsLanguageOf entries suffix tag := by
  obtain ⟨front, after, rfl, hafter, hfront⟩ := exists_last_run (!configures suffix ·) entries
  simp only [Bool.not_eq_true', Bool.not_eq_false'] at hafter hfront
  rcases List.eq_nil_or_concat' front with rfl | ⟨before, entry, rfl⟩
  · by_cases hknown : ∃ pair ∈ suffixTags, pair.1.toList = suffix
    · obtain ⟨⟨name, tag⟩, hpair, hname⟩ := hknown
      exact ⟨_, .builtIn hafter hpair hname⟩
    · exact ⟨_, .unknown hafter fun pair hpair hname => hknown ⟨pair, hpair, hname⟩⟩
  · obtain ⟨key, tag, rfl, hkey⟩ := eq_texts_of_configures (hfront entry (by simp))
    exact ⟨tag, .configured (List.append_cons ..).symm hkey hafter⟩

theorem languageOfPath_eq_iff {entries : Yaml.Entries} {path : Path} {tag : Text} :
    languageOfPath path (Settings.extensionsOf entries) = tag ↔ IsLanguageOf entries path.suffix.lower tag := by
  constructor
  · rintro rfl
    obtain ⟨tag, htag⟩ := exists_isLanguageOf entries path.suffix.lower
    rwa [htag.languageOfPath_eq]
  · exact IsLanguageOf.languageOfPath_eq

/-! ## File names -/

def IsSilent (part : Text) : Prop := part = [] ∨ part = ['.']

/-- The name stands at the beginning or behind a slash, and only slashes and single dots come behind it. -/
def NamesFile (written name : Text) : Prop :=
  '/' ∉ name ∧ ∃ (front : Text) (parts : List Text), (front = [] ∨ ∃ above, front = above ++ ['/']) ∧
    (∀ part ∈ parts, IsSilent part) ∧ written = front ++ (name ++ parts.flatMap ('/' :: ·))

theorem isKept_iff {part : Text} : (part != [] && part != ['.']) = true ↔ ¬ IsSilent part := by
  simp [IsSilent]

theorem slash_not_mem_of_isSilent {part : Text} (h : IsSilent part) : '/' ∉ part := by
  rcases h with rfl | rfl <;> decide

theorem namesFile_iff {written name : Text} : NamesFile written name ↔
    ∃ before after, Path.components written = before ++ name :: after ∧ ∀ part ∈ after, IsSilent part := by
  constructor
  · rintro ⟨hslash, front, parts, hfront, hparts, rfl⟩
    have hslashes : ∀ part ∈ name :: parts, '/' ∉ part :=
      List.forall_mem_cons.mpr ⟨hslash, fun part hm => slash_not_mem_of_isSilent (hparts part hm)⟩
    have hrest : splitOn '/' (name ++ parts.flatMap ('/' :: ·)) = name :: parts := splitOn_flatMap parts hslashes
    rcases hfront with rfl | ⟨above, rfl⟩
    · exact ⟨[], parts, hrest, hparts⟩
    · refine ⟨splitOn '/' above, parts, ?_, hparts⟩
      rw [Path.components, List.append_assoc, List.singleton_append, splitOn_append, hrest]
  · rintro ⟨before, after, hcomponents, hafter⟩
    have hmem : name ∈ splitOn '/' written := by
      rw [← Path.components, hcomponents]
      simp
    have hwritten := joinWith_splitOn '/' written
    rw [← Path.components, hcomponents] at hwritten
    refine ⟨fun hslash => (mem_of_mem_splitOn hmem hslash).2 rfl, ?_⟩
    cases before with
    | nil =>
      rw [List.nil_append, joinWith_cons] at hwritten
      exact ⟨[], after, .inl rfl, hafter, hwritten.symm⟩
    | cons first before =>
      rw [List.cons_append, joinWith_cons, List.flatMap_append, List.flatMap_cons] at hwritten
      refine ⟨_, after, .inr ⟨first ++ before.flatMap ('/' :: ·), rfl⟩, hafter, ?_⟩
      rw [← hwritten]
      simp

theorem fileName_ofText_of_components {written name : Text} {before after : List Text}
    (h : Path.components written = before ++ name :: after) (hname : ¬ IsSilent name)
    (hafter : ∀ part ∈ after, IsSilent part) : (Path.ofText written).fileName = name := by
  have hnone : after.filter (fun part => part != [] && part != ['.']) = [] :=
    List.filter_eq_nil_iff.mpr fun part hm hkept => isKept_iff.mp hkept (hafter part hm)
  unfold Path.fileName Path.ofText
  dsimp only
  rw [h, List.filter_append, List.filter_cons, if_pos (isKept_iff.mpr hname), hnone, List.getLastD_concat]

/-- The file name that a path is read with is the one that its spelling names. -/
theorem fileName_ofText_iff {written name : Text} (hname : ¬ IsSilent name) :
    (Path.ofText written).fileName = name ↔ NamesFile written name := by
  rw [namesFile_iff]
  constructor
  · intro hfile
    obtain ⟨front, after, hcomponents, hafter, hfront⟩ :=
      exists_last_run (fun part => !(part != [] && part != ['.'])) (Path.components written)
    have hsilent : ∀ part ∈ after, IsSilent part := fun part hm =>
      not_not.mp fun h => by simpa [isKept_iff.mpr h] using hafter part hm
    rcases List.eq_nil_or_concat' front with rfl | ⟨before, last, rfl⟩
    · have hnone : (Path.ofText written).parts = [] := by
        refine List.filter_eq_nil_iff.mpr fun part hm hkept => ?_
        rw [hcomponents, List.nil_append] at hm
        exact isKept_iff.mp hkept (hsilent part hm)
      rw [Path.fileName, hnone] at hfile
      exact absurd (.inl hfile.symm) hname
    · have hkept : ¬ IsSilent last := isKept_iff.mp (by simpa using hfront last (by simp))
      rw [List.append_assoc, List.singleton_append] at hcomponents
      rw [fileName_ofText_of_components hcomponents hkept hsilent] at hfile
      exact ⟨before, after, hfile ▸ hcomponents, hsilent⟩
  · rintro ⟨before, after, hcomponents, hafter⟩
    exact fileName_ofText_of_components hcomponents hname hafter

theorem suffix_eq {path : Path} {stem ext : Text} (h : path.fileName = stem ++ '.' :: ext) (hstem : stem ≠ [])
    (hext : ext ≠ []) (hdot : '.' ∉ ext) : path.suffix = '.' :: ext := by
  have hrun : ∀ c ∈ ext.reverse, (c != '.') = true := by
    intro c hc
    rw [bne_iff_ne]
    rintro rfl
    exact hdot (List.mem_reverse.mp hc)
  have htake : ((stem ++ '.' :: ext).reverse.takeWhile (· != '.')).reverse = ext := by
    rw [List.reverse_append, List.reverse_cons, List.append_assoc, List.takeWhile_append_of_pos hrun,
      List.singleton_append, List.takeWhile_cons_of_neg (by simp), List.append_nil, List.reverse_reverse]
  have hlength := List.length_pos_iff.mpr hstem
  unfold Path.suffix
  dsimp only
  rw [h, htake, if_neg]
  simp only [List.length_append, List.length_cons, Bool.or_eq_true, List.isEmpty_iff, decide_eq_true_eq, not_or]
  exact ⟨hext, by omega⟩

/-! ## Languages of files -/

/-- **A suffix in the settings is honoured whatever its spelling.** The language of a file is that of its suffix in
lower case, wherever the file lies and however its name begins: the one of the last entry whose key spells the suffix,
else the built-in one, else plain text. A key spells the suffix if both are the same in lower case without the dot. -/
theorem languageOfPath_extensionsOf (entries : Yaml.Entries) (written : Text) {stem ext : Text} (hstem : stem ≠ [])
    (hext : ext ≠ []) (hdot : '.' ∉ ext) :
    ((Path.ofText written).fileName = stem ++ '.' :: ext ↔ NamesFile written (stem ++ '.' :: ext)) ∧
      (NamesFile written (stem ++ '.' :: ext) → ∀ tag,
        languageOfPath (.ofText written) (Settings.extensionsOf entries) = tag ↔
          IsLanguageOf entries (lower ('.' :: ext)) tag) ∧
      ∀ key, Settings.suffixSpelling key = lower ('.' :: ext) ↔ lower (withoutDot key) = lower ext := by
  have hname : ¬ IsSilent (stem ++ '.' :: ext) := by
    rintro (hnil | hsingle)
    · simp at hnil
    · have hlength := congrArg List.length hsingle
      have hpos := List.length_pos_iff.mpr hstem
      rw [List.length_append, List.length_cons, List.length_singleton] at hlength
      omega
  refine ⟨fileName_ofText_iff hname, fun hnames tag => ?_, fun key => ?_⟩
  · rw [languageOfPath_eq_iff, suffix_eq ((fileName_ofText_iff hname).mpr hnames) hstem hext hdot]
  · rw [suffixSpelling_eq, lower_cons_dot, List.cons_inj_right]

theorem languageOfPath_extensionsOf_sigma :
    let entries : Yaml.Entries :=
      [(.text "ος".toList, .text "first".toList), (.int 3, .text "third".toList),
        (.text ".οΣ".toList, .text "last".toList), (.text "ΟΣ".toList, .int 1)]
    let written : Text := "/a.b/./Note.ΟΣ//.".toList
    let stem : Text := "Note".toList
    let ext : Text := "ΟΣ".toList
    stem ≠ [] ∧ ext ≠ [] ∧ '.' ∉ ext ∧ NamesFile written (stem ++ '.' :: ext) ∧
      IsLanguageOf entries (lower ('.' :: ext)) "last".toList ∧
      languageOfPath (.ofText written) (Settings.extensionsOf entries) = "last".toList := by
  intro entries written stem ext
  have hstem : stem ≠ [] := by decide
  have hext : ext ≠ [] := by decide
  have hdot : '.' ∉ ext := by decide
  obtain ⟨hname, hlanguage, hspelled⟩ := languageOfPath_extensionsOf entries written hstem hext hdot
  have hnames : NamesFile written (stem ++ '.' :: ext) := hname.mp (by decide +kernel)
  have hkey : Settings.suffixSpelling ".οΣ".toList = lower ('.' :: ext) := (hspelled _).mpr (by decide +kernel)
  have hsplit : entries = entries.take 2 ++ (.text ".οΣ".toList, .text "last".toList) :: entries.drop 3 := rfl
  have hlast : IsLanguageOf entries (lower ('.' :: ext)) "last".toList :=
    .configured hsplit hkey (by decide +kernel)
  exact ⟨hstem, hext, hdot, hnames, hlast, (hlanguage hnames _).mpr hlast⟩

end CursorDoc
