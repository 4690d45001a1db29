import CursorDoc.Files
import CursorDoc.Proofs.Language
import CursorDoc.Proofs.Settings.Fields
import CursorDoc.Proofs.Settings.Outline
import CursorDoc.Proofs.Text.Lines
import CursorDoc.Proofs.Text.Utf8
import CursorDoc.Proofs.Yaml.Number
import Mathlib.Data.List.Nodup

/-!
# Settings read back

Settings that are written in the documented form, two sections with one line
for each number, flag and suffix, are read back exactly, whatever ends the
lines.
-/

namespace CursorDoc

/-! ## Lines with their ends -/

def writeLines : List Text → List Text → Text
  | line :: lines, lineEnd :: ends => line ++ lineEnd ++ writeLines lines ends
  | lines, _ => lines.flatten

structure AreLineEnds (ends lines : List Text) : Prop where
  all : ∀ lineEnd ∈ ends, lineEnd = ['\n'] ∨ lineEnd = ['\r', '\n']
  length : ends.length = lines.length ∨ ends.length + 1 = lines.length

namespace Text

theorem unifyNewlines_append {t : Text} (h : '\r' ∉ t) (r : Text) : unifyNewlines (t ++ r) = t ++ unifyNewlines r := by
  induction t with
  | nil => rfl
  | cons c t ih =>
    have hc : c ≠ '\r' := fun hc => h (by rw [hc]; exact List.mem_cons_self)
    rw [List.cons_append, unifyNewlines, if_neg hc, ih fun hmem => h (List.mem_cons_of_mem c hmem)]
    · rfl
    · intro _ heq
      exact absurd heq hc

theorem unifyNewlines_lineEnd {lineEnd : Text} (h : lineEnd = ['\n'] ∨ lineEnd = ['\r', '\n']) (r : Text) :
    unifyNewlines (lineEnd ++ r) = '\n' :: unifyNewlines r := by
  obtain rfl | rfl := h
  · rfl
  · rfl

theorem unifyNewlines_writeLines {lines : List Text} (hlines : ∀ line ∈ lines, '\r' ∉ line) (hne : lines ≠ [])
    {ends : List Text} (hends : AreLineEnds ends lines) :
    ∃ last, (last = [] ∨ last = ['\n']) ∧ unifyNewlines (writeLines lines ends) = joinLines lines ++ last := by
  obtain ⟨hall, hlength⟩ := hends
  induction lines generalizing ends with
  | nil => exact absurd rfl hne
  | cons line lines ih =>
    have hline := hlines line List.mem_cons_self
    cases ends with
    | nil =>
      have hnil : lines = [] := by simpa using hlength
      subst hnil
      refine ⟨[], .inl rfl, ?_⟩
      have hunify := unifyNewlines_append hline []
      simpa [writeLines, joinLines_singleton, unifyNewlines] using hunify
    | cons lineEnd ends =>
      rw [writeLines, List.append_assoc, unifyNewlines_append hline,
        unifyNewlines_lineEnd (hall lineEnd List.mem_cons_self)]
      cases lines with
      | nil =>
        have hnil : ends = [] := by simpa using hlength
        subst hnil
        exact ⟨['\n'], .inr rfl, by rw [joinLines_singleton]; rfl⟩
      | cons next lines =>
        obtain ⟨last, hlast, heq⟩ := ih (fun l hl => hlines l (List.mem_cons_of_mem line hl)) (by simp)
          (fun e he => hall e (List.mem_cons_of_mem lineEnd he)) (by simpa using hlength)
        refine ⟨last, hlast, ?_⟩
        rw [heq, joinLines_cons line (by simp), List.append_assoc]
        rfl

end Text

/-! ## The documented form -/

def IsPlainSuffix (suffix : Text) : Prop :=
  ∃ name : Text, suffix = '.' :: name ∧ 1 ≤ name.length ∧ name.length ≤ 1000 ∧
    ∀ c ∈ name, (c.isLower || c.isDigit) = true

def IsPlainTag (tag : Text) : Prop := tag ≠ [] ∧ ∀ c ∈ tag, c.isLower = true

def settingsLines (lookback fallbackLookback : Nat) (skipLiterals : Bool) (extensions : Extensions) : List Text :=
  ["locator:".toList,
    "  lookback: ".toList ++ Text.decimal lookback,
    "  fallback_lookback: ".toList ++ Text.decimal fallbackLookback,
    "  skip_literals: ".toList ++ (if skipLiterals then "true" else "false").toList,
    "languages:".toList] ++
  extensions.map fun (suffix, tag) => "  \"".toList ++ suffix ++ "\": \"".toList ++ tag ++ "\"".toList

namespace Yaml

theorem isInnerChar_of_isLower {c : Char} (h : (c.isLower || c.isDigit) = true) :
    isInnerChar c = true ∧ c.isUpper = false := by
  have halphanum : c.isAlphanum = true := by
    change (c.isUpper || c.isLower || c.isDigit) = true
    rw [Bool.or_assoc, h, Bool.or_true]
  have hinner : isInnerChar c = true := by simp [isInnerChar, isStartChar, halphanum]
  have hupper := of_isInnerChar (p := fun c => !(c.isLower || c.isDigit) || !c.isUpper) (by decide) hinner
  rw [h] at hupper
  exact ⟨hinner, by simpa using hupper⟩

/-! ## Their outline -/

def plain (t : Text) : Word := ⟨t, true⟩

def quoted (t : Text) : Word := ⟨t, false⟩

def locatorSection (lookback fallbackLookback : Nat) (skipLiterals : Bool) : Section where
  name := plain "locator".toList
  entries :=
    [(plain "lookback".toList, plain (Text.decimal lookback)),
     (plain "fallback_lookback".toList, plain (Text.decimal fallbackLookback)),
     (plain "skip_literals".toList, plain (if skipLiterals then "true" else "false").toList)]

def languagesSection (extensions : Extensions) : Section where
  name := plain "languages".toList
  entries := extensions.map fun (suffix, tag) => (quoted suffix, quoted tag)

section
variable {n m : Nat} {b : Bool} {extensions : Extensions}

theorem outlineLines_settings :
    outlineLines [locatorSection n m b, languagesSection extensions] = settingsLines n m b extensions := by
  simp [outlineLines, Section.lines, entryLine, locatorSection, languagesSection, settingsLines, Word.written, plain,
    quoted]

theorem isSimple_decimal : (plain (Text.decimal n)).IsSimple := by
  have hdigit := Text.isDigit_of_mem_decimal n
  have hstart : ∀ c ∈ Text.decimal n, isStartChar c = true := fun c hc =>
    Text.of_isDigit (p := isStartChar) (by decide) (hdigit c hc)
  refine ⟨Text.decimal_ne_nil n, fun c hc => isInnerChar_of_isStartChar (hstart c hc), fun _ c hc => ?_⟩
  exact hstart c (List.mem_of_head? hc)

/-- The words that are the same in all settings. -/
theorem isKey_plain : ∀ t ∈ ["locator", "lookback", "fallback_lookback", "skip_literals", "languages", "true", "false"],
    (plain t.toList).IsKey := by
  intro t ht
  have hall : ∀ t ∈ ["locator", "lookback", "fallback_lookback", "skip_literals", "languages", "true", "false"],
      t.toList ≠ [] ∧ t.toList.length ≤ maxKeyLength ∧ t.toList.all isStartChar = true := by decide
  obtain ⟨hne, hlen, hstart⟩ := hall t ht
  rw [List.all_eq_true] at hstart
  exact ⟨⟨hne, fun c hc => isInnerChar_of_isStartChar (hstart c hc), fun _ c hc => hstart c (List.mem_of_head? hc)⟩, hlen⟩

theorem isSimple_locatorSection : (locatorSection n m b).IsSimple := by
  have hflag : (plain (if b then "true" else "false").toList).IsSimple := by
    cases b
    · exact (isKey_plain "false" (by simp)).toIsSimple
    · exact (isKey_plain "true" (by simp)).toIsSimple
  refine ⟨isKey_plain "locator" (by simp), fun entry hentry => ?_⟩
  simp only [locatorSection, List.mem_cons, List.not_mem_nil, or_false] at hentry
  obtain rfl | rfl | rfl := hentry
  · exact ⟨isKey_plain "lookback" (by simp), isSimple_decimal⟩
  · exact ⟨isKey_plain "fallback_lookback" (by simp), isSimple_decimal⟩
  · exact ⟨isKey_plain "skip_literals" (by simp), hflag⟩

theorem isSimple_languagesSection (h : ∀ pair ∈ extensions, IsPlainSuffix pair.1 ∧ IsPlainTag pair.2) :
    (languagesSection extensions).IsSimple := by
  refine ⟨isKey_plain "languages" (by simp), fun entry hentry => ?_⟩
  obtain ⟨pair, hpair, rfl⟩ := List.mem_map.mp hentry
  obtain ⟨⟨name, hsuffix, -, hlen, hname⟩, hne, htag⟩ := h pair hpair
  have hquoted : ∀ {t : Text}, t ≠ [] → (∀ c ∈ t, isInnerChar c = true) → (quoted t).IsSimple :=
    fun hne hall => ⟨hne, hall, fun hfalse => by cases hfalse⟩
  refine ⟨⟨hquoted ?_ ?_, ?_⟩, hquoted hne fun c hc => (isInnerChar_of_isLower (by rw [htag c hc]; rfl)).1⟩
  · simp [hsuffix]
  · rw [hsuffix]
    intro c hc
    rcases List.mem_cons.mp hc with rfl | hc
    · rfl
    · exact (isInnerChar_of_isLower (hname c hc)).1
  · simp [quoted, Word.written, hsuffix, maxKeyLength]
    omega

theorem isSimple_sections (h : ∀ pair ∈ extensions, IsPlainSuffix pair.1 ∧ IsPlainTag pair.2) :
    ∀ part ∈ [locatorSection n m b, languagesSection extensions], part.IsSimple := by
  simp only [List.mem_cons, List.not_mem_nil, or_false]
  rintro part (rfl | rfl)
  · exact isSimple_locatorSection
  · exact isSimple_languagesSection h

/-! ## Their values -/

theorem value_plain {t : Text} (h : Tag.ofText t = .text) : (plain t).value = .ok (.text t) := by
  unfold Word.value Word.tag plain
  rw [if_pos rfl, h]
  rfl

theorem value_decimal (hn : (Text.decimal n).length ≤ Text.maxDigits) :
    (plain (Text.decimal n)).value = .ok (.int n) := by
  unfold Word.value Word.tag plain
  rw [if_pos rfl, Tag.ofText_decimal]
  unfold scalarValue
  rw [readInteger_decimal, if_neg (Nat.not_lt.mpr hn)]
  rfl

theorem value_flag : (plain (if b then "true" else "false").toList).value = .ok (.bool b) := by
  cases b <;> decide

theorem mapM_entryValues_locatorSection (hn : (Text.decimal n).length ≤ Text.maxDigits)
    (hm : (Text.decimal m).length ≤ Text.maxDigits) : (locatorSection n m b).entries.mapM entryValues = .ok
      [(.text "lookback".toList, .int n), (.text "fallback_lookback".toList, .int m),
        (.text "skip_literals".toList, .bool b)] := by
  have hlookback : (plain "lookback".toList).value = .ok (.text "lookback".toList) := value_plain (by decide)
  have hfallback : (plain "fallback_lookback".toList).value = .ok (.text "fallback_lookback".toList) :=
    value_plain (by decide)
  have hskip : (plain "skip_literals".toList).value = .ok (.text "skip_literals".toList) := value_plain (by decide)
  simp only [locatorSection, List.mapM_cons, List.mapM_nil, entryValues, hlookback, hfallback, hskip, value_decimal hn,
    value_decimal hm, value_flag]
  rfl

theorem mapM_entryValues_languagesSection : (languagesSection extensions).entries.mapM entryValues =
    .ok (extensions.map fun pair => (.text pair.1, .text pair.2)) := by
  unfold languagesSection
  induction extensions with
  | nil => rfl
  | cons pair extensions ih =>
    rw [List.map_cons, List.mapM_cons, ih]
    rfl

def settingsValues (n m : Nat) (b : Bool) (extensions : Extensions) : Values where
  root := .mapping 0
  mappings :=
    (0, .ofPairs [(.text "locator".toList, .mapping 2),
      (.text "languages".toList, (languagesSection extensions).value 10)]) ::
    (2, .ofPairs [(.text "lookback".toList, .int n), (.text "fallback_lookback".toList, .int m),
      (.text "skip_literals".toList, .bool b)]) ::
    if extensions.isEmpty then [] else [(10, .ofPairs (extensions.map fun pair => (.text pair.1, .text pair.2)))]

theorem values?_settings (hn : (Text.decimal n).length ≤ Text.maxDigits) (hm : (Text.decimal m).length ≤ Text.maxDigits)
    (h : ∀ pair ∈ extensions, IsPlainSuffix pair.1 ∧ IsPlainTag pair.2) {last : Text}
    (hlast : last = [] ∨ last = ['\n']) :
    Loader.values? {} (Text.joinLines (settingsLines n m b extensions) ++ last) =
      .ok (some (settingsValues n m b extensions)) := by
  have hlocator : (plain "locator".toList).value = .ok (.text "locator".toList) := value_plain (by decide)
  have hlanguages : (plain "languages".toList).value = .ok (.text "languages".toList) := value_plain (by decide)
  have hvalues : sectionValues 1 [locatorSection n m b, languagesSection extensions] = .ok
      [(.text "locator".toList, .mapping 2), (.text "languages".toList, (languagesSection extensions).value 10)] := by
    change ((plain "locator".toList).value >>= fun name =>
      ((plain "languages".toList).value >>= fun name' =>
        pure [(name', (languagesSection extensions).value 10)]) >>= fun rest => pure ((name, .mapping 2) :: rest)) = _
    rw [hlocator, hlanguages]
    rfl
  have hmappings : sectionMappings 1 [locatorSection n m b, languagesSection extensions] = .ok
      ((2, .ofPairs [(.text "lookback".toList, .int n), (.text "fallback_lookback".toList, .int m),
        (.text "skip_literals".toList, .bool b)]) ::
        if extensions.isEmpty then []
        else [(10, .ofPairs (extensions.map fun pair => (.text pair.1, .text pair.2)))]) := by
    change ((locatorSection n m b).entries.mapM entryValues >>= fun pairs =>
      sectionMappings 9 [languagesSection extensions] >>= fun rest => pure ((2, .ofPairs pairs) :: rest)) = _
    rw [mapM_entryValues_locatorSection hn hm, sectionMappings, mapM_entryValues_languagesSection]
    cases extensions <;> rfl
  rw [← outlineLines_settings, values?_outline (isSimple_sections h) hlast (by decide) (by simp)]
  unfold outlineValues
  rw [hvalues, hmappings]
  rfl

end

end Yaml

/-! ## Reading them back -/

theorem lower_eq_self {t : Text} (h : ∀ c ∈ t, Yaml.isInnerChar c = true ∧ c.isUpper = false) : t.lower = t := by
  have hchar : ∀ c ∈ t, Text.lowerChar c = c ∧ c ≠ 'Σ' ∧ c ≠ 'İ' := by
    intro c hc
    obtain ⟨hinner, hupper⟩ := h c hc
    have hlower := Yaml.of_isInnerChar (p := fun c => c.isUpper || Text.lowerChar c == c) (by decide +kernel) hinner
    refine ⟨by simpa [hupper] using hlower, ?_, ?_⟩
    · exact Yaml.ne_of_isInnerChar hinner (by decide)
    · exact Yaml.ne_of_isInnerChar hinner (by decide)
  have hafter : ∀ before, Text.lowerAfter before t = t := by
    clear h
    induction t with
    | nil => exact fun _ => rfl
    | cons c t ih =>
      intro before
      obtain ⟨hlower, hsigma, hdotted⟩ := hchar c List.mem_cons_self
      rw [Text.lowerAfter, ih fun d hd => hchar d (List.mem_cons_of_mem c hd)]
      simp [hlower, hsigma, hdotted]
  exact hafter []

theorem suffixSpelling_of_isPlainSuffix {suffix : Text} (h : IsPlainSuffix suffix) :
    Settings.suffixSpelling suffix = suffix := by
  obtain ⟨name, rfl, -, -, hname⟩ := h
  have hlower : Text.lower name = name := lower_eq_self fun c hc => Yaml.isInnerChar_of_isLower (hname c hc)
  rw [suffixSpelling_eq]
  exact congrArg ('.' :: ·) hlower

theorem extensionsOf_map {extensions : Extensions} (hnodup : (extensions.map Prod.fst).Nodup)
    (h : ∀ pair ∈ extensions, Settings.suffixSpelling pair.1 = pair.1) :
    Settings.extensionsOf (extensions.map fun pair => (.text pair.1, .text pair.2)) = extensions := by
  have hfold : Settings.extensionsOf (extensions.map fun pair => (.text pair.1, .text pair.2)) =
      extensions.foldl (fun extensions pair => Dictionary.insert extensions pair.1 pair.2) [] := by
    unfold Settings.extensionsOf
    rw [List.foldl_map]
    exact List.foldl_ext _ _ _ fun found pair hpair => by dsimp only; rw [h pair hpair]
  rw [hfold]
  exact Dictionary.foldl_insert hnodup

theorem ofValues_settingsValues {n m : Nat} {b : Bool} {extensions : Extensions}
    (hnodup : (extensions.map Prod.fst).Nodup) (h : ∀ pair ∈ extensions, IsPlainSuffix pair.1) :
    Settings.ofValues (Yaml.settingsValues n m b extensions) =
      { lookback := n, fallbackLookback := m, skipLiterals := b, extensions } := by
  have hlocator : Settings.sectionOf (Yaml.settingsValues n m b extensions) "locator" =
      [(.text "lookback".toList, .int n), (.text "fallback_lookback".toList, .int m),
        (.text "skip_literals".toList, .bool b)] := by
    rfl
  have hlanguages : Settings.sectionOf (Yaml.settingsValues n m b extensions) "languages" =
      extensions.map fun pair => (.text pair.1, .text pair.2) := by
    cases extensions with
    | nil => rfl
    | cons pair extensions =>
      have hkeys : (((pair :: extensions).map fun pair =>
          (Yaml.Value.text pair.1, Yaml.Value.text pair.2)).map Prod.fst).Nodup := by
        have hmap := List.Nodup.map (f := Yaml.Value.text) (fun _ _ h => Yaml.Value.text.inj h) hnodup
        simpa [Function.comp_def] using hmap
      exact Dictionary.foldl_insert (show ((([] : Yaml.Entries) ++ _).map Prod.fst).Nodup from hkeys)
  have hlookback : ∀ (default : Int) (n : Nat), Settings.lookbackOr default (some (.int n)) = n := fun default n => by
    simp [Settings.lookbackOr]
  rw [Settings.ofValues_eq, hlocator, hlanguages,
    extensionsOf_map hnodup fun pair hpair => suffixSpelling_of_isPlainSuffix (h pair hpair)]
  change Settings.mk (Settings.lookbackOr 10 (some (.int n))) (Settings.lookbackOr 5 (some (.int m))) b extensions = _
  rw [hlookback, hlookback]

/-- **Settings are read back as they were written.** -/
theorem settings_written {view : View} {root : Path} {n m : Nat} {b : Bool} {extensions : Extensions}
    (hn : (Text.decimal n).length < 4300) (hm : (Text.decimal m).length < 4300)
    (hextensions : ∀ pair ∈ extensions, IsPlainSuffix pair.1 ∧ IsPlainTag pair.2)
    (hnodup : (extensions.map Prod.fst).Nodup) (ends : List Text) (hends : AreLineEnds ends (settingsLines n m b extensions))
    (hview : view (root.child settingsName) =
      .ok (.file (Utf8.encode (writeLines (settingsLines n m b extensions) ends)))) :
    view.settings root = .ok
      { lookback := n, fallbackLookback := m, skipLiterals := b, extensions } := by
  have hreturn : ∀ line ∈ settingsLines n m b extensions, '\r' ∉ line := by
    intro line hline hmem
    rw [← Yaml.outlineLines_settings] at hline
    obtain ⟨part, hpart, hline⟩ := List.mem_flatMap.mp hline
    exact absurd ((Yaml.isSimple_sections hextensions part hpart).all_isLineChar line hline '\r' hmem) (by decide)
  obtain ⟨last, hlast, hunify⟩ := Text.unifyNewlines_writeLines hreturn (by simp [settingsLines]) hends
  have hvalues := Yaml.values?_settings (n := n) (m := m) (b := b) (Nat.le_of_lt hn) (Nat.le_of_lt hm) hextensions hlast
  have hallowed := Yaml.all_isAllowed_outline (Yaml.isSimple_sections (n := n) (m := m) (b := b) hextensions) hlast
  rw [Yaml.outlineLines_settings, ← hunify] at hallowed
  have hread : Settings.ofBytes {} (Utf8.encode (writeLines (settingsLines n m b extensions) ends)) = .ok
      { lookback := n, fallbackLookback := m, skipLiterals := b, extensions } := by
    rw [Settings.ofBytes_encode {} hallowed, hunify]
    unfold Settings.ofText
    simp only [hvalues, ofValues_settingsValues hnodup fun pair hpair => (hextensions pair hpair).1]
  unfold View.settings
  simp only [hview, hread]
  rfl

/-- A file with one more suffix, whose lines end in carriage returns and newlines. -/
theorem settings_written_crlf :
    (Directory.view [([settingsName], .file (Utf8.encode ("locator:\r\n  lookback: 20\r\n  fallback_lookback: 0\r\n" ++
      "  skip_literals: true\r\nlanguages:\r\n  \".vue\": \"javascript\"\r\n").toList))]).settings currentDirectory = .ok
        { lookback := 20, fallbackLookback := 0, skipLiterals := true
          extensions := [(".vue".toList, "javascript".toList)] } := by
  have htwenty : Text.decimal 20 = ['2', '0'] := by
    rw [Text.decimal, Text.decimal]
    rfl
  have hzero : Text.decimal 0 = ['0'] := by
    rw [Text.decimal]
    rfl
  refine settings_written (n := 20) (m := 0) (b := true) ?_ ?_ ?_ ?_ (List.replicate 6 ['\r', '\n']) ?_ ?_
  · rw [htwenty]
    decide
  · rw [hzero]
    decide
  · intro pair hpair
    rw [List.mem_singleton.mp hpair]
    exact ⟨⟨"vue".toList, rfl, by decide, by decide, List.all_eq_true.mp rfl⟩, by decide, List.all_eq_true.mp rfl⟩
  · decide
  · exact ⟨by decide, .inl rfl⟩
  · unfold settingsLines
    rw [htwenty, hzero]
    rfl

end CursorDoc
