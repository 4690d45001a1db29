import CursorDoc.Files
import CursorDoc.Proofs.Settings.Written
import CursorDoc.Proofs.Yaml.NodeFault
import CursorDoc.Proofs.Yaml.Reached
import CursorDoc.Proofs.Yaml.ScanFault

/-!
# Loading settings

Whatever a settings file holds, the settings are those that it gives or else
the defaults, field by field. Loading fails for two reasons only: something in
the text has the form of a number, a date, a flag or a character, but is none,
or what has to be followed leads too deep.
-/

namespace CursorDoc

open Yaml

/-! ## Fields -/

/-- A number of lines is taken from an entry with a number that is not negative, and else its default. -/
def TakesNumber (entry : Option Value) (default n : Int) : Prop :=
  (entry = some (.int n) ∧ 0 ≤ n) ∨ (n = default ∧ ∀ m, entry = some (.int m) → m < 0)

def TakesFlag (entry : Option Value) (default b : Bool) : Prop :=
  entry = some (.bool b) ∨ (b = default ∧ ∀ b', entry ≠ some (.bool b'))

namespace Settings

def suffixPair? : Value × Value → Option (Text × Text)
  | (.text suffix, .text tag) => some (suffixSpelling suffix, tag)
  | _ => none

structure Follows (settings : Settings) (values : Values) : Prop where
  lookback : TakesNumber (valueOf? (sectionOf values "locator") "lookback") 10 settings.lookback
  fallbackLookback : TakesNumber (valueOf? (sectionOf values "locator") "fallback_lookback") 5 settings.fallbackLookback
  skipLiterals : TakesFlag (valueOf? (sectionOf values "locator") "skip_literals") false settings.skipLiterals
  /-- Entries of other kinds might as well be missing. -/
  extensions : settings.extensions = ((sectionOf values "languages").filterMap suffixPair?).foldl
    (fun extensions pair => Dictionary.insert extensions pair.1 pair.2) []

structure IsValid (settings : Settings) : Prop where
  lookback : 0 ≤ settings.lookback
  fallbackLookback : 0 ≤ settings.fallbackLookback
  extensions : ∀ pair ∈ settings.extensions, pair.1.head? = some '.'

theorem lookbackOr_takes (default : Int) (entry : Option Value) :
    TakesNumber entry default (lookbackOr default entry) := by
  unfold lookbackOr
  split
  · split
    · next hn => exact .inl ⟨rfl, hn⟩
    · next hn =>
      refine .inr ⟨rfl, fun m hm => ?_⟩
      cases hm
      exact Int.lt_of_not_ge hn
  · next hne => exact .inr ⟨rfl, fun m hm => absurd hm (hne m)⟩

theorem flagOr_takes (default : Bool) (entry : Option Value) : TakesFlag entry default (flagOr default entry) := by
  unfold flagOr
  split
  · exact .inl rfl
  · next hne => exact .inr ⟨rfl, hne⟩

theorem extensionsOf_eq (entries : Entries) : extensionsOf entries = (entries.filterMap suffixPair?).foldl
    (fun extensions pair => Dictionary.insert extensions pair.1 pair.2) [] := by
  unfold extensionsOf
  generalize ([] : Extensions) = start
  induction entries generalizing start with
  | nil => rfl
  | cons entry entries ih =>
    obtain ⟨key, value⟩ := entry
    rw [List.foldl_cons, ih]
    cases key
    case text suffix => cases value <;> rfl
    all_goals rfl

theorem head?_suffixSpelling (suffix : Text) : (suffixSpelling suffix).head? = some '.' := by
  rw [suffixSpelling_eq]
  rfl

theorem ofValues_follows (values : Values) : (ofValues values).Follows values := by
  rw [ofValues_eq]
  exact ⟨lookbackOr_takes _ _, lookbackOr_takes _ _, flagOr_takes _ _, extensionsOf_eq _⟩

theorem Follows.isValid {settings : Settings} {values : Values} (h : settings.Follows values) : settings.IsValid where
  lookback := by
    rcases h.lookback with ⟨-, hn⟩ | ⟨hn, -⟩
    · exact hn
    · rw [hn]
      decide
  fallbackLookback := by
    rcases h.fallbackLookback with ⟨-, hn⟩ | ⟨hn, -⟩
    · exact hn
    · rw [hn]
      decide
  extensions := by
    rw [h.extensions]
    have hdots : ∀ pair ∈ (sectionOf values "languages").filterMap suffixPair?, pair.1.head? = some '.' := by
      intro pair hpair
      obtain ⟨entry, -, hentry⟩ := List.mem_filterMap.mp hpair
      unfold suffixPair? at hentry
      split at hentry
      · cases hentry
        exact head?_suffixSpelling _
      · cases hentry
    intro pair hpair
    exact hdots pair ((Dictionary.mem_foldl_insert hpair).resolve_left List.not_mem_nil)

theorem isValid_default : ({} : Settings).IsValid :=
  ⟨by decide, by decide, fun _ hpair => absurd hpair List.not_mem_nil⟩

end Settings

/-! ## Files -/

inductive Loads (loader : Loader) : Entry → Settings → Prop
  | directory : Loads loader .directory {}
  | unreadable {content : Bytes} (bytes : readable? content = none) : Loads loader (.file content) {}
  | malformed {content : Bytes} {t : Text} (bytes : readable? content = some t)
      (document : loader.values? t = .error .malformed) : Loads loader (.file content) {}
  | empty {content : Bytes} {t : Text} (bytes : readable? content = some t) (document : loader.values? t = .ok none) :
      Loads loader (.file content) {}
  | noMapping {content : Bytes} {t : Text} {values : Values} (bytes : readable? content = some t)
      (document : loader.values? t = .ok (some values)) (root : ∀ id, values.root ≠ .mapping id) :
      Loads loader (.file content) {}
  | fields {content : Bytes} {t : Text} {values : Values} {id : Nat} {settings : Settings}
      (bytes : readable? content = some t) (document : loader.values? t = .ok (some values))
      (root : values.root = .mapping id) (follows : settings.Follows values) : Loads loader (.file content) settings

/-- What stops the reading of a text: what has the form of a scalar and is none, or a collection that is too deep
inside others. -/
inductive Halts (depth : Nat) (t : Text) (whole : Bool) : ScalarFault → Prop
  | escape {code : Nat} (escape : HasEscape t code) : Halts depth t whole (.codePoint code)
  | digits {count : Nat} (digits : HasDigits t count) : Halts depth t whole (.integer (.tooManyDigits count))
  | depth (deep : IsDeep depth (scan t whole).tokens) : Halts depth t whole .tooDeep

inductive Spoils (loader : Loader) (content : Bytes) : ScalarFault → Prop
  | reading {t : Text} {fault : ScalarFault} (bytes : readable? content = some t)
      (halts : Halts loader.depth t true fault) : Spoils loader content fault
  /-- The reading is stopped before it comes to what cannot be read. -/
  | start {n : Nat} {t t' : Text} {fault : ScalarFault} (bytes : readable? content = none)
      (decodes : Utf8.decode (content.take n) = .ok t) (start : t' <+: t.unifyNewlines)
      (halts : Halts loader.depth t' false fault) : Spoils loader content fault
  | node {t : Text} {document : Document} {fault : ScalarFault} (bytes : readable? content = some t)
      (tokens : loader.document (scan t) = .ok document) (node : document.store.Faulty loader.chain fault) :
      Spoils loader content fault

theorem Loads.isValid {loader : Loader} {entry : Entry} {settings : Settings} (h : Loads loader entry settings) :
    settings.IsValid := by
  cases h with
  | fields _ _ _ follows => exact follows.isValid
  | _ => exact Settings.isValid_default

theorem Utf8.decode_take_start (content : Bytes) : ∃ n, decode (content.take n) = .ok (start content) := by
  unfold start
  cases hcontent : decode content with
  | ok t => exact ⟨content.length, by rw [List.take_length]; exact hcontent⟩
  | error fault =>
    dsimp only
    cases hbefore : decode (content.take fault.first) with
    | ok t => exact ⟨fault.first, hbefore⟩
    | error _ => exact ⟨0, rfl⟩

/-- What is handed out of a file is a start of it. -/
theorem Yaml.Loader.startOf_isPrefix (loader : Loader) (content : Bytes) :
    loader.startOf content <+: (Utf8.start content).unifyNewlines := by
  have hnumber : ∀ t, withoutNumber t <+: t := by
    intro t
    unfold withoutNumber
    dsimp only
    split
    · exact List.reverse_suffix.mp (by simpa [Text.dropEndWhile] using List.dropWhile_suffix _)
    · exact List.prefix_rfl
  have htake : ((Utf8.start content).unifyNewlines.takeWhile isAllowed).take (loader.handed content) <+:
      (Utf8.start content).unifyNewlines.takeWhile isAllowed := List.take_prefix _ _
  refine (hnumber _).trans (htake.trans ?_)
  exact List.takeWhile_prefix _

theorem halts_of_document {loader : Loader} {t : Text} {whole : Bool} {fault : ScalarFault}
    (h : loader.document (scan t whole) = .error (.scalar fault)) : Halts loader.depth t whole fault := by
  rcases Document.ofTokens_fault h with hmalformed | hfault
  · cases hmalformed
  · rcases Scan.within_fault hfault with hfault | ⟨hfault, hdeep⟩
    · cases scan_fault hfault with
      | escape hescape => exact .escape hescape
      | digits hdigits => exact .digits hdigits
    · cases hfault
      exact .depth hdeep

theorem spoils_of_values? {loader : Loader} {content : Bytes} {t : Text} (hbytes : readable? content = some t)
    {fault : ScalarFault} (h : loader.values? t = .error (.scalar fault)) : Spoils loader content fault := by
  unfold Loader.values? at h
  cases hdocument : loader.document (scan t) with
  | ok document =>
    rw [hdocument] at h
    exact .node hbytes hdocument (Values.ofDocument?_fault h)
  | error found =>
    rw [hdocument] at h
    cases h
    exact .reading hbytes (halts_of_document hdocument)

theorem Settings.ofText_loads {loader : Loader} {content : Bytes} {t : Text} (hbytes : readable? content = some t) :
    (∃ settings, ofText loader t = .ok settings ∧ Loads loader (.file content) settings) ∨
    (∃ fault, Spoils loader content fault ∧ ofText loader t = .error fault) := by
  unfold ofText
  cases hdocument : loader.values? t with
  | error fault =>
    cases fault with
    | malformed => exact .inl ⟨{}, rfl, .malformed hbytes hdocument⟩
    | scalar fault => exact .inr ⟨fault, spoils_of_values? hbytes hdocument, rfl⟩
  | ok found =>
    cases found with
    | none => exact .inl ⟨{}, rfl, .empty hbytes hdocument⟩
    | some values =>
      refine .inl ⟨ofValues values, rfl, ?_⟩
      cases hroot : values.root with
      | mapping id => exact .fields hbytes hdocument hroot (ofValues_follows values)
      | _ =>
        have hdefault : ofValues values = {} := by
          unfold ofValues Values.entries?
          rw [hroot]
        rw [hdefault]
        exact .noMapping hbytes hdocument (by simp [hroot])

theorem Settings.ofStart_loads {loader : Loader} {content : Bytes} (hbytes : readable? content = none) :
    (∃ settings, ofStart loader (loader.startOf content) = .ok settings ∧ Loads loader (.file content) settings) ∨
    (∃ fault, Spoils loader content fault ∧ ofStart loader (loader.startOf content) = .error fault) := by
  unfold ofStart
  split
  · next fault hdocument =>
    obtain ⟨n, hstart⟩ := Utf8.decode_take_start content
    exact .inr ⟨fault, .start hbytes hstart (loader.startOf_isPrefix content) (halts_of_document hdocument), rfl⟩
  · exact .inl ⟨{}, rfl, .unreadable hbytes⟩

theorem Settings.ofBytes_loads (loader : Loader) (content : Bytes) :
    (∃ settings, ofBytes loader content = .ok settings ∧ Loads loader (.file content) settings) ∨
    (∃ fault, Spoils loader content fault ∧ ofBytes loader content = .error fault) := by
  unfold ofBytes
  cases hbytes : readable? content with
  | some t => exact ofText_loads hbytes
  | none => exact ofStart_loads hbytes

/-- Where every node has the shape of its tag, loading fails exactly if it comes to a scalar without a value. -/
theorem Settings.ofText_fails_iff {loader : Loader} {t : Text} {document : Document}
    (hdocument : loader.document (scan t) = .ok document)
    (hshaped : ∀ id, document.Reaches id → document.store.IsShaped id) :
    (∃ fault, ofText loader t = .error fault) ↔ ∃ id fault, document.Reaches id ∧ document.store.Lacks id fault := by
  have hvalues : loader.values? t = Values.ofDocument? loader.chain document := by
    unfold Loader.values?
    rw [hdocument]
    rfl
  have hends := Values.ofDocument?_ends hshaped loader.chain
  unfold ofText
  rw [hvalues]
  cases hfound : Values.ofDocument? loader.chain document with
  | ok found =>
    have hnone := hends.of_ok hfound
    constructor
    · cases found <;> rintro ⟨fault, hfault⟩ <;> cases hfault
    · rintro ⟨id, fault, hid, hlacks⟩
      exact absurd hlacks (hnone id hid fault)
  | error fault =>
    obtain ⟨id, found, rfl, hid, hlacks⟩ := hends.of_error hfound
    exact ⟨fun _ => ⟨id, found, hid, hlacks⟩, fun _ => ⟨found, rfl⟩⟩

/-! ## Outlines -/

def outlineFile (parts : List Section) : Entry :=
  .file (Utf8.encode (Text.joinLines (outlineLines parts) ++ ['\n']))

section
variable {parts : List Section} (hp : ∀ part ∈ parts, part.IsSimple)
include hp

theorem readable?_outline : readable? (Utf8.encode (Text.joinLines (outlineLines parts) ++ ['\n'])) =
    some (Text.joinLines (outlineLines parts) ++ ['\n']) := by
  have hreturn : '\r' ∉ Text.joinLines (outlineLines parts) := by
    intro hmem
    obtain hnewline | ⟨line, hline, hmem⟩ := Text.mem_joinLines hmem
    · cases hnewline
    · obtain ⟨part, hpart, hline⟩ := List.mem_flatMap.mp hline
      exact absurd ((hp part hpart).all_isLineChar line hline '\r' hmem) (by decide)
  have hunify : (Text.joinLines (outlineLines parts) ++ ['\n']).unifyNewlines =
      Text.joinLines (outlineLines parts) ++ ['\n'] := Text.unifyNewlines_append hreturn ['\n']
  have hread := readable?_encode (t := Text.joinLines (outlineLines parts) ++ ['\n'])
    (by rw [hunify]; exact all_isAllowed_outline hp (.inr rfl))
  rwa [hunify] at hread

theorem View.settings_outline {loader : Loader} (hdepth : 2 ≤ loader.depth) {view : View} {root : Path}
    (hne : parts ≠ []) (h : view (root.child settingsName) = .ok (outlineFile parts)) : view.settings root loader =
    (match outlineValues parts with
    | .ok values => .ok (.ofValues values)
    | .error .malformed => .ok {}
    | .error (.scalar fault) => .error (.settings fault)) := by
  unfold View.settings
  simp only [h, outlineFile]
  unfold Settings.ofBytes
  simp only [readable?_outline hp]
  unfold Settings.ofText
  rw [values?_outline hp (.inr rfl) hdepth hne]
  cases outlineValues parts with
  | ok values => rfl
  | error fault => cases fault <;> rfl

end

theorem isSimple_plain {c : Char} {r : Text} (hc : isStartChar c = true) (hr : (c :: r).all isInnerChar = true) :
    (plain (c :: r)).IsSimple where
  ne_nil := List.cons_ne_nil c r
  all := List.all_eq_true.mp hr
  head := fun _ c' hc' => by
    cases hc'
    exact hc

def flaggedSection (lookback : Word) : Section where
  name := plain "locator".toList
  entries := [(plain "lookback".toList, lookback), (plain "skip_literals".toList, plain "true".toList)]

theorem isSimple_flaggedSection {lookback : Word} (h : lookback.IsSimple) :
    ∀ part ∈ [flaggedSection lookback], part.IsSimple := by
  intro part hpart
  rw [List.mem_singleton.mp hpart]
  refine ⟨isKey_plain "locator" (by simp), fun entry hentry => ?_⟩
  simp only [flaggedSection, List.mem_cons, List.not_mem_nil, or_false] at hentry
  obtain rfl | rfl := hentry
  · exact ⟨isKey_plain "lookback" (by simp), h⟩
  · exact ⟨isKey_plain "skip_literals" (by simp), (isKey_plain "true" (by simp)).toIsSimple⟩

/-! ## Any file -/

/-- **A settings file gives settings, or holds what has the form of a scalar and is none, or leads too deep.** If all
the nodes of a document that are looked at have the shape of their tags, its loading fails exactly if one of them is a
scalar without a value. In an outline these are words, and the first one without a value is the reason. -/
theorem settings_loaded (loader : Loader) {view : View} {root : Path} {entry : Entry}
    (h : view (root.child settingsName) = .ok entry) :
    ((∃ settings, view.settings root loader = .ok settings ∧ Loads loader entry settings ∧ settings.IsValid) ∨
      (∃ content fault, entry = .file content ∧ Spoils loader content fault ∧
        view.settings root loader = .error (.settings fault))) ∧
    (∀ {content : Bytes} {t : Text} {document : Document}, entry = .file content → readable? content = some t →
      loader.document (scan t) = .ok document → (∀ id, document.Reaches id → document.store.IsShaped id) →
      ((∃ fault, view.settings root loader = .error (.settings fault)) ↔
        ∃ id fault, document.Reaches id ∧ document.store.Lacks id fault)) ∧
    ∀ {parts : List Section} {fault : ScalarFault}, parts ≠ [] → (∀ part ∈ parts, part.IsSimple) → 2 ≤ loader.depth →
      entry = outlineFile parts →
      (view.settings root loader = .error (.settings fault) ↔
        ((outlineWords parts).findSome? fun word => faultOf? word.value) = some (.scalar fault)) := by
  have hfile : ∀ content, entry = .file content →
      view.settings root loader = (Settings.ofBytes loader content).mapError .settings := by
    rintro content rfl
    unfold View.settings
    simp only [h]
  refine ⟨?_, ?_, ?_⟩
  · cases entry with
    | directory =>
      refine .inl ⟨{}, ?_, .directory, Settings.isValid_default⟩
      unfold View.settings
      simp only [h]
    | file content =>
      rw [hfile content rfl]
      rcases Settings.ofBytes_loads loader content with ⟨settings, hread, hloads⟩ | ⟨fault, hspoils, hread⟩
      · exact .inl ⟨settings, by rw [hread]; rfl, hloads, hloads.isValid⟩
      · exact .inr ⟨content, fault, rfl, hspoils, by rw [hread]; rfl⟩
  · intro content t document hentry hbytes hdocument hshaped
    rw [hfile content hentry, ← Settings.ofText_fails_iff hdocument hshaped]
    unfold Settings.ofBytes
    rw [hbytes]
    dsimp only
    cases Settings.ofText loader t <;> simp [Except.mapError]
  · rintro parts fault hne hp hdepth rfl
    rw [← faultOf?_outlineValues, faultOf?_eq_some_iff, View.settings_outline hp hdepth hne h]
    cases outlineValues parts with
    | ok values => simp
    | error found => cases found <;> simp

/-- A word in the place of a number: the file is loaded, the flag is set, and every scalar has a value. -/
theorem settings_loaded_word_for_number :
    (∃ settings,
      (Directory.view [([settingsName], .file (Utf8.encode
        "locator:\n  lookback: many\n  skip_literals: true\n".toList))]).settings currentDirectory = .ok settings ∧
      Loads {} (.file (Utf8.encode "locator:\n  lookback: many\n  skip_literals: true\n".toList)) settings ∧
      settings.IsValid) ∧
    ∀ id fault, (outlineDocument [flaggedSection (plain "many".toList)]).Reaches id →
      ¬ (outlineDocument [flaggedSection (plain "many".toList)]).store.Lacks id fault := by
  have hmany : (plain "many".toList).IsSimple := isSimple_plain rfl rfl
  have hsimple := isSimple_flaggedSection hmany
  have hview : Directory.view [([settingsName], .file (Utf8.encode
      "locator:\n  lookback: many\n  skip_literals: true\n".toList))] (currentDirectory.child settingsName) =
      .ok (outlineFile [flaggedSection (plain "many".toList)]) := rfl
  obtain ⟨hany, hshaped, hwords⟩ := settings_loaded {} hview
  have hloaded : ∀ fault, (Directory.view [([settingsName], .file (Utf8.encode
      "locator:\n  lookback: many\n  skip_literals: true\n".toList))]).settings currentDirectory ≠
      .error (.settings fault) := by
    intro fault herror
    have hfirst := (hwords (List.cons_ne_nil _ _) hsimple (by decide) rfl).mp herror
    cases hfirst
  constructor
  · refine hany.resolve_right ?_
    rintro ⟨content, fault, -, -, herror⟩
    exact hloaded fault herror
  · intro id fault hid hlacks
    have hdepth : 2 ≤ ({} : Loader).depth := by decide
    have hdocument := document_outline hsimple (.inr rfl) hdepth (List.cons_ne_nil _ _)
    have hfails := hshaped rfl (readable?_outline hsimple) hdocument fun id _ => isShaped_outline hsimple id
    obtain ⟨found, herror⟩ := hfails.mpr ⟨id, fault, hid, hlacks⟩
    exact hloaded found herror

/-- Digits in the form of a date make the loading fail, if there is no such day. -/
theorem settings_impossible_date :
    (Directory.view [([settingsName], .file (Utf8.encode
      "locator:\n  lookback: 2020-13-01\n  skip_literals: true\n".toList))]).settings currentDirectory =
      .error (.settings .month) := by
  have hdate : (plain "2020-13-01".toList).IsSimple := isSimple_plain rfl rfl
  exact View.settings_outline (isSimple_flaggedSection hdate) (by decide) (List.cons_ne_nil _ _) rfl

end CursorDoc
