import CursorDoc.Command.Arguments
import CursorDoc.Proofs.Outcome
import CursorDoc.Proofs.Text.Decimal
import CursorDoc.Proofs.Text.Lines
import CursorDoc.Proofs.Text.Message

/-!
# Reading command lines

What the arguments of a command are read as: a flag in front of the arguments
of an insertion changes nothing but the flag, and a path, a line and a language
are read as a request to locate.
-/

namespace CursorDoc

namespace Arguments

variable {items : List Item} {option given : OptionName} {value argument : Text} {rest : List Text}
  {options : List OptionName}

/-! ## Items -/

theorem valueOf?_option_cons : valueOf? (.option given value :: items) option =
    (valueOf? items option).or (if given = option then some value else none) := by
  unfold valueOf?
  rw [List.reverse_cons, List.findSome?_append, List.findSome?_singleton]

theorem valueOf?_positional_cons : valueOf? (.positional value :: items) option = valueOf? items option := by
  unfold valueOf?
  rw [List.reverse_cons, List.findSome?_append, List.findSome?_singleton, Option.or_none]

def Item.IsPlain (item : Item) : Prop :=
  ∀ option ∈ [help, version, installCompletion, showCompletion], item.isUseOf option = false

theorem isPlain_positional : (Item.positional value).IsPlain := fun _ _ => rfl

theorem isPlain_option (h : given ∉ [help, version, installCompletion, showCompletion]) :
    (Item.option given value).IsPlain := fun _ hm => beq_false_of_ne fun heq => h (heq ▸ hm)

theorem exitOf?_cons {item : Item} (h : item.IsPlain) : exitOf? (item :: items) = exitOf? items := by
  simp only [Item.IsPlain, List.forall_mem_cons] at h
  obtain ⟨hhelp, hversion, hinstall, hshow, -⟩ := h
  unfold exitOf?
  rw [List.find?_cons, List.any_cons, hhelp, hversion, hinstall, hshow]
  rfl

theorem readCommand_eq_ok_iff :
    readCommand options rest = .ok items ↔ readItems (help :: options) rest = .ok items ∧ exitOf? items = none := by
  unfold readCommand
  rw [bind_eq_ok_iff]
  constructor
  · rintro ⟨read, hread, h⟩
    cases hexit : exitOf? read with
    | some exit =>
      rw [hexit] at h
      cases h
    | none =>
      rw [hexit] at h
      cases h
      exact ⟨hread, hexit⟩
  · rintro ⟨hread, hexit⟩
    refine ⟨items, hread, ?_⟩
    rw [hexit]
    rfl

theorem ne_of_head? (h : argument.head? ≠ some '-') : argument ≠ ['-', '-'] := by
  rintro rfl
  exact h rfl

theorem isOption_of_head? (h : argument.head? ≠ some '-') : isOption argument = false := by
  unfold isOption
  cases argument with
  | nil => rfl
  | cons c rest =>
    have hc : c ≠ '-' := fun e => h (by rw [e]; rfl)
    simp [Text.startsWith, List.isPrefixOf, Ne.symm hc]

theorem readItems_positional (h : argument.head? ≠ some '-') :
    readItems options (argument :: rest) = (readItems options rest).map (.positional argument :: ·) := by
  rw [readItems.eq_def]
  simp only [if_neg (ne_of_head? h), isOption_of_head? h]
  rfl

theorem readItems_flag {flag : OptionName} (hne : argument ≠ ['-', '-']) (hopt : isOption argument = true)
    (h : readOption options argument = .ok ⟨[.option flag value], none⟩) :
    readItems options (argument :: rest) = (readItems options rest).map (.option flag value :: ·) := by
  rw [readItems.eq_def]
  simp only [if_neg hne, hopt, h, if_true]
  rfl

/-! ## Commands -/

theorem ofArguments_cons (h : argument.head? ≠ some '-') :
    Command.ofArguments (argument :: rest) = command argument rest := by
  unfold Command.ofArguments
  rw [readProgramOptions]
  simp only [if_neg (ne_of_head? h), isOption_of_head? h]
  rfl

theorem command_insert_eq_ok_iff {file doc : Path} {line : Int} {language : Option Text} {flag : Bool} :
    command "insert".toList rest = .ok (.insert file line doc language flag) ↔
      ∃ items, readCommand [docFile, languageOption, inPlace] rest = .ok items ∧ docPath? items = .ok (some doc) ∧
        target items = .ok (file, line) ∧ valueOf? items languageOption = language ∧
        (valueOf? items inPlace).isSome = flag := by
  have hname : "insert".toList ≠ "locate".toList := by decide
  unfold command
  rw [if_neg hname, if_pos rfl]
  simp only [bind_eq_ok_iff]
  constructor
  · rintro ⟨items, hitems, doc?, hdoc, ⟨path, number⟩, htarget, h⟩
    cases doc? with
    | none => cases h
    | some doc' =>
      cases h
      exact ⟨items, hitems, hdoc, htarget, rfl, rfl⟩
  · rintro ⟨items, hitems, hdoc, htarget, rfl, rfl⟩
    exact ⟨items, hitems, some doc, hdoc, (file, line), htarget, rfl⟩

theorem readCommand_inPlace (h : readCommand [docFile, languageOption, inPlace] rest = .ok items) :
    readCommand [docFile, languageOption, inPlace] ("--in-place".toList :: rest) =
      .ok (.option inPlace [] :: items) := by
  obtain ⟨hread, hexit⟩ := readCommand_eq_ok_iff.mp h
  refine readCommand_eq_ok_iff.mpr ⟨?_, (exitOf?_cons (isPlain_option (by decide))).trans hexit⟩
  have hflag : readOption [help, docFile, languageOption, inPlace] "--in-place".toList =
      .ok ⟨[.option inPlace []], none⟩ := rfl
  rw [readItems_flag (by decide) (by decide) hflag, hread]
  rfl

theorem valueOf?_inPlace_cons (hne : inPlace ≠ option) :
    valueOf? (.option inPlace value :: items) option = valueOf? items option := by
  rw [valueOf?_option_cons, if_neg hne, Option.or_none]

/-- With the flag in front, the same insertion is read as one in place. -/
theorem command_insert_inPlace {file doc : Path} {line : Int} {language : Option Text} {flag : Bool}
    (h : command "insert".toList rest = .ok (.insert file line doc language flag)) :
    command "insert".toList ("--in-place".toList :: rest) = .ok (.insert file line doc language true) := by
  obtain ⟨items, hitems, hdoc, htarget, hlanguage, -⟩ := command_insert_eq_ok_iff.mp h
  refine command_insert_eq_ok_iff.mpr ⟨.option inPlace [] :: items, readCommand_inPlace hitems, ?_, htarget, ?_, ?_⟩
  · unfold docPath?
    rw [valueOf?_inPlace_cons (by decide)]
    exact hdoc
  · rw [valueOf?_inPlace_cons (by decide), hlanguage]
  · rw [valueOf?_option_cons, if_pos rfl, Option.isSome_or, Option.isSome_some, Bool.or_true]

/-! ## A path, a line and a language -/

def locateArguments (path line : Text) (language : Option Text) : List Text :=
  path :: line :: (language.map ("--language=".toList ++ ·)).toList

theorem readItems_language (language : Option Text) :
    readItems [help, languageOption] (language.map ("--language=".toList ++ ·)).toList =
      .ok (language.map (.option languageOption ·)).toList := by
  cases language with
  | none => rfl
  | some tag =>
    have hread : readOption [help, languageOption] ("--language=".toList ++ tag) =
        .ok ⟨[.option languageOption tag], none⟩ := by
      unfold readOption
      rw [show splitValue ("--language=".toList ++ tag) = ("--language".toList, some tag) from rfl]
      rfl
    rw [Option.map_some, Option.toList_some, readItems_flag (fun h => by cases h) rfl hread]
    rfl

theorem isDigitRun_hyphen (t : Text) : Text.isDigitRun ('-' :: t) = false := by
  rw [Text.isDigitRun.eq_def]
  split
  · rfl
  · next h => rw [← (List.cons.inj h).1]; rfl
  · next h => rw [← (List.cons.inj h).1]; rfl
  · next h => rw [← (List.cons.inj h).1]; rfl

theorem exists_dropZeroFraction_hyphen (t : Text) : ∃ u, Text.dropZeroFraction ('-' :: t) = '-' :: u := by
  unfold Text.dropZeroFraction
  split
  · split
    · exact ⟨t.takeWhile (· != '.'), rfl⟩
    · exact ⟨t, rfl⟩
  · exact ⟨t, rfl⟩

theorem wholeNumber?_hyphen (t : Text) : Text.wholeNumber? ('-' :: t) = none := by
  have htrim : Text.trimWhile Text.isUnicodeSpace ('-' :: t) = '-' :: Text.dropEndWhile Text.isUnicodeSpace t := by
    unfold Text.trimWhile
    rw [List.dropWhile_cons_of_neg (by decide)]
    exact Text.dropEndWhile_append_cons (by decide) [] t
  obtain ⟨u, hu⟩ := exists_dropZeroFraction_hyphen (Text.dropEndWhile Text.isUnicodeSpace t)
  have hsign : ¬ ('-' :: Text.dropEndWhile Text.isUnicodeSpace t).head? == some '+' := by
    rw [List.head?_cons]
    decide
  unfold Text.wholeNumber?
  rw [htrim]
  dsimp only
  rw [if_neg hsign, hu, isDigitRun_hyphen]
  rfl

theorem head?_of_lineOf {written : Text} {line : Int} (h : lineOf written = .ok line) : written.head? ≠ some '-' := by
  intro hhead
  obtain ⟨t, rfl⟩ := List.head?_eq_some_iff.mp hhead
  unfold lineOf at h
  rw [wholeNumber?_hyphen] at h
  cases h

theorem one_le_of_lineOf {written : Text} {line : Int} (h : lineOf written = .ok line) : 1 ≤ line := by
  unfold lineOf at h
  split at h
  · split at h
    · cases h
    · next n _ hn =>
      cases h
      omega
  · cases h

theorem isDigit_of_mem_isDigitRun {t : Text} {c : Char} (h : Text.isDigitRun t = true) (hc : c ∈ t) (hne : c ≠ '_') :
    c.isDigit = true := by
  fun_induction Text.isDigitRun t with
  | case1 => cases h
  | case2 d => rwa [List.mem_singleton.mp hc]
  | case3 d r ih =>
    obtain ⟨hd, hr⟩ := Bool.and_eq_true_iff.mp h
    rcases List.mem_cons.mp hc with rfl | hc
    · exact hd
    rcases List.mem_cons.mp hc with rfl | hc
    · exact absurd rfl hne
    · exact ih hr hc
  | case4 d r _ _ ih =>
    obtain ⟨hd, hr⟩ := Bool.and_eq_true_iff.mp h
    rcases List.mem_cons.mp hc with rfl | hc
    · exact hd
    · exact ih hr hc

theorem hexValue?_lt_of_isDigit {c : Char} (hc : c.isDigit = true) {d : Nat} (h : Text.hexValue? c = some d) :
    d < 10 := by
  have hall := Text.of_isDigit (p := fun c => (Text.hexValue? c).all (· < 10)) (by decide) hc
  rw [h] at hall
  exact of_decide_eq_true hall

theorem wholeNumber?_lt {t : Text} {n : Nat} (h : Text.wholeNumber? t = some n) : n < 10 ^ Text.maxDigits := by
  unfold Text.wholeNumber? at h
  dsimp only at h
  generalize Text.dropZeroFraction _ = run at h
  split at h
  · next hrun =>
    obtain ⟨hrun, hlen⟩ := Bool.and_eq_true_iff.mp hrun
    cases h
    refine Nat.lt_of_lt_of_le (Text.ofDigits_lt fun d hd => ?_) (Nat.pow_le_pow_right (by decide)
      (Nat.le_trans (List.length_filterMap_le _ _) (of_decide_eq_true hlen)))
    obtain ⟨c, hc, hd⟩ := List.mem_filterMap.mp hd
    obtain ⟨hc, hne⟩ := List.mem_filter.mp ((List.dropWhile_sublist _).subset hc)
    exact hexValue?_lt_of_isDigit (isDigit_of_mem_isDigitRun hrun hc (by simpa using hne)) hd
  · cases h

theorem not_isLong_of_lineOf {written : Text} {line : Int} (h : lineOf written = .ok line) : ¬ Text.IsLong line := by
  unfold lineOf at h
  split at h
  · next n hn =>
    split at h
    · cases h
    · cases h
      exact fun hlong => Nat.not_le.mpr (wholeNumber?_lt hn) (Text.isLong_iff.mp hlong)
  · cases h

theorem readCommand_locateArguments {path written : Text} (language : Option Text) (hpath : path.head? ≠ some '-')
    (hwritten : written.head? ≠ some '-') : readCommand [languageOption] (locateArguments path written language) =
      .ok (.positional path :: .positional written :: (language.map (.option languageOption ·)).toList) := by
  refine readCommand_eq_ok_iff.mpr ⟨?_, ?_⟩
  · unfold locateArguments
    rw [readItems_positional hpath, readItems_positional hwritten, readItems_language]
    rfl
  · rw [exitOf?_cons isPlain_positional, exitOf?_cons isPlain_positional]
    cases language with
    | none => rfl
    | some tag => exact exitOf?_cons (isPlain_option (by decide))

theorem command_locate {path written : Text} {line : Int} (language : Option Text) (hpath : path.head? ≠ some '-')
    (hnull : '\x00' ∉ path) (hline : lineOf written = .ok line) :
    command "locate".toList (locateArguments path written language) = .ok (.locate (.ofText path) line language) := by
  have htarget : target (.positional path :: .positional written :: (language.map (.option languageOption ·)).toList) =
      .ok (.ofText path, line) := by
    have hpositionals : positionals (.positional path :: .positional written ::
        (language.map (.option languageOption ·)).toList) = [path, written] := by
      cases language <;> rfl
    unfold target pathOf
    rw [hpositionals]
    simp only [bind, Except.bind]
    rw [if_neg (by simpa using hnull), hline]
    rfl
  have hlanguage : valueOf? (.positional path :: .positional written ::
      (language.map (.option languageOption ·)).toList) languageOption = language := by
    rw [valueOf?_positional_cons, valueOf?_positional_cons]
    cases language with
    | none => rfl
    | some tag => rfl
  unfold command
  rw [if_pos rfl, readCommand_locateArguments language hpath (head?_of_lineOf hline)]
  simp only [bind, Except.bind, htarget, hlanguage]
  rfl

end Arguments

end CursorDoc
