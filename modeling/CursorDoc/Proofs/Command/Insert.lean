import CursorDoc.Command.Run
import CursorDoc.Proofs.Command.Arguments
import CursorDoc.Proofs.Directory
import CursorDoc.Proofs.Text.AnsiEscape
import CursorDoc.Proofs.Text.Utf8
import CursorDoc.Session

/-!
# Insertions

What an insertion reads, and what it makes of that. It ends with status zero
exactly when all of it can be read and a function is found; only then, and
only in place, a file is written.
-/

namespace CursorDoc

variable {view : View} {file doc : Path} {line : Int} {language : Option Text}

theorem View.readText_eq_ok_iff {source : Text} : view.readText file = .ok source ↔
    ∃ content, view file = .ok (.file content) ∧ Utf8.decode content = .ok source := by
  unfold View.readText
  cases view file with
  | error error => simp
  | ok entry =>
    cases entry with
    | directory => simp
    | file content => cases hd : Utf8.decode content <;> simp [hd]

theorem View.isFile_of_readText {source : Text} (h : view.readText file = .ok source) : view.isFile file = .ok true := by
  obtain ⟨content, hfile, -⟩ := View.readText_eq_ok_iff.mp h
  unfold View.isFile
  rw [hfile]

theorem View.locate?_eq_ok_iff {settings : Settings} {cursor : Int} {found : Option Record} :
    view.locate? file cursor language settings = .ok found ↔ ∃ source, view.readText file = .ok source ∧
      locate (.text source) cursor (language.getD (languageOfPath file settings.extensions)) settings = .ok found := by
  unfold View.locate?
  simp only [bind_eq_ok_iff]
  constructor
  · rintro ⟨isFile, -, hrest⟩
    cases isFile with
    | false => cases hrest
    | true =>
      obtain ⟨source, hsource, hfound⟩ := bind_eq_ok_iff.mp hrest
      exact ⟨source, hsource, mapError_eq_ok_iff.mp hfound⟩
  · rintro ⟨source, hsource, hfound⟩
    refine ⟨true, View.isFile_of_readText hsource, ?_⟩
    exact bind_eq_ok_iff.mpr ⟨source, hsource, mapError_eq_ok_iff.mpr hfound⟩

theorem View.functionAt?_eq_ok_iff {found : Option Record} : view.functionAt? file line language = .ok found ↔
    ∃ settings source, view.settings currentDirectory = .ok settings ∧ view.readText file = .ok source ∧
      locate (.text source) (line - 1) (language.getD (languageOfPath file settings.extensions)) settings =
        .ok found := by
  unfold View.functionAt?
  simp only [bind_eq_ok_iff, View.locate?_eq_ok_iff, exists_and_left]

theorem View.splicedSource_eq_ok_iff {record : Record} {updated : Text} :
    view.splicedSource file doc record = .ok updated ↔ ∃ words source, view.readText doc = .ok words ∧
      view.readText file = .ok source ∧ splice source record words.unifyNewlines = .ok updated := by
  unfold View.splicedSource
  simp only [bind_eq_ok_iff, mapError_eq_ok_iff, exists_and_left]

/-! ## What an insertion reads and makes -/

/-- An insertion for which everything is there: the settings of the current directory, the source, the function
located in it, the words of the documentation file, and the source with those words spliced in. -/
structure Insertion (view : View) (file : Path) (line : Int) (doc : Path) (language : Option Text) where
  settings : Settings
  source : Text
  record : Record
  words : Text
  updated : Text
  loaded : view.settings currentDirectory = .ok settings
  read : view.readText file = .ok source
  located : locate (.text source) (line - 1) (language.getD (languageOfPath file settings.extensions)) settings =
    .ok (some record)
  readDoc : view.readText doc = .ok words
  spliced : splice source record words.unifyNewlines = .ok updated

theorem Outcome.status_ofFailure (failure : Failure) : (Outcome.ofFailure failure).status ≠ 0 := by
  unfold Outcome.ofFailure Outcome.failed
  split <;> simp

section
variable (insertion : Insertion view file line doc language)
include insertion

theorem Insertion.functionAt?_eq : view.functionAt? file line language = .ok (some insertion.record) :=
  View.functionAt?_eq_ok_iff.mpr
    ⟨insertion.settings, insertion.source, insertion.loaded, insertion.read, insertion.located⟩

theorem Insertion.splicedSource_eq : view.splicedSource file doc insertion.record = .ok insertion.updated :=
  View.splicedSource_eq_ok_iff.mpr
    ⟨insertion.words, insertion.source, insertion.readDoc, insertion.read, insertion.spliced⟩

theorem Insertion.runInsert_print :
    runInsert view file line doc language false = .printed (Text.stripEscapes insertion.updated) := by
  unfold runInsert
  rw [insertion.functionAt?_eq]
  dsimp only
  rw [insertion.splicedSource_eq]
  rfl

theorem Insertion.runInsert_inPlace : ∃ stdout, runInsert view file line doc language true =
    { status := 0, stdout, stderr := [], written := some (file, Utf8.encode insertion.updated) } := by
  unfold runInsert
  rw [insertion.functionAt?_eq]
  dsimp only
  rw [insertion.splicedSource_eq]
  exact ⟨_, rfl⟩

end

theorem exists_insertion {inPlace : Bool} (h : (runInsert view file line doc language inPlace).status = 0) :
    Nonempty (Insertion view file line doc language) := by
  unfold runInsert at h
  cases hfound : view.functionAt? file line language with
  | error failure =>
    rw [hfound] at h
    exact absurd h (Outcome.status_ofFailure failure)
  | ok record? =>
    cases record? with
    | none =>
      rw [hfound] at h
      cases h
    | some record =>
      cases hspliced : view.splicedSource file doc record with
      | error failure =>
        simp only [hfound, hspliced] at h
        exact absurd h (Outcome.status_ofFailure failure)
      | ok updated =>
        obtain ⟨settings, source, hsettings, hsource, hrecord⟩ := View.functionAt?_eq_ok_iff.mp hfound
        obtain ⟨words, source', hwords, hsource', hsplice⟩ := View.splicedSource_eq_ok_iff.mp hspliced
        obtain rfl : source = source' := Except.ok.inj (hsource.symm.trans hsource')
        exact ⟨settings, source, record, words, updated, hsettings, hsource, hrecord, hwords, hsplice⟩

theorem written_runLocate : (runLocate view file line language).written = none := by
  unfold runLocate
  rcases view.functionAt? file line language with failure | (- | record)
  · rfl
  · dsimp only
    cases Text.writeAll (notFoundPieces file.text line) <;> rfl
  · dsimp only
    cases Json.record record <;> rfl

theorem written_runInsert {inPlace : Bool}
    (h : inPlace = true → (runInsert view file line doc language inPlace).status ≠ 0) :
    (runInsert view file line doc language inPlace).written = none := by
  unfold runInsert at h ⊢
  generalize view.functionAt? file line language = found at h ⊢
  rcases found with failure | (- | record)
  · rfl
  · rfl
  · dsimp only at h ⊢
    generalize view.splicedSource file doc record = spliced at h ⊢
    rcases spliced with failure | updated
    · rfl
    · cases inPlace with
      | false => rfl
      | true => exact absurd rfl (h rfl)

/-- Only an insertion in place that ends with status zero writes. -/
theorem Command.written_eq_none {command : Command} (h : ∀ file line doc language,
    command = .insert file line doc language true → (command.run view).status ≠ 0) :
    (command.run view).written = none := by
  cases command with
  | locate file line language => exact written_runLocate
  | insert file line doc language inPlace =>
    refine written_runInsert fun hinPlace => ?_
    rw [hinPlace] at h ⊢
    exact h file line doc language rfl
  | languages => rfl
  | serve => rfl
  | idle => rfl

theorem runArguments_of_eq_ok {arguments : List Text} {command : Command}
    (h : Command.ofArguments arguments = .ok command) : runArguments view arguments = .ok (command.run view) := by
  unfold runArguments
  rw [h]
  rfl

/-! ## The preview -/

section
variable {directory : Directory} {old : Bytes}

theorem after_eq (outcome : Outcome) : directory.after (.ok outcome) =
    (outcome.written.map fun written => directory.write written.1 written.2).getD directory := by
  rcases outcome with ⟨status, stdout, stderr, - | written⟩ <;> rfl

theorem readText_write (h : directory.view file = .ok (.file old)) (t : Text) :
    (directory.write file (Utf8.encode t)).view.readText file = .ok t := by
  refine View.readText_eq_ok_iff.mpr ⟨Utf8.encode t, ?_, Utf8.decode_encode t⟩
  rw [Directory.view_write h, h]
  exact congrArg (fun content => Except.ok (Entry.file content)) (if_pos rfl)

theorem Insertion.answer_inPlace (insertion : Insertion directory.view file line doc language) {arguments : List Text}
    (h : Command.ofArguments arguments = .ok (.insert file line doc language true)) :
    ∃ outcome, (Request.command arguments).answer directory =
        (.command (.ok outcome), directory.write file (Utf8.encode insertion.updated)) ∧ outcome.status = 0 := by
  obtain ⟨stdout, hrun⟩ := insertion.runInsert_inPlace
  refine ⟨{ status := 0, stdout, stderr := [], written := some (file, Utf8.encode insertion.updated) }, ?_, rfl⟩
  unfold Request.answer
  dsimp only
  rw [runArguments_of_eq_ok h, Command.run, hrun]
  rfl

/-- **A preview leaves out escape sequences.** What an insertion prints is what it writes to the file if it is done
in place, without the escape sequences in it. So the two are the same exactly if nowhere in the updated source an
escape sequence stands. -/
theorem preview_eq_written_iff {arguments : List Text} {preview : Outcome}
    (h : Command.ofArguments ("insert".toList :: arguments) = .ok (.insert file line doc language false))
    (hrun : runArguments directory.view ("insert".toList :: arguments) = .ok preview) (hstatus : preview.status = 0) :
    ∃ outcome after written,
      (Request.command ("insert".toList :: "--in-place".toList :: arguments)).answer directory =
        (.command (.ok outcome), after) ∧
      outcome.status = 0 ∧
      after.view.readText file = .ok written ∧
      preview.stdout = Text.stripEscapes written ∧
      (preview.stdout = written ↔
        ∀ front sequence back, written = front ++ sequence ++ back → ¬ Text.IsEscape sequence) := by
  have hpreview : preview = runInsert directory.view file line doc language false :=
    Except.ok.inj (hrun.symm.trans (runArguments_of_eq_ok h))
  rw [hpreview] at hstatus ⊢
  obtain ⟨insertion⟩ := exists_insertion hstatus
  have hinPlace : Command.ofArguments ("insert".toList :: "--in-place".toList :: arguments) =
      .ok (.insert file line doc language true) := by
    rw [Arguments.ofArguments_cons (by decide)] at h ⊢
    exact Arguments.command_insert_inPlace h
  obtain ⟨outcome, hanswer, hzero⟩ := insertion.answer_inPlace hinPlace
  obtain ⟨content, hfile, -⟩ := View.readText_eq_ok_iff.mp insertion.read
  have hstdout : (runInsert directory.view file line doc language false).stdout =
      Text.stripEscapes insertion.updated := by
    rw [insertion.runInsert_print]
    rfl
  refine ⟨outcome, _, insertion.updated, hanswer, hzero, readText_write hfile insertion.updated, hstdout, ?_⟩
  rw [hstdout]
  exact Text.stripEscapes_eq_self_iff

end

theorem preview_eq_written_iff_plain_source :
    let directory : Directory :=
      [(["f.js".toList], .file (Utf8.encode "function f() \x7b\x7d\n".toList)),
        (["doc".toList], .file (Utf8.encode "/** F. */".toList))]
    let arguments : List Text := ["f.js".toList, "1".toList, "--doc-file".toList, "doc".toList]
    let preview : Outcome := .printed "/** F. */\nfunction f() \x7b\x7d\n".toList
    Command.ofArguments ("insert".toList :: arguments) =
        .ok (.insert (.ofText "f.js".toList) 1 (.ofText "doc".toList) none false) ∧
      runArguments directory.view ("insert".toList :: arguments) = .ok preview ∧ preview.status = 0 ∧
      ∃ outcome after,
        (Request.command ("insert".toList :: "--in-place".toList :: arguments)).answer directory =
          (.command (.ok outcome), after) ∧
        after.view.readText (.ofText "f.js".toList) = .ok preview.stdout ∧
        ∀ front sequence back, preview.stdout = front ++ sequence ++ back → ¬ Text.IsEscape sequence := by
  intro directory arguments preview
  have hread : Command.ofArguments ("insert".toList :: arguments) =
      .ok (.insert (.ofText "f.js".toList) 1 (.ofText "doc".toList) none false) := by rfl
  have hrun : runArguments directory.view ("insert".toList :: arguments) = .ok preview := by rfl
  have hcontent : ((Request.command ("insert".toList :: "--in-place".toList :: arguments)).answer
      directory).2.view.readText (.ofText "f.js".toList) = .ok preview.stdout := by rfl
  obtain ⟨outcome, after, written, hanswer, -, hafter, -, hsame⟩ := preview_eq_written_iff hread hrun rfl
  rw [hanswer] at hcontent
  obtain rfl : preview.stdout = written := Except.ok.inj (hcontent.symm.trans hafter)
  exact ⟨hread, hrun, rfl, outcome, after, hanswer, hafter, hsame.mp rfl⟩

/-- An escape sequence in the source is not in the preview. -/
theorem preview_without_escape_sequence :
    let directory : Directory :=
      [(["f.js".toList], .file (Utf8.encode "function f() \x7b return '\x1b[0m'; \x7d\n".toList)),
        (["doc".toList], .file (Utf8.encode "/** F. */".toList))]
    let arguments : List Text := ["f.js".toList, "1".toList, "--doc-file".toList, "doc".toList]
    let updated : Text := "/** F. */\nfunction f() \x7b return '\x1b[0m'; \x7d\n".toList
    let outcome : Outcome :=
      { status := 0, stdout := "✓ Updated documentation of 'f' in f.js\n".toList, stderr := []
        written := some (.ofText "f.js".toList, Utf8.encode updated) }
    runArguments directory.view ("insert".toList :: arguments) =
        .ok (.printed "/** F. */\nfunction f() \x7b return ''; \x7d\n".toList) ∧
      runArguments directory.view ("insert".toList :: "--in-place".toList :: arguments) = .ok outcome ∧
      (directory.after (.ok outcome)).view.readText (.ofText "f.js".toList) = .ok updated ∧
      "/** F. */\nfunction f() \x7b return ''; \x7d\n".toList ≠ updated := by
  intro directory arguments updated outcome
  exact ⟨by rfl, by rfl, by rfl, by decide +kernel⟩

end CursorDoc
