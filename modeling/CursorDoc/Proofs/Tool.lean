import CursorDoc.Proofs.Command.Insert
import CursorDoc.Proofs.Json.Record
import CursorDoc.Proofs.Splice.Run
import CursorDoc.Tool

/-!
# The command and the tool

The same look-up is offered as a command and as a tool. The status of the
command and the start of the tool's answer say the same about how it went: a
record, nothing found, an expected failure or an unexpected one.
-/

namespace CursorDoc

def notFoundMessage (path : Text) (line : Int) : Text :=
  "No function found at ".toList ++ path ++ [':'] ++ Text.decimalInt line

def Outcome.errorLine (status : Nat) (message : Text) : Outcome :=
  { status, stdout := [], stderr := "Error: ".toList ++ message ++ ['\n'], written := none }

/-- What the command ends with and what the tool answers, for each way a look-up goes. -/
inductive SameAnswer (path : Text) (line : Int) : Outcome → Text → Prop where
  | found (record : Record) (json : Text) : Json.record record = .ok json →
    SameAnswer path line (.printed (json ++ ['\n'])) json
  | notFound :
    SameAnswer path line (.errorLine 1 (notFoundMessage (Path.ofText path).text line).stripEscapes)
      (notFoundMessage path line)
  | expected (message : Text) :
    SameAnswer path line (.errorLine 1 message.stripEscapes) ("Error: ".toList ++ message)
  | unexpected (message : Text) :
    SameAnswer path line (.errorLine 2 message.stripEscapes) ("Unexpected error: ".toList ++ message)

structure Agreement (path : Text) (line : Int) (outcome : Outcome) (answer : Text) : Prop where
  reported : outcome.raised = none
  record : ∀ t, outcome.status = 0 ∧ outcome.stdout = t ++ ['\n'] ↔
    answer = t ∧ ∃ record, Json.record record = .ok t
  error : ∀ message, outcome.status = 1 ∧ outcome.stderr = "Error: ".toList ++ message ++ ['\n'] ↔
    (∃ raw, answer = "Error: ".toList ++ raw ∧ message = Text.stripEscapes raw) ∨
      answer = notFoundMessage path line ∧ message = Text.stripEscapes (notFoundMessage (Path.ofText path).text line)
  unexpected : ∀ message, outcome.status = 2 ∧ outcome.stderr = "Error: ".toList ++ message ++ ['\n'] ↔
    ∃ raw, answer = "Unexpected error: ".toList ++ raw ∧ message = Text.stripEscapes raw

/-! ## The four ways -/

section
variable {view : View} {path : Text} {line : Int} {language : Option Text}

theorem Outcome.failed_eq (status : Nat) (message : Text) :
    Outcome.failed status message = .errorLine status message.stripEscapes := by
  unfold Outcome.failed
  rw [Text.stripEscapes_append_of_not_mem (by decide)]
  rfl

theorem sameAnswer_ofFailure (failure : Failure) : SameAnswer path line (.ofFailure failure)
    ((if failure.isExpected then "Error: ".toList else "Unexpected error: ".toList) ++ failure.message) := by
  unfold Outcome.ofFailure
  rw [Outcome.failed_eq]
  cases failure.isExpected with
  | true => exact .expected failure.message
  | false => exact .unexpected failure.message

theorem checkedFunctionAt?_eq (hline : 1 ≤ line) :
    checkedFunctionAt? view path line language = view.functionAt? (.ofText path) line language := by
  unfold checkedFunctionAt?
  rw [if_neg (Int.not_lt.mpr hline)]

theorem writeAll_notFoundPieces (hline : ¬ Text.IsLong line) :
    Text.writeAll (notFoundPieces path line) = .ok (notFoundMessage path line) := by
  refine (Text.writeAll_of_written fun n hn => ?_).trans (congrArg Except.ok ?_)
  · simp only [notFoundPieces, List.mem_cons, reduceCtorEq, List.not_mem_nil, or_false, false_or] at hn
    rwa [Text.Piece.number.inj hn]
  · rw [notFoundPieces, List.flatMap_cons, List.flatMap_cons, List.flatMap_nil, List.append_nil]
    rfl

/-- The lines of a function that was found are lines of its file. -/
theorem exists_json {file : Path} {record : Record}
    (hlines : ∀ source, view.readText file = .ok source → ¬ Text.IsLong source.splitLines.length)
    (h : view.functionAt? file line language = .ok (some record)) : ∃ json, Json.record record = .ok json := by
  obtain ⟨settings, source, -, hsource, hfound⟩ := View.functionAt?_eq_ok_iff.mp h
  have hfits := Record.fits_of_locate? (locate_eq_ok_iff.mp hfound).2
  have hstart := hfits.startLine_nonneg
  have hle := hfits.startLine_le
  have hend := hfits.endLine_lt
  refine ⟨Json.recordText record, Json.record_eq_ok_iff.mpr ⟨?_, rfl⟩⟩
  rintro (hlong | hlong)
  · exact hlines source hsource (hlong.mono hstart (by omega))
  · exact hlines source hsource (hlong.mono (by omega) (by omega))

theorem sameAnswer_runLocate (hline : 1 ≤ line) (hshort : ¬ Text.IsLong line)
    (hlines : ∀ source, view.readText (.ofText path) = .ok source → ¬ Text.IsLong source.splitLines.length) :
    SameAnswer path line (runLocate view (.ofText path) line language) (locateAnswer view path line language) := by
  unfold runLocate locateAnswer locateText
  rw [checkedFunctionAt?_eq hline]
  cases hfound : view.functionAt? (.ofText path) line language with
  | error failure => exact sameAnswer_ofFailure failure
  | ok found =>
    cases found with
    | none =>
      simp only [bind, Except.bind, writeAll_notFoundPieces hshort, Except.mapError, Outcome.failed_eq]
      exact .notFound
    | some record =>
      obtain ⟨json, hjson⟩ := exists_json hlines hfound
      simp only [bind, Except.bind, hjson, Except.mapError]
      rw [(Json.record_eq_ok_iff.mp hjson).2, Json.stripEscapes_recordText, ← (Json.record_eq_ok_iff.mp hjson).2]
      exact .found record json hjson

end

/-! ## Agreement -/

section
variable {path message raw t answer : Text} {line : Int} {outcome : Outcome} {c : Char}

theorem not_record (h : answer.head? = some c) (hc : c ≠ '\x7b') :
    ¬ (answer = t ∧ ∃ record, Json.record record = .ok t) := by
  rintro ⟨rfl, record, hjson⟩
  rw [(Json.record_eq_ok_iff.mp hjson).2] at h
  exact hc (Option.some.inj h).symm

theorem not_error (h : answer.head? = some c) (hc : c ≠ 'E') :
    ¬ ∃ raw, answer = "Error: ".toList ++ raw ∧ message = Text.stripEscapes raw := by
  rintro ⟨raw, rfl, -⟩
  exact hc (Option.some.inj h).symm

theorem not_notFound (h : answer.head? = some c) (hc : c ≠ 'N') :
    ¬ (answer = notFoundMessage path line ∧ message = t) := by
  rintro ⟨rfl, -⟩
  exact hc (Option.some.inj h).symm

theorem not_unexpected (h : answer.head? = some c) (hc : c ≠ 'U') :
    ¬ ∃ raw, answer = "Unexpected error: ".toList ++ raw ∧ message = Text.stripEscapes raw := by
  rintro ⟨raw, rfl, -⟩
  exact hc (Option.some.inj h).symm

theorem not_status {m n : Nat} {p : Prop} (h : m ≠ n) : ¬ (m = n ∧ p) := fun hp => h hp.1

theorem errorLine_eq_iff :
    "Error: ".toList ++ raw ++ ['\n'] = "Error: ".toList ++ message ++ ['\n'] ↔ message = raw := by
  rw [List.append_left_inj, List.append_right_inj, eq_comm]

/-- The four ways are told apart by the first character of the answer. -/
theorem SameAnswer.agreement (h : SameAnswer path line outcome answer) : Agreement path line outcome answer := by
  cases h with
  | found record json hjson =>
    have hhead : answer.head? = some '\x7b' := by
      rw [(Json.record_eq_ok_iff.mp hjson).2]
      rfl
    refine ⟨rfl, fun t => ?_, fun message => iff_of_false ?_ ?_, fun message => iff_of_false ?_ ?_⟩
    · rw [Outcome.printed, List.append_left_inj]
      exact ⟨fun h => ⟨h.2, record, h.2 ▸ hjson⟩, fun h => ⟨rfl, h.1⟩⟩
    · exact not_status (show 0 ≠ 1 by decide)
    · exact not_or.mpr ⟨not_error hhead (by decide), not_notFound hhead (by decide)⟩
    · exact not_status (show 0 ≠ 2 by decide)
    · exact not_unexpected hhead (by decide)
  | notFound =>
    refine ⟨rfl, fun t => iff_of_false ?_ ?_, fun message => ?_, fun message => iff_of_false ?_ ?_⟩
    · exact not_status (show 1 ≠ 0 by decide)
    · exact not_record rfl (by decide)
    · rw [Outcome.errorLine, errorLine_eq_iff, or_iff_right (not_error rfl (by decide))]
      exact and_congr_left fun _ => iff_of_true rfl rfl
    · exact not_status (show 1 ≠ 2 by decide)
    · exact not_unexpected rfl (by decide)
  | expected raw =>
    refine ⟨rfl, fun t => iff_of_false ?_ ?_, fun message => ?_, fun message => iff_of_false ?_ ?_⟩
    · exact not_status (show 1 ≠ 0 by decide)
    · exact not_record rfl (by decide)
    · rw [Outcome.errorLine, errorLine_eq_iff, or_iff_left (not_notFound rfl (by decide))]
      simp only [List.append_right_inj, exists_eq_left', true_and]
    · exact not_status (show 1 ≠ 2 by decide)
    · exact not_unexpected rfl (by decide)
  | unexpected raw =>
    refine ⟨rfl, fun t => iff_of_false ?_ ?_, fun message => iff_of_false ?_ ?_, fun message => ?_⟩
    · exact not_status (show 2 ≠ 0 by decide)
    · exact not_record rfl (by decide)
    · exact not_status (show 2 ≠ 1 by decide)
    · exact not_or.mpr ⟨not_error rfl (by decide), not_notFound rfl (by decide)⟩
    · rw [Outcome.errorLine, errorLine_eq_iff]
      simp only [List.append_right_inj, exists_eq_left', true_and]

/-- **Command and tool agree.** For a path that is no option and holds no null character, a line as users write it and
any language, the command ends without an error of its arguments and reports whatever goes wrong, the tool answers with
one text, and each is told from the other. The number of lines of the file is one that can be written. -/
theorem locate_agreement (view : View) {written : Text} (language : Option Text) (hpath : path.head? ≠ some '-')
    (hnull : '\x00' ∉ path) (hline : Arguments.lineOf written = .ok line)
    (hlines : ∀ source, view.readText (.ofText path) = .ok source → ¬ Text.IsLong source.splitLines.length) :
    ∃ outcome answer,
      runArguments view ("locate".toList :: Arguments.locateArguments path written language) = .ok outcome ∧
      callTool view "docspot_locate".toList ⟨some path, some line, language⟩ = .ok [answer] ∧
      Agreement path line outcome answer := by
  have hcommand : Command.ofArguments ("locate".toList :: Arguments.locateArguments path written language) =
      .ok (.locate (.ofText path) line language) := by
    rw [Arguments.ofArguments_cons (by decide), Arguments.command_locate language hpath hnull hline]
  refine ⟨_, locateAnswer view path line language, runArguments_of_eq_ok hcommand, ?_, ?_⟩
  · unfold callTool
    exact if_pos rfl
  · exact (sameAnswer_runLocate (Arguments.one_le_of_lineOf hline) (Arguments.not_isLong_of_lineOf hline)
      hlines).agreement

end

theorem locate_agreement_found :
    let directory : Directory := [(["f.js".toList], .file (Utf8.encode "function f() \x7b\x7d\n".toList))]
    let path : Text := "f.js".toList
    path.head? ≠ some '-' ∧ '\x00' ∉ path ∧ Arguments.lineOf ['1'] = .ok 1 ∧
      (∀ source, directory.view.readText (.ofText path) = .ok source → ¬ Text.IsLong source.splitLines.length) ∧
      ∃ outcome answer,
        runArguments directory.view ("locate".toList :: Arguments.locateArguments path ['1'] none) = .ok outcome ∧
        callTool directory.view "docspot_locate".toList ⟨some path, some 1, none⟩ = .ok [answer] ∧
        outcome.status = 0 ∧ Agreement path 1 outcome answer := by
  intro directory path
  have hline : Arguments.lineOf ['1'] = .ok 1 := by rfl
  have hread : directory.view.readText (.ofText path) = .ok "function f() \x7b\x7d\n".toList := by rfl
  have hlines : ∀ source, directory.view.readText (.ofText path) = .ok source →
      ¬ Text.IsLong source.splitLines.length := by
    intro source hsource
    rw [← Except.ok.inj (hread.symm.trans hsource)]
    decide +kernel
  have hstatus : (runArguments directory.view ("locate".toList :: Arguments.locateArguments path ['1'] none)).map
      (·.status) = .ok 0 := by rfl
  obtain ⟨outcome, answer, hrun, hanswer, hagreement⟩ :=
    locate_agreement directory.view none (by decide : path.head? ≠ some '-') (by decide) hline hlines
  rw [hrun] at hstatus
  exact ⟨by decide, by decide, hline, hlines, outcome, answer, hrun, hanswer, Except.ok.inj hstatus, hagreement⟩

/-- A path with a null character is refused when the arguments are read. The tool looks it up. -/
theorem locate_null_character :
    let directory : Directory := []
    let path : Text := ['a', '\x00']
    path.head? ≠ some '-' ∧ Arguments.lineOf ['1'] = .ok 1 ∧
      runArguments directory.view ("locate".toList :: Arguments.locateArguments path ['1'] none) = .error .usage ∧
      ArgumentExit.usage.status = 2 ∧
      callTool directory.view "docspot_locate".toList ⟨some path, some 1, none⟩ =
        .ok ["Error: File not found: a\x00".toList] := by
  intro directory path
  exact ⟨by decide, by rfl, by rfl, by rfl, by rfl⟩

end CursorDoc
