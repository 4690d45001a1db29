import CursorDoc.Command.Arguments
import CursorDoc.Command.Languages
import CursorDoc.Files
import CursorDoc.Json
import CursorDoc.Text.AnsiEscape

/-!
# Running commands

A command looks at files and ends with a status, what it prints, and at most
one file to be written. Only a successful insertion in place writes. A failure
that a command does not report itself is left to what runs the program.
-/

namespace CursorDoc

structure Outcome where
  status : Nat
  stdout : Text
  stderr : Text
  written : Option (Path × Bytes)
  raised : Option Failure := none
deriving DecidableEq, Repr

namespace Outcome

def printed (t : Text) : Outcome := { status := 0, stdout := t, stderr := [], written := none }

def failed (status : Nat) (message : Text) : Outcome :=
  { status, stdout := [], stderr := Text.stripEscapes ("Error: ".toList ++ message) ++ ['\n'], written := none }

/-- Expected failures end with status one, others with two. -/
def ofFailure (failure : Failure) : Outcome :=
  failed (if failure.isExpected then 1 else 2) failure.message

/-- The end of a command by a failure that it does not report. -/
def ofRaised (failure : Failure) : Outcome :=
  { status := 1, stdout := [], stderr := [], written := none, raised := some failure }

end Outcome

def notFoundPieces (path : Text) (line : Int) : List Text.Piece :=
  [.words ("No function found at ".toList ++ path ++ [':']), .number line]

/-- The function at a line, counted from one, under the settings of the current directory. -/
def View.functionAt? (view : View) (file : Path) (line : Int) (language : Option Text) :
    Except Failure (Option Record) := do
  let settings ← view.settings currentDirectory
  view.locate? file (line - 1) language settings

def runLocate (view : View) (file : Path) (line : Int) (language : Option Text) : Outcome :=
  match view.functionAt? file line language with
  | .error failure => .ofFailure failure
  | .ok none =>
    match Text.writeAll (notFoundPieces file.text line) with
    | .error fault => .ofRaised (.number fault)
    | .ok message => .failed 1 message
  | .ok (some record) =>
    match Json.record record with
    | .error fault => .ofRaised (.number fault)
    | .ok json => .printed (Text.stripEscapes json ++ ['\n'])

/-- The source with the documentation in a file put next to the function of a record. Lines of the
documentation may end in any way. -/
def View.splicedSource (view : View) (file doc : Path) (record : Record) : Except Failure Text := do
  let doc := (← view.readText doc).unifyNewlines
  let source ← view.readText file
  (splice source record doc).mapError .splice

/-- Put documentation next to a function; print the source or write it back. -/
def runInsert (view : View) (file : Path) (line : Int) (doc : Path) (language : Option Text)
    (inPlace : Bool) : Outcome :=
  match view.functionAt? file line language with
  | .error failure => .ofFailure failure
  | .ok none => .failed 1 (Text.shown (notFoundPieces file.text line))
  | .ok (some record) =>
    match view.splicedSource file doc record with
    | .error failure => .ofFailure failure
    | .ok updated =>
      if inPlace then
        let message := "✓ Updated documentation of '".toList ++ record.name ++ "' in ".toList ++
          file.text
        { Outcome.printed (Text.stripEscapes message ++ ['\n']) with
          written := some (file, Utf8.encode updated) }
      else .printed (Text.stripEscapes updated)

def Command.run (view : View) : Command → Outcome
  | .locate file line language => runLocate view file line language
  | .insert file line doc language inPlace => runInsert view file line doc language inPlace
  | .languages => .printed languageTable.text
  -- there is nothing on standard input to be answered
  | .serve => .printed []
  | .idle => .printed []

def Command.paths : Command → List Path
  | .locate file _ _ => [currentDirectory.child settingsName, file]
  | .insert file _ doc _ _ => [currentDirectory.child settingsName, file, doc]
  | .languages => []
  | .serve => []
  | .idle => []

/-- A command looks at its paths and nowhere else. -/
theorem Command.run_congr {view other : View} {command : Command}
    (h : ∀ path ∈ command.paths, view path = other path) :
    command.run view = command.run other := by
  cases command with
  | locate file line language =>
    simp only [paths, List.forall_mem_cons] at h
    simp only [run, runLocate, View.functionAt?, View.settings_congr h.1, View.locate?_congr h.2.1]
  | insert file line doc language inPlace =>
    simp only [paths, List.forall_mem_cons] at h
    simp only [run, runInsert, View.functionAt?, View.splicedSource, View.settings_congr h.1,
      View.locate?_congr h.2.1, View.readText_congr h.2.1, View.readText_congr h.2.2.1]
  | languages => rfl
  | serve => rfl
  | idle => rfl

def runArguments (view : View) (arguments : List Text) : Except ArgumentExit Outcome :=
  (Command.ofArguments arguments).map (·.run view)

end CursorDoc
