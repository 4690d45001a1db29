import CursorDoc.Failure
import CursorDoc.Settings.Document

/-!
# Functions in files

Reading settings and sources through a view of the files.
-/

namespace CursorDoc

/-- The view of some paths; nothing is known to exist elsewhere. -/
def View.ofEntries (entries : List (Path × Except FileError Entry)) : View := fun path =>
  ((entries.find? (·.1 == path)).map (·.2)).getD (.error .notFound)

def View.readText (view : View) (path : Path) : Except Failure Text :=
  match view path with
  | .error error => .error (.file error path.text)
  | .ok .directory => .error (.file .isDirectory path.text)
  | .ok (.file content) =>
    match Utf8.decode content with
    | .ok t => .ok t
    | .error fault => .error (.encoding fault)

/-- Whether there is a regular file. Only names that are too long make this fail. -/
def View.isFile (view : View) (path : Path) : Except Failure Bool :=
  match view path with
  | .ok (.file _) => .ok true
  | .ok .directory => .ok false
  | .error .nameTooLong => .error (.file .nameTooLong path.text)
  | .error _ => .ok false

def settingsName : Text := ".docspot".toList

/-- The settings that hold in a directory; the defaults if there is no file with settings. -/
def View.settings (view : View) (root : Path) (loader : Yaml.Loader := {}) :
    Except Failure Settings :=
  let path := root.child settingsName
  match view path with
  | .ok (.file content) => (Settings.ofBytes loader content).mapError .settings
  | .ok .directory => .ok {}
  | .error .nameTooLong => .error (.file .nameTooLong path.text)
  | .error _ => .ok {}

def currentDirectory : Path := .ofText []

/-- The function at a cursor in a file. Without a language the path decides on it. -/
def View.locate? (view : View) (path : Path) (cursor : Int) (language : Option Text)
    (settings : Settings) : Except Failure (Option Record) := do
  if !(← view.isFile path) then throw (.notFile path.text)
  let language := language.getD (languageOfPath path settings.extensions)
  let source ← view.readText path
  (locate (.text source) cursor language settings).mapError .number

/-! ## What a reading depends on -/

section Congr

variable {view other : View} {path : Path}

theorem View.readText_congr (h : view path = other path) :
    view.readText path = other.readText path := by simp only [readText, h]

theorem View.isFile_congr (h : view path = other path) : view.isFile path = other.isFile path := by
  simp only [isFile, h]

theorem View.settings_congr (h : view (path.child settingsName) = other (path.child settingsName)) :
    view.settings path = other.settings path := by simp only [settings, h]

theorem View.locate?_congr (h : view path = other path) (cursor : Int) (language : Option Text)
    (settings : Settings) :
    view.locate? path cursor language settings = other.locate? path cursor language settings := by
  simp only [View.locate?, readText_congr h, isFile_congr h]

end Congr

end CursorDoc
