import CursorDoc.Tool

/-!
# Sessions

A run of requests on one directory. Requests see the files as the requests
before them left them.
-/

namespace CursorDoc

inductive Request where
  /-- The function at a line of a file, counted from zero, under given settings. -/
  | locateFile (path : Text) (cursor : Int) (language : Option Text) (settings : Settings)
  | loadSettings (root : Option Text)
  | command (arguments : List Text)
  | tool (name : Text) (arguments : ToolArguments)
  | put (path : Text) (entry : Entry)
  | get (path : Text)

inductive Response where
  | located (result : Except Failure (Option Record))
  | settings (result : Except Failure Settings)
  | command (result : Except ArgumentExit Outcome)
  | tool (result : Except ToolError (List Text))
  | done
  | content (result : Except Failure Bytes)

def fileContent (view : View) (path : Text) : Except Failure Bytes :=
  match view (.ofText path) with
  | .ok (.file content) => .ok content
  | .ok .directory => .error (.file .isDirectory path)
  | .error error => .error (.file error path)

/-- The directory with the file that a command writes. -/
def Directory.after (directory : Directory) : Except ArgumentExit Outcome → Directory
  | .ok { written := some (path, content), .. } => directory.write path content
  | _ => directory

def Request.answer (directory : Directory) : Request → Response × Directory
  | .locateFile path cursor language settings =>
    (.located (directory.view.locate? (.ofText path) cursor language settings), directory)
  | .loadSettings root =>
    (.settings (directory.view.settings (.ofText (root.getD []))), directory)
  | .command arguments =>
    let result := runArguments directory.view arguments
    (.command result, directory.after result)
  | .tool name arguments => (.tool (callTool directory.view name arguments), directory)
  | .put path entry => (.done, directory.put (Path.ofText path).parts entry)
  | .get path => (.content (fileContent directory.view path), directory)

def runSession : Directory → List Request → List Response
  | _, [] => []
  | directory, request :: requests =>
    let (response, directory) := request.answer directory
    response :: runSession directory requests

end CursorDoc
