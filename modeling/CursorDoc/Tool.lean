import CursorDoc.Command.Run

/-!
# The locating tool

The same look-up as on the command line, offered to programs that call tools by
name with named arguments and show the answer as text.
-/

namespace CursorDoc

inductive ParameterType where
  | string
  | integer (minimum : Int)
deriving DecidableEq, Repr

structure Parameter where
  name : String
  type : ParameterType
  description : String
  required : Bool
deriving DecidableEq, Repr

structure Tool where
  name : String
  description : String
  parameters : List Parameter
deriving DecidableEq, Repr

def locateTool : Tool :=
  { name := "docspot_locate"
    description := "Find the function around a line of a source file and return its name, " ++
      "signature, body, line range and existing documentation block. Supports JavaScript, " ++
      "TypeScript, Python, Java, C#, C and C++, with a best-effort fallback for other languages."
    parameters := [
      ⟨"path", .string, "Path to the source file", true⟩,
      ⟨"line", .integer 1, "Cursor line, 1-based as shown in an editor", true⟩,
      ⟨"language", .string, "Language tag such as 'typescript' or 'python'. " ++
        "Inferred from the file extension when omitted.", false⟩] }

def tools : List Tool := [locateTool]

structure ToolArguments where
  path : Option Text
  line : Option Int
  language : Option Text
deriving DecidableEq, Repr

inductive ToolError where
  | unknownTool (name : Text)
  | missingArgument (name : String)
deriving DecidableEq, Repr

def ToolError.message : ToolError → Text
  | .unknownTool name => "Unknown tool: ".toList ++ name
  | .missingArgument name => Text.quoted name.toList

/-- The function at a line, which has to be at least one. -/
def checkedFunctionAt? (view : View) (path : Text) (line : Int) (language : Option Text) :
    Except Failure (Option Record) := do
  if line < 1 then throw .lineNumber
  view.functionAt? (.ofText path) line language

/-- A record, or that there is none. -/
def locateText (view : View) (path : Text) (line : Int) (language : Option Text) :
    Except Failure Text := do
  match ← checkedFunctionAt? view path line language with
  | some record => (Json.record record).mapError .number
  | none => (Text.writeAll (notFoundPieces path line)).mapError .number

def locateAnswer (view : View) (path : Text) (line : Int) (language : Option Text) : Text :=
  match locateText view path line language with
  | .ok answer => answer
  | .error failure =>
    (if failure.isExpected then "Error: ".toList else "Unexpected error: ".toList) ++
      failure.message

def callTool (view : View) (name : Text) (arguments : ToolArguments) :
    Except ToolError (List Text) :=
  if name = locateTool.name.toList then
    match arguments.path, arguments.line with
    | none, _ => .error (.missingArgument "path")
    | _, none => .error (.missingArgument "line")
    | some path, some line => .ok [locateAnswer view path line arguments.language]
  else .error (.unknownTool name)

end CursorDoc
