import CursorDoc.Directory
import CursorDoc.Splice
import CursorDoc.Yaml.Fault

/-!
# Failures

Everything that keeps a request about a file from being answered. Expected
failures say what is wrong with the input; the others are reported apart.
-/

namespace CursorDoc

inductive Failure where
  /-- A line number below one. -/
  | lineNumber
  /-- There is no regular file at the path. -/
  | notFile (path : Text)
  | file (error : FileError) (path : Text)
  | encoding (fault : Utf8.Fault)
  | settings (fault : Yaml.ScalarFault)
  | splice (error : SpliceError)
  | number (fault : Text.NumberFault)
deriving DecidableEq, Repr

/-- Whether the text of a scalar is to blame, and not its form. -/
def Yaml.ScalarFault.isExpected : ScalarFault → Bool
  | .codePoint code => code < codeLimit
  | .integer _ => true
  | .float _ => true
  | .year _ => true
  | .month => true
  | .day => true
  | .hour => true
  | .minute => true
  | .second => true
  | .zone _ => true
  | _ => false

def FileError.isExpected : FileError → Bool
  | .notFound => true
  | .nullByte => true
  | _ => false

namespace Failure

def message : Failure → Text
  | lineNumber => "Line numbers start at 1".toList
  | notFile path => "File not found: ".toList ++ path
  | file error path => error.message path
  | encoding fault => fault.message
  | settings fault => fault.message
  | splice error => error.message
  | number fault => fault.message

def isExpected : Failure → Bool
  | file error _ => error.isExpected
  | settings fault => fault.isExpected
  | _ => true

end Failure
end CursorDoc
