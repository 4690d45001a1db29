import CursorDoc.Dictionary
import CursorDoc.Path
import CursorDoc.Text.Lowercase

/-!
# Languages

Language tags, the families they belong to, and the tag that a file's suffix
stands for.
-/

namespace CursorDoc

/-- Languages whose functions look alike. -/
inductive Family where
  | script
  | python
  | cFamily
  | generic
deriving DecidableEq, Repr

namespace Family

def tags : Family → List String
  | .script => ["javascript", "javascriptreact", "typescript", "typescriptreact"]
  | .python => ["python"]
  | .cFamily => ["c", "cpp", "csharp", "java"]
  | .generic => []

def known : List Family := [.script, .python, .cFamily]

/-- The family of a language tag; every tag belongs to one. -/
def ofTag (tag : Text) : Family :=
  (known.find? fun family => family.tags.any (·.toList == tag)).getD .generic

def label : Family → String
  | .script => "JavaScript/TypeScript"
  | .python => "Python"
  | .cFamily => "C-style"
  | .generic => "generic"

/-- Whether bodies are delimited by indentation and documented by strings. -/
def isIndented : Family → Bool
  | .python => true
  | _ => false

end Family

/-- The tag of files whose suffix is not known. -/
def fallbackTag : Text := "plaintext".toList

/-- File suffixes and their language tags. -/
def suffixTags : List (String × String) :=
  [(".js", "javascript"), (".mjs", "javascript"), (".cjs", "javascript"),
   (".jsx", "javascriptreact"), (".ts", "typescript"), (".mts", "typescript"),
   (".cts", "typescript"), (".tsx", "typescriptreact"), (".py", "python"), (".pyi", "python"),
   (".java", "java"), (".cs", "csharp"), (".cpp", "cpp"), (".cc", "cpp"), (".cxx", "cpp"),
   (".hpp", "cpp"), (".hh", "cpp"), (".hxx", "cpp"), (".c", "c"), (".h", "c")]

abbrev Extensions := Dictionary Text Text

/-- The language of a path: by its lowered suffix, the user's choice before the built-in one. -/
def languageOfPath (path : Path) (extensions : Extensions) : Text :=
  let suffix := path.suffix.lower
  match extensions.find? suffix with
  | some tag => tag
  | none =>
    match suffixTags.find? (·.1.toList == suffix) with
    | some (_, tag) => tag.toList
    | none => fallbackTag

end CursorDoc
