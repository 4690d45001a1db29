import CursorDoc.Dictionary
import CursorDoc.Path
import CursorDoc.Text.Utf8

/-!
# Directories

A directory holds files and directories under names. Looking up a path goes
through its components one by one, so that a missing directory on the way is
told from a missing file, and two dots lead back up.
-/

namespace CursorDoc

inductive Entry where
  | file (content : Bytes)
  | directory
deriving DecidableEq, Repr

inductive FileError where
  | notFound
  | notDirectory
  | isDirectory
  | nameTooLong
  /-- The path holds the null character, which no name can. -/
  | nullByte
deriving DecidableEq, Repr

def FileError.message (error : FileError) (path : Text) : Text :=
  let numbered := fun (words : String) => words.toList ++ ": ".toList ++ Text.quoted path
  match error with
  | .notFound => numbered "[Errno 2] No such file or directory"
  | .notDirectory => numbered "[Errno 20] Not a directory"
  | .isDirectory => numbered "[Errno 21] Is a directory"
  | .nameTooLong => numbered "[Errno 36] File name too long"
  | .nullByte => "embedded null byte".toList

abbrev View := Path → Except FileError Entry

/-- The entries of a directory and of all directories in it, by their components. -/
abbrev Directory := Dictionary (List Text) Entry

namespace Directory

def lookup? (directory : Directory) (parts : List Text) : Option Entry :=
  if parts.isEmpty then some .directory else Dictionary.find? directory parts

def maxNameBytes : Nat := 255

/-- Paths of this many bytes are too long. -/
def pathLimit : Nat := 4096

/-- Follow components from a place inside the directory, or from outside, where nothing is known
to exist. -/
def walk (directory : Directory) : Option (List Text) → List Text → Except FileError Entry
  | none, [] => .ok .directory
  | none, part :: rest => if part = ['.', '.'] then directory.walk none rest else .error .notFound
  | some place, [] =>
    match directory.lookup? place with
    | some entry => .ok entry
    | none => .error .notFound
  | some place, part :: rest =>
    match directory.lookup? place with
    | none => .error .notFound
    | some (.file _) => .error .notDirectory
    | some .directory =>
      if part = ['.', '.'] then
        directory.walk (if place.isEmpty then none else some place.dropLast) rest
      else if maxNameBytes < (Utf8.encode part).length then .error .nameTooLong
      else directory.walk (some (place ++ [part])) rest

def view (directory : Directory) : View := fun path =>
  if path.text.contains '\x00' then .error .nullByte
  else if pathLimit ≤ (Utf8.encode path.text).length then .error .nameTooLong
  else directory.walk (if path.root.isEmpty then some [] else none) path.parts

def makeParents (directory : Directory) (parts : List Text) : Directory :=
  ((List.range parts.length).tail.map parts.take).foldl (fun directory place =>
    if (directory.lookup? place).isSome then directory
    else Dictionary.insert directory place .directory) directory

def put (directory : Directory) (parts : List Text) (entry : Entry) : Directory :=
  if parts.isEmpty then directory
  else Dictionary.insert (directory.makeParents parts) parts entry

/-- Where a path leads if every step up is taken back at once. -/
def placeOf (parts : List Text) : List Text :=
  parts.foldl (fun place part => if part = ['.', '.'] then place.dropLast else place ++ [part]) []

def write (directory : Directory) (path : Path) (content : Bytes) : Directory :=
  directory.put (placeOf path.parts) (.file content)

end Directory
end CursorDoc
