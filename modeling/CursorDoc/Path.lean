import CursorDoc.Text.Basic

/-!
# Paths

A path is read as its components. Empty components and single dots say nothing
and are left out; two dots are kept, for they depend on what is on the way.
-/

namespace CursorDoc

/-- A path: the slashes that make it absolute, and its components. -/
structure Path where
  root : Text
  parts : List Text
deriving DecidableEq, Repr

namespace Path

def components (written : Text) : List Text := Text.splitOn '/' written

/-- The root of a written path: nothing, one slash, or exactly two slashes. -/
def rootOf (written : Text) : Text :=
  match (written.takeWhile (· == '/')).length with
  | 0 => []
  | 2 => ['/', '/']
  | _ => ['/']

def ofText (written : Text) : Path :=
  { root := rootOf written
    parts := (components written).filter fun part => part != [] && part != ['.'] }

/-- The normalised spelling; a path without components is a dot, or its root. -/
def text (path : Path) : Text :=
  if path.root.isEmpty && path.parts.isEmpty then ['.']
  else path.root ++ Text.joinWith ['/'] path.parts

def child (path : Path) (name : Text) : Path := { path with parts := path.parts ++ [name] }

def fileName (path : Path) : Text := path.parts.getLastD []

/-- The end of the last component from its last dot on, unless the dot is the first or the last
character of the component. -/
def suffix (path : Path) : Text :=
  let name := path.fileName
  let ext := (name.reverse.takeWhile (· != '.')).reverse
  if ext.isEmpty || name.length ≤ ext.length + 1 then [] else '.' :: ext

end Path
end CursorDoc
