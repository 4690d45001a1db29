import CursorDoc.Settings
import CursorDoc.Yaml.Loader

/-!
# Settings documents

Settings are read from a document with the sections `locator` and `languages`.
What cannot be read as a document, or is no mapping, gives the defaults; within
a document every entry that is missing or of the wrong kind takes its own
default and leaves the others alone. A scalar that has no value of its type
makes the whole reading fail, wherever it stands, and so does what leads deeper
than can be followed.
-/

namespace CursorDoc

namespace Settings

open Yaml

/-- A number of lines, which is not negative. -/
def lookbackOr (default : Int) : Option Value → Int
  | some (.int n) => if 0 ≤ n then n else default
  | _ => default

def flagOr (default : Bool) : Option Value → Bool
  | some (.bool b) => b
  | _ => default

/-- The spelling of a suffix: in lower case and with its dot. -/
def suffixSpelling (suffix : Text) : Text :=
  let suffix := suffix.lower
  if suffix.startsWith ['.'] then suffix else '.' :: suffix

/-- The suffixes of a mapping from texts to texts; other entries are passed over. -/
def extensionsOf (entries : Entries) : Extensions :=
  entries.foldl (fun extensions entry =>
    match entry with
    | (.text suffix, .text tag) => extensions.insert (suffixSpelling suffix) tag
    | _ => extensions) []

def valueOf? (entries : Entries) (key : String) : Option Value := entries.find? (.text key.toList)

def ofValues (values : Values) : Settings :=
  match values.entries? values.root with
  | none => {}
  | some sections =>
    let section? := fun name => ((valueOf? sections name).bind values.entries?).getD []
    let locator := section? "locator"
    let defaults : Settings := {}
    { lookback := lookbackOr defaults.lookback (valueOf? locator "lookback")
      fallbackLookback :=
        lookbackOr defaults.fallbackLookback (valueOf? locator "fallback_lookback")
      skipLiterals := flagOr defaults.skipLiterals (valueOf? locator "skip_literals")
      extensions := extensionsOf (section? "languages") }

def ofText (loader : Loader) (t : Text) : Except ScalarFault Settings :=
  match loader.values? t with
  | .ok (some values) => .ok (ofValues values)
  | .ok none => .ok {}
  | .error .malformed => .ok {}
  | .error (.scalar fault) => .error fault

/-- Settings from the start of a text of which the rest cannot be read. -/
def ofStart (loader : Loader) (t : Text) : Except ScalarFault Settings :=
  match loader.document (scan t false) with
  | .error (.scalar fault) => .error fault
  | _ => .ok {}

def ofBytes (loader : Loader) (content : Bytes) : Except ScalarFault Settings :=
  match readable? content with
  | some t => ofText loader t
  | none => ofStart loader (loader.startOf content)

end Settings
end CursorDoc
