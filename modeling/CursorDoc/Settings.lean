import CursorDoc.Language

/-!
# Settings

What a user can set: how far above the cursor signatures are looked for,
whether braces in literals count, and the languages of further file suffixes.
-/

namespace CursorDoc

structure Settings where
  /-- Lines above the cursor that are searched in the known families. -/
  lookback : Int := 10
  /-- Lines above the cursor that are searched in any other language. -/
  fallbackLookback : Int := 5
  /-- Leave out braces in strings and comments. -/
  skipLiterals : Bool := false
  /-- Suffixes beyond the built-in ones. -/
  extensions : Extensions := []
deriving DecidableEq, Repr

def Settings.lookbackOf (settings : Settings) : Family → Int
  | .generic => settings.fallbackLookback
  | _ => settings.lookback

end CursorDoc
