import CursorDoc.Settings.Document

/-!
# Fields of settings

Every field of the settings is read from one entry of one section. A section
that is missing or is no mapping is as good as one without entries.
-/

namespace CursorDoc.Settings

open Yaml

def sectionOf (values : Values) (name : String) : Entries :=
  ((values.entries? values.root).bind fun sections => (valueOf? sections name).bind values.entries?).getD []

theorem ofValues_eq (values : Values) : ofValues values =
    { lookback := lookbackOr 10 (valueOf? (sectionOf values "locator") "lookback")
      fallbackLookback := lookbackOr 5 (valueOf? (sectionOf values "locator") "fallback_lookback")
      skipLiterals := flagOr false (valueOf? (sectionOf values "locator") "skip_literals")
      extensions := extensionsOf (sectionOf values "languages") } := by
  unfold ofValues sectionOf
  cases values.entries? values.root <;> rfl

end CursorDoc.Settings
