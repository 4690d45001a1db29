import CursorDoc.Language
import CursorDoc.Table

/-!
# The table of languages

Every language tag with its family and its built-in suffixes.
-/

namespace CursorDoc

def suffixesOf (tag : String) : List String :=
  (suffixTags.filter (·.2 == tag)).map (·.1)

def languageTable : Table :=
  { title := "Language dispatch".toList
    head := ["Language".toList, "Matcher".toList, "Extensions".toList]
    rows :=
      (Family.known.flatMap fun family => family.tags.map fun tag =>
        [tag.toList, family.label.toList,
          Text.joinWith [' '] ((suffixesOf tag).map String.toList)]) ++
      [["(any other)".toList, Family.generic.label.toList, []]] }

end CursorDoc
