import Phrasebook.Text.Case
import Phrasebook.Locale.LikelyRegions

/-!
# Locale names

A locale name is a language and further subtags, separated by hyphens or underscores. `normalize`
brings a name into one spelling: hyphens, no empty subtags, the language in lower case, scripts in title
case and regions in upper case. The empty name is the invariant locale.

`basic?` is the locale in which a language is most likely meant; it is the first stop when a locale
has no text of its own.
-/

namespace Phrasebook.Locale

/-- The hyphen between the subtags of a name. -/
def hyphen : CodePoint := '-'

/-- A subtag after the language in its usual case, judged by its shape. -/
def normalizeSubtag (t : Text) : Text :=
  if t.length = 4 ∧ t.all CodePoint.isLetter then t.title
  else if t.length = 2 ∨ t.length = 3 then t.upper
  else t

/-- The subtags of a name, without the empty ones. -/
def subtags (name : Text) : List Text :=
  (Text.splitAll hyphen (name.strip.replace "_" "-")).filter fun t => !t.isEmpty

/-- A name in its normal spelling. -/
def normalize (name : Text) : Text :=
  match subtags name with
  | [] => []
  | language :: rest => Text.join [hyphen] (language.lower :: rest.map normalizeSubtag)

/-- The language of a name; empty for the invariant locale. -/
def language (name : Text) : Text := (Text.cut hyphen (normalize name)).1

/-- The last subtag of a locale that has several of them between underscores. -/
def lastSubtag? (locale : Text) : Option Text :=
  let parts := Text.splitAll CodePoint.underscore locale
  if 1 < parts.length then parts.getLast? else none

/-- The territory in which a language is most likely meant, by a table of likely locales. -/
def likelyTerritory? (likely : Text → Option Text) (language : Text) : Option Text := do
  guard !language.isEmpty
  let locale ← (likely language).filter fun t => !t.isEmpty
  (lastSubtag? locale).filter fun t => !t.isEmpty

/-- The language of a name in the territory where it is most likely meant, unless the name says just
that or nothing is known about the language. -/
def basic? (name : Text) (likely : Text → Option Text := likelySubtags?) : Option Text := do
  let territory ← likelyTerritory? likely (language name)
  let basic := language name ++ [hyphen] ++ territory
  if basic.fold = (normalize name).fold then none else some basic

end Phrasebook.Locale
