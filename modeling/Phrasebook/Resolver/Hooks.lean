import Phrasebook.Configuration
import Phrasebook.Entry
import Phrasebook.Text.Utf8

/-!
# Hooks

Hooks let an application step in while a key is resolved. Each may be absent, and each may answer
nothing, which leaves everything as it is.
-/

namespace Phrasebook

/-- What a hook puts in the place of a result: a ready entry, or a text from which an entry is made. -/
structure Substitute where
  entry : Option Entry
  text : Option Text
  /-- The text as it would be stored, with its escapes. -/
  escapedText : Option Text

/-- The hooks of a resolver. -/
structure Hooks where
  /-- The content of the file for a locale, asked for before any file is. -/
  contentNeeded : Option (Configuration → Text → Option Content)
  /-- The result for a locale and a key, asked for before anything else. -/
  valueNeeded : Option (Text → Text → Option Substitute)
  /-- What replaces an entry that was found for a locale and a key. -/
  valueFound : Option (Text → Text → Entry → Option Substitute)
  /-- The result for a locale and a key that are found nowhere. -/
  valueNotFound : Option (Text → Text → Option Substitute)

/-- No hooks. -/
def Hooks.none : Hooks := ⟨.none, .none, .none, .none⟩

end Phrasebook
