import Phrasebook.Text.Case
import Phrasebook.Locale.Known
import Phrasebook.Locale.Likely
import Phrasebook.Locale.Name
import Phrasebook.Pairs

/-!
# Locale identifiers

An identifier takes a locale name apart: a language, perhaps a script, a region, a variant and a
modifier. A name that is no identifier of a known locale is tried again with outdated codes replaced
and with the script of the full form in which it is most likely meant, once with that script and once
with only the language and the region.

`ofName` gives every name a known locale; English as written in the United States stands in where no
other is found.
-/

namespace Phrasebook.Locale

/-- The parts of a locale name. -/
structure Identifier where
  language : Text
  script : Option Text
  region : Option Text
  variant : Option Text
  modifier : Option Text
deriving DecidableEq

namespace Identifier

/-- The identifier of a language in a region. -/
def ofLanguage (language : Text) (region : Option Text) : Identifier := ⟨language, none, region, none, none⟩

/-- The identifier without its modifier, with underscores. -/
def base (i : Identifier) : Text :=
  Text.join "_" (([some i.language, i.script, i.region, i.variant].filterMap id).filter fun t => !t.isEmpty)

/-- The identifier with underscores, a modifier after an at sign. -/
def toText (i : Identifier) : Text :=
  match i.modifier with
  | none => i.base
  | some m => i.base ++ "@" ++ m

/-- The known identifiers in lower case. -/
def knownKeys : List Text := knownIdentifiers.map Text.lower

/-- Whether data is kept under an identifier, its case aside. -/
def isKnownText (t : Text) : Bool :=
  t.strip.lower ∈ knownKeys

/-- Whether the locale has data, with or without its modifier. -/
def isKnown (i : Identifier) : Bool := isKnownText i.toText || isKnownText i.base

/-! ## Parts -/

/-- A script if the first subtag is one, and the other subtags. -/
def takeScript : List Text → Option Text × List Text
  | [] => (none, [])
  | t :: rest =>
    if t.length = 4 ∧ t.all CodePoint.isLetter then (some t.title, rest) else (none, t :: rest)

/-- A region if the first subtag is one, and the other subtags. -/
def takeRegion : List Text → Option Text × List Text
  | [] => (none, [])
  | t :: rest =>
    if t.length = 2 ∧ t.all CodePoint.isLetter then (some t.upper, rest)
    else if t.length = 3 ∧ t.all CodePoint.isDigit then (some t, rest)
    else (none, t :: rest)

/-- Whether a subtag has the shape of a variant. -/
def isVariant (t : Text) : Bool :=
  match t with
  | [] => false
  | c :: _ => (decide (t.length = 4) && c.isDigit) || (decide (t.length ≥ 5) && c.isLetter)

/-- The parts of a name whose subtags are separated by `separator`. What stands after a full stop
names an encoding and is left out. -/
def ofText? (separator : CodePoint) (name : Text) : Option Identifier :=
  let (name, modifier) := Text.cut '@' name
  let name := (Text.cut '.' name).1
  match Text.splitAll separator name with
  | [] => none
  | first :: subtags =>
    let language := first.lower
    if language.isEmpty || !language.all CodePoint.isLetter then none
    else
      let (script, subtags) := takeScript subtags
      let (region, subtags) := takeRegion subtags
      let make (variant : Option Text) : Identifier :=
        ⟨language, script, region, variant, modifier.filter fun m => !m.isEmpty⟩
      match subtags with
      | [] => some (make none)
      | [variant] => if isVariant variant then some (make (some variant.upper)) else none
      | _ => none

/-! ## Likely forms -/

/-- The identifier itself, or just its language and region, if that is known. -/
def reduce? (i : Identifier) : Option Identifier :=
  if i.isKnown then some i
  else
    let short := ofLanguage i.language i.region
    if short.isKnown then some short else none

/-- The identifier with outdated codes replaced and parts that say nothing left out. -/
def current (i : Identifier) : Identifier where
  language := (Pairs.get? i.language languageAliases).getD i.language
  script := i.script.filter (· ≠ Text.ofString "Zzzz")
  region := (i.region.map fun r => (Pairs.get? r regionAliases).getD r).filter (· ≠ Text.ofString "ZZ")
  variant := i.variant
  modifier := i.modifier

/-- The full form of an identifier, if it is listed. -/
def likelyForm? (t : Text) : Option Identifier := do
  let form ← (Pairs.get? t likelyPairs).or (Pairs.get? t likelyForms)
  ofText? '_' form

/-- The known locale that an unknown identifier most likely means. -/
def likely? (i : Identifier) : Option Identifier :=
  let i := i.current
  let whole := do (← likelyForm? i.toText).reduce?
  let byLanguage := do
    let form ← likelyForm? i.language
    reduce? { form with region := i.region }
  whole.or byLanguage

/-- The known locale of a normalized name. -/
def ofNormalized? (name : Text) : Option Identifier := do
  let i ← ofText? hyphen name
  if i.isKnown then some i else i.likely?

/-- The known locale of a name. -/
def ofName? (name : Text) : Option Identifier := ofNormalized? (normalize name)

/-- English as written in the United States. -/
def fallback : Identifier := ofLanguage "en" (some "US")

/-- The locale that a name is taken for. -/
def ofName (name : Text) : Identifier := (ofName? name).getD fallback

end Identifier

/-- Whether a name means a known locale. -/
def isKnown (name : Text) : Bool := (Identifier.ofName? name).isSome

end Phrasebook.Locale
