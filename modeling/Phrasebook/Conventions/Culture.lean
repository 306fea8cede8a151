import Phrasebook.Calendar.Basic
import Phrasebook.Conventions.Baltic
import Phrasebook.Conventions.EastAsian
import Phrasebook.Conventions.English
import Phrasebook.Conventions.Germanic
import Phrasebook.Conventions.Indic
import Phrasebook.Conventions.Mediterranean
import Phrasebook.Conventions.Romance
import Phrasebook.Conventions.Semitic
import Phrasebook.Conventions.Slavic
import Phrasebook.Conventions.Southeast
import Phrasebook.Conventions.Territory
import Phrasebook.Conventions.Turkic
import Phrasebook.Locale.Identifier

/-!
# Cultures

A culture is what values are written by: the conventions of a locale, its territory, and what is given
from outside, such as the day. Conventions are looked up in surroundings, which need not have some for
every locale. A locale without conventions is refused like one that is not known: values are written
in English then, as in the United States.
-/

namespace Phrasebook

namespace Conventions

/-- The items of a string that has bars between them. -/
def items (s : String) : List Text := Text.splitAll '|' s

/-- An item taken apart: its key, and what follows the space after it. -/
def keyed (item : Text) : Text × Text :=
  let (key, rest) := Text.cut ' ' item
  (key, rest.getD [])

/-- The keyed items of a string. -/
def keyedItems (s : String) : List (Text × Text) :=
  ((items s).filter fun t => !t.isEmpty).map keyed

/-- The patterns by the fields that they show. -/
def skeletonPatterns (c : Conventions) : List (Text × Text) :=
  c.skeletons.flatMap fun block : String => (Text.splitAll '\n' block).map keyed

/-- The sign of a currency; one without a sign is shown by its code. -/
def currencySign (c : Conventions) (code : Text) : Text :=
  (Pairs.get? code (c.currencies.flatMap keyedItems)).getD code

/-- The conventions of all locales that have some. -/
def all : List (String × Conventions) :=
  open ConventionsOf in
  english ++ germanic ++ romance ++ slavic ++ baltic ++ mediterranean ++ turkic ++ semitic ++ indic
    ++ southeast ++ eastAsian

/-- The conventions of a locale, if it has some. -/
def ofIdentifier? (i : Locale.Identifier) : Option Conventions :=
  let key := i.base
  (all.find? fun (name, _) => Text.ofString name = key).map Prod.snd

end Conventions

/-- What is given from outside where values are written. -/
structure Surroundings where
  /-- The conventions of a locale, if there are some. -/
  conventions? : Locale.Identifier → Option Conventions := Conventions.ofIdentifier?
  /-- The day it is. -/
  today : Date := ⟨2000, 1, 1⟩
  /-- Whether a number in few words is compared with powers of ten before it is known to be finite. What is
  not finite is handed on as it is otherwise. -/
  ordersSpecials : Bool := false

/-- What values are written by. -/
structure Culture where
  conventions : Conventions
  territory : Option Text
  /-- The day on which a time alone is put, where a date is needed too. -/
  today : Date
  ordersSpecials : Bool

namespace Culture

/-- The culture of a territory with its conventions. -/
def ofConventions (s : Surroundings) (c : Conventions) (territory : Option Text) : Culture :=
  ⟨c, territory, s.today, s.ordersSpecials⟩

/-- The culture of a locale, unless it has no conventions. -/
def ofIdentifier? (s : Surroundings) (i : Locale.Identifier) : Option Culture :=
  (s.conventions? i).map fun c => ofConventions s c i.region

/-- The culture that a locale name is taken for. -/
def ofName (name : Text) (s : Surroundings := {}) : Culture :=
  (ofIdentifier? s (Locale.Identifier.ofName name)).getD
    (ofConventions s ConventionsOf.en Locale.Identifier.fallback.region)

/-- The currency of the territory; the dollar where there is none. -/
def currency (c : Culture) : Text := (c.territory.bind Territory.currency?).getD "USD"

/-- The day that weeks start with, counted from Monday. -/
def firstWeekday (c : Culture) : Nat := Territory.firstWeekday (c.territory.getD "001")

/-- How many days of a year its first week must have. -/
def leastWeekDays (c : Culture) : Nat := Territory.leastWeekDays (c.territory.getD "001")

end Culture

end Phrasebook
