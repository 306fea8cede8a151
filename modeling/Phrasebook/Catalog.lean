import Phrasebook.Calendar.Basic
import Phrasebook.Entry
import Phrasebook.Pairs
import Phrasebook.Text.Quoted

/-!
# Catalogs

A catalog is what one file says: entries by key, and what the file says about itself. Keys are
compared by their folded form, under which entries are stored; an entry added under a key that is
taken replaces the earlier one in its place.
-/

namespace Phrasebook

/-- The entries of one file. -/
structure Catalog where
  /-- The locale that the file declares. -/
  locale : Option Text
  /-- The file that the entries come from. -/
  origin : Option Text
  /-- Has stood in for another locale of its language. -/
  isBasic : Bool
  customProperties : List (Text × Json)
  context : Option Text
  author : Option Text
  lastModified : Option Moment
  /-- Entries under folded keys, in the order in which the keys were first added. -/
  entries : List (Text × Entry)
deriving Inhabited

namespace Catalog

/-- A catalog without entries. -/
def ofLocale (locale : Option Text) : Catalog where
  locale := locale
  origin := none
  isBasic := false
  customProperties := []
  context := none
  author := none
  lastModified := none
  entries := []

/-- The catalog with an entry under a key. -/
def add (key : Text) (e : Entry) (t : Catalog) : Catalog :=
  { t with entries := Pairs.put key.fold e t.entries }

/-- The entry under a key. -/
def get? (t : Catalog) (key : Text) : Option Entry := Pairs.get? key.fold t.entries

/-- The stored keys. -/
def keys (t : Catalog) : List Text := Pairs.keys t.entries

/-- How many entries there are. -/
def size (t : Catalog) : Nat := t.entries.length

/-- A catalog in a word, for those who look for faults. -/
def described (t : Catalog) : Text :=
  "Translation(locale=" ++ (t.locale.map Text.quoted).getD "None" ++ ", entries="
    ++ Text.ofNat t.size ++ ")"

end Catalog

end Phrasebook
