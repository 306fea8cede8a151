import Phrasebook.Error
import Phrasebook.Catalog

/-!
# Memory

What a resolver remembers between requests: the catalogs that it has loaded, under the upper case
of their locales, a journal of what it asked for, and the history of what came of it.

The default catalog is remembered under the locale that its file declares, or else under the
default locale. If something else is remembered there already it is kept apart.
-/

namespace Phrasebook

/-- A question that a resolver puts to its source or to a hook. -/
inductive Event where
  /-- A file was asked for. -/
  | load (name : Text) (origin : Option Text)
  | contentNeeded (defaultFile locale : Text)
  | valueNeeded (locale key : Text)
  | valueFound (locale key : Text) (text : Option Text)
  | valueNotFound (locale key : Text)
deriving DecidableEq

/-- Where a catalog is kept. -/
inductive Place where
  /-- Among the catalogs by locale. -/
  | under (key : Text)
  /-- The default catalog on its own. -/
  | apart
deriving DecidableEq

/-- Something that happened to the catalogs of a resolver. -/
inductive Happening where
  /-- The load of a locale began. -/
  | loading (locale : Text)
  /-- The load of a locale came through, and what it gave is kept at a place. -/
  | loaded (locale : Text) (place : Place)
  /-- The file was asked for that the entry under a key refers to. -/
  | referring (place : Place) (key : Text)
  /-- That file has a text. -/
  | obtained (place : Place) (key : Text)
  /-- The entry under a key got a text, its own or that of another catalog. -/
  | settled (place : Place) (key : Text)
  /-- The catalog at a place was forgotten. -/
  | dropped (place : Place)
deriving DecidableEq

/-- What a resolver remembers. -/
structure Memory where
  /-- Catalogs by the upper case of their locales, in the order in which they were loaded. -/
  catalogs : List (Text × Catalog)
  /-- The default catalog, if it is kept apart. -/
  apart : Option Catalog
  /-- Where the default catalog is kept, once it is loaded. -/
  defaultPlace : Option Place
  /-- What was asked for, in order. -/
  journal : List Event
  /-- What happened to the catalogs, in order. -/
  history : List Happening

namespace Memory

/-- Nothing remembered. -/
def empty : Memory := ⟨[], none, none, [], []⟩

/-- The key under which the catalog of a locale is kept. -/
def keyOf (locale : Text) : Text := locale.upper

/-- The catalog at a place. -/
def at? (m : Memory) : Place → Option Catalog
  | .under key => Pairs.get? key m.catalogs
  | .apart => m.apart

/-- The memory with another catalog at a place. -/
def put (m : Memory) (place : Place) (t : Catalog) : Memory :=
  match place with
  | .under key => { m with catalogs := Pairs.put key t m.catalogs }
  | .apart => { m with apart := some t }

/-- The memory with the catalog at a place changed, if there is one. -/
def update (m : Memory) (place : Place) (f : Catalog → Catalog) : Memory :=
  match m.at? place with
  | some t => m.put place (f t)
  | none => m

/-- Where a default catalog goes that belongs under a key. -/
def placeForDefault (m : Memory) (key : Text) : Place :=
  if Pairs.has key m.catalogs then .apart else .under key

/-- The memory with the default catalog. -/
def putDefault (m : Memory) (key : Text) (t : Catalog) : Memory :=
  let place := m.placeForDefault key
  { m.put place t with defaultPlace := some place }

/-- The memory with a question added to the journal. -/
def note (m : Memory) (e : Event) : Memory := { m with journal := m.journal ++ [e] }

/-- The memory with something added to the history. -/
def record (m : Memory) (h : Happening) : Memory := { m with history := m.history ++ [h] }

/-- The memory with an entry that has a text added to the catalog at a place, if there is one. -/
def settle (m : Memory) (place : Place) (key : Text) (e : Entry) : Memory :=
  match m.at? place with
  | some t => (m.put place (t.add key e)).record (.settled place key)
  | none => m

/-- The memory without the catalog of a locale. -/
def drop (m : Memory) (locale : Text) : Memory :=
  let key := keyOf locale
  { m with
    catalogs := Pairs.remove key m.catalogs
    defaultPlace :=
      if Pairs.has key m.catalogs ∧ m.defaultPlace = some (.under key) then none
      else m.defaultPlace
    history := m.history ++ if Pairs.has key m.catalogs then [.dropped (.under key)] else [] }

/-- The places that hold a catalog. -/
def places (m : Memory) : List Place :=
  (Pairs.keys m.catalogs).map .under ++ if m.apart.isSome then [.apart] else []

/-- The memory without any catalog. -/
def dropAll (m : Memory) : Memory :=
  { m with
    catalogs := []
    apart := none
    defaultPlace := none
    history := m.history ++ m.places.map .dropped }

/-- The keys of the catalogs in order. -/
def locales (m : Memory) : List Text := Pairs.keys m.catalogs

/-- The catalog of a locale, if it is loaded. -/
def catalog? (m : Memory) (locale : Text) : Option Catalog := m.at? (.under (keyOf locale))

end Memory

/-- An operation on the memory of a resolver. What it remembers before it fails stays remembered. -/
abbrev Action := ExceptT Failure (StateM Memory)

end Phrasebook
