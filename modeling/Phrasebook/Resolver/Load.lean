import Phrasebook.Resolver.Basic

/-!
# Loading catalogs

How the catalog of a locale gets into the memory. Its file is the first of the candidates that has
any content, unless a hook supplies the content. A catalog that is nowhere is remembered as one
without entries, so that it is not looked for again.
-/

namespace Phrasebook

namespace Failure

/-- The failure as it is told about a file: malformed content gets the name of the file. -/
def inFile (name : Text) : Failure → Failure
  | malformed e => malformedFile name e
  | malformedTemplate e => malformedFile name e
  | f => f

end Failure

namespace Resolver

/-- Changes the memory. -/
def change (f : Memory → Memory) : Action Unit := modify f

/-- Adds a question to the journal. -/
def note (e : Event) : Action Unit := change (·.note e)

/-- Adds to the history. -/
def record (h : Happening) : Action Unit := change (·.record h)

/-- The content of a file that is not empty. -/
def load (r : Resolver) (name : Text) (origin : Option Text) : Action (Option Bytes) := do
  note (.load name origin)
  return (r.source.load? name origin).filter fun b => !b.isEmpty

/-- The first of some files that has any content, with its content. -/
def firstFile (r : Resolver) (origin : Option Text) : List Text → Action (Option (Text × Content))
  | [] => return none
  | name :: rest => do
    match ← r.load name origin with
    | some b => return some (name, .bytes b)
    | none => r.firstFile origin rest

/-- The content that a hook supplies for a locale, if it is not empty. -/
def supplied (r : Resolver) (c : Configuration) (locale : Text) : Action (Option Content) :=
  match r.hooks.contentNeeded with
  | none => return none
  | some ask => do
    note (.contentNeeded c.defaultFile locale)
    return (ask c locale).filter fun content => !content.isEmpty

/-- The file with the texts of a locale, with its content. -/
def localeFile (r : Resolver) (c : Configuration) (locale : Text) (includesDefault : Bool) :
    Action (Option (Text × Content)) := do
  match ← r.supplied c locale with
  | some content => return some (c.defaultFile, content)
  | none =>
    match ← r.firstFile (origin c) (listedFiles c locale) with
    | some file => return some file
    | none =>
      let f ← r.format c
      r.firstFile (origin c) (furtherFiles c f locale includesDefault)

/-- The catalog that a file writes for a locale. -/
def parsed (r : Resolver) (c : Configuration) (locale name : Text) (content : Content) :
    Outcome (Option Catalog) := do
  let f ← r.format c
  let t ← (f.catalog (r.options f) (some content) locale (r.givenMode c)).mapError
    (Failure.inFile name)
  return t.map fun t => { t with origin := some name }

/-- The catalog of a locale from its file, if there is one. -/
def catalog (r : Resolver) (c : Configuration) (locale : Text) (includesDefault : Bool) :
    Action (Option Catalog) := do
  record (.loading locale)
  match ← r.localeFile c locale includesDefault with
  | none => return none
  | some (name, content) => r.parsed c locale name content

/-! ## Into the memory -/

/-- Sees to it that the catalog of a locale is remembered. -/
def openCatalog (r : Resolver) (c : Configuration) (locale : Text) : Action Unit := do
  if (← get).catalog? locale |>.isNone then
    let t ← r.catalog c locale false
    change (·.put (.under (Memory.keyOf locale)) (t.getD (.ofLocale (some locale))))
    record (.loaded locale (.under (Memory.keyOf locale)))

/-- The key that a default catalog belongs under. -/
def defaultKey (r : Resolver) (t : Catalog) : Text :=
  let declared := Locale.normalize (t.locale.getD [])
  Memory.keyOf (if declared.isEmpty then r.defaultLocale else declared)

/-- The default catalog where there is no default file. -/
def noDefault (r : Resolver) : Catalog :=
  .ofLocale (if r.defaultLocale.isEmpty then none else some r.defaultLocale)

/-- Where the default catalog is kept, loading it the first time. -/
def openDefault (r : Resolver) (c : Configuration) : Action Place := do
  match (← get).defaultPlace with
  | some place => return place
  | none =>
    let t := (← r.catalog c r.defaultLocale true).getD r.noDefault
    let key := r.defaultKey t
    let place := (← get).placeForDefault key
    change (·.putDefault key t)
    record (.loaded r.defaultLocale place)
    return place

/-! ## Entries with a text -/

/-- The text of the file that an entry refers to, if it has any. -/
def referredText (r : Resolver) (file : Text) (origin : Option Text) : Action (Option Text) := do
  let content ← r.load file origin
  Files.decodeNonempty (content.map .bytes)

/-- The entry under a key at a place, if it has a text or refers to a file that has one. The text of
the file is remembered as that of the entry. -/
def usable (r : Resolver) (place : Place) (key : Text) : Action (Option Entry) := do
  match (← get).at? place with
  | none => return none
  | some t =>
    match t.get? key with
    | none => return none
    | some e =>
      if e.text.isSome then return some e
      else
        match e.reference with
        | none => return none
        | some file =>
          record (.referring place key)
          match ← r.referredText file t.origin with
          | none => return none
          | some text =>
            record (.obtained place key)
            let e ← e.resolveReference text
            change (·.settle place key e)
            return some e

end Resolver

end Phrasebook
