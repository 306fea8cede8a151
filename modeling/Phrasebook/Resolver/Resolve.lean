import Phrasebook.Render.Message
import Phrasebook.Resolver.Load

/-!
# Resolving keys

The entry for a key in a locale. It is looked for in the catalog of the locale itself, then in that
of the region where its language is most likely meant, and then in the default catalog; what is found
in a later one is remembered in the earlier ones too. Hooks may supply the entry before anything is
looked up, replace what was found, and supply what was not.

No entry at all stands for a key that is found nowhere.
-/

namespace Phrasebook.Resolver

/-! ## Hooks -/

/-- The entry that a hook puts in the place of a result. A ready entry counts only if it has a text and
refers to no file. -/
def substituted (r : Resolver) (c : Configuration) (s : Substitute) : Outcome (Option Entry) :=
  match s.entry with
  | some e => .ok (if e.text.isSome && e.reference.isNone then some e else none)
  | none =>
    match s.text.or (s.escapedText.map Text.unescape) with
    | none => .ok none
    | some text => do
      let flag ← Template.containsPlaceholders (← r.mode c) (s.escapedText.getD text)
      return some { Entry.ofKey [] with
        text := some text, escapedText := s.escapedText, hasPlaceholders := flag }

/-- What comes of a question to a hook that may be absent. -/
def asked (r : Resolver) (c : Configuration) (e : Event) (answer : Option (Option Substitute)) :
    Action (Option Entry) :=
  match answer with
  | none => return none
  | some s => do
    note e
    match s with
    | none => return none
    | some s => r.substituted c s

/-- The entry that a hook supplies before anything is looked up. -/
def needed (r : Resolver) (c : Configuration) (locale key : Text) : Action (Option Entry) :=
  r.asked c (.valueNeeded locale key) (r.hooks.valueNeeded.map fun ask => ask locale key)

/-- What is answered for an entry that was found. -/
def found (r : Resolver) (c : Configuration) (locale key : Text) (e : Entry) :
    Action (Option Entry) := do
  let s ← r.asked c (.valueFound locale key e.text) (r.hooks.valueFound.map fun ask => ask locale key e)
  return some (s.getD e)

/-- What is answered for a key that is found nowhere. -/
def notFound (r : Resolver) (c : Configuration) (locale key : Text) : Action (Option Entry) :=
  r.asked c (.valueNotFound locale key) (r.hooks.valueNotFound.map fun ask => ask locale key)

/-! ## Looking up -/

/-- The entry in the catalog of a locale. -/
def lookup (r : Resolver) (c : Configuration) (locale key : Text) : Action (Option Entry) := do
  r.openCatalog c locale
  r.usable (.under (Memory.keyOf locale)) key

/-- The entry in the catalog of a locale that stands in for another one. -/
def lookupBasic (r : Resolver) (c : Configuration) (locale key : Text) : Action (Option Entry) := do
  r.openCatalog c locale
  let place : Place := .under (Memory.keyOf locale)
  change (·.update place fun t => { t with isBasic := true })
  r.usable place key

/-- Remembers an entry in the catalogs of some locales. -/
def remember (key : Text) (e : Entry) : List Text → Action Unit
  | [] => return ()
  | locale :: rest => do
    change (·.settle (.under (Memory.keyOf locale)) key e)
    remember key e rest

/-- The locale that stands in for a locale whose own catalog lacks a key. A catalog that has
stood in itself is not helped. -/
def basicFor (r : Resolver) (m : Memory) (locale : Text) : Option Text :=
  if (m.catalog? locale).any Catalog.isBasic then none
  else (Locale.basic? locale).filter fun name => !name.isEmpty && !r.isDefault name

/-- The answer from the default catalog. A hit is remembered for the locales that were tried. -/
def fromDefault (r : Resolver) (c : Configuration) (locale key : Text) (tried : List Text) :
    Action (Option Entry) := do
  let place ← r.openDefault c
  match ← r.usable place key with
  | some e =>
    remember key e tried
    r.found c locale key e
  | none => r.notFound c locale key

/-- The answer from the catalog of a locale that is not the default one, or from those that stand
in for it. -/
def fromLocale (r : Resolver) (c : Configuration) (locale key : Text) : Action (Option Entry) := do
  match ← r.lookup c locale key with
  | some e => r.found c locale key e
  | none =>
    match r.basicFor (← get) locale with
    | none => r.fromDefault c locale key [locale]
    | some basic =>
      match ← r.lookupBasic c basic key with
      | some e =>
        remember key e [locale]
        r.found c locale key e
      | none => r.fromDefault c locale key [locale, basic]

/-- The entry for a key in a locale; no locale stands for that of the default file. -/
def resolve (r : Resolver) (c : Configuration) (locale : Option Text) (key : Text) :
    Action (Option Entry) := do
  let name := r.localeOf locale
  match ← r.needed c name key with
  | some e => return some e
  | none => if r.isDefault name then r.fromDefault c name key [] else r.fromLocale c name key

/-- The text for a key in a locale with its placeholders replaced; empty if the key is found
nowhere. -/
def expand (r : Resolver) (c : Configuration) (locale : Option Text) (a : Arguments) (key : Text) :
    Action Text := do
  match (← r.resolve c locale key).filter fun e => !e.isEmpty with
  | none => return []
  | some e =>
    let mode ← r.mode c
    Render.entry (.ofName (r.localeOf locale) r.surroundings) a mode e

/-! ## What is remembered -/

/-- Forgets the catalog of a locale; it is loaded again when it is needed. -/
def forget (locale : Text) : Action Unit := change (·.drop (Locale.normalize locale))

/-- Forgets all catalogs. -/
def forgetAll : Action Unit := change Memory.dropAll

/-- The catalog that is remembered for a locale. -/
def remembered (m : Memory) (locale : Text) : Option Catalog :=
  m.catalog? (Locale.normalize locale)

end Phrasebook.Resolver
