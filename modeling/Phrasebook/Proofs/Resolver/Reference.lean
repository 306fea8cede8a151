import Phrasebook.Proofs.Outcome
import Phrasebook.Proofs.Resolver.Action
import Phrasebook.Resolver.Resolve

/-!
# Resolving without a memory

What a key resolves to, said without remembering anything: every catalog is read from its file each
time it is asked, and the first one with a usable entry decides (`located`). The hooks come before and
after that (`answer`).

A resolver that reads files changes nothing but its records (`Quiet`, `Adds`). So whatever it reads, it reads
again in the same way, and the definitions here are what its readers do in any memory.
-/

namespace Phrasebook.Resolver

open Phrasebook.Action (Adds Quiet quiet_pure quiet_lift quiet_note adds_record)

variable (r : Resolver) (c : Configuration)

/-! ## Files -/

/-- The content of a file that is not empty. -/
def contentOf (name : Text) (origin : Option Text) : Option Bytes :=
  (r.source.load? name origin).filter fun b => !b.isEmpty

/-- The first of some files that has any content. -/
def firstOf (origin : Option Text) : List Text → Option (Text × Content)
  | [] => none
  | name :: rest =>
    match r.contentOf name origin with
    | some b => some (name, .bytes b)
    | none => firstOf origin rest

/-- The content that a hook supplies for a locale, if it is not empty. -/
def suppliedOf (locale : Text) : Option Content :=
  r.hooks.contentNeeded.bind fun ask => (ask c locale).filter fun content => !content.isEmpty

/-- The file with the texts of a locale. -/
def fileOf (locale : Text) (includesDefault : Bool) : Outcome (Option (Text × Content)) :=
  match r.suppliedOf c locale with
  | some content => .ok (some (c.defaultFile, content))
  | none =>
    match r.firstOf (origin c) (listedFiles c locale) with
    | some file => .ok (some file)
    | none => do
      let f ← r.format c
      return r.firstOf (origin c) (furtherFiles c f locale includesDefault)

/-- The catalog of a locale as its file writes it. -/
def catalogOf (locale : Text) (includesDefault : Bool) : Outcome (Option Catalog) := do
  match ← r.fileOf c locale includesDefault with
  | none => return none
  | some (name, content) => r.parsed c locale name content

variable {r c} in
/-- A catalog that is read was written in the format of the default file. -/
theorem exists_of_catalogOf {locale : Text} {includesDefault : Bool} {t : Catalog}
    (h : r.catalogOf c locale includesDefault = .ok (some t)) :
    ∃ f content written name, r.format c = .ok f
      ∧ f.catalog (r.options f) (some content) locale (r.givenMode c) = .ok (some written)
      ∧ t = { written with origin := some name } := by
  obtain ⟨file, -, hread⟩ := exists_of_bind h
  cases file with
  | none => cases hread
  | some file =>
      obtain ⟨f, hformat, hparsed⟩ := exists_of_bind hread
      obtain ⟨written, hcatalog, hok⟩ := exists_of_bind hparsed
      cases written with
      | none => cases hok
      | some written =>
          exact ⟨f, file.2, written, file.1, hformat, ok_of_mapError hcatalog,
            (Option.some.inj (Except.ok.inj hok)).symm⟩

/-- The text of the file that an entry refers to. -/
def textOf (file : Text) (origin : Option Text) : Outcome (Option Text) :=
  Files.decodeNonempty ((r.contentOf file origin).map .bytes)

theorem quiet_load (name : Text) (origin : Option Text) :
    Quiet (r.load name origin) (.ok (r.contentOf name origin)) :=
  (quiet_note _).bind (quiet_pure _)

theorem quiet_firstFile (origin : Option Text) (names : List Text) :
    Quiet (r.firstFile origin names) (.ok (r.firstOf origin names)) := by
  induction names with
  | nil => exact quiet_pure none
  | cons name rest ih =>
      refine (r.quiet_load name origin).bind ?_
      rw [firstOf]
      cases r.contentOf name origin with
      | some b => exact quiet_pure _
      | none => exact ih

theorem quiet_supplied (locale : Text) :
    Quiet (r.supplied c locale) (.ok (r.suppliedOf c locale)) := by
  unfold supplied suppliedOf
  cases r.hooks.contentNeeded with
  | none => exact quiet_pure none
  | some ask => exact (quiet_note _).bind (quiet_pure _)

theorem quiet_localeFile (locale : Text) (includesDefault : Bool) :
    Quiet (r.localeFile c locale includesDefault) (r.fileOf c locale includesDefault) := by
  refine (r.quiet_supplied c locale).bind ?_
  unfold fileOf
  cases r.suppliedOf c locale with
  | some content => exact quiet_pure _
  | none =>
      refine (r.quiet_firstFile _ _).bind ?_
      cases r.firstOf (origin c) (listedFiles c locale) with
      | some file => exact quiet_pure _
      | none =>
          exact (quiet_lift _).seq fun f => r.quiet_firstFile _ _

/-- **Reading a catalog leaves a trace in the history**, and is quiet otherwise. -/
theorem adds_catalog (locale : Text) (includesDefault : Bool) :
    Adds (r.catalog c locale includesDefault) [.loading locale] (r.catalogOf c locale includesDefault) := by
  refine (adds_record (.loading locale)).bind ((r.quiet_localeFile c locale includesDefault).seq fun file => ?_)
  cases file with
  | none => exact quiet_pure none
  | some file => exact quiet_lift _

/-- **Reading a text is quiet.** -/
theorem quiet_referredText (file : Text) (origin : Option Text) :
    Quiet (r.referredText file origin) (r.textOf file origin) :=
  (r.quiet_load file origin).bind (quiet_lift _)

/-! ## Entries -/

/-- The entry under a key, if it has a text or refers to a file that has one. -/
def usableIn (t : Catalog) (key : Text) : Outcome (Option Entry) :=
  match t.get? key with
  | none => .ok none
  | some e =>
    if e.text.isSome then .ok (some e)
    else
      match e.reference with
      | none => .ok none
      | some file => do
        match ← r.textOf file t.origin with
        | none => return none
        | some text => return some (← e.resolveReference text)

/-- The locale that stands in for a locale. -/
def basicOf (locale : Text) : Option Text :=
  (Locale.basic? locale).filter fun name => !name.isEmpty && !r.isDefault name

/-- The catalog of a locale that is not the default one, without entries if there is no file. -/
def ownCatalog (locale : Text) : Outcome Catalog :=
  (r.catalogOf c locale false).map fun t => t.getD (.ofLocale (some locale))

/-- The default catalog. -/
def defaultCatalog : Outcome Catalog :=
  (r.catalogOf c r.defaultLocale true).map fun t => t.getD r.noDefault

/-- The catalog that belongs to a locale. -/
def homeCatalog (locale : Text) : Outcome Catalog :=
  if r.isDefault locale then r.defaultCatalog c else r.ownCatalog c locale

/-- What the catalog that belongs to a locale has under a key. -/
def homeEntry (locale key : Text) : Outcome (Option Entry) := do
  r.usableIn (← r.homeCatalog c locale) key

/-- The catalogs that stand in for the one that belongs to a locale, in order. -/
def standIns (locale : Text) : List (Outcome Catalog) :=
  if r.isDefault locale then []
  else (r.basicOf locale).toList.map (r.ownCatalog c) ++ [r.defaultCatalog c]

/-- The first usable entry under a key in some catalogs. -/
def firstUsable (key : Text) : List (Outcome Catalog) → Outcome (Option Entry)
  | [] => .ok none
  | t :: rest => do
    match ← r.usableIn (← t) key with
    | some e => return some e
    | none => firstUsable key rest

/-- **`located r c locale key`**: the entry for a key in a locale, looked for in the catalog of the
locale, in that of the locale that stands in for it, and in the default catalog. -/
def located (locale key : Text) : Outcome (Option Entry) :=
  r.firstUsable key (r.homeCatalog c locale :: r.standIns c locale)

/-- What is located in a locale whose own catalog is read. -/
theorem located_eq (locale key : Text) : r.located c locale key = (do
    match ← r.homeEntry c locale key with
    | some e => return some e
    | none => r.firstUsable key (r.standIns c locale)) := by
  unfold located homeEntry
  rw [firstUsable, bind_assoc]

theorem located_of_some {locale key : Text} {e : Entry} (h : r.homeEntry c locale key = .ok (some e)) :
    r.located c locale key = .ok (some e) := by
  rw [located_eq, h]
  rfl

theorem located_of_error {locale key : Text} {e : Failure} (h : r.homeEntry c locale key = .error e) :
    r.located c locale key = .error e := by
  rw [located_eq, h]
  rfl

theorem located_of_none {locale key : Text} (h : r.homeEntry c locale key = .ok none) :
    r.located c locale key = r.firstUsable key (r.standIns c locale) := by
  rw [located_eq, h]
  rfl

/-- A key is located in the default locale where the default catalog has it. -/
theorem located_default {locale : Text} (h : r.isDefault locale = true) (key : Text) :
    r.located c locale key = r.firstUsable key [r.defaultCatalog c] := by
  rw [located, homeCatalog, standIns, if_pos h, if_pos h]

/-- What stands in for a locale that nothing else stands in for is the default catalog. -/
theorem standIns_of_basic_none {locale : Text} (h : r.isDefault locale = false)
    (hb : r.basicOf locale = none) : r.standIns c locale = [r.defaultCatalog c] := by
  rw [standIns, h, hb]
  rfl

/-- **What stands in for a locale is where a key is located in the locale that stands in for it.** -/
theorem standIns_of_basic {locale basic : Text} (h : r.isDefault locale = false)
    (hb : r.basicOf locale = some basic) (hd : r.isDefault basic = false)
    (hbasic : r.basicOf basic = none) (key : Text) :
    r.firstUsable key (r.standIns c locale) = r.located c basic key := by
  rw [located, homeCatalog, hd, r.standIns_of_basic_none c hd hbasic, standIns, h, hb]
  rfl

/-! ## Usable entries -/

section Usable

variable {r} {t : Catalog} {key : Text} {e : Entry}

theorem usableIn_of_none (h : t.get? key = none) : r.usableIn t key = .ok none := by
  rw [usableIn, h]

theorem usableIn_of_text (h : t.get? key = some e) (he : e.text.isSome = true) :
    r.usableIn t key = .ok (some e) := by
  rw [usableIn, h]
  exact if_pos he

theorem usableIn_of_no_reference (h : t.get? key = some e) (he : ¬e.text.isSome = true)
    (hr : e.reference = none) : r.usableIn t key = .ok none := by
  rw [usableIn, h]
  dsimp only
  rw [if_neg he, hr]

/-- The text of an entry that refers to a file is read from the file. -/
theorem usableIn_of_reference (h : t.get? key = some e) (he : ¬e.text.isSome = true) {file : Text}
    (hr : e.reference = some file) :
    r.usableIn t key = (do
      match ← r.textOf file t.origin with
      | none => return none
      | some text => return some (← e.resolveReference text)) := by
  rw [usableIn, h]
  dsimp only
  rw [if_neg he, hr]

/-- A usable entry has a text. -/
theorem text_of_usableIn (h : r.usableIn t key = .ok (some e)) : e.text.isSome = true := by
  cases hget : t.get? key with
  | none =>
      rw [usableIn_of_none hget] at h
      cases h
  | some f =>
      by_cases htext : f.text.isSome = true
      · rw [usableIn_of_text hget htext] at h
        obtain rfl := Option.some.inj (Except.ok.inj h)
        exact htext
      · cases href : f.reference with
        | none =>
            rw [usableIn_of_no_reference hget htext href] at h
            cases h
        | some file =>
            rw [usableIn_of_reference hget htext href] at h
            obtain ⟨found, -, hresolve⟩ := exists_of_bind h
            cases found with
            | none => cases hresolve
            | some text =>
                obtain ⟨g, hchange, hok⟩ := exists_of_bind hresolve
                obtain rfl := Option.some.inj (Except.ok.inj hok)
                unfold Entry.resolveReference Entry.change at hchange
                split at hchange
                · cases hchange
                · obtain rfl := Except.ok.inj hchange
                  rfl

end Usable

/-- What is located has a text. -/
theorem text_of_firstUsable {key : Text} {e : Entry} {catalogs : List (Outcome Catalog)}
    (h : r.firstUsable key catalogs = .ok (some e)) : e.text.isSome = true := by
  induction catalogs with
  | nil => cases h
  | cons t rest ih =>
      obtain ⟨t, -, hread⟩ := exists_of_bind h
      obtain ⟨found, husable, hnext⟩ := exists_of_bind hread
      cases found with
      | none => exact ih hnext
      | some f =>
          obtain rfl := Option.some.inj (Except.ok.inj hnext)
          exact text_of_usableIn husable

/-! ## Keys -/

variable {key other : Text}

/-- Only the folded form of a key counts. -/
theorem usableIn_congr (h : other.fold = key.fold) (t : Catalog) :
    r.usableIn t other = r.usableIn t key := by
  rw [usableIn, usableIn, Catalog.get?, h, Catalog.get?]

theorem firstUsable_congr (h : other.fold = key.fold) (catalogs : List (Outcome Catalog)) :
    r.firstUsable other catalogs = r.firstUsable key catalogs := by
  induction catalogs with
  | nil => rfl
  | cons t rest ih =>
      rw [firstUsable, firstUsable, ih]
      congr
      funext t
      rw [r.usableIn_congr h t]

theorem located_congr (h : other.fold = key.fold) (locale : Text) :
    r.located c locale other = r.located c locale key :=
  r.firstUsable_congr h _

/-- An entry with a text is usable under its key once it is added. -/
theorem usableIn_add (h : other.fold = key.fold) {e : Entry} (he : e.text.isSome = true) (t : Catalog) :
    r.usableIn (t.add key e) other = .ok (some e) := by
  have hget : (t.add key e).get? other = some e := by
    rw [Catalog.get?, h]
    exact Pairs.get?_put_self key.fold e t.entries
  exact usableIn_of_text hget he

/-- Adding an entry changes nothing under other keys. -/
theorem usableIn_add_of_ne (h : other.fold ≠ key.fold) (e : Entry) (t : Catalog) :
    r.usableIn (t.add key e) other = r.usableIn t other := by
  have hget : (t.add key e).get? other = t.get? other := Pairs.get?_put_of_ne h e t.entries
  rw [usableIn, usableIn, hget]
  rfl

/-! ## Answers -/

/-- What comes of the answer of a hook that may be absent. -/
def askedOf (answer : Option (Option Substitute)) : Outcome (Option Entry) :=
  match answer with
  | some (some s) => r.substituted c s
  | _ => .ok none

/-- What is answered for what was located. -/
def answerOf (locale key : Text) : Option Entry → Outcome (Option Entry)
  | some e => do
    let s ← r.askedOf c (r.hooks.valueFound.map fun ask => ask locale key e)
    return some (s.getD e)
  | none => r.askedOf c (r.hooks.valueNotFound.map fun ask => ask locale key)

/-- **`answer r c locale key`**: what a key resolves to in a locale, with the hooks. -/
def answer (locale key : Text) : Outcome (Option Entry) := do
  match ← r.askedOf c (r.hooks.valueNeeded.map fun ask => ask locale key) with
  | some e => return some e
  | none => r.answerOf c locale key (← r.located c locale key)

/-- **Without hooks for values the answer is what is located.** -/
theorem answer_of_no_hooks (hneeded : r.hooks.valueNeeded = none) (hfound : r.hooks.valueFound = none)
    (hnot : r.hooks.valueNotFound = none) (locale key : Text) :
    r.answer c locale key = r.located c locale key := by
  simp only [answer, hneeded, Option.map_none, askedOf, bind, Except.bind]
  cases r.located c locale key with
  | error e => rfl
  | ok found => cases found <;> simp [answerOf, hfound, hnot, askedOf, bind, Except.bind, pure, Except.pure]

theorem quiet_asked (event : Event) (reply : Option (Option Substitute)) :
    Quiet (r.asked c event reply) (r.askedOf c reply) := by
  unfold asked askedOf
  cases reply with
  | none => exact quiet_pure none
  | some reply =>
      refine (quiet_note event).bind ?_
      cases reply with
      | none => exact quiet_pure none
      | some s => exact quiet_lift _

theorem quiet_found (locale key : Text) (e : Entry) :
    Quiet (r.found c locale key e) (r.answerOf c locale key (some e)) := by
  exact (r.quiet_asked c _ _).seq fun s => quiet_pure (some (s.getD e))

end Phrasebook.Resolver
