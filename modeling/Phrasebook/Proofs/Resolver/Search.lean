import Phrasebook.Proofs.Resolver.Reference

/-!
# Searching and telling

A request searches the catalogs for an entry, and then tells what it found: the hooks may replace it. All that
is remembered is remembered while it searches. `resolve_eq` takes the two apart.
-/

namespace Phrasebook.Resolver

variable (r : Resolver) (c : Configuration) (locale key : Text)

/-- The entry in the default catalog, remembered for the locales that were tried. -/
def searchDefault (tried : List Text) : Action (Option Entry) := do
  let place ← r.openDefault c
  match ← r.usable place key with
  | some e =>
    remember key e tried
    return some e
  | none => return none

/-- The entry for a locale that is not the default one. -/
def searchLocale : Action (Option Entry) := do
  match ← r.lookup c locale key with
  | some e => return some e
  | none =>
    match r.basicFor (← get) locale with
    | none => r.searchDefault c key [locale]
    | some basic =>
      match ← r.lookupBasic c basic key with
      | some e =>
        remember key e [locale]
        return some e
      | none => r.searchDefault c key [locale, basic]

/-- The entry that a request finds in the catalogs. -/
def search : Action (Option Entry) :=
  if r.isDefault locale then r.searchDefault c key [] else r.searchLocale c locale key

/-- What is answered when the search is over. -/
def told : Option Entry → Action (Option Entry)
  | some e => r.found c locale key e
  | none => r.notFound c locale key

theorem fromDefault_eq (tried : List Text) :
    r.fromDefault c locale key tried = r.searchDefault c key tried >>= r.told c locale key := by
  unfold fromDefault searchDefault
  rw [bind_assoc]
  refine bind_congr fun place => ?_
  rw [bind_assoc]
  refine bind_congr fun found => ?_
  cases found with
  | none => rfl
  | some e =>
      dsimp only
      rw [bind_assoc]
      rfl

theorem fromLocale_eq :
    r.fromLocale c locale key = r.searchLocale c locale key >>= r.told c locale key := by
  unfold fromLocale searchLocale
  rw [bind_assoc]
  refine bind_congr fun found => ?_
  cases found with
  | some e => rfl
  | none =>
      dsimp only
      rw [bind_assoc]
      refine bind_congr fun m => ?_
      cases r.basicFor m locale with
      | none => exact r.fromDefault_eq c locale key [locale]
      | some basic =>
          dsimp only
          rw [bind_assoc]
          refine bind_congr fun found => ?_
          cases found with
          | none => exact r.fromDefault_eq c locale key [locale, basic]
          | some e =>
              dsimp only
              rw [bind_assoc]
              rfl

/-- **A request that no hook answers beforehand searches and then tells.** -/
theorem resolve_eq (asked : Option Text) :
    r.resolve c asked key = (do
      match ← r.needed c (r.localeOf asked) key with
      | some e => return some e
      | none => r.search c (r.localeOf asked) key >>= r.told c (r.localeOf asked) key) := by
  unfold resolve search
  refine bind_congr fun supplied => ?_
  cases supplied with
  | some e => rfl
  | none =>
      dsimp only
      split
      · exact r.fromDefault_eq c _ key []
      · exact r.fromLocale_eq c _ key

end Phrasebook.Resolver
