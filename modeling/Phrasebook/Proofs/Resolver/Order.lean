import Phrasebook.Proofs.Resolver.Transparency

/-!
# The order of calls

ARB files declare their locales, and the default catalog is remembered under the one that its file declares. A request
that keeps clear of that locale has the same outcome in any order of such calls (`resolve_in_any_order`). A request
for that locale has not: once the default catalog is remembered, it is taken for the catalog of the locale.

Catalogs are remembered under names in upper case, so no two locales that the calls come to may have names that differ in
case alone (`AreToldApart`). Names with longer subtags, which keep the case that they are written in, can.
-/

namespace Phrasebook.Resolver

open Phrasebook.Locale (IsName)
open Phrasebook.Memory (keyOf)

variable {r : Resolver} {c : Configuration} {N : r.Locales} {locale key : Text} {m : Memory} {e : Entry}

/-! ## The locales that calls come to -/

/-- The locales whose own files a request for the locale comes to: the locale and the one that stands in for it. -/
def localesFor (r : Resolver) (locale : Text) : List Text :=
  locale :: if r.isDefault locale then [] else (r.basicOf locale).toList

/-- **`r.localesOf calls`**: the locales that calls come to. -/
def localesOf (r : Resolver) (calls : List Call) : List Text :=
  r.defaultLocale :: (calls.filterMap (Call.locale? r)).flatMap r.localesFor

/-- **`AreToldApart names`**: names of ASCII letters and digits between hyphens or underscores, no two of which are the same
but for their case. -/
def AreToldApart (names : List Text) : Prop :=
  ∀ name ∈ names, IsName name ∧ ∀ other ∈ names, keyOf name = keyOf other → name = other

instance : DecidablePred AreToldApart := fun names =>
  inferInstanceAs (Decidable (∀ name ∈ names, _))

theorem mem_localesFor {name : Text} :
    name ∈ r.localesFor locale ↔ name = locale ∨ (r.isDefault locale = false ∧ r.basicOf locale = some name) := by
  rw [localesFor, List.mem_cons]
  cases r.isDefault locale <;> simp

theorem mem_localesOf {calls : List Call} {name : Text} :
    name ∈ r.localesOf calls ↔
      name = r.defaultLocale ∨ ∃ call ∈ calls, ∃ locale ∈ call.locale? r, name ∈ r.localesFor locale := by
  simp only [localesOf, List.mem_cons, List.mem_flatMap, List.mem_filterMap, Option.mem_def]
  grind

/-- A call comes to the locale that it asks for. -/
theorem mem_localesOf_call {calls : List Call} {call : Call} (hcall : call ∈ calls) {name : Text}
    (hname : name ∈ call.locale? r) : name ∈ r.localesOf calls :=
  mem_localesOf.mpr (.inr ⟨call, hcall, name, hname, mem_localesFor.mpr (.inl rfl)⟩)

/-- The locales that calls come to, where they are told apart. -/
def Locales.ofCalls {calls : List Call} (h : AreToldApart (r.localesOf calls)) : r.Locales where
  Has name := name ∈ r.localesOf calls
  eq_of_key hname hother := (h _ hname).2 _ hother
  hasDefault := List.mem_cons_self
  hasBasic {name basic} hname hother hbasic := by
    have htable := Locale.endsInTerritory_likelySubtags
    refine ⟨?_, ((h name hname).1.basic htable (Option.filter_eq_some_iff.mp hbasic).1).2.2⟩
    rcases mem_localesOf.mp hname with rfl | ⟨call, hcall, locale, hlocale, hmem⟩
    · rw [isDefault_default] at hother
      cases hother
    · rcases mem_localesFor.mp hmem with rfl | ⟨-, hstands⟩
      · exact mem_localesOf.mpr (.inr ⟨call, hcall, name, hlocale, mem_localesFor.mpr (.inr ⟨hother, hbasic⟩)⟩)
      · -- No locale stands in for one that stands in for another.
        have hasked := (h locale (mem_localesOf_call hcall hlocale)).1
        have hnone := (hasked.basic htable (Option.filter_eq_some_iff.mp hstands).1).2.2
        rw [basicOf, hnone] at hbasic
        cases hbasic

/-! ## Requests in any order -/

/-- A default catalog that is remembered is under its key. -/
theorem Faithful.has_restKey (h : r.Faithful c N m) (hplace : m.defaultPlace.isSome = true) :
    (m.at? (.under (r.restKey c))).isSome = true := by
  have hwhere := h.place
  split at hwhere
  · next hhas => exact hhas
  · rw [hwhere] at hplace
    cases hplace

/-- **The default catalog is taken for that of the locale under whose key it is**: a lookup there finds what the
default catalog has. -/
theorem lookup_taken (h : r.Faithful c N m) (hplace : m.defaultPlace.isSome = true)
    (hkey : keyOf locale = r.restKey c) (hlocated : r.located c r.defaultLocale key = .ok (some e)) :
    ((r.lookup c locale key).on m).1 = .ok (some e) := by
  have hsome := h.has_restKey hplace
  have hseat : r.seat c r.defaultLocale = r.restKey c := seat_of_isDefault isDefault_default
  have hopen : (r.openCatalog c locale).on m = (.ok (), m) := by
    have hthere : (m.catalog? locale).isNone = false := by
      rw [Memory.catalog?, hkey, ← Option.not_isSome, hsome]
      rfl
    unfold openCatalog
    rw [Action.on_bind_ok (Action.on_get m), hthere]
    rfl
  unfold lookup
  rw [Action.on_bind_ok hopen, hkey]
  have hanswers := @usable_answers r c N r.defaultLocale key N.hasDefault (isClear_of_isDefault isDefault_default)
  rw [hseat] at hanswers
  exact (hanswers m ⟨h, hsome⟩).1.eq_located.trans hlocated

/-- **Calls may come in any order.** Let the locales that calls and a request come to be told apart. After calls that keep
clear of the locale that the default file declares, a request that keeps clear of it comes to what it comes to on a new
resolver, which is what is located in the files. A request for that locale comes to what the default catalog has, once
that is remembered. -/
theorem resolve_in_any_order {calls : List Call} (hclear : ∀ call ∈ calls, call.KeepsClear r c)
    (hneeded : r.hooks.valueNeeded = none) (hfound : r.hooks.valueFound = none)
    (hnot : r.hooks.valueNotFound = none) {locale : Option Text} {key : Text}
    (hapart : AreToldApart (r.localesOf (.resolve locale key :: calls))) :
    (r.KeepsClear c (r.localeOf locale) →
      ((r.resolve c locale key).on (r.memoryAfter c calls)).1 = ((r.resolve c locale key).on .empty).1
        ∧ ((r.resolve c locale key).on (r.memoryAfter c calls)).1 = r.located c (r.localeOf locale) key)
    ∧ (¬r.IsClear c (r.localeOf locale) → (r.memoryAfter c calls).defaultPlace.isSome = true →
      ∀ e, r.located c r.defaultLocale key = .ok (some e) →
        ((r.resolve c locale key).on (r.memoryAfter c calls)).1 = .ok (some e)) := by
  have hfaithful : r.Faithful c (.ofCalls hapart) (r.memoryAfter c calls) := clear_calls faithful_empty
    (fun call hcall _ hname => mem_localesOf_call (List.mem_cons_of_mem _ hcall) hname) hclear
  have hlocated := r.answer_of_no_hooks c hneeded hfound hnot (r.localeOf locale) key
  refine ⟨fun hkeeps => ?_, fun hunclear hplace e he => ?_⟩
  · have hasked : (Locales.ofCalls hapart).Has (r.localeOf locale) := mem_localesOf_call List.mem_cons_self rfl
    have hgives := clear_gives hasked hkeeps key
    have hafter := (hgives _ hfaithful).1
    have hnew := (hgives _ faithful_empty).1
    exact ⟨hafter.trans hnew.symm, hafter.trans hlocated⟩
  · obtain ⟨hd, hkey⟩ := Classical.not_imp.mp hunclear
    have hlookup := lookup_taken hfaithful hplace (not_not.mp hkey) he
    have hasked : (r.needed c (r.localeOf locale) key).on (r.memoryAfter c calls)
        = (.ok none, r.memoryAfter c calls) := by
      rw [needed, hneeded]
      rfl
    unfold resolve
    rw [Action.on_bind_ok hasked, hd]
    show ((r.fromLocale c (r.localeOf locale) key).on _).1 = _
    unfold fromLocale
    rw [Action.on_bind_ok (Prod.ext hlookup rfl)]
    show ((r.found c (r.localeOf locale) key e).on _).1 = _
    rw [found, hfound]
    rfl

/-- The default file declares the Albanian locale. The Armenian notices keep clear of it, and for the Albanian ones the
default one is found. -/
theorem resolve_in_any_order_notices :
    let r := notices [("m.arb", noticeFile "sq" "hello"), ("m_hy.arb", noticeFile "hy" "օր")]
    let c := r.configuration
    let m := r.memoryAfter c [.resolve none "k", .resolve (some "hy-arevela") "k"]
    textIn ((r.resolve c (some "hy") "k").on m).1 = some (Text.ofString "օր")
      ∧ textIn ((r.resolve c (some "sq") "k").on m).1 = some (Text.ofString "hello") := by
  intro r c m
  have hclear : ∀ call ∈ ([.resolve none "k", .resolve (some "hy-arevela") "k"] : List Call), call.KeepsClear r c := by
    decide +kernel
  have hhy : AreToldApart (r.localesOf [.resolve (some "hy") "k", .resolve none "k", .resolve (some "hy-arevela") "k"]) := by
    decide +kernel
  have hsq : AreToldApart (r.localesOf [.resolve (some "sq") "k", .resolve none "k", .resolve (some "hy-arevela") "k"]) := by
    decide +kernel
  have hkeeps : r.KeepsClear c (r.localeOf (some "hy")) := by decide +kernel
  have hunclear : ¬r.IsClear c (r.localeOf (some "sq")) := by decide +kernel
  have hplace : m.defaultPlace.isSome = true := by decide +kernel
  have htext : textIn (r.located c r.defaultLocale "k") = some (Text.ofString "hello") := by decide +kernel
  obtain ⟨-, hlocated⟩ := (resolve_in_any_order hclear rfl rfl rfl hhy).1 hkeeps
  refine ⟨?_, ?_⟩
  · rw [hlocated]
    decide +kernel
  · cases hdefaultEntry : r.located c r.defaultLocale "k" with
    | error x =>
        rw [hdefaultEntry] at htext
        cases htext
    | ok found =>
        rw [hdefaultEntry] at htext
        cases found with
        | none => cases htext
        | some e =>
            rw [(resolve_in_any_order hclear rfl rfl rfl hsq).2 hunclear hplace e hdefaultEntry]
            exact htext

/-- The German notices have a file of their own, and the default file declares the German locale as well: whether the
default one was asked for before makes a difference. -/
theorem resolve_in_order_declared :
    let r := notices [("m.arb", noticeFile "de" "hello"), ("m_de.arb", noticeFile "de" "hallo")]
    let c := r.configuration
    textIn ((r.resolve c (some "de") "k").on .empty).1 = some (Text.ofString "hallo")
      ∧ textIn ((r.resolve c (some "de") "k").on (r.memoryAfter c [.resolve none "k"])).1
        = some (Text.ofString "hello") := by
  decide +kernel

end Phrasebook.Resolver
