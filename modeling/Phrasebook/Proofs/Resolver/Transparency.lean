import Phrasebook.Proofs.Resolver.Answer

/-!
# Memory makes no difference

A resolver is called over and over, and remembers. `resolve_after` says that no sequence of calls can make
a difference to what a later request comes to: neither what was loaded or copied between catalogs on the
way, nor what was dropped again, nor the failures in between. The induction is over the calls, and what
every call keeps is that the memory is `Faithful`.
-/

namespace Phrasebook.Resolver

open Phrasebook.Action (Meets)
open Phrasebook.Locale (IsPlain IsSpelled)

/-- A call to a resolver. -/
inductive Call where
  | resolve (locale : Option Text) (key : Text)
  | expand (locale : Option Text) (a : Arguments) (key : Text)
  | drop (locale : Text)
  | dropAll

namespace Call

/-- A call that asks for texts asks for them in a locale with a plain name, or in the default one. -/
def IsPlain : Call → Prop
  | resolve locale _ => ∀ name ∈ locale, Locale.IsPlain name
  | expand locale _ _ => ∀ name ∈ locale, Locale.IsPlain name
  | drop _ => True
  | dropAll => True

instance : DecidablePred IsPlain
  | resolve locale _ => inferInstanceAs (Decidable (∀ name ∈ locale, Locale.IsPlain name))
  | expand locale _ _ => inferInstanceAs (Decidable (∀ name ∈ locale, Locale.IsPlain name))
  | drop _ => isTrue trivial
  | dropAll => isTrue trivial

/-- The locale that a call asks for. -/
def locale? (r : Resolver) : Call → Option Text
  | resolve locale _ => some (r.localeOf locale)
  | expand locale _ _ => some (r.localeOf locale)
  | drop _ => none
  | dropAll => none

/-- The memory after a call, whether the call comes through or fails. -/
def memory (r : Resolver) (c : Configuration) (m : Memory) : Call → Memory
  | resolve locale key => ((r.resolve c locale key).on m).2
  | expand locale a key => ((r.expand c locale a key).on m).2
  | drop locale => ((forget locale).on m).2
  | dropAll => (forgetAll.on m).2

end Call

/-- The memory of a new resolver after some calls. -/
def memoryAfter (r : Resolver) (c : Configuration) (calls : List Call) : Memory :=
  calls.foldl (Call.memory r c) .empty

variable {r : Resolver} {c : Configuration} {N : r.Locales}

theorem isSpelled_defaultLocale (h : IsPlain (r.configuration.defaultLocale.getD [])) :
    IsSpelled r.defaultLocale :=
  Locale.isSpelled_normalize h

theorem isSpelled_localeOf (hD : IsSpelled r.defaultLocale) {locale : Option Text}
    (h : ∀ name ∈ locale, IsPlain name) : IsSpelled (r.localeOf locale) := by
  cases locale with
  | none => exact hD
  | some name => exact Locale.isSpelled_normalize (h name rfl)

namespace Call

/-- A call for a locale with a plain name is one for its normal spelling. -/
theorem IsPlain.spelled (hD : IsSpelled r.defaultLocale) {call : Call} (h : call.IsPlain) :
    ∀ name ∈ call.locale? r, IsSpelled name := by
  cases call with
  | resolve locale key => simpa [locale?] using isSpelled_localeOf hD h
  | expand locale a key => simpa [locale?] using isSpelled_localeOf hD h
  | drop locale => simp [locale?]
  | dropAll => simp [locale?]

/-- **`call.KeepsClear r c`**: a call that asks for texts asks for them in a locale that keeps clear of the default
catalog. -/
def KeepsClear (r : Resolver) (c : Configuration) : Call → Prop
  | resolve locale _ => Resolver.KeepsClear r c (r.localeOf locale)
  | expand locale _ _ => Resolver.KeepsClear r c (r.localeOf locale)
  | drop _ => True
  | dropAll => True

instance : DecidablePred (KeepsClear r c)
  | resolve locale _ => inferInstanceAs (Decidable (Resolver.KeepsClear r c (r.localeOf locale)))
  | expand locale _ _ => inferInstanceAs (Decidable (Resolver.KeepsClear r c (r.localeOf locale)))
  | drop _ => isTrue trivial
  | dropAll => isTrue trivial

end Call

/-- Expanding a text asks for its entry and remembers nothing else. -/
theorem expand_meets {locale : Option Text} (hL : N.Has (r.localeOf locale))
    (hclear : r.KeepsClear c (r.localeOf locale)) (a : Arguments) (key : Text) :
    Meets (r.Faithful c N) (r.expand c locale a key) fun _ m => r.Faithful c N m := by
  refine (clear_gives hL hclear key).bind (fun found => ?_) (fun _ _ hm => hm.2)
  intro m hm
  cases found.filter fun e => !e.isEmpty with
  | none => exact hm.2
  | some e =>
      have hrendered := (Action.quiet_lift (r.mode c)).seq fun mode =>
        Action.quiet_lift (Render.entry (.ofName (r.localeOf locale) r.surroundings) a mode e)
      exact (gives_of_quiet hrendered m hm.2).2

/-- **No call that keeps clear makes a memory unfaithful.** -/
theorem faithful_call {m : Memory} (h : r.Faithful c N m) {call : Call} (hcall : ∀ name ∈ call.locale? r, N.Has name)
    (hclear : call.KeepsClear r c) : r.Faithful c N (call.memory r c m) := by
  cases call with
  | resolve locale key => exact (clear_gives (hcall _ rfl) hclear key m h).2
  | expand locale a key => exact expand_meets (hcall _ rfl) hclear a key m h
  | drop locale => exact h.drop (Locale.normalize locale)
  | dropAll => exact faithful_dropAll m

/-- **No sequence of such calls makes a memory unfaithful.** -/
theorem clear_calls {m : Memory} (h : r.Faithful c N m) {calls : List Call}
    (hcalls : ∀ call ∈ calls, ∀ name ∈ call.locale? r, N.Has name) (hclear : ∀ call ∈ calls, call.KeepsClear r c) :
    r.Faithful c N (calls.foldl (Call.memory r c) m) := by
  induction calls generalizing m with
  | nil => exact h
  | cons call rest ih =>
      have hcall := faithful_call h (hcalls call List.mem_cons_self) (hclear call List.mem_cons_self)
      exact ih hcall (fun next hnext => hcalls next (List.mem_cons_of_mem call hnext)) fun next hnext =>
        hclear next (List.mem_cons_of_mem call hnext)

/-- **No sequence of calls makes a memory unfaithful**, where no file declares a locale. -/
theorem faithful_calls (hf : r.format c ≠ .ok .arb) (hD : IsSpelled r.defaultLocale) {m : Memory}
    (h : r.Faithful c N m) {calls : List Call} (hcalls : ∀ call ∈ calls, ∀ name ∈ call.locale? r, N.Has name) :
    r.Faithful c N (calls.foldl (Call.memory r c) m) := by
  refine clear_calls h hcalls fun call _ => ?_
  cases call with
  | resolve locale key => exact keepsClear_of_format hf hD _
  | expand locale a key => exact keepsClear_of_format hf hD _
  | drop locale => trivial
  | dropAll => trivial

/-- **Whatever was asked and dropped before, a request comes to what it comes to on a new resolver.** Where
no hook supplies or replaces values, that is what is located in the files. -/
theorem resolve_after (hf : r.format c ≠ .ok .arb)
    (hdefault : IsPlain (r.configuration.defaultLocale.getD [])) {calls : List Call}
    (hcalls : ∀ call ∈ calls, call.IsPlain) {locale : Option Text}
    (hlocale : ∀ name ∈ locale, IsPlain name) (key : Text) :
    ((r.resolve c locale key).on (r.memoryAfter c calls)).1 = ((r.resolve c locale key).on .empty).1
      ∧ (r.hooks.valueNeeded = none → r.hooks.valueFound = none → r.hooks.valueNotFound = none →
        ((r.resolve c locale key).on (r.memoryAfter c calls)).1
          = r.located c (r.localeOf locale) key) := by
  have hD := isSpelled_defaultLocale hdefault
  have hgives := resolve_gives (c := c) (N := .spelled hD) hf hD (isSpelled_localeOf hD hlocale) key
  have hfaithful := faithful_calls (c := c) (N := .spelled hD) hf hD faithful_empty fun call hcall =>
    (hcalls call hcall).spelled hD
  have hafter := (hgives _ hfaithful).1
  have hnew := (hgives _ faithful_empty).1
  refine ⟨hafter.trans hnew.symm, fun hneeded hfound hnot => ?_⟩
  exact hafter.trans (r.answer_of_no_hooks c hneeded hfound hnot _ key)

/-- A resolver of greetings in two files: those in English are the default ones, and Albanian lacks one. -/
def greetings : Resolver where
  configuration := { (default : Configuration) with
    defaultFile := "greetings.json", defaultLocale := some "en" }
  registry := .standard .standard
  source := .ofFiles [
    ("greetings.json", Utf8.encode "\x7b\"hello\": \"Hello\", \"bye\": \"Bye\"\x7d"),
    ("greetings_sq.json", Utf8.encode "\x7b\"bye\": \"Mirupafshim\"\x7d")]
  hooks := .none
  columnMatcher := none
  defaultMode := none

/-- Calls after which the English greeting is in the Albanian catalogs and the English one is dropped. -/
def greetingCalls : List Call :=
  [.resolve (some "sq-XK") "hello", .expand none .none "bye", .resolve (some "SQ_al") "bye", .drop "en"]

theorem resolve_after_greetingCalls :
    ((greetings.resolve greetings.configuration (some "sq-XK") "hello").on
        (greetings.memoryAfter greetings.configuration greetingCalls)).1
      = ((greetings.resolve greetings.configuration (some "sq-XK") "hello").on .empty).1
    ∧ (((greetings.resolve greetings.configuration (some "sq-XK") "hello").on
        (greetings.memoryAfter greetings.configuration greetingCalls)).1.toOption.join.bind
          Entry.text) = some (Text.ofString "Hello") := by
  have hformat : (match greetings.format greetings.configuration with
      | .ok f => decide (f = .json)
      | .error _ => false) = true := by decide +kernel
  have hf : greetings.format greetings.configuration ≠ .ok .arb := by
    intro harb
    rw [harb] at hformat
    exact absurd hformat (by decide)
  have hdefault : IsPlain (greetings.configuration.defaultLocale.getD []) := by decide +kernel
  have hcalls : ∀ call ∈ greetingCalls, call.IsPlain := by decide +kernel
  have hlocale : ∀ name ∈ some (Text.ofString "sq-XK"), IsPlain name := by decide +kernel
  obtain ⟨hnew, hlocated⟩ := resolve_after hf hdefault hcalls hlocale "hello"
  refine ⟨hnew, ?_⟩
  rw [hlocated rfl rfl rfl]
  decide +kernel

/-- A file that declares its locale, with one notice. -/
def noticeFile (locale text : Text) : Bytes :=
  Utf8.encode ("\x7b\"@@locale\": \"" ++ locale ++ "\", \"k\": \"" ++ text ++ "\"\x7d")

/-- A resolver of notices, whose default file is that of the English ones. -/
def notices (files : List (Text × Bytes)) : Resolver where
  configuration := { (default : Configuration) with defaultFile := "m.arb", defaultLocale := some "en" }
  registry := .standard .standard
  source := .ofFiles files
  hooks := .none
  columnMatcher := none
  defaultMode := none

/-- The text that comes of a request. -/
def textIn (o : Outcome (Option Entry)) : Option Text := o.toOption.join.bind Entry.text

end Phrasebook.Resolver
