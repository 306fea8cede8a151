import Phrasebook.Proofs.Resolver.Backfill
import Phrasebook.Proofs.Resolver.Questions

/-!
# What hooks replace is not remembered

Two hooks come after the search: one may replace an entry that was found, the other may supply one that was not.
They are asked when everything is remembered that a request remembers. So two resolvers that differ in these hooks
alone remember the same after any turns, and have put the same questions but for those to the two hooks
(`remembers_alike`), even where what a hook supplies makes a request fail for one of them.

`Memory.Alike` relates the memories of the two runs, and `Action.Blind` says of an action that it keeps them
related. The two resolvers search in the same way (`search_withReplacements`), and a search is blind.
-/

namespace Phrasebook

/-- A question that is put before there is an answer: to the source, or to a hook that comes first. -/
def Event.precedesAnswer : Event → Bool
  | .load _ _ => true
  | .contentNeeded _ _ => true
  | .valueNeeded _ _ => true
  | .valueFound _ _ _ => false
  | .valueNotFound _ _ => false

namespace Memory

/-- **`m.Alike m'`**: two memories hold the same catalogs at the same places, came to them in the same way, and
show the same questions but for those that come after an answer. -/
structure Alike (m m' : Memory) : Prop where
  catalogs : m.catalogs = m'.catalogs
  apart : m.apart = m'.apart
  defaultPlace : m.defaultPlace = m'.defaultPlace
  history : m.history = m'.history
  journal : m.journal.filter Event.precedesAnswer = m'.journal.filter Event.precedesAnswer

variable {m m' : Memory}

theorem Alike.refl (m : Memory) : m.Alike m := ⟨rfl, rfl, rfl, rfl, rfl⟩

theorem Alike.at? (h : m.Alike m') (place : Place) : m.at? place = m'.at? place := by
  cases place with
  | under key =>
      show Pairs.get? key m.catalogs = Pairs.get? key m'.catalogs
      rw [h.catalogs]
  | apart => exact h.apart

theorem Alike.eq_withJournal (h : m.Alike m') : m' = { m with journal := m'.journal } := by
  obtain ⟨catalogs, apart, defaultPlace, journal, history⟩ := m
  obtain ⟨catalogs', apart', defaultPlace', journal', history'⟩ := m'
  obtain ⟨rfl, rfl, rfl, rfl, -⟩ := h
  rfl

/-- **What does not look at the journal and leaves it alone** keeps memories alike. -/
theorem Alike.change (h : m.Alike m') {f : Memory → Memory} (hf : ∀ m, (f m).journal = m.journal)
    (hblind : ∀ m j, f { m with journal := j } = { f m with journal := j }) : (f m).Alike (f m') := by
  have hafter : f m' = { f m with journal := m'.journal } :=
    (congrArg f h.eq_withJournal).trans (hblind m m'.journal)
  rw [hafter]
  refine ⟨rfl, rfl, rfl, rfl, ?_⟩
  show (f m).journal.filter _ = m'.journal.filter _
  rw [hf]
  exact h.journal

/-- Questions that are put in both memories, or that do not count. -/
theorem Alike.ask (h : m.Alike m') {es es' : List Event}
    (hes : es.filter Event.precedesAnswer = es'.filter Event.precedesAnswer) :
    Alike { m with journal := m.journal ++ es } { m' with journal := m'.journal ++ es' } := by
  refine ⟨h.catalogs, h.apart, h.defaultPlace, h.history, ?_⟩
  rw [List.filter_append, List.filter_append, h.journal, hes]

theorem put_withJournal (m : Memory) (j : List Event) (place : Place) (t : Catalog) :
    put { m with journal := j } place t = { m.put place t with journal := j } := by
  cases place <;> rfl

theorem settle_withJournal (m : Memory) (j : List Event) (place : Place) (key : Text) (e : Entry) :
    settle { m with journal := j } place key e = { m.settle place key e with journal := j } := by
  unfold settle
  rw [at?_journal]
  cases m.at? place with
  | none => rfl
  | some t =>
      dsimp only
      rw [put_withJournal]
      rfl

theorem update_withJournal (m : Memory) (j : List Event) (place : Place) (f : Catalog → Catalog) :
    update { m with journal := j } place f = { m.update place f with journal := j } := by
  unfold update
  rw [at?_journal]
  cases m.at? place with
  | none => rfl
  | some t => exact put_withJournal m j place (f t)

theorem putDefault_withJournal (m : Memory) (j : List Event) (key : Text) (t : Catalog) :
    putDefault { m with journal := j } key t = { m.putDefault key t with journal := j } := by
  unfold putDefault
  dsimp only
  rw [put_withJournal]
  rfl

end Memory

/-! ## Actions that do not look at the answers -/

namespace Action

open Phrasebook.Memory (Alike)

variable {α β : Type} {x : Action α}

/-- **`Blind x`**: in memories that are alike an action has the same outcome, and it leaves them alike, whether it
comes through or fails. -/
def Blind (x : Action α) : Prop :=
  ∀ m m', Alike m m' → (x.on m).1 = (x.on m').1 ∧ Alike (x.on m).2 (x.on m').2

theorem Blind.bind (hx : Blind x) {f : α → Action β} (hf : ∀ a, Blind (f a)) : Blind (x >>= f) := by
  intro m m' h
  have hfirst := hx m m' h
  rw [on_bind, on_bind]
  revert hfirst
  obtain ⟨o, m₁⟩ := x.on m
  obtain ⟨o', m₁'⟩ := x.on m'
  rintro ⟨ho, halike⟩
  obtain rfl : o = o' := ho
  -- The outcome is one for both, so both stop here or both go on with the same.
  cases o with
  | error e => exact ⟨rfl, halike⟩
  | ok a => exact hf a m₁ m₁' halike

theorem Puts.blind {es : List Event} {o : Outcome α} (hx : Puts x es o) : Blind x := by
  intro m m' h
  rw [hx m, hx m']
  exact ⟨rfl, h.ask rfl⟩

theorem blind_pure (a : α) : Blind (pure a) := (puts_pure a).blind

theorem blind_lift (o : Outcome α) : Blind (liftM o : Action α) := (puts_lift o).blind

theorem blind_change {f : Memory → Memory} (hf : ∀ m, (f m).journal = m.journal)
    (hblind : ∀ m j, f { m with journal := j } = { f m with journal := j }) : Blind (Resolver.change f) :=
  fun _ _ h => ⟨rfl, h.change hf hblind⟩

theorem blind_record (e : Happening) : Blind (Resolver.record e) :=
  blind_change (fun _ => rfl) fun _ _ => rfl

/-- **What goes on with the memory may not tell memories apart that are alike.** -/
theorem blind_get {f : Memory → Action β} (hsame : ∀ m m', Alike m m' → f m = f m')
    (hf : ∀ m, Blind (f m)) : Blind (get >>= f) := by
  intro m m' h
  rw [on_bind_ok (on_get m), on_bind_ok (on_get m'), ← hsame m m' h]
  exact hf m m m' h

end Action

namespace Resolver

open Phrasebook.Action (Blind blind_pure blind_lift blind_change blind_record blind_get Puts)
open Phrasebook.Memory (Alike keyOf)

variable {r : Resolver} {c : Configuration} {locale key : Text}

/-! ## A search is blind -/

theorem referredText_blind (file : Text) (origin : Option Text) : Blind (r.referredText file origin) :=
  (r.puts_load file origin).blind.bind fun _ => blind_lift _

theorem settle_blind (place : Place) (key : Text) (e : Entry) : Blind (change (·.settle place key e)) :=
  blind_change (fun m => Memory.journal_settle m place key e) fun m j => Memory.settle_withJournal m j place key e

theorem usable_blind (place : Place) (key : Text) : Blind (r.usable place key) := by
  refine blind_get (fun m m' h => ?_) fun m => ?_
  · rw [h.at? place]
  · split
    · exact blind_pure none
    · split
      · exact blind_pure none
      · split
        · exact blind_pure _
        · split
          · exact blind_pure none
          · refine (blind_record _).bind fun _ => (referredText_blind _ _).bind fun text => ?_
            split
            · exact blind_pure none
            · refine (blind_record _).bind fun _ => (blind_lift _).bind fun e => ?_
              exact (settle_blind place key e).bind fun _ => blind_pure _

theorem catalog_blind (name : Text) (includesDefault : Bool) : Blind (r.catalog c name includesDefault) := by
  intro m m' h
  rw [r.catalog_puts, r.catalog_puts]
  have hrecord : (m.record (.loading name)).Alike (m'.record (.loading name)) :=
    h.change (f := (·.record _)) (fun _ => rfl) fun _ _ => rfl
  exact ⟨rfl, hrecord.ask rfl⟩

theorem openCatalog_blind (name : Text) : Blind (r.openCatalog c name) := by
  refine blind_get (fun m m' h => ?_) fun m => ?_
  · rw [Memory.catalog?, Memory.catalog?, h.at?]
  · split
    · refine (catalog_blind name false).bind fun t => ?_
      refine Blind.bind (blind_change (fun m => ?_) fun m j => ?_) fun _ => blind_record _
      · exact Memory.journal_put m _ _
      · exact Memory.put_withJournal m j _ _
    · exact blind_pure ()

theorem openDefault_blind : Blind (r.openDefault c) := by
  refine blind_get (fun m m' h => ?_) fun m => ?_
  · rw [h.defaultPlace]
  · split
    · exact blind_pure _
    · refine (catalog_blind _ true).bind fun t => blind_get (fun m m' h => ?_) fun m => ?_
      · rw [Memory.placeForDefault, Memory.placeForDefault, h.catalogs]
      · refine Blind.bind (blind_change (fun m => ?_) fun m j => ?_) fun _ =>
          (blind_record _).bind fun _ => blind_pure _
        · exact Memory.journal_putDefault m _ _
        · exact Memory.putDefault_withJournal m j _ _

theorem remember_blind (key : Text) (e : Entry) (tried : List Text) : Blind (remember key e tried) := by
  induction tried with
  | nil => exact blind_pure ()
  | cons name rest ih => exact (settle_blind _ key e).bind fun _ => ih

/-- What is found is remembered. -/
theorem hit_blind (key : Text) (e : Entry) (tried : List Text) :
    Blind (do remember key e tried; return some e : Action (Option Entry)) :=
  (remember_blind key e tried).bind fun _ => blind_pure _

theorem searchDefault_blind (key : Text) (tried : List Text) : Blind (r.searchDefault c key tried) := by
  refine openDefault_blind.bind fun place => (usable_blind place key).bind fun found => ?_
  cases found with
  | none => exact blind_pure none
  | some e => exact hit_blind key e tried

theorem lookupBasic_blind (name key : Text) : Blind (r.lookupBasic c name key) := by
  refine (openCatalog_blind name).bind fun _ =>
    Blind.bind (blind_change (fun m => ?_) fun m j => ?_) fun _ => usable_blind _ key
  · exact Memory.journal_update m _ _
  · exact Memory.update_withJournal m j _ _

theorem searchLocale_blind (locale key : Text) : Blind (r.searchLocale c locale key) := by
  refine Blind.bind ((openCatalog_blind locale).bind fun _ => usable_blind _ key) fun found => ?_
  cases found with
  | some e => exact blind_pure _
  | none =>
      refine blind_get (fun m m' h => ?_) fun m => ?_
      · rw [basicFor, basicFor, Memory.catalog?, Memory.catalog?, h.at?]
      · cases r.basicFor m locale with
        | none => exact searchDefault_blind key _
        | some basic =>
            refine (lookupBasic_blind basic key).bind fun found => ?_
            cases found with
            | none => exact searchDefault_blind key _
            | some e => exact hit_blind key e _

theorem search_blind (locale key : Text) : Blind (r.search c locale key) := by
  unfold search
  split
  · exact searchDefault_blind key _
  · exact searchLocale_blind locale key

/-! ## Other replacements -/

/-- The resolver with other hooks for what was found and for what was not. -/
def withReplacements (r : Resolver) (found : Option (Text → Text → Entry → Option Substitute))
    (notFound : Option (Text → Text → Option Substitute)) : Resolver :=
  { r with hooks := { r.hooks with valueFound := found, valueNotFound := notFound } }

section Search

variable (r : Resolver) (c : Configuration) (found : Option (Text → Text → Entry → Option Substitute))
  (notFound : Option (Text → Text → Option Substitute)) (locale key : Text)

theorem firstFile_withReplacements (origin : Option Text) (names : List Text) :
    (r.withReplacements found notFound).firstFile origin names = r.firstFile origin names := by
  induction names with
  | nil => rfl
  | cons name rest ih =>
      rw [firstFile, firstFile, ih]
      rfl

theorem catalog_withReplacements (includesDefault : Bool) :
    (r.withReplacements found notFound).catalog c locale includesDefault
      = r.catalog c locale includesDefault := by
  have hsupplied : (r.withReplacements found notFound).supplied c locale = r.supplied c locale := rfl
  have hformat : (r.withReplacements found notFound).format c = r.format c := rfl
  have hfile : (r.withReplacements found notFound).localeFile c locale includesDefault
      = r.localeFile c locale includesDefault := by
    simp only [localeFile, hsupplied, hformat, firstFile_withReplacements]
  rw [catalog, hfile]
  rfl

theorem openCatalog_withReplacements :
    (r.withReplacements found notFound).openCatalog c locale = r.openCatalog c locale := by
  rw [openCatalog, catalog_withReplacements, openCatalog]

theorem usable_withReplacements (place : Place) :
    (r.withReplacements found notFound).usable place key = r.usable place key := rfl

theorem searchDefault_withReplacements (tried : List Text) :
    (r.withReplacements found notFound).searchDefault c key tried = r.searchDefault c key tried := by
  have hopen : (r.withReplacements found notFound).openDefault c = r.openDefault c := by
    unfold openDefault
    simp only [catalog_withReplacements]
    rfl
  simp only [searchDefault, hopen, usable_withReplacements]

/-- **The hooks that come after the search have no part in it.** -/
theorem search_withReplacements :
    (r.withReplacements found notFound).search c locale key = r.search c locale key := by
  have hbasic : ∀ m, (r.withReplacements found notFound).basicFor m locale = r.basicFor m locale :=
    fun _ => rfl
  have hlocale : (r.withReplacements found notFound).searchLocale c locale key
      = r.searchLocale c locale key := by
    simp only [searchLocale, lookup, lookupBasic, openCatalog_withReplacements, usable_withReplacements,
      searchDefault_withReplacements, hbasic]
  rw [search, search, hlocale, searchDefault_withReplacements]
  rfl

end Search

/-! ## Two runs -/

variable {m m' : Memory}

/-- **`Parallel x y`**: two actions leave memories alike that were alike, whatever their outcomes are. -/
def Parallel {α β : Type} (x : Action α) (y : Action β) : Prop :=
  ∀ m m', Alike m m' → Alike (x.on m).2 (y.on m').2

/-- Both go on from an action that does not tell them apart. -/
theorem parallel_bind {α β β' : Type} {x : Action α} (hx : Blind x) {f : α → Action β} {g : α → Action β'}
    (h : ∀ a, Parallel (f a) (g a)) : Parallel (x >>= f) (x >>= g) := by
  intro m m' halike
  have hfirst := hx m m' halike
  rw [Action.on_bind, Action.on_bind]
  revert hfirst
  obtain ⟨o, m₁⟩ := x.on m
  obtain ⟨o', m₁'⟩ := x.on m'
  rintro ⟨ho, hnext⟩
  obtain rfl : o = o' := ho
  cases o with
  | error e => exact hnext
  | ok a => exact h a m₁ m₁' hnext

/-- A hook that may be absent is asked once or not at all. -/
theorem asked_puts (r : Resolver) (c : Configuration) (e : Event) (answer : Option (Option Substitute)) :
    Puts (r.asked c e answer) (if answer.isSome then [e] else []) (r.askedOf c answer) := by
  unfold asked askedOf
  cases answer with
  | none => exact Action.puts_pure none
  | some answer =>
      refine (Action.puts_note e).bind ?_
      cases answer with
      | none => exact Action.puts_pure none
      | some s => exact Action.puts_lift _

/-- What a hook is asked that comes after the search does not count. -/
theorem asked_on (r : Resolver) (c : Configuration) {e : Event} (he : e.precedesAnswer = false)
    (answer : Option (Option Substitute)) (m : Memory) :
    ∃ es : List Event, es.filter Event.precedesAnswer = []
      ∧ ((r.asked c e answer).on m).2 = { m with journal := m.journal ++ es } := by
  refine ⟨if answer.isSome then [e] else [], ?_, congrArg Prod.snd (asked_puts r c e answer m)⟩
  split
  · simp [he]
  · rfl

/-- **What is told afterwards changes nothing that counts**, whoever tells it and whether it comes through or
fails. -/
theorem told_on (r : Resolver) (c : Configuration) (locale key : Text) (found : Option Entry) (m : Memory) :
    ∃ es : List Event, es.filter Event.precedesAnswer = []
      ∧ ((r.told c locale key found).on m).2 = { m with journal := m.journal ++ es } := by
  cases found with
  | none => exact asked_on r c rfl _ m
  | some e =>
      obtain ⟨es, hes, hon⟩ := asked_on r c (rfl : (Event.valueFound locale key e.text).precedesAnswer = false)
        (r.hooks.valueFound.map fun ask => ask locale key e) m
      refine ⟨es, hes, Eq.trans ?_ hon⟩
      show ((r.found c locale key e).on m).2 = _
      unfold Resolver.found
      rw [Action.on_bind]
      obtain ⟨o, m'⟩ := (r.asked c _ _).on m
      cases o <;> rfl

theorem told_parallel (r r' : Resolver) (c : Configuration) (locale key : Text) (found : Option Entry) :
    Parallel (r.told c locale key found) (r'.told c locale key found) := by
  intro m m' h
  obtain ⟨es, hes, hon⟩ := told_on r c locale key found m
  obtain ⟨es', hes', hon'⟩ := told_on r' c locale key found m'
  rw [hon, hon']
  exact h.ask (hes.trans hes'.symm)

variable (found : Option (Text → Text → Entry → Option Substitute))
  (notFound : Option (Text → Text → Option Substitute))

/-- **A request leaves memories alike** that were alike, whatever the hooks supply after its search. -/
theorem resolve_parallel (r : Resolver) (c : Configuration) (asked : Option Text) (key : Text) :
    Parallel (r.resolve c asked key) ((r.withReplacements found notFound).resolve c asked key) := by
  rw [resolve_eq, resolve_eq]
  have hneeded : Blind (r.needed c (r.localeOf asked) key) := (asked_puts r c _ _).blind
  -- The hook that comes first is the same for both, and so is the locale that is meant.
  refine parallel_bind hneeded fun supplied => ?_
  cases supplied with
  | some e => exact fun m m' h => h
  | none =>
      have hsame := search_withReplacements r c found notFound (r.localeOf asked) key
      show Parallel _ ((r.withReplacements found notFound).search c (r.localeOf asked) key >>= _)
      rw [hsame]
      exact parallel_bind (search_blind _ key) fun e => told_parallel r _ c _ key e

/-- A turn leaves memories alike. -/
theorem turn_alike (h : m.Alike m') (turn : Turn) :
    (r.memoryOf m turn).Alike ((r.withReplacements found notFound).memoryOf m' turn) := by
  obtain ⟨source, c, call⟩ := turn
  have hresolve := fun asked key =>
    resolve_parallel found notFound (r.withSource source) c asked key m m' h
  cases call with
  | resolve asked key => exact hresolve asked key
  | expand asked a key =>
      show Alike (Action.on _ m).2 (Action.on _ m').2
      rw [expand_on, expand_on]
      exact hresolve asked key
  | drop locale =>
      refine h.change (f := (·.drop (Locale.normalize locale))) (fun _ => rfl) fun _ _ => rfl
  | dropAll =>
      refine h.change (f := Memory.dropAll) (fun _ => rfl) fun _ _ => rfl

/-- **What hooks replace is not remembered.** Two resolvers that differ in nothing but the hooks for what was found
and for what was not are, after the same turns, alike in what they remember and in what they have asked of the
source and of the other hooks. -/
theorem remembers_alike (r : Resolver) (found : Option (Text → Text → Entry → Option Substitute))
    (notFound : Option (Text → Text → Option Substitute)) (turns : List Turn) :
    (r.memoryOver turns).Alike ((r.withReplacements found notFound).memoryOver turns) := by
  -- Over the turns, from any memories that are alike.
  have hrun : ∀ m m' : Memory, m.Alike m' → (turns.foldl r.memoryOf m).Alike
      (turns.foldl (r.withReplacements found notFound).memoryOf m') := by
    induction turns with
    | nil => exact fun m m' h => h
    | cons turn rest ih => exact fun m m' h => ih _ _ (turn_alike found notFound h turn)
  exact hrun .empty .empty (.refl _)

end Resolver

end Phrasebook
