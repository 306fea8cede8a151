import Mathlib.Logic.Relation
import Phrasebook.Proofs.Resolver.Reference
import Phrasebook.Proofs.Resolver.Sound

/-!
# The moves of a request

All that a request for a key in a locale does to the memory it does in a few kinds of moves (`Move`), and
what every move keeps, the request keeps. A catalog that is there grows at most: it may get the entry that was
found under the key where it has no text of its own (`Catalog.Backfilled`).
-/

namespace Phrasebook

/-- **`Backfilled key found t t'`**: `t'` is `t` but for the entry under the key, which may be the one that was
found where `t` has no text. -/
structure Catalog.Backfilled (key : Text) (found : Option Entry) (t t' : Catalog) : Prop where
  locale : t'.locale = t.locale
  origin : t'.origin = t.origin
  customProperties : t'.customProperties = t.customProperties
  context : t'.context = t.context
  author : t'.author = t.author
  lastModified : t'.lastModified = t.lastModified
  /-- An entry with a text stays. -/
  kept : ∀ {k e}, Pairs.get? k t.entries = some e → e.text.isSome = true →
    Pairs.get? k t'.entries = some e
  /-- Only the entry under the key may change. -/
  changed : ∀ k, Pairs.get? k t'.entries = Pairs.get? k t.entries
    ∨ k = key.fold ∧ ∃ e, found = some e ∧ Pairs.get? k t'.entries = some e

namespace Catalog

variable {key : Text} {found : Option Entry} {t t' t'' : Catalog} {e : Entry}

theorem Backfilled.refl (key : Text) (found : Option Entry) (t : Catalog) : Backfilled key found t t :=
  ⟨rfl, rfl, rfl, rfl, rfl, rfl, fun h _ => h, fun _ => .inl rfl⟩

theorem Backfilled.trans (h : Backfilled key found t t') (h' : Backfilled key found t' t'') :
    Backfilled key found t t'' where
  locale := h'.locale.trans h.locale
  origin := h'.origin.trans h.origin
  customProperties := h'.customProperties.trans h.customProperties
  context := h'.context.trans h.context
  author := h'.author.trans h.author
  lastModified := h'.lastModified.trans h.lastModified
  kept he htext := h'.kept (h.kept he htext) htext
  changed k := by
    rcases h'.changed k with hsame | hfound
    · rw [hsame]
      exact h.changed k
    · exact .inr hfound

/-- **An entry may be added where there is no text**, or no other than its own. -/
theorem backfilled_add (hfound : found = some e)
    (h : ∀ f, t.get? key = some f → f.text = none ∨ found = some f) :
    Backfilled key found t (t.add key e) where
  locale := rfl
  origin := rfl
  customProperties := rfl
  context := rfl
  author := rfl
  lastModified := rfl
  kept {k f} hf htext := by
    by_cases hk : k = key.fold
    · rw [hk] at hf ⊢
      show Pairs.get? key.fold (Pairs.put key.fold e t.entries) = some f
      rw [Pairs.get?_put_self]
      rcases h f hf with hnone | hsome
      · rw [hnone] at htext
        cases htext
      · exact hfound.symm.trans hsome
    · exact (Pairs.get?_put_of_ne hk e t.entries).trans hf
  changed k := by
    by_cases hk : k = key.fold
    · rw [hk]
      exact .inr ⟨rfl, e, hfound, Pairs.get?_put_self key.fold e t.entries⟩
    · exact .inl (Pairs.get?_put_of_ne hk e t.entries)

end Catalog

namespace Resolver

open Phrasebook.Memory (keyOf)
open Phrasebook.Catalog (Backfilled)

/-! ## Places -/

/-- A locale in whose catalog a key is looked for that is asked for in a locale. -/
def IsTried (locale name : Text) : Prop := name = locale ∨ Locale.basic? locale = some name

/-- A place where a key is looked for that is asked for in a locale. -/
def IsTouched (locale : Text) (m : Memory) (place : Place) : Prop :=
  (∃ name, IsTried locale name ∧ place = .under (keyOf name)) ∨ m.defaultPlace = some place

/-- A catalog that is read for a place where a key is looked for. -/
def IsRead (r : Resolver) (c : Configuration) (locale : Text) (m : Memory) (place : Place) (t : Catalog) :
    Prop :=
  (∃ name, IsTried locale name ∧ place = .under (keyOf name) ∧ r.ownCatalog c name = .ok t)
    ∨ m.defaultPlace = some place ∧ r.defaultCatalog c = .ok t

theorem IsTouched.mono {locale : Text} {m m' : Memory} {place : Place} (h : IsTouched locale m place)
    (hm : ∀ p, m.defaultPlace = some p → m'.defaultPlace = some p) : IsTouched locale m' place := by
  rcases h with hname | hdefault
  · exact .inl hname
  · exact .inr (hm place hdefault)

variable {r : Resolver} {c : Configuration} {locale key : Text} {found : Option Entry} {m m' m'' : Memory}
  {place : Place} {t : Catalog} {e : Entry}

theorem IsRead.mono (h : r.IsRead c locale m place t)
    (hm : ∀ p, m.defaultPlace = some p → m'.defaultPlace = some p) : r.IsRead c locale m' place t := by
  rcases h with hname | ⟨hdefault, hread⟩
  · exact .inl hname
  · exact .inr ⟨hm place hdefault, hread⟩

theorem isPlain_catalogOf {includesDefault : Bool}
    (h : r.catalogOf c locale includesDefault = .ok (some t)) : t.IsPlain := by
  obtain ⟨f, content, written, name, -, hcatalog, rfl⟩ := exists_of_catalogOf h
  have hplain : written.IsPlain := Files.Format.isPlain_catalog hcatalog
  exact hplain

theorem isPlain_ownCatalog (h : r.ownCatalog c locale = .ok t) : t.IsPlain := by
  obtain ⟨file, hfile, rfl⟩ := exists_of_map h
  cases file with
  | none => exact all_ofLocale _ _
  | some t => exact isPlain_catalogOf hfile

theorem isPlain_defaultCatalog (h : r.defaultCatalog c = .ok t) : t.IsPlain := by
  obtain ⟨file, hfile, rfl⟩ := exists_of_map h
  cases file with
  | none => exact all_ofLocale _ _
  | some t => exact isPlain_catalogOf hfile

/-! ## Moves -/

/-- **`Lacks key found m place`**: the catalog at a place has no text under a key but that of the entry that
was found. -/
def Lacks (key : Text) (found : Option Entry) (m : Memory) (place : Place) : Prop :=
  ∃ t, m.at? place = some t ∧ ∀ f, t.get? key = some f → f.text = none ∨ found = some f

/-- **`Takes locale key found m place e`**: the entry that was found may be settled at a place. -/
structure Takes (locale key : Text) (found : Option Entry) (m : Memory) (place : Place) (e : Entry) :
    Prop where
  touched : IsTouched locale m place
  lacks : Lacks key found m place
  found : found = some e
  text : e.text.isSome = true
  plain : e.IsPlain

/-- **`Move r c locale key found m m'`**: one of the things that a request for a key in a locale does that finds
an entry. -/
inductive Move (r : Resolver) (c : Configuration) (locale key : Text) (found : Option Entry) :
    Memory → Memory → Prop
  /-- Something was asked. -/
  | asked (m : Memory) (j : List Event) : Move r c locale key found m { m with journal := j }
  | loading (m : Memory) (name : Text) : Move r c locale key found m (m.record (.loading name))
  /-- A catalog that is not there is read. -/
  | opened {m : Memory} {name : Text} {t : Catalog} : IsTried locale name → r.isDefault name = false →
      m.catalog? name = none → r.ownCatalog c name = .ok t →
      Move r c locale key found m
        ((m.put (.under (keyOf name)) t).record (.loaded name (.under (keyOf name))))
  | openedDefault {m : Memory} {t : Catalog} : m.defaultPlace = none → r.defaultCatalog c = .ok t →
      Move r c locale key found m ((m.putDefault (r.defaultKey t) t).record
        (.loaded r.defaultLocale (m.placeForDefault (r.defaultKey t))))
  /-- A catalog stands in for another one. -/
  | marked (m : Memory) (name : Text) :
      Move r c locale key found m (m.update (.under (keyOf name)) fun t => { t with isBasic := true })
  | referring {m : Memory} {place : Place} {t : Catalog} {e : Entry} : m.at? place = some t →
      t.get? key = some e → e.text = none → Move r c locale key found m (m.record (.referring place key))
  /-- The text of a file becomes that of the entry that refers to it. -/
  | obtained {m : Memory} {place : Place} {e : Entry} : Takes locale key found m place e →
      Move r c locale key found m ((m.record (.obtained place key)).settle place key e)
  | settled {m : Memory} {place : Place} {e : Entry} : Takes locale key found m place e →
      Move r c locale key found m (m.settle place key e)

/-- Any number of moves. -/
abbrev Moves (r : Resolver) (c : Configuration) (locale key : Text) (found : Option Entry) :
    Memory → Memory → Prop :=
  Relation.ReflTransGen (Move r c locale key found)

/-- **A move keeps a memory sound.** -/
theorem Move.sound (h : Move r c locale key found m m') (hm : m.IsSound) : m'.IsSound := by
  cases h with
  | asked j => exact hm.records j m.history
  | loading name => exact hm.records m.journal _
  | @opened name t _ _ _ hown =>
      have hput : (m.put (.under (keyOf name)) t).IsSound :=
        hm.put (isPlain_ownCatalog hown) fun heq => by cases heq
      exact hput.records _ _
  | openedDefault hnone hdefault =>
      exact (hm.putDefault hnone (isPlain_defaultCatalog hdefault) _).records _ _
  | marked name => exact hm.update fun _ ht => ht
  | referring => exact hm.records m.journal _
  | obtained htakes => exact (hm.records m.journal _).settle htakes.plain
  | settled htakes => exact hm.settle htakes.plain

theorem Moves.sound (h : Moves r c locale key found m m') (hm : m.IsSound) : m'.IsSound := by
  induction h with
  | refl => exact hm
  | tail _ hmove ih => exact hmove.sound ih

/-- **A move leaves the default catalog in its place.** -/
theorem Move.defaultPlace (h : Move r c locale key found m m') (hplace : m.defaultPlace = some place) :
    m'.defaultPlace = some place := by
  cases h with
  | asked j => exact hplace
  | loading name => exact hplace
  | opened => exact (Memory.defaultPlace_put m _ _).trans hplace
  | openedDefault hnone => rw [hnone] at hplace; cases hplace
  | marked name => exact (Memory.defaultPlace_update m _ _).trans hplace
  | referring => exact hplace
  | obtained => exact (Memory.defaultPlace_settle (m.record _) _ key _).trans hplace
  | settled => exact (Memory.defaultPlace_settle m _ key _).trans hplace

/-! ## What comes of a catalog -/

/-- **`Grown r c locale key found m m' place`**: a catalog that is at a place before is there afterwards, with
nothing but its gaps filled, and where there is none before, there is none afterwards or one that was read. -/
structure Grown (r : Resolver) (c : Configuration) (locale key : Text) (found : Option Entry)
    (m m' : Memory) (place : Place) : Prop where
  kept : ∀ {t}, m.at? place = some t → ∃ t', m'.at? place = some t' ∧ Backfilled key found t t'
    ∧ (t'.entries = t.entries ∨ IsTouched locale m' place)
  read : ∀ {t'}, m.at? place = none → m'.at? place = some t' →
    ∃ t, r.IsRead c locale m' place t ∧ Backfilled key found t t'

theorem grown_of_eq (h : m'.at? place = m.at? place) : Grown r c locale key found m m' place := by
  refine ⟨fun {t} ht => ⟨t, h.trans ht, .refl key found t, .inl rfl⟩, fun {t'} hnone ht => ?_⟩
  rw [h, hnone] at ht
  cases ht

/-- What is read where there is nothing. -/
theorem grown_of_read (hnone : m.at? place = none) (h : m'.at? place = some t)
    (hread : r.IsRead c locale m' place t) : Grown r c locale key found m m' place := by
  refine ⟨fun {u} hu => ?_, fun {u} _ hu => ?_⟩
  · rw [hnone] at hu
    cases hu
  · rw [h] at hu
    exact ⟨t, hread, Option.some.inj hu ▸ .refl key found t⟩

/-- A catalog that is there is changed. -/
theorem grown_of_filled {t' : Catalog} (hat : m.at? place = some t) (h : m'.at? place = some t')
    (hfilled : Backfilled key found t t') (hentries : t'.entries = t.entries ∨ IsTouched locale m' place) :
    Grown r c locale key found m m' place := by
  refine ⟨fun {u} hu => ?_, fun {u} hnone _ => ?_⟩
  · obtain rfl := Option.some.inj (hat.symm.trans hu)
    exact ⟨t', h, hfilled, hentries⟩
  · rw [hat] at hnone
    cases hnone

theorem Grown.trans (h : Grown r c locale key found m m' place)
    (h' : Grown r c locale key found m' m'' place)
    (hm : ∀ p, m'.defaultPlace = some p → m''.defaultPlace = some p) :
    Grown r c locale key found m m'' place := by
  refine ⟨fun {t} ht => ?_, fun {t''} hnone ht'' => ?_⟩
  · obtain ⟨t', ht', hfilled, hentries⟩ := h.kept ht
    obtain ⟨t'', ht'', hfilled', hentries'⟩ := h'.kept ht'
    refine ⟨t'', ht'', hfilled.trans hfilled', ?_⟩
    rcases hentries with hsame | htouched
    · exact hentries'.imp_left fun hsame' => hsame'.trans hsame
    · exact .inr (htouched.mono hm)
  · cases hat : m'.at? place with
    | none => exact h'.read hat ht''
    | some t' =>
        -- It was read in the meantime, and then its gaps were filled.
        obtain ⟨t, hread, hfilled⟩ := h.read hnone hat
        obtain ⟨u, hu, hfilled', -⟩ := h'.kept hat
        rw [ht''] at hu
        obtain rfl := Option.some.inj hu
        exact ⟨t, hread.mono hm, hfilled.trans hfilled'⟩

theorem Takes.record (h : Takes locale key found m place e) (happening : Happening) :
    Takes locale key found (m.record happening) place e := by
  obtain ⟨t, hat, hlacks⟩ := h.lacks
  exact ⟨h.touched, ⟨t, (Memory.at?_record m place happening).trans hat, hlacks⟩, h.found, h.text, h.plain⟩

/-- A settled entry fills a gap. -/
theorem Takes.grown (h : Takes locale key found m place e) (other : Place) :
    Grown r c locale key found m (m.settle place key e) other := by
  obtain ⟨t, hat, hlacks⟩ := h.lacks
  by_cases heq : other = place
  · subst heq
    refine grown_of_filled hat ?_ (Catalog.backfilled_add h.found hlacks) (.inr ?_)
    · rw [Memory.at?_settle, if_pos rfl, hat]
      rfl
    · exact h.touched.mono fun p hp => (Memory.defaultPlace_settle m other key e).trans hp
  · exact grown_of_eq (by rw [Memory.at?_settle, if_neg heq])

/-- **What a move does at a place.** -/
theorem Move.grown (h : Move r c locale key found m m') (hm : m.IsSound) (place : Place) :
    Grown r c locale key found m m' place := by
  cases h with
  | asked j => exact grown_of_eq (Memory.at?_journal m place j)
  | loading name => exact grown_of_eq (Memory.at?_record m place _)
  | @opened name t htried _ hnone hown =>
      -- The place was free, so nothing is overwritten there.
      by_cases heq : place = .under (keyOf name)
      · subst heq
        refine grown_of_read hnone ?_ (.inl ⟨name, htried, rfl, hown⟩)
        rw [Memory.at?_record, Memory.at?_put_self]
      · refine grown_of_eq ?_
        rw [Memory.at?_record, Memory.at?_put_of_ne m t heq]
  | @openedDefault t hnone hdefault =>
      -- Its place is free as well: under a locale because it is kept apart otherwise, and apart because
      -- only the default catalog is there.
      by_cases heq : place = m.placeForDefault (r.defaultKey t)
      · subst heq
        refine grown_of_read (hm.at?_placeForDefault hnone _) ?_ (.inr ⟨rfl, hdefault⟩)
        rw [Memory.at?_record, Memory.at?_putDefault, if_pos rfl]
      · refine grown_of_eq ?_
        rw [Memory.at?_record, Memory.at?_putDefault, if_neg heq]
  | marked name =>
      by_cases heq : place = .under (keyOf name)
      · subst heq
        have hafter := Memory.at?_update m (.under (keyOf name)) (.under (keyOf name))
          fun t => { t with isBasic := true }
        rw [if_pos rfl] at hafter
        cases hat : m.at? (.under (keyOf name)) with
        | none => exact grown_of_eq (hafter.trans (by rw [hat]; rfl))
        | some t =>
            -- The mark is neither among the headers nor among the entries.
            rw [hat] at hafter
            have hfilled : Backfilled key found t { t with isBasic := true } :=
              ⟨rfl, rfl, rfl, rfl, rfl, rfl, fun h _ => h, fun _ => .inl rfl⟩
            exact grown_of_filled hat hafter hfilled (.inl rfl)
      · refine grown_of_eq ?_
        rw [Memory.at?_update, if_neg heq]
  | referring => exact grown_of_eq (Memory.at?_record m place _)
  | @obtained other _ htakes =>
      have hrecord : Grown r c locale key found m (m.record (.obtained other key)) place :=
        grown_of_eq (Memory.at?_record m place _)
      refine hrecord.trans ((htakes.record _).grown place) fun p hp => ?_
      exact (Memory.defaultPlace_settle _ _ _ _).trans hp
  | settled htakes => exact htakes.grown place

/-- **What a request does at a place**, by induction on its moves. -/
theorem Moves.grown (h : Moves r c locale key found m m') (hm : m.IsSound) (place : Place) :
    Grown r c locale key found m m' place := by
  induction h with
  | refl => exact grown_of_eq rfl
  | tail hmoves hmove ih =>
      exact ih.trans (hmove.grown (Moves.sound hmoves hm) place) fun _ => hmove.defaultPlace

/-- What lacks a text goes on lacking it, or has the one that was found. -/
theorem Lacks.moves (h : Lacks key found m place) (hmoves : Moves r c locale key found m m')
    (hm : m.IsSound) : Lacks key found m' place := by
  obtain ⟨t, ht, hlacks⟩ := h
  obtain ⟨t', ht', hfilled, -⟩ := (hmoves.grown hm place).kept ht
  refine ⟨t', ht', fun f hf => ?_⟩
  rcases hfilled.changed key.fold with hsame | ⟨-, e, hfound, he⟩
  · exact hlacks f (hsame.symm.trans hf)
  · exact .inr (hfound.trans (he.symm.trans hf))

end Resolver

end Phrasebook
