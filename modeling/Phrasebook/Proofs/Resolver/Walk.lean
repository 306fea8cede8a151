import Phrasebook.Proofs.Resolver.Backfill
import Phrasebook.Proofs.Resolver.Questions

/-!
# What a request comes to

A request goes from catalog to catalog: from that of its locale to that of the locale that stands in for it, and to
the default one (`Comes`, `Reaches`). A catalog that is missing when it comes there is read at once
(`Reaches.reads`). A request that fails while a catalog is read has come to that catalog, and leaves no trace of it
but the questions (`halts_of_loading`).
-/

namespace Phrasebook.Resolver

open Phrasebook.Action (Grows)
open Phrasebook.Memory (keyOf)

/-! ## What comes to a catalog -/

/-- **`IsMissing r m name`**: the catalog of a locale is not remembered. -/
def IsMissing (r : Resolver) (m : Memory) (name : Text) : Prop :=
  if r.isDefault name then m.defaultPlace = none else m.catalog? name = none

/-- **`Comes r c locale key m name m'`**: the search for a key in a locale, begun in the memory `m`, comes to the
catalog of the locale `name`, and `m'` is the memory then. -/
inductive Comes (r : Resolver) (c : Configuration) (locale key : Text) (m : Memory) : Text → Memory → Prop
  | home : r.isDefault locale = true → Comes r c locale key m r.defaultLocale m
  | own : r.isDefault locale = false → Comes r c locale key m locale m
  /-- The catalog of the locale does not have the key. -/
  | basic {basic : Text} {m' : Memory} : r.isDefault locale = false →
      (r.lookup c locale key).on m = (.ok none, m') → r.basicFor m' locale = some basic →
      Comes r c locale key m basic m'
  | last {m' : Memory} : r.isDefault locale = false →
      (r.lookup c locale key).on m = (.ok none, m') → r.basicFor m' locale = none →
      Comes r c locale key m r.defaultLocale m'
  /-- Nor does that of the locale that stands in for it. -/
  | lastBasic {basic : Text} {m' m'' : Memory} : r.isDefault locale = false →
      (r.lookup c locale key).on m = (.ok none, m') → r.basicFor m' locale = some basic →
      (r.lookupBasic c basic key).on m' = (.ok none, m'') → Comes r c locale key m r.defaultLocale m''

/-- **`Reaches r c asked key m name m'`**: a request that no hook answers beforehand comes to the catalog of a
locale, and `m'` is the memory then. -/
def Reaches (r : Resolver) (c : Configuration) (asked : Option Text) (key : Text) (m : Memory) (name : Text)
    (m' : Memory) : Prop :=
  ∃ m₀, (r.needed c (r.localeOf asked) key).on m = (.ok none, m₀)
    ∧ r.Comes c (r.localeOf asked) key m₀ name m'

variable {r : Resolver} {c : Configuration} {locale key name : Text} {m m' : Memory} {place : Place}

theorem isMissing_default : r.IsMissing m r.defaultLocale ↔ m.defaultPlace = none := by
  rw [IsMissing, if_pos isDefault_default]

theorem isMissing_of_isDefault (hd : r.isDefault name = false) :
    r.IsMissing m name ↔ m.catalog? name = none := by
  rw [IsMissing, hd]
  rfl

/-! ## The way to a catalog -/

/-- A lookup in vain, as moves on the way to whatever is found elsewhere. -/
theorem lookup_moves (hm : m.IsSound) (hd : r.isDefault locale = false)
    (h : (r.lookup c locale key).on m = (.ok none, m')) (found : Option Entry) : Moves r c locale key found m m' := by
  have hgoes := (lookup_goes (r := r) (c := c) key hm (.inl rfl : IsTried locale locale) hd).1
  rw [h] at hgoes
  exact hgoes.moves_none found

/-- **A search has found nothing when it comes to a catalog.** -/
theorem Comes.moves (h : r.Comes c locale key m name m') (hm : m.IsSound) (found : Option Entry) :
    Moves r c locale key found m m' := by
  cases h with
  | home => exact .refl
  | own => exact .refl
  | basic hd hlookup => exact lookup_moves hm hd hlookup found
  | last hd hlookup => exact lookup_moves hm hd hlookup found
  | lastBasic hd hlookup hbasic hlookupBasic =>
      obtain ⟨hname, hdb⟩ := basic_of_basicFor hbasic
      have hsound := (lookup_moves hm hd hlookup none).sound hm
      have hgoes := (lookupBasic_goes (r := r) (c := c) key hsound (.inr hname) hdb).1
      rw [hlookupBasic] at hgoes
      exact (lookup_moves hm hd hlookup found).trans (hgoes.moves_none found)

theorem Comes.sound (h : r.Comes c locale key m name m') (hm : m.IsSound) : m'.IsSound :=
  (h.moves hm none).sound hm

theorem Reaches.moves {asked : Option Text} (h : r.Reaches c asked key m name m') (hm : m.IsSound)
    (found : Option Entry) : Moves r c (r.localeOf asked) key found m m' := by
  obtain ⟨m₀, hneeded, hcomes⟩ := h
  have hmoves : Moves r c (r.localeOf asked) key found m m₀ := by
    have hquiet : Moves r c (r.localeOf asked) key found m ((r.needed c (r.localeOf asked) key).on m).2 :=
      moves_of_quiet (r.quiet_asked c _ _) m
    rw [hneeded] at hquiet
    exact hquiet
  exact hmoves.trans (hcomes.moves (hmoves.sound hm) found)

/-! ## What is missing is read -/

/-- **`Reads r c name m m'`**: what was done in the memory `m` began with reading the catalog of a locale. -/
structure Reads (r : Resolver) (c : Configuration) (name : Text) (m m' : Memory) : Prop where
  asks : m.journal ++ r.questions c name (r.isDefault name) <+: m'.journal
  loads : m.history ++ [.loading name] <+: m'.history

theorem Reads.bind {α β : Type} {x : Action α} {f : α → Action β} (h : r.Reads c name m' (x.on m).2)
    (hf : ∀ a, Grows (f a)) : r.Reads c name m' ((x >>= f).on m).2 := by
  rw [Action.on_bind]
  revert h
  obtain ⟨o, m₁⟩ := x.on m
  intro h
  cases o with
  | error e => exact h
  | ok a => exact ⟨h.asks.trans (hf a m₁).1, h.loads.trans (hf a m₁).2⟩

theorem catalog_reads (r : Resolver) (c : Configuration) (name : Text) (m : Memory) :
    r.Reads c name m ((r.catalog c name (r.isDefault name)).on m).2 := by
  rw [catalog_puts]
  exact ⟨List.prefix_refl _, List.prefix_refl _⟩

theorem openCatalog_reads (hd : r.isDefault name = false) (hmissing : r.IsMissing m name) :
    r.Reads c name m ((r.openCatalog c name).on m).2 := by
  have hread := catalog_reads r c name m
  rw [isMissing_of_isDefault hd] at hmissing
  rw [hd] at hread
  unfold openCatalog
  rw [Action.on_bind_ok (Action.on_get m), hmissing]
  exact hread.bind fun t => put_grows name _

theorem openDefault_reads (hmissing : r.IsMissing m r.defaultLocale) :
    r.Reads c r.defaultLocale m ((r.openDefault c).on m).2 := by
  have hread := catalog_reads r c r.defaultLocale m
  rw [isMissing_default] at hmissing
  rw [isDefault_default] at hread
  unfold openDefault
  rw [Action.on_bind_ok (Action.on_get m), hmissing]
  exact hread.bind fun t => Action.grows_get.bind fun m => putDefault_grows _ _ _

theorem searchDefault_reads (key : Text) (tried : List Text) (hmissing : r.IsMissing m r.defaultLocale) :
    r.Reads c r.defaultLocale m ((r.searchDefault c key tried).on m).2 :=
  (openDefault_reads hmissing).bind (usableDefault_grows key tried)

/-- What a search does after a lookup in vain. -/
theorem searchLocale_on_none (h : (r.lookup c locale key).on m = (.ok none, m')) :
    (r.searchLocale c locale key).on m = (match r.basicFor m' locale with
      | none => r.searchDefault c key [locale]
      | some basic => do
        match ← r.lookupBasic c basic key with
        | some e =>
          remember key e [locale]
          return some e
        | none => r.searchDefault c key [locale, basic]).on m' := by
  unfold searchLocale
  rw [Action.on_bind_ok h]
  exact Action.on_bind_ok (Action.on_get m') _

theorem search_of_isDefault (hd : r.isDefault locale = true) :
    r.search c locale key = r.searchDefault c key [] := if_pos hd

theorem search_of_not_isDefault (hd : r.isDefault locale = false) :
    r.search c locale key = r.searchLocale c locale key := by
  rw [search, hd]
  rfl

/-- **A search that comes to a catalog that is missing reads it.** -/
theorem Comes.reads (h : r.Comes c locale key m name m') (hmissing : r.IsMissing m' name) :
    r.Reads c name m' ((r.search c locale key).on m).2 := by
  -- One case for each way on which a search comes to a catalog: the steps before left the memory that it is read in.
  cases h with
  | home hd =>
      rw [search_of_isDefault hd]
      exact searchDefault_reads key [] hmissing
  | own hd =>
      rw [search_of_not_isDefault hd]
      have hlookup : r.Reads c locale m ((r.lookup c locale key).on m).2 :=
        (openCatalog_reads hd hmissing).bind fun _ => usable_grows _ key
      exact hlookup.bind (afterOwn_grows locale key)
  | basic hd hlookup hbasic =>
      rw [search_of_not_isDefault hd, searchLocale_on_none hlookup, hbasic]
      have hread : r.Reads c name m' ((r.lookupBasic c name key).on m').2 :=
        (openCatalog_reads (basic_of_basicFor hbasic).2 hmissing).bind fun _ =>
          (mark_grows _).bind fun _ => usable_grows _ key
      exact hread.bind (afterBasic_grows locale name key)
  | last hd hlookup hbasic =>
      rw [search_of_not_isDefault hd, searchLocale_on_none hlookup, hbasic]
      exact searchDefault_reads key _ hmissing
  | lastBasic hd hlookup hbasic hlookupBasic =>
      rw [search_of_not_isDefault hd, searchLocale_on_none hlookup, hbasic]
      dsimp only
      rw [Action.on_bind_ok hlookupBasic]
      exact searchDefault_reads key _ hmissing

/-- A request that no hook answers beforehand, as far as its search goes. -/
theorem resolve_on {asked : Option Text} (h : (r.needed c (r.localeOf asked) key).on m = (.ok none, m')) :
    (r.resolve c asked key).on m
      = (r.search c (r.localeOf asked) key >>= r.told c (r.localeOf asked) key).on m' := by
  rw [resolve_eq, Action.on_bind_ok h]

/-- **A request that comes to a catalog that is missing reads it.** -/
theorem Reaches.reads {asked : Option Text} (h : r.Reaches c asked key m name m')
    (hmissing : r.IsMissing m' name) : r.Reads c name m' ((r.resolve c asked key).on m).2 := by
  obtain ⟨m₀, hneeded, hcomes⟩ := h
  rw [resolve_on hneeded]
  exact (hcomes.reads hmissing).bind (told_grows _ key)

/-! ## Where a request fails -/

/-- **`Unread r c name m x m'`**: the catalog of a locale is missing and cannot be read, and that leaves no more than
the questions. -/
structure Unread (r : Resolver) (c : Configuration) (name : Text) (m : Memory) (x : Failure) (m' : Memory) : Prop where
  missing : r.IsMissing m name
  failure : r.catalogOf c name (r.isDefault name) = .error x
  memory : m' = { m.record (.loading name) with journal := m.journal ++ r.questions c name (r.isDefault name) }

/-- **`Halts r c locale key m x m'`**: where a search fails. -/
inductive Halts (r : Resolver) (c : Configuration) (locale key : Text) (m : Memory) (x : Failure) : Memory → Prop
  /-- The catalog that it has come to cannot be read. -/
  | reading {name : Text} {m' m'' : Memory} : r.Comes c locale key m name m' → r.Unread c name m' x m'' →
      Halts r c locale key m x m''
  /-- The file that an entry refers to cannot be read. -/
  | referring (m' : Memory) (place : Place) (j : List Event) :
      Halts r c locale key m x { m'.record (.referring place key) with journal := j }

variable {x : Failure} {m'' : Memory} {asked : Option Text}

/-- A catalog that is read for a purpose that does not fail. -/
theorem unread_of_catalog {α : Type} {f : Option Catalog → Action α} (hmissing : r.IsMissing m name)
    (hf : ∀ t m x m', (f t).on m ≠ (.error x, m'))
    (h : (r.catalog c name (r.isDefault name) >>= f).on m = (.error x, m')) : r.Unread c name m x m' := by
  rw [Action.on_bind, catalog_puts] at h
  cases hread : r.catalogOf c name (r.isDefault name) with
  | error y =>
      rw [hread] at h
      obtain ⟨hx, hm'⟩ := Prod.mk.inj h
      obtain rfl := Except.error.inj hx
      exact ⟨hmissing, hread, hm'.symm⟩
  | ok t =>
      rw [hread] at h
      exact absurd h (hf t _ x m')

theorem openCatalog_error (hd : r.isDefault name = false) (h : (r.openCatalog c name).on m = (.error x, m')) :
    r.Unread c name m x m' := by
  unfold openCatalog at h
  rw [Action.on_bind_ok (Action.on_get m)] at h
  by_cases hnone : (m.catalog? name).isNone = true
  · rw [if_pos hnone, ← hd] at h
    have hmissing : r.IsMissing m name := (isMissing_of_isDefault hd).mpr (Option.isNone_iff_eq_none.mp hnone)
    exact unread_of_catalog hmissing (fun _ _ _ _ hput => by cases (Prod.mk.inj hput).1) h
  · rw [if_neg hnone] at h
    cases (Prod.mk.inj h).1

theorem openDefault_error (h : (r.openDefault c).on m = (.error x, m')) : r.Unread c r.defaultLocale m x m' := by
  unfold openDefault at h
  rw [Action.on_bind_ok (Action.on_get m)] at h
  cases hplace : m.defaultPlace with
  | some place =>
      rw [hplace] at h
      cases (Prod.mk.inj h).1
  | none =>
      rw [hplace, ← isDefault_default (r := r)] at h
      exact unread_of_catalog (isMissing_default.mpr hplace) (fun _ _ _ _ hput => by cases (Prod.mk.inj hput).1) h

theorem usable_error (hm : m.IsSound) (h : (r.usable place key).on m = (.error x, m')) :
    ∃ m₁ j, m' = { Memory.record m₁ (.referring place key) with journal := j } := by
  have hused := usable_used (r := r) hm place key
  rw [h] at hused
  cases hused with
  | unread j => exact ⟨m, j, rfl⟩

theorem remember_on (key : Text) (e : Entry) (tried : List Text) (m : Memory) :
    ((remember key e tried).on m).1 = .ok () := by
  induction tried generalizing m with
  | nil => rfl
  | cons name rest ih =>
      rw [remember, Action.on_bind_ok (Action.on_change _ m)]
      exact ih _

/-- What is found is remembered, and that does not fail. -/
theorem hit_ne_error {e : Entry} {tried : List Text} :
    ((remember key e tried >>= fun _ => pure (some e) : Action (Option Entry))).on m ≠ (.error x, m') := by
  intro h
  rcases Action.error_of_bind h with hremember | ⟨_, _, -, hpure⟩
  · have hok := remember_on key e tried m
    rw [hremember] at hok
    cases hok
  · cases (Prod.mk.inj hpure).1

/-- The search in the default catalog fails in one of these ways. -/
theorem searchDefault_halts {tried : List Text} (hm : m.IsSound) (hcomes : r.Comes c locale key m r.defaultLocale m')
    (h : (r.searchDefault c key tried).on m' = (.error x, m'')) : r.Halts c locale key m x m'' := by
  rcases Action.error_of_bind h with hopen | ⟨place, m₁, hopen, hrest⟩
  · exact .reading hcomes (openDefault_error hopen)
  have hmoves := (openDefault_moves (r := r) (c := c) locale key none m').1
  rw [hopen] at hmoves
  rcases Action.error_of_bind hrest with husable | ⟨found, m₂, -, hhit⟩
  · obtain ⟨m₂, j, rfl⟩ := usable_error (hmoves.sound (hcomes.sound hm)) husable
    exact .referring m₂ place j
  · cases found with
    | none => cases (Prod.mk.inj hhit).1
    | some e => exact absurd hhit hit_ne_error

/-- So does what begins with opening the catalog of another locale, unless it fails after that. -/
theorem openCatalog_halts {α : Type} {f : Unit → Action α} (hm : m.IsSound) (hcomes : r.Comes c locale key m name m')
    (hd : r.isDefault name = false) (h : (r.openCatalog c name >>= f).on m' = (.error x, m'')) :
    r.Halts c locale key m x m'' ∨ ∃ m₁, m₁.IsSound ∧ (f ()).on m₁ = (.error x, m'') := by
  rcases Action.error_of_bind h with hopen | ⟨_, m₁, hopen, hrest⟩
  · exact .inl (.reading hcomes (openCatalog_error hd hopen))
  · have hmoves := (openCatalog_moves (c := c) key none (.inl rfl : IsTried name name) hd m').1
    rw [hopen] at hmoves
    exact .inr ⟨m₁, hmoves.sound (hcomes.sound hm), hrest⟩

theorem lookup_halts (hm : m.IsSound) (hcomes : r.Comes c locale key m name m') (hd : r.isDefault name = false)
    (h : (r.lookup c name key).on m' = (.error x, m'')) : r.Halts c locale key m x m'' := by
  rcases openCatalog_halts hm hcomes hd h with hhalts | ⟨m₁, hsound, husable⟩
  · exact hhalts
  · obtain ⟨m₂, j, rfl⟩ := usable_error hsound husable
    exact .referring m₂ _ j

theorem lookupBasic_halts (hm : m.IsSound) (hcomes : r.Comes c locale key m name m') (hd : r.isDefault name = false)
    (h : (r.lookupBasic c name key).on m' = (.error x, m'')) : r.Halts c locale key m x m'' := by
  rcases openCatalog_halts hm hcomes hd h with hhalts | ⟨m₁, hsound, hrest⟩
  · exact hhalts
  · -- The catalog is marked before its entry is used.
    rw [Action.on_bind_ok (Action.on_change _ m₁)] at hrest
    have hmarked : (m₁.update (.under (keyOf name)) fun t => { t with isBasic := true }).IsSound :=
      hsound.update fun _ ht => ht
    obtain ⟨m₂, j, rfl⟩ := usable_error hmarked hrest
    exact .referring m₂ _ j

/-- **A search that fails halts at a catalog that is missing**, or at the file of a reference. -/
theorem search_halts (hm : m.IsSound) (h : (r.search c locale key).on m = (.error x, m')) :
    r.Halts c locale key m x m' := by
  by_cases hd : r.isDefault locale = true
  · rw [search_of_isDefault hd] at h
    exact searchDefault_halts hm (.home hd) h
  have hd : r.isDefault locale = false := Bool.eq_false_iff.mpr hd
  rw [search_of_not_isDefault hd] at h
  -- A search is halted at the first catalog that cannot be read, and those before it lacked the key.
  rcases Action.error_of_bind h with hlookup | ⟨found, m₁, hlookup, hrest⟩
  · exact lookup_halts hm (.own hd) hd hlookup
  cases found with
  | some e => cases (Prod.mk.inj hrest).1
  | none =>
      rw [searchLocale_on_none hlookup] at h
      cases hbasic : r.basicFor m₁ locale with
      | none =>
          rw [hbasic] at h
          exact searchDefault_halts hm (.last hd hlookup hbasic) h
      | some basic =>
          rw [hbasic] at h
          rcases Action.error_of_bind h with hlookupBasic | ⟨found, m₂, hlookupBasic, hlast⟩
          · exact lookupBasic_halts hm (.basic hd hlookup hbasic) (basic_of_basicFor hbasic).2 hlookupBasic
          · cases found with
            | some e => exact absurd hlast hit_ne_error
            | none => exact searchDefault_halts hm (.lastBasic hd hlookup hbasic hlookupBasic) hlast

/-- What the hooks are asked changes neither the catalogs nor the history. -/
theorem needed_on (r : Resolver) (c : Configuration) (locale key : Text) (m : Memory) :
    ∃ j, (r.needed c locale key).on m = (r.askedOf c (r.hooks.valueNeeded.map fun ask => ask locale key),
      { m with journal := j }) := by
  obtain ⟨j, hon⟩ := r.quiet_asked c (.valueNeeded locale key) (r.hooks.valueNeeded.map fun ask => ask locale key) m
  rw [List.append_nil] at hon
  exact ⟨_, hon⟩

/-- A request is answered by a hook beforehand, or it searches. -/
theorem quiet_or_needed (r : Resolver) (c : Configuration) (asked : Option Text) (key : Text) (m : Memory) :
    (∃ o j, (r.resolve c asked key).on m = (o, { m with journal := j }))
      ∨ ∃ j, (r.needed c (r.localeOf asked) key).on m = (.ok none, { m with journal := j }) := by
  obtain ⟨j, hon⟩ := needed_on r c (r.localeOf asked) key m
  have hresolve := r.resolve_eq c key asked
  cases hreply : r.askedOf c (r.hooks.valueNeeded.map fun ask => ask (r.localeOf asked) key) with
  | error x =>
      rw [hreply] at hon
      exact .inl ⟨_, j, hresolve ▸ Action.on_bind_error hon _⟩
  | ok supplied =>
      rw [hreply] at hon
      cases supplied with
      | some e => exact .inl ⟨_, j, hresolve ▸ Action.on_bind_ok hon _⟩
      | none => exact .inr ⟨j, hon⟩

/-- A search that comes through does not end while a catalog is read. -/
theorem search_ne_loading {found : Option Entry} {before : List Happening}
    (h : (r.search c locale key).on m = (.ok found, m')) :
    m'.history ≠ m.history ++ (before ++ [.loading name]) := by
  intro hhistory
  obtain ⟨new, hnew, -, hfinished⟩ := r.search_begins c locale key m
  rw [h] at hnew hfinished
  have hlast : new = before ++ [.loading name] := List.append_cancel_left (hnew.symm.trans hhistory)
  rcases hfinished _ _ _ hlast with ⟨_, _, hafter⟩ | ⟨-, hfalse⟩
  · cases hafter
  · cases hfalse

/-- **A search that ends while a catalog is read halts there**, whatever would be told of what it finds. -/
theorem search_halts_of_loading (hm : m.IsSound) {before : List Happening}
    (h : ((r.search c locale key >>= r.told c locale key).on m).2.history
      = m.history ++ (before ++ [.loading name])) :
    ∃ m' x m'', r.Comes c locale key m name m' ∧ r.Unread c name m' x m''
      ∧ (r.search c locale key >>= r.told c locale key).on m = (.error x, m'') := by
  cases hsearch : (r.search c locale key).on m with
  | mk o m₁ =>
  cases o with
  | ok found =>
      obtain ⟨o, htold⟩ := quiet_told (r := r) (c := c) locale key found
      obtain ⟨j, hon⟩ := htold m₁
      rw [Action.on_bind_ok hsearch, hon, List.append_nil] at h
      exact (search_ne_loading hsearch h).elim
  | error x =>
      rw [Action.on_bind_error hsearch] at h ⊢
      -- The name is the last thing in the history.
      have hlast : ∀ z (m' : Memory), m₁.history = (m'.record z).history → z = .loading name := by
        intro z m' hz
        rw [← List.append_assoc, hz] at h
        exact (List.cons.inj (List.append_inj' h rfl).2).1
      cases search_halts hm hsearch with
      | @reading name' m' _ hcomes hunread =>
          have hhistory := congrArg Memory.history hunread.memory
          obtain rfl := Happening.loading.inj (hlast (.loading name') m' hhistory)
          exact ⟨m', x, m₁, hcomes, hunread, rfl⟩
      | referring m' place j => cases hlast _ m' rfl

/-- **A request that ends while a catalog is read has come to that catalog**, which was missing and cannot be
read, and has left the memory as it was when it came there. -/
theorem halts_of_loading (hm : m.IsSound) {before : List Happening}
    (h : ((r.resolve c asked key).on m).2.history = m.history ++ (before ++ [.loading name])) :
    ∃ m' x m'', r.Reaches c asked key m name m' ∧ r.Unread c name m' x m''
      ∧ (r.resolve c asked key).on m = (.error x, m'') := by
  rcases quiet_or_needed r c asked key m with ⟨o, j, hon⟩ | ⟨j, hneeded⟩
  · -- What a hook answers ends nowhere near a catalog.
    rw [hon] at h
    have hnil : m.history ++ [] = m.history ++ (before ++ [.loading name]) := (List.append_nil _).trans h
    exact absurd (List.append_cancel_left hnil).symm
      (List.append_ne_nil_of_right_ne_nil before (List.cons_ne_nil _ _))
  · rw [resolve_on hneeded] at h ⊢
    obtain ⟨m', x, m'', hcomes, hunread, hon⟩ := search_halts_of_loading (hm.records j m.history) h
    exact ⟨m', x, m'', ⟨_, hneeded, hcomes⟩, hunread, hon⟩

end Phrasebook.Resolver
