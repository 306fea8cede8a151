import Phrasebook.Proofs.Resolver.Loads

/-!
# What a resolver asks

Reading a catalog puts certain questions in a certain order (`questions`, `catalog_puts`): the hook that may supply
the content comes first, and then the files of the locale, up to the first one that has any. Whatever else a
request does, it takes nothing back that is in the journal or in the history (`Grows`).
-/

namespace Phrasebook

namespace Action

variable {α β : Type}

/-! ## Questions -/

/-- **`Puts x es o`**: the action has the outcome `o` in every memory, puts the questions `es`, and changes
nothing else. -/
def Puts (x : Action α) (es : List Event) (o : Outcome α) : Prop :=
  ∀ m, x.on m = (o, { m with journal := m.journal ++ es })

theorem puts_of_on {x : Action α} {o : Outcome α} (h : ∀ m, x.on m = (o, m)) : Puts x [] o := by
  intro m
  rw [List.append_nil]
  exact h m

theorem puts_pure (a : α) : Puts (pure a) [] (.ok a) := puts_of_on fun _ => rfl

theorem puts_lift (o : Outcome α) : Puts (liftM o) [] o := puts_of_on fun _ => rfl

theorem puts_note (e : Event) : Puts (Resolver.note e) [e] (.ok ()) := fun _ => rfl

theorem Puts.bind {x : Action α} {a : α} {es es' : List Event} (hx : Puts x es (.ok a)) {f : α → Action β}
    {o : Outcome β} (hf : Puts (f a) es' o) : Puts (x >>= f) (es ++ es') o := by
  intro m
  rw [on_bind_ok (hx m), hf, List.append_assoc]

theorem Puts.bind_error {x : Action α} {e : Failure} {es : List Event} (hx : Puts x es (.error e))
    (f : α → Action β) : Puts (x >>= f) es (.error e) :=
  fun m => on_bind_error (hx m) f

/-! ## Growing records -/

/-- **`Grows x`**: whether it comes through or fails, an action adds to the journal and to the history. -/
def Grows (x : Action α) : Prop :=
  ∀ m, m.journal <+: (x.on m).2.journal ∧ m.history <+: (x.on m).2.history

theorem Grows.bind {x : Action α} {f : α → Action β} (hx : Grows x) (hf : ∀ a, Grows (f a)) :
    Grows (x >>= f) := by
  intro m
  have hfirst := hx m
  rw [on_bind]
  revert hfirst
  obtain ⟨o, m'⟩ := x.on m
  intro hfirst
  cases o with
  | error e => exact hfirst
  | ok a => exact ⟨hfirst.1.trans (hf a m').1, hfirst.2.trans (hf a m').2⟩

theorem Adds.grows {x : Action α} {hs : List Happening} {o : Outcome α} (h : Adds x hs o) : Grows x := by
  intro m
  obtain ⟨j, hon⟩ := h m
  rw [hon]
  exact ⟨List.prefix_append _ _, List.prefix_append _ _⟩

theorem grows_pure (a : α) : Grows (pure a : Action α) := (quiet_pure a).grows

theorem grows_get : Grows (get : Action Memory) := fun _ => ⟨List.prefix_refl _, List.prefix_refl _⟩

/-- A change of the catalogs. -/
theorem grows_change {f : Memory → Memory} (hjournal : ∀ m, (f m).journal = m.journal)
    (hhistory : ∀ m, (f m).history = m.history) : Grows (Resolver.change f) := by
  intro m
  rw [on_change]
  exact ⟨hjournal m ▸ List.prefix_refl _, hhistory m ▸ List.prefix_refl _⟩

end Action

namespace Resolver

open Phrasebook.Action (Puts puts_pure puts_lift puts_note Grows grows_pure grows_get grows_change)
open Phrasebook.Memory (keyOf)

/-! ## The questions for the files of a locale -/

section Questions

variable (r : Resolver) (c : Configuration)

/-- The files that are asked for, up to the first one that has any content. -/
def loadsOf (origin : Option Text) : List Text → List Event
  | [] => []
  | name :: rest =>
    .load name origin :: if (r.contentOf name origin).isSome then [] else loadsOf origin rest

/-- The files that may be asked for when the catalog of a locale is read. Where the default file has no known
format, they are only those that the configuration lists. -/
def namesOf (locale : Text) (includesDefault : Bool) : List Text :=
  match r.candidates c locale includesDefault with
  | .ok names => names
  | .error _ => listedFiles c locale

/-- **`questions r c locale includesDefault`**: what is asked when the catalog of a locale is read, first of the
hook that may supply the content and, if it does not, of the source. -/
def questions (locale : Text) (includesDefault : Bool) : List Event :=
  (if r.hooks.contentNeeded.isSome then [.contentNeeded c.defaultFile locale] else [])
    ++ if (r.suppliedOf c locale).isSome then []
      else r.loadsOf (origin c) (r.namesOf c locale includesDefault)

/-- The files after some others are asked for if none of those has any content. -/
theorem loadsOf_append (origin : Option Text) (names more : List Text) :
    r.loadsOf origin (names ++ more) = r.loadsOf origin names
      ++ if (r.firstOf origin names).isSome then [] else r.loadsOf origin more := by
  induction names with
  | nil => rfl
  | cons name rest ih =>
      rw [List.cons_append, loadsOf, loadsOf, firstOf, ih]
      cases r.contentOf name origin <;> rfl

theorem puts_load (name : Text) (origin : Option Text) :
    Puts (r.load name origin) [.load name origin] (.ok (r.contentOf name origin)) :=
  (puts_note _).bind (puts_pure _)

theorem puts_firstFile (origin : Option Text) (names : List Text) :
    Puts (r.firstFile origin names) (r.loadsOf origin names) (.ok (r.firstOf origin names)) := by
  induction names with
  | nil => exact puts_pure none
  | cons name rest ih =>
      refine (r.puts_load name origin).bind ?_
      rw [firstOf]
      cases r.contentOf name origin with
      | some b => exact puts_pure _
      | none => exact ih

theorem puts_supplied (locale : Text) :
    Puts (r.supplied c locale)
      (if r.hooks.contentNeeded.isSome then [.contentNeeded c.defaultFile locale] else [])
      (.ok (r.suppliedOf c locale)) := by
  unfold supplied suppliedOf
  cases r.hooks.contentNeeded with
  | none => exact puts_pure none
  | some ask => exact (puts_note _).bind (puts_pure _)

/-- The files in the order in which they are asked for. -/
theorem puts_files (locale : Text) (includesDefault : Bool) :
    Puts (do
        match ← r.firstFile (origin c) (listedFiles c locale) with
        | some file => return some file
        | none =>
          let f ← r.format c
          r.firstFile (origin c) (furtherFiles c f locale includesDefault))
      (r.loadsOf (origin c) (r.namesOf c locale includesDefault))
      (match r.firstOf (origin c) (listedFiles c locale) with
        | some file => .ok (some file)
        | none => do
          let f ← r.format c
          return r.firstOf (origin c) (furtherFiles c f locale includesDefault)) := by
  have hlisted := r.puts_firstFile (origin c) (listedFiles c locale)
  unfold namesOf candidates
  -- The listed files are asked for before the format is, so they are asked for even if there is none.
  cases r.format c with
  | error x =>
      rw [← List.append_nil (r.loadsOf _ _)]
      refine hlisted.bind ?_
      cases r.firstOf (origin c) (listedFiles c locale) with
      | some file => exact puts_pure _
      | none => exact puts_lift _
  | ok f =>
      show Puts _ (r.loadsOf (origin c) (listedFiles c locale ++ furtherFiles c f locale includesDefault)) _
      rw [loadsOf_append]
      refine hlisted.bind ?_
      cases r.firstOf (origin c) (listedFiles c locale) with
      | some file => exact puts_pure _
      | none => exact r.puts_firstFile _ _

theorem puts_localeFile (locale : Text) (includesDefault : Bool) :
    Puts (r.localeFile c locale includesDefault) (r.questions c locale includesDefault)
      (r.fileOf c locale includesDefault) := by
  refine (r.puts_supplied c locale).bind ?_
  unfold fileOf
  cases r.suppliedOf c locale with
  | some content => exact puts_pure _
  | none => exact r.puts_files c locale includesDefault

/-- **Reading a catalog puts the questions for the files of its locale**, and no others. -/
theorem catalog_puts (locale : Text) (includesDefault : Bool) (m : Memory) :
    (r.catalog c locale includesDefault).on m = (r.catalogOf c locale includesDefault,
      { m.record (.loading locale) with journal := m.journal ++ r.questions c locale includesDefault }) := by
  have hfile := r.puts_localeFile c locale includesDefault
  unfold catalog catalogOf
  rw [Action.on_bind_ok (Action.on_record _ m)]
  cases hof : r.fileOf c locale includesDefault with
  | error x =>
      rw [hof] at hfile
      exact hfile.bind_error _ (m.record (.loading locale))
  | ok file =>
      rw [hof] at hfile
      rw [Action.on_bind_ok (hfile _)]
      cases file with
      | none => rfl
      | some file => rfl

end Questions

/-! ## What a request adds to the records -/

variable {r : Resolver} {c : Configuration}

theorem settle_grows (place : Place) (key : Text) (e : Entry) : Grows (change (·.settle place key e)) := by
  intro m
  rw [Action.on_change, Memory.journal_settle, Memory.history_settle]
  exact ⟨List.prefix_refl _, List.prefix_append _ _⟩

theorem record_grows (h : Happening) : Grows (record h) := (Action.adds_record h).grows

theorem usable_grows (place : Place) (key : Text) : Grows (r.usable place key) := by
  refine grows_get.bind fun m => ?_
  split
  · exact grows_pure none
  · split
    · exact grows_pure none
    · split
      · exact grows_pure _
      · split
        · exact grows_pure none
        · refine (record_grows _).bind fun _ => (r.quiet_referredText _ _).grows.bind fun text => ?_
          split
          · exact grows_pure none
          · refine (record_grows _).bind fun _ => (Action.quiet_lift _).grows.bind fun e => ?_
            exact (settle_grows _ _ e).bind fun _ => grows_pure _

theorem remember_grows (key : Text) (e : Entry) (tried : List Text) : Grows (remember key e tried) := by
  induction tried with
  | nil => exact grows_pure ()
  | cons name rest ih => exact (settle_grows _ key e).bind fun _ => ih

theorem put_grows (name : Text) (t : Catalog) :
    Grows (do
      change (·.put (.under (keyOf name)) t)
      record (.loaded name (.under (keyOf name)))) := by
  refine (grows_change (fun m => ?_) fun m => ?_).bind fun _ => record_grows _
  · exact Memory.journal_put m _ t
  · exact Memory.history_put m _ t

theorem openCatalog_grows (name : Text) : Grows (r.openCatalog c name) := by
  refine grows_get.bind fun m => ?_
  split
  · exact (r.adds_catalog c name false).grows.bind fun t => put_grows name _
  · exact grows_pure ()

theorem putDefault_grows (key : Text) (t : Catalog) (place : Place) :
    Grows (do
      change (·.putDefault key t)
      record (.loaded r.defaultLocale place)
      return place) := by
  refine (grows_change (fun m => ?_) fun m => ?_).bind fun _ => (record_grows _).bind fun _ => grows_pure place
  · exact Memory.journal_putDefault m key t
  · exact Memory.history_putDefault m key t

theorem openDefault_grows : Grows (r.openDefault c) := by
  refine grows_get.bind fun m => ?_
  split
  · exact grows_pure _
  · exact (r.adds_catalog c _ true).grows.bind fun t => grows_get.bind fun m => putDefault_grows _ _ _

theorem mark_grows (place : Place) : Grows (change (·.update place fun t => { t with isBasic := true })) :=
  grows_change (fun m => Memory.journal_update m place _) fun m => Memory.history_update m place _

theorem lookupBasic_grows (name key : Text) : Grows (r.lookupBasic c name key) :=
  (openCatalog_grows name).bind fun _ => (mark_grows _).bind fun _ => usable_grows _ key

/-- What is found in the default catalog. -/
theorem usableDefault_grows (key : Text) (tried : List Text) (place : Place) :
    Grows (do
      match ← r.usable place key with
      | some e =>
        remember key e tried
        return some e
      | none => return none) := by
  refine (usable_grows place key).bind fun found => ?_
  cases found with
  | none => exact grows_pure none
  | some e => exact (remember_grows key e tried).bind fun _ => grows_pure _

theorem searchDefault_grows (key : Text) (tried : List Text) : Grows (r.searchDefault c key tried) :=
  openDefault_grows.bind (usableDefault_grows key tried)

/-- What follows a lookup in the catalog of the locale that stands in. -/
theorem afterBasic_grows (locale basic key : Text) (found : Option Entry) :
    Grows (match found with
      | some e => do
        remember key e [locale]
        return some e
      | none => r.searchDefault c key [locale, basic]) := by
  cases found with
  | none => exact searchDefault_grows key _
  | some e => exact (remember_grows key e _).bind fun _ => grows_pure _

/-- What follows a lookup in the catalog of the locale. -/
theorem afterOwn_grows (locale key : Text) (found : Option Entry) :
    Grows (match found with
      | some e => return some e
      | none => do
        match r.basicFor (← get) locale with
        | none => r.searchDefault c key [locale]
        | some basic =>
          match ← r.lookupBasic c basic key with
          | some e =>
            remember key e [locale]
            return some e
          | none => r.searchDefault c key [locale, basic]) := by
  cases found with
  | some e => exact grows_pure _
  | none =>
      refine grows_get.bind fun m => ?_
      cases r.basicFor m locale with
      | none => exact searchDefault_grows key _
      | some basic => exact (lookupBasic_grows basic key).bind (afterBasic_grows locale basic key)

theorem told_grows (locale key : Text) (found : Option Entry) : Grows (r.told c locale key found) := by
  cases found with
  | none => exact (r.quiet_asked c _ _).grows
  | some e => exact (r.quiet_found c locale key e).grows

end Resolver

end Phrasebook
