import Mathlib.Data.List.Nodup
import Phrasebook.Proofs.Resolver.Candidates
import Phrasebook.Proofs.Resolver.Memory
import Phrasebook.Proofs.Resolver.Search

/-!
# How often anything is asked

The journal and the history of a resolver only grow (`Extends`). Reading a catalog asks for no file twice
(`catalog_asks`), and a request begins to read three catalogs at most (`resolve_begins`): that of the locale,
that of the locale that stands in for it, and the default one. The history tells of each of them that it came
through, unless the request failed there (`Finished`).
-/

namespace Phrasebook

namespace Event

/-- The name of the file that is asked for. -/
def file? : Event → Option Text
  | load name _ => some name
  | _ => none

end Event

namespace Happening

/-- Whether a load begins. -/
def isLoading : Happening → Bool
  | loading _ => true
  | _ => false

/-- **`Finished through hs`**: every load that begins comes through, but for the last one where not everything
does. -/
def Finished (through : Bool) (hs : List Happening) : Prop :=
  ∀ before locale after, hs = before ++ .loading locale :: after →
    (∃ place rest, after = .loaded locale place :: rest) ∨ after = [] ∧ through = false

variable {through : Bool} {hs hs' : List Happening}

theorem finished_of_countP (h : hs.countP isLoading = 0) : Finished through hs := by
  intro before locale after heq
  have hmem : loading locale ∈ hs := heq ▸ List.mem_append_right before List.mem_cons_self
  exact absurd rfl (List.countP_eq_zero.mp h _ hmem)

/-- **What comes through, and then something else.** -/
theorem Finished.append (h : Finished true hs) (h' : Finished through hs') : Finished through (hs ++ hs') := by
  intro before locale after heq
  rcases List.append_eq_append_iff.mp heq with ⟨l, -, hrest⟩ | ⟨l, hfirst, hrest⟩
  · exact h' l locale after hrest
  · cases l with
    | nil => exact h' [] locale after hrest.symm
    | cons z l =>
        obtain ⟨rfl, rfl⟩ := List.cons.inj hrest
        rcases h before locale l hfirst with ⟨place, rest, rfl⟩ | ⟨-, hfalse⟩
        · exact .inl ⟨place, rest ++ hs', rfl⟩
        · cases hfalse

theorem finished_loading (locale : Text) : Finished false [.loading locale] := by
  intro before other after heq
  refine .inr ⟨?_, rfl⟩
  have hlength := congrArg List.length heq
  rw [List.length_singleton, List.length_append, List.length_cons] at hlength
  exact List.length_eq_zero_iff.mp (by omega)

theorem finished_loaded (locale : Text) (place : Place) :
    Finished through [.loading locale, .loaded locale place] := by
  intro before other after heq
  cases before with
  | nil =>
      obtain ⟨hlocale, hafter⟩ := List.cons.inj heq
      obtain rfl := Happening.loading.inj hlocale
      exact .inl ⟨place, [], hafter.symm⟩
  | cons z rest =>
      have hmem : loading other ∈ [loaded locale place] := by
        rw [(List.cons.inj heq).2]
        exact List.mem_append_right rest List.mem_cons_self
      cases List.mem_singleton.mp hmem

end Happening

namespace Action

variable {α β γ : Type} {log : Memory → List γ} {Q Q' R : Bool → List γ → Prop}

/-- **`Extends log Q x`**: whether an action comes through or fails, a record is longer afterwards by something
with the property `Q`, which may depend on that. -/
def Extends (log : Memory → List γ) (Q : Bool → List γ → Prop) (x : Action α) : Prop :=
  ∀ m, ∃ new, log (x.on m).2 = log m ++ new ∧ Q (x.on m).1.isOk new

/-- An action that does not touch a record. -/
theorem extends_nil {x : Action α} (h : ∀ m, log (x.on m).2 = log m) (hQ : ∀ through, Q through []) :
    Extends log Q x :=
  fun m => ⟨[], (h m).trans (List.append_nil _).symm, hQ _⟩

/-- **One extension after the other.** After a failure the second one is missing. -/
theorem Extends.bind {x : Action α} {f : α → Action β} (hx : Extends log Q x) (hf : ∀ a, Extends log Q' (f a))
    (happend : ∀ {through l l'}, Q true l → Q' through l' → R through (l ++ l'))
    (hstop : ∀ {l}, Q false l → R false l) : Extends log R (x >>= f) := by
  intro m
  obtain ⟨new, hnew, hQ⟩ := hx m
  rw [on_bind]
  revert hnew hQ
  obtain ⟨o, m'⟩ := x.on m
  intro hnew hQ
  cases o with
  | error e => exact ⟨new, hnew, hstop hQ⟩
  | ok a =>
      obtain ⟨new', hnew', hQ'⟩ := hf a m'
      refine ⟨new ++ new', ?_, happend hQ hQ'⟩
      show log ((f a).on m').2 = _
      rw [hnew', hnew, List.append_assoc]

/-- **`Begins n x`**: an action begins `n` loads at most, and each comes through, unless the action fails there. -/
def Begins (n : Nat) (x : Action α) : Prop :=
  Extends Memory.history (fun through hs => hs.countP Happening.isLoading ≤ n ∧ Happening.Finished through hs) x

theorem Begins.bind {a b : Nat} {x : Action α} {f : α → Action β} (hx : Begins a x) (hf : ∀ v, Begins b (f v)) :
    Begins (a + b) (x >>= f) := by
  refine Extends.bind hx hf (fun hl hl' => ⟨?_, hl.2.append hl'.2⟩) fun hl => ⟨?_, hl.2⟩
  · rw [List.countP_append]
    have hfirst := hl.1
    have hsecond := hl'.1
    omega
  · have hfirst := hl.1
    omega

/-- What begins no load may be done before what does. -/
theorem Begins.after {n : Nat} {x : Action α} {f : α → Action β} (hx : Begins 0 x) (hf : ∀ v, Begins n (f v)) :
    Begins n (x >>= f) := by
  have hboth := hx.bind hf
  rw [Nat.zero_add] at hboth
  exact hboth

theorem Begins.mono {a b : Nat} {x : Action α} (h : Begins a x) (hle : a ≤ b) : Begins b x := by
  intro m
  obtain ⟨new, hnew, hcount, hfinished⟩ := h m
  exact ⟨new, hnew, Nat.le_trans hcount hle, hfinished⟩

/-- An action that begins no load. -/
theorem Adds.begins {x : Action α} {o : Outcome α} {hs : List Happening} (h : Adds x hs o)
    (hnone : hs.countP Happening.isLoading = 0) : Begins 0 x := by
  intro m
  obtain ⟨j, hon⟩ := h m
  rw [hon]
  exact ⟨hs, rfl, Nat.le_of_eq hnone, Happening.finished_of_countP hnone⟩

theorem Quiet.begins {x : Action α} {o : Outcome α} (h : Quiet x o) : Begins 0 x := Adds.begins h rfl

theorem begins_pure (v : α) : Begins 0 (pure v : Action α) := (quiet_pure v).begins

theorem begins_change {f : Memory → Memory} (h : ∀ m, (f m).history = m.history) :
    Begins 0 (Resolver.change f) :=
  extends_nil h fun _ => ⟨Nat.le_refl 0, Happening.finished_of_countP rfl⟩

theorem begins_get : Begins 0 (get : Action Memory) :=
  extends_nil (fun _ => rfl) fun _ => ⟨Nat.le_refl 0, Happening.finished_of_countP rfl⟩

theorem begins_record {h : Happening} (hloading : h.isLoading = false) : Begins 0 (Resolver.record h) := by
  refine (adds_record h).begins ?_
  rw [List.countP_singleton, hloading]
  rfl

/-- **`Asks names x`**: an action asks for some of the files, for each once, in this order. -/
def Asks (names : List Text) (x : Action α) : Prop :=
  Extends Memory.journal (fun _ events => (events.filterMap Event.file?).Sublist names) x

theorem Asks.bind {a b : List Text} {x : Action α} {f : α → Action β} (hx : Asks a x) (hf : ∀ v, Asks b (f v)) :
    Asks (a ++ b) (x >>= f) := by
  refine Extends.bind hx hf (fun hl hl' => ?_) fun hl => ?_
  · rw [List.filterMap_append]
    exact hl.append hl'
  · exact hl.trans (List.sublist_append_left a b)

/-- What asks for no file may be done before. -/
theorem Asks.after {names : List Text} {x : Action α} {f : α → Action β} (hx : Asks [] x)
    (hf : ∀ v, Asks names (f v)) : Asks names (x >>= f) :=
  Asks.bind hx hf

/-- What asks for no file may be done afterwards. -/
theorem Asks.before {names : List Text} {x : Action α} {f : α → Action β} (hx : Asks names x)
    (hf : ∀ v, Asks [] (f v)) : Asks names (x >>= f) := by
  have hboth := Asks.bind hx hf
  rw [List.append_nil] at hboth
  exact hboth

theorem asks_nil {x : Action α} {names : List Text} (h : ∀ m, (x.on m).2.journal = m.journal) : Asks names x :=
  extends_nil h fun _ => List.nil_sublist names

theorem asks_pure (v : α) {names : List Text} : Asks names (pure v : Action α) := asks_nil fun _ => rfl

end Action

namespace Resolver

open Phrasebook.Action (Begins begins_pure begins_get begins_change begins_record Asks asks_nil asks_pure)

variable (r : Resolver) (c : Configuration) (locale key : Text)

/-! ## Files -/

theorem asks_load (name : Text) (origin : Option Text) : Asks [name] (r.load name origin) :=
  fun _ => ⟨[.load name origin], rfl, .refl _⟩

theorem firstFile_asks (origin : Option Text) (names : List Text) : Asks names (r.firstFile origin names) := by
  induction names with
  | nil => exact asks_pure none
  | cons name rest ih =>
      refine (r.asks_load name origin).bind (b := rest) fun content => ?_
      cases content with
      | none => exact ih
      | some b => exact asks_pure _

theorem supplied_asks : Asks [] (r.supplied c locale) := by
  unfold supplied
  cases r.hooks.contentNeeded with
  | none => exact asks_pure none
  | some ask => exact fun _ => ⟨[.contentNeeded c.defaultFile locale], rfl, .refl _⟩

/-- **No file is among the candidates twice.** -/
theorem nodup_candidates (f : Files.Format) (includesDefault : Bool) :
    (listedFiles c locale ++ furtherFiles c f locale includesDefault).Nodup := by
  refine List.nodup_append'.mpr ⟨nodup_eraseDups _, nodup_eraseDups _, ?_⟩
  intro name hlisted hfurther
  unfold furtherFiles at hfurther
  rw [List.mem_eraseDups, List.mem_filter] at hfurther
  exact absurd hlisted (by simpa using hfurther.2)

theorem localeFile_asks (includesDefault : Bool) :
    ∃ names, names.Nodup ∧ Asks names (r.localeFile c locale includesDefault) := by
  unfold localeFile
  cases hformat : r.format c with
  | error x =>
      -- Without a format the listed files are all that can be asked for.
      refine ⟨listedFiles c locale, nodup_eraseDups _, (r.supplied_asks c locale).after fun content => ?_⟩
      cases content with
      | some content => exact asks_pure _
      | none =>
          refine (r.firstFile_asks _ _).before fun file => ?_
          cases file with
          | some file => exact asks_pure _
          | none => exact asks_nil fun _ => rfl
  | ok f =>
      refine ⟨_, nodup_candidates c locale f includesDefault, (r.supplied_asks c locale).after fun content => ?_⟩
      cases content with
      | some content => exact asks_pure _
      | none =>
          refine (r.firstFile_asks _ _).bind fun file => ?_
          cases file with
          | some file => exact asks_pure _
          | none => exact r.firstFile_asks _ _

/-- **Reading a catalog asks for no file twice.** -/
theorem catalog_asks (includesDefault : Bool) :
    ∃ names, names.Nodup ∧ Asks names (r.catalog c locale includesDefault) := by
  obtain ⟨names, hnodup, hasks⟩ := r.localeFile_asks c locale includesDefault
  refine ⟨names, hnodup, Asks.after (asks_nil fun _ => rfl) fun _ => ?_⟩
  refine hasks.before fun file => ?_
  cases file with
  | none => exact asks_pure none
  | some file => exact asks_nil fun _ => rfl

/-! ## Loads -/

/-- A load of a catalog for a place. -/
theorem load_begins {α : Type} {name : Text} {includesDefault : Bool} {f : Option Catalog → Action α}
    (hf : ∀ t m, ∃ place, ((f t).on m).2.history = m.history ++ [.loaded name place]) :
    Begins 1 (r.catalog c name includesDefault >>= f) := by
  intro m
  obtain ⟨j, hon⟩ := r.adds_catalog c name includesDefault m
  cases hread : r.catalogOf c name includesDefault with
  | error x =>
      rw [hread] at hon
      rw [Action.on_bind_error hon]
      exact ⟨_, rfl, Nat.le_refl 1, Happening.finished_loading name⟩
  | ok t =>
      rw [hread] at hon
      rw [Action.on_bind_ok hon]
      obtain ⟨place, hloaded⟩ := hf t _
      exact ⟨_, hloaded.trans (List.append_assoc _ _ _), Nat.le_refl 1, Happening.finished_loaded name place⟩

theorem openCatalog_begins : Begins 1 (r.openCatalog c locale) := by
  refine begins_get.after fun m => ?_
  split
  · refine r.load_begins c fun t m => ⟨.under (Memory.keyOf locale), ?_⟩
    exact congrArg (· ++ [_]) (Memory.history_put m _ _)
  · exact (begins_pure ()).mono (by omega)

theorem openDefault_begins : Begins 1 (r.openDefault c) := by
  refine begins_get.after fun m => ?_
  split
  · exact (begins_pure _).mono (by omega)
  · refine r.load_begins c fun t m => ⟨m.placeForDefault (r.defaultKey (t.getD r.noDefault)), ?_⟩
    exact congrArg (· ++ [_]) (Memory.history_putDefault m _ _)

theorem settle_begins (place : Place) (key : Text) (e : Entry) : Begins 0 (change (·.settle place key e)) := by
  intro m
  refine ⟨_, Memory.history_settle m place key e, ?_⟩
  split
  · exact ⟨Nat.le_refl 0, Happening.finished_of_countP rfl⟩
  · exact ⟨Nat.le_refl 0, Happening.finished_of_countP rfl⟩

theorem usable_begins (place : Place) : Begins 0 (r.usable place key) := by
  refine begins_get.after fun m => ?_
  split
  · exact begins_pure none
  · split
    · exact begins_pure none
    · split
      · exact begins_pure _
      · split
        · exact begins_pure none
        · refine (begins_record rfl).after fun _ => (r.quiet_referredText _ _).begins.after fun text => ?_
          split
          · exact begins_pure none
          · refine (begins_record rfl).after fun _ => (Action.quiet_lift _).begins.after fun e => ?_
            exact (settle_begins _ _ e).after fun _ => begins_pure _

theorem remember_begins (e : Entry) (tried : List Text) : Begins 0 (remember key e tried) := by
  induction tried with
  | nil => exact begins_pure ()
  | cons name rest ih => exact (settle_begins _ key e).after fun _ => ih

theorem lookup_begins : Begins 1 (r.lookup c locale key) :=
  (r.openCatalog_begins c locale).bind fun _ => r.usable_begins key _

theorem lookupBasic_begins : Begins 1 (r.lookupBasic c locale key) := by
  refine (r.openCatalog_begins c locale).bind (b := 0) fun _ => ?_
  exact (begins_change fun m => Memory.history_update m _ _).after fun _ => r.usable_begins key _

theorem asked_begins (event : Event) (answer : Option (Option Substitute)) : Begins 0 (r.asked c event answer) :=
  (r.quiet_asked c event answer).begins

theorem found_begins (e : Entry) : Begins 0 (r.found c locale key e) := (r.quiet_found c locale key e).begins

/-- What is found in the default catalog. -/
theorem usableDefault_begins (tried : List Text) (place : Place) :
    Begins 0 (do
      match ← r.usable place key with
      | some e =>
        remember key e tried
        return some e
      | none => return none) := by
  refine (r.usable_begins key place).after fun found => ?_
  cases found with
  | none => exact begins_pure none
  | some e => exact (remember_begins key e tried).after fun _ => begins_pure _

theorem searchDefault_begins (tried : List Text) : Begins 1 (r.searchDefault c key tried) :=
  (r.openDefault_begins c).bind (r.usableDefault_begins key tried)

/-- **A search begins to read three catalogs at most.** -/
theorem search_begins : Begins 3 (r.search c locale key) := by
  unfold search
  split
  · exact (r.searchDefault_begins c key []).mono (by omega)
  · refine (r.lookup_begins c locale key).bind (b := 2) fun found => ?_
    split
    · exact (begins_pure _).mono (by omega)
    · refine begins_get.after fun m => ?_
      split
      · exact (r.searchDefault_begins c key _).mono (by omega)
      · refine (r.lookupBasic_begins c _ key).bind (b := 1) fun found => ?_
        split
        · exact ((remember_begins key _ _).after fun _ => begins_pure _).mono (by omega)
        · exact r.searchDefault_begins c key _

theorem told_begins (found : Option Entry) : Begins 0 (r.told c locale key found) := by
  cases found with
  | none => exact r.asked_begins c _ _
  | some e => exact r.found_begins c locale key e

/-- **So does a request.** -/
theorem resolve_begins (asked : Option Text) : Begins 3 (r.resolve c asked key) := by
  rw [resolve_eq]
  refine (r.asked_begins c _ _).after fun supplied => ?_
  split
  · exact (begins_pure _).mono (by omega)
  · exact (r.search_begins c _ key).bind (b := 0) fun found => r.told_begins c _ key found

end Resolver

end Phrasebook
