import Phrasebook.Proofs.Resolver.Walk

/-!
# What has happened since

A catalog that is remembered now was remembered at some earlier time, or the history tells of its load since then
(`Since`). It is the catalog of the locale under whose key it is, unless it is a default catalog whose file declares
another locale: that is the only one that goes where it may be taken for another (`GoesTo`). So a catalog that was
missing is missing still, if neither it nor such a default catalog was loaded since (`IsMissing.since`).

The default catalog is never where the memory does not look for it (`IsHeld`).
-/

namespace Phrasebook.Resolver

open Phrasebook.Memory (keyOf)

variable {r : Resolver} {c : Configuration} {locale key name : Text} {found : Option Entry}
  {m m' m'' : Memory} {place : Place} {t : Catalog}

/-! ## The default catalog is held -/

/-- **`IsHeld r m`**: what is under the key of the default locale is the default catalog, and the default catalog
is where the memory has it. -/
structure IsHeld (r : Resolver) (m : Memory) : Prop where
  home : (m.at? (.under r.homeKey)).isSome = true → m.defaultPlace = some (.under r.homeKey)
  held : ∀ {place}, m.defaultPlace = some place → (m.at? place).isSome = true

theorem isHeld_empty : r.IsHeld .empty := by
  refine ⟨fun h => ?_, fun h => ?_⟩
  · cases h
  · cases h

/-- The files are of no consequence here. -/
theorem isHeld_withSource {source : Source} : (r.withSource source).IsHeld m ↔ r.IsHeld m :=
  ⟨fun h => ⟨h.home, h.held⟩, fun h => ⟨h.home, h.held⟩⟩

theorem IsHeld.of_eq (h : r.IsHeld m) (hat : ∀ p, (m'.at? p).isSome = (m.at? p).isSome)
    (hdefault : m'.defaultPlace = m.defaultPlace) : r.IsHeld m' := by
  refine ⟨fun hsome => ?_, fun {place} hplace => ?_⟩
  · rw [hat] at hsome
    rw [hdefault]
    exact h.home hsome
  · rw [hat]
    rw [hdefault] at hplace
    exact h.held hplace

theorem IsHeld.settle (h : r.IsHeld m) (place : Place) (key : Text) (e : Entry) :
    r.IsHeld (m.settle place key e) :=
  h.of_eq (fun _ => Memory.isSome_at?_settle m place _ key e) (Memory.defaultPlace_settle m place key e)

theorem IsHeld.record (h : r.IsHeld m) (z : Happening) : r.IsHeld (m.record z) :=
  h.of_eq (fun p => congrArg Option.isSome (Memory.at?_record m p z)) rfl

theorem ne_homeKey (hd : r.isDefault name = false) : r.homeKey ≠ keyOf name := by
  intro heq
  rw [isDefault_iff.mpr heq.symm] at hd
  cases hd

/-- The catalog of a locale that is not the default one. -/
theorem IsHeld.put (h : r.IsHeld m) (hd : r.isDefault name = false) (t : Catalog) :
    r.IsHeld (m.put (.under (keyOf name)) t) := by
  refine ⟨fun hsome => ?_, fun {place} hplace => ?_⟩
  · have hne : Place.under r.homeKey ≠ .under (keyOf name) := fun heq => ne_homeKey hd (Place.under.inj heq)
    rw [Memory.at?_put_of_ne m t hne] at hsome
    rw [Memory.defaultPlace_put]
    exact h.home hsome
  · rw [Memory.defaultPlace_put] at hplace
    rw [Memory.at?_put]
    split
    · rfl
    · exact h.held hplace

/-- The default catalog, wherever it goes. -/
theorem IsHeld.putDefault (h : r.IsHeld m) (hnone : m.defaultPlace = none) (key : Text) (t : Catalog) :
    r.IsHeld (m.putDefault key t) := by
  refine ⟨fun hsome => ?_, fun {place} hplace => ?_⟩
  · show some (m.placeForDefault key) = _
    rw [Memory.at?_putDefault] at hsome
    split at hsome
    · next heq => rw [heq]
    · have hplace := h.home hsome
      rw [hnone] at hplace
      cases hplace
  · obtain rfl : m.placeForDefault key = place := Option.some.inj hplace
    rw [Memory.at?_putDefault, if_pos rfl]
    rfl

theorem IsHeld.move (h : r.IsHeld m) (hmove : Move r c locale key found m m') : r.IsHeld m' := by
  cases hmove with
  | asked j => exact h.of_eq (fun p => congrArg Option.isSome (Memory.at?_journal m p j)) rfl
  | loading name => exact h.record _
  | opened _ hd => exact (h.put hd _).record _
  | openedDefault hnone => exact (h.putDefault hnone _ _).record _
  | marked name =>
      exact h.of_eq (fun p => Memory.isSome_at?_update m _ p _) (Memory.defaultPlace_update m _ _)
  | referring => exact h.record _
  | obtained => exact (h.record _).settle _ key _
  | settled => exact h.settle _ key _

theorem IsHeld.moves (h : r.IsHeld m) (hmoves : Moves r c locale key found m m') : r.IsHeld m' := by
  induction hmoves with
  | refl => exact h
  | tail _ hmove ih => exact ih.move hmove

theorem IsHeld.drop (h : r.IsHeld m) (hm : m.IsSound) (name : Text) : r.IsHeld (m.drop name) := by
  have hplace : (m.drop name).defaultPlace
      = if m.defaultPlace = some (.under (keyOf name)) then none else m.defaultPlace := by
    show (if _ ∧ _ then none else _) = _
    by_cases hdefault : m.defaultPlace = some (.under (keyOf name))
    · rw [if_pos ⟨h.held hdefault, hdefault⟩, if_pos hdefault]
    · rw [if_neg fun hboth => hdefault hboth.2, if_neg hdefault]
  refine ⟨fun hsome => ?_, fun {place} hheld => ?_⟩
  · rw [Memory.at?_drop m _ hm.nodup] at hsome
    split at hsome
    · cases hsome
    · next hne =>
        have hhome := h.home hsome
        rw [hplace, hhome, if_neg fun heq => hne (Option.some.inj heq)]
  · rw [hplace] at hheld
    split at hheld
    · cases hheld
    · next hne =>
        have hother : place ≠ .under (keyOf name) := fun heq => hne (hheld.trans (congrArg some heq))
        rw [Memory.at?_drop m place hm.nodup, if_neg hother]
        exact h.held hheld

theorem isHeld_dropAll (m : Memory) : r.IsHeld m.dropAll := by
  refine ⟨fun h => ?_, fun h => ?_⟩
  · rw [Memory.at?_dropAll] at h
    cases h
  · cases h

/-- **No call loses the default catalog.** -/
theorem IsHeld.call (h : r.IsHeld m) (hm : m.IsSound) (call : Call) : r.IsHeld (call.memory r c m) := by
  cases call with
  | resolve asked key => exact h.moves (resolve_moves hm asked key)
  | expand asked a key =>
      show r.IsHeld ((r.expand c asked a key).on m).2
      rw [expand_on]
      exact h.moves (resolve_moves hm asked key)
  | drop locale => exact h.drop hm _
  | dropAll => exact isHeld_dropAll m

/-- A memory that may come of turns. -/
structure IsKept (r : Resolver) (m : Memory) : Prop where
  sound : m.IsSound
  held : r.IsHeld m

theorem IsKept.turn (h : r.IsKept m) (turn : Turn) : r.IsKept (r.memoryOf m turn) :=
  ⟨sound_call h.sound _ _ turn.call,
    isHeld_withSource.mp ((isHeld_withSource.mpr h.held).call h.sound turn.call)⟩

theorem isKept_memoryOver (r : Resolver) (turns : List Turn) : r.IsKept (r.memoryOver turns) :=
  memoryOver_induction ⟨Memory.isSound_empty, isHeld_empty⟩ (fun _ turn hm => hm.turn turn) turns

/-! ## Where catalogs go -/

/-- **`turn.Declares r key`**: the default catalog that is read in a turn belongs under a key. -/
def Turn.Declares (r : Resolver) (turn : Turn) (key : Text) : Prop :=
  ∃ t, (r.withSource turn.source).defaultCatalog turn.configuration = .ok t ∧ r.defaultKey t = key

/-- **`GoesTo r A name place`**: the catalog of a locale may go to a place, if the default catalogs belong under
keys with the property `A`. Most catalogs go under the key of their locale. -/
def GoesTo (r : Resolver) (A : Text → Prop) (name : Text) (place : Place) : Prop :=
  place = .under (keyOf name)
    ∨ r.isDefault name = true ∧ ∃ key, A key ∧ key ≠ r.homeKey ∧ (place = .under key ∨ place = .apart)

/-- **`Since r A m since m'`**: `m'` has come of `m`, and `since` is what has happened in between. -/
structure Since (r : Resolver) (A : Text → Prop) (m : Memory) (since : List Happening) (m' : Memory) : Prop where
  history : m'.history = m.history ++ since
  catalogs : ∀ {place}, (m'.at? place).isSome = true → (m.at? place).isSome = true
    ∨ ∃ name, .loaded name place ∈ since ∧ r.GoesTo A name place
  default : ∀ {place}, m'.defaultPlace = some place → m.defaultPlace = some place
    ∨ .loaded r.defaultLocale place ∈ since ∧ r.GoesTo A r.defaultLocale place

variable {A : Text → Prop} {s s' : List Happening}

theorem Since.of_withSource {source : Source} (h : (r.withSource source).Since A m s m') : r.Since A m s m' :=
  ⟨h.history, h.catalogs, h.default⟩

theorem Since.trans (h : r.Since A m s m') (h' : r.Since A m' s' m'') : r.Since A m (s ++ s') m'' := by
  refine ⟨?_, fun hsome => ?_, fun hplace => ?_⟩
  · rw [h'.history, h.history, List.append_assoc]
  · rcases h'.catalogs hsome with hsome' | ⟨name, hloaded, hgoes⟩
    · rcases h.catalogs hsome' with hbefore | ⟨name, hloaded, hgoes⟩
      · exact .inl hbefore
      · exact .inr ⟨name, List.mem_append_left _ hloaded, hgoes⟩
    · exact .inr ⟨name, List.mem_append_right _ hloaded, hgoes⟩
  · rcases h'.default hplace with hplace' | ⟨hloaded, hgoes⟩
    · exact (h.default hplace').imp_right fun hboth => ⟨List.mem_append_left _ hboth.1, hboth.2⟩
    · exact .inr ⟨List.mem_append_right _ hloaded, hgoes⟩

/-- Nothing new is remembered. -/
theorem since_of_kept (hhistory : m'.history = m.history ++ s)
    (hat : ∀ p, (m'.at? p).isSome = true → (m.at? p).isSome = true)
    (hdefault : ∀ p, m'.defaultPlace = some p → m.defaultPlace = some p) : r.Since A m s m' :=
  ⟨hhistory, fun hsome => .inl (hat _ hsome), fun hplace => .inl (hdefault _ hplace)⟩

theorem since_refl (m : Memory) : r.Since A m [] m :=
  since_of_kept (List.append_nil _).symm (fun _ h => h) fun _ h => h

theorem since_settle (m : Memory) (place : Place) (key : Text) (e : Entry) :
    ∃ s, r.Since A m s (m.settle place key e) := by
  refine ⟨_, since_of_kept (Memory.history_settle m place key e) (fun p hp => ?_) fun p hp => ?_⟩
  · rw [Memory.isSome_at?_settle] at hp
    exact hp
  · rw [Memory.defaultPlace_settle] at hp
    exact hp

theorem since_record (m : Memory) (z : Happening) : r.Since A m [z] (m.record z) := by
  refine since_of_kept rfl (fun p hp => ?_) fun p hp => hp
  rw [Memory.at?_record] at hp
  exact hp

/-- The catalog of a locale goes under its key. -/
theorem since_put (m : Memory) (name : Text) (t : Catalog) :
    r.Since A m [.loaded name (.under (keyOf name))]
      ((m.put (.under (keyOf name)) t).record (.loaded name (.under (keyOf name)))) := by
  refine ⟨congrArg (· ++ [_]) (Memory.history_put m _ _), fun {place} hsome => ?_, fun hplace => .inl ?_⟩
  · rw [Memory.at?_record, Memory.at?_put] at hsome
    split at hsome
    · next heq => exact .inr ⟨name, heq ▸ List.mem_singleton_self _, .inl heq⟩
    · exact .inl hsome
  · exact (Memory.defaultPlace_put m _ _).symm.trans hplace

/-- **The default catalog goes where it belongs**, or apart. It is under the key of the default locale if it
belongs there, since nothing else is ever there. -/
theorem goesTo_placeForDefault (hheld : r.IsHeld m) (hnone : m.defaultPlace = none) {k : Text} (hA : A k) :
    r.GoesTo A r.defaultLocale (m.placeForDefault k) := by
  unfold Memory.placeForDefault
  split
  · next hhas =>
      refine .inr ⟨isDefault_default, k, hA, ?_, .inr rfl⟩
      rintro rfl
      have hplace := hheld.home hhas
      rw [hnone] at hplace
      cases hplace
  · by_cases hk : k = r.homeKey
    · exact .inl (congrArg Place.under hk)
    · exact .inr ⟨isDefault_default, k, hA, hk, .inl rfl⟩

theorem since_putDefault (hheld : r.IsHeld m) (hnone : m.defaultPlace = none) {k : Text} (hA : A k)
    (t : Catalog) : r.Since A m [.loaded r.defaultLocale (m.placeForDefault k)]
      ((m.putDefault k t).record (.loaded r.defaultLocale (m.placeForDefault k))) := by
  have hgoes := goesTo_placeForDefault hheld hnone hA
  refine ⟨congrArg (· ++ [_]) (Memory.history_putDefault m _ _), fun {place} hsome => ?_, fun {place} hplace => ?_⟩
  · rw [Memory.at?_record, Memory.at?_putDefault] at hsome
    split at hsome
    · next heq => exact .inr ⟨_, heq ▸ List.mem_singleton_self _, heq ▸ hgoes⟩
    · exact .inl hsome
  · obtain rfl : m.placeForDefault k = place := Option.some.inj hplace
    exact .inr ⟨List.mem_singleton_self _, hgoes⟩

/-! ## Moves and turns -/

/-- **A move adds the catalogs whose loads it tells of.** -/
theorem Move.since (hmove : Move r c locale key found m m') (hheld : r.IsHeld m)
    (hA : ∀ t, r.defaultCatalog c = .ok t → A (r.defaultKey t)) : ∃ s, r.Since A m s m' := by
  cases hmove with
  | asked j =>
      refine ⟨[], since_of_kept (List.append_nil _).symm (fun p hp => ?_) fun p hp => hp⟩
      rw [Memory.at?_journal] at hp
      exact hp
  | loading name => exact ⟨_, since_record m _⟩
  | opened => exact ⟨_, since_put m _ _⟩
  | openedDefault hnone hread => exact ⟨_, since_putDefault hheld hnone (hA _ hread) _⟩
  | marked name =>
      refine ⟨[], since_of_kept ?_ (fun p hp => ?_) fun p hp => ?_⟩
      · rw [Memory.history_update, List.append_nil]
      · rw [Memory.isSome_at?_update] at hp
        exact hp
      · rw [Memory.defaultPlace_update] at hp
        exact hp
  | referring => exact ⟨_, since_record m _⟩
  | obtained =>
      obtain ⟨s, hs⟩ := since_settle (r := r) (A := A) (m.record _) _ key _
      exact ⟨_, (since_record m _).trans hs⟩
  | settled => exact since_settle m _ key _

theorem Moves.since (hmoves : Moves r c locale key found m m') (hheld : r.IsHeld m)
    (hA : ∀ t, r.defaultCatalog c = .ok t → A (r.defaultKey t)) : ∃ s, r.Since A m s m' := by
  induction hmoves with
  | refl => exact ⟨[], since_refl m⟩
  | tail hmoves hmove ih =>
      obtain ⟨s, hs⟩ := ih
      obtain ⟨s', hs'⟩ := hmove.since (hheld.moves hmoves) hA
      exact ⟨_, hs.trans hs'⟩

theorem since_drop (hm : m.IsSound) (name : Text) : ∃ s, r.Since A m s (m.drop name) := by
  refine ⟨_, since_of_kept rfl (fun p hp => ?_) fun p hp => ?_⟩
  · rw [Memory.at?_drop m p hm.nodup] at hp
    split at hp
    · cases hp
    · exact hp
  · have hplace : (if _ ∧ _ then none else m.defaultPlace) = some p := hp
    split at hplace
    · cases hplace
    · exact hplace

theorem since_dropAll (m : Memory) : ∃ s, r.Since A m s m.dropAll := by
  refine ⟨_, since_of_kept rfl (fun p hp => ?_) fun p hp => ?_⟩
  · rw [Memory.at?_dropAll] at hp
    cases hp
  · cases hp

/-- **A turn adds the catalogs whose loads it tells of.** -/
theorem IsKept.since (h : r.IsKept m) {turn : Turn} (hA : ∀ k, turn.Declares r k → A k) :
    ∃ s, r.Since A m s (r.memoryOf m turn) := by
  have hheld : (r.withSource turn.source).IsHeld m := isHeld_withSource.mpr h.held
  have hdeclared : ∀ t, (r.withSource turn.source).defaultCatalog turn.configuration = .ok t →
      A ((r.withSource turn.source).defaultKey t) := fun t ht => hA _ ⟨t, ht, rfl⟩
  have hcall : ∃ s, (r.withSource turn.source).Since A m s
      (turn.call.memory (r.withSource turn.source) turn.configuration m) := by
    cases turn.call with
    | resolve asked key => exact (resolve_moves h.sound asked key).since hheld hdeclared
    | expand asked a key =>
        show ∃ s, Since _ A m s (((r.withSource turn.source).expand turn.configuration asked a key).on m).2
        rw [expand_on]
        exact (resolve_moves h.sound asked key).since hheld hdeclared
    | drop name => exact since_drop h.sound _
    | dropAll => exact since_dropAll m
  obtain ⟨s, hs⟩ := hcall
  exact ⟨s, hs.of_withSource⟩

/-- **So do any turns**, by induction on them. -/
theorem IsKept.since_turns (h : r.IsKept m) {turns : List Turn}
    (hA : ∀ turn ∈ turns, ∀ k, turn.Declares r k → A k) :
    r.IsKept (turns.foldl r.memoryOf m) ∧ ∃ s, r.Since A m s (turns.foldl r.memoryOf m) := by
  induction turns generalizing m with
  | nil => exact ⟨h, [], since_refl m⟩
  | cons turn rest ih =>
      obtain ⟨s, hs⟩ := h.since (hA turn List.mem_cons_self)
      obtain ⟨hkept, s', hs'⟩ := ih (h.turn turn) fun next hnext => hA next (List.mem_cons_of_mem turn hnext)
      exact ⟨hkept, _, hs.trans hs'⟩

/-! ## What is missing still -/

/-- A catalog that is missing is not under the key of its locale. -/
theorem IsMissing.catalog? (h : r.IsMissing m name) (hheld : r.IsHeld m) : m.catalog? name = none := by
  by_cases hd : r.isDefault name = true
  · rw [IsMissing, if_pos hd] at h
    refine Option.not_isSome_iff_eq_none.mp fun hsome => ?_
    rw [Memory.catalog?, isDefault_iff.mp hd] at hsome
    have hhome := hheld.home hsome
    rw [h] at hhome
    cases hhome
  · exact (isMissing_of_isDefault (Bool.eq_false_iff.mpr hd)).mp h

/-- **A catalog that was missing is missing still**, unless it was loaded since, or a default catalog that declares
its locale went under its key. -/
theorem IsMissing.since (h : r.IsMissing m name) (hsince : r.Since A m s m')
    (hloaded : ∀ other place, .loaded other place ∈ s → keyOf other ≠ keyOf name)
    (hA : A (keyOf name) → r.isDefault name = true) : r.IsMissing m' name := by
  by_cases hd : r.isDefault name = true
  · rw [IsMissing, if_pos hd] at h ⊢
    refine Option.eq_none_iff_forall_ne_some.mpr fun place hplace => ?_
    rcases hsince.default hplace with hbefore | ⟨hmem, -⟩
    · rw [h] at hbefore
      cases hbefore
    · exact hloaded _ _ hmem (isDefault_iff.mp hd).symm
  · have hd : r.isDefault name = false := Bool.eq_false_iff.mpr hd
    rw [isMissing_of_isDefault hd] at h ⊢
    refine Option.not_isSome_iff_eq_none.mp fun hsome => ?_
    rcases hsince.catalogs hsome with hbefore | ⟨other, hmem, hgoes⟩
    · rw [Memory.catalog?] at h
      rw [h] at hbefore
      cases hbefore
    · rcases hgoes with hown | ⟨-, k, hk, -, hplace | hplace⟩
      · exact hloaded _ _ hmem (Place.under.inj hown).symm
      · rw [← Place.under.inj hplace] at hk
        rw [hA hk] at hd
        cases hd
      · cases hplace

end Phrasebook.Resolver
