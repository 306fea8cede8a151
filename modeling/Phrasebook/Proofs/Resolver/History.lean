import Phrasebook.Proofs.Resolver.Backfill
import Phrasebook.Proofs.Resolver.Loads

/-!
# Nothing is read twice

The history tells of every catalog that is there (`Told`). What it never shows (`Once`): that a locale is loaded
again, or a file asked for again that has become the text of an entry, while the catalog of the first time is still
there. What carries the induction over the turns is that the memory still bears witness to everything in the history
whose catalog is not dropped (`Live`): a load to the catalog at its place, a text to the entry that has it.
-/

namespace Phrasebook

/-! ## Histories -/

namespace Happening

/-- The place of the catalog that something came to. -/
def place? : Happening → Option Place
  | loaded _ place => some place
  | obtained place _ => some place
  | settled place _ => some place
  | _ => none

/-- **`Repeats x y place`**: `y` does what the catalog at a place makes needless since `x`. -/
inductive Repeats : Happening → Happening → Place → Prop
  /-- A locale is loaded again, whatever the case of its letters. -/
  | loaded {locale other : Text} {place place' : Place} : Memory.keyOf locale = Memory.keyOf other →
      Repeats (.loaded locale place) (.loaded other place') place
  /-- The file of an entry is asked for again. -/
  | obtained {place : Place} {key other : Text} : key.fold = other.fold →
      Repeats (.obtained place key) (.referring place other) place
  /-- The file of an entry is asked for that has a text. -/
  | settled {place : Place} {key other : Text} : key.fold = other.fold →
      Repeats (.settled place key) (.referring place other) place

theorem Repeats.place?_eq {x y : Happening} {place : Place} (h : Repeats x y place) :
    x.place? = some place := by
  cases h <;> rfl

/-- **`Once hs`**: nothing is repeated in a history before the catalog is dropped that makes it needless. -/
def Once (hs : List Happening) : Prop :=
  ∀ before x between y after place, hs = before ++ x :: (between ++ y :: after) → Repeats x y place →
    .dropped place ∈ between

/-- **`Upheld P hs`**: whatever is in a history has the property `P`, unless its catalog was dropped since. -/
def Upheld (P : Happening → Prop) (hs : List Happening) : Prop :=
  ∀ before x after, hs = before ++ x :: after → (∀ place, x.place? = some place → .dropped place ∉ after) →
    P x

variable {P P' : Happening → Prop} {hs : List Happening} {z : Happening}

/-- Where something is in a history that has become longer. -/
theorem eq_of_snoc {before after : List Happening} {x : Happening} (h : hs ++ [z] = before ++ x :: after) :
    (after = [] ∧ hs = before ∧ z = x) ∨ ∃ rest, after = rest ++ [z] ∧ hs = before ++ x :: rest := by
  rcases List.eq_nil_or_concat after with rfl | ⟨rest, w, rfl⟩
  · obtain ⟨hbefore, hx⟩ := List.append_inj' h rfl
    exact .inl ⟨rfl, hbefore, (List.cons.inj hx).1⟩
  · rw [List.concat_eq_append, ← List.cons_append, ← List.append_assoc] at h
    obtain ⟨hbefore, hz⟩ := List.append_inj' h rfl
    obtain rfl := (List.cons.inj hz).1
    exact .inr ⟨rest, List.concat_eq_append, hbefore⟩

theorem once_nil : Once [] := by
  intro before x between y after place h
  cases before <;> cases h

theorem upheld_nil : Upheld P [] := by
  intro before x after h
  cases before <;> cases h

theorem Upheld.mono (h : Upheld P hs) (himp : ∀ x, P x → P' x) : Upheld P' hs :=
  fun before x after heq hkept => himp x (h before x after heq hkept)

/-- **What happens next is upheld**, and with it all whose catalog it does not drop. -/
theorem Upheld.snoc (h : Upheld P hs) (himp : ∀ x, P x → (∀ place, x.place? = some place → z ≠ .dropped place) → P' x)
    (hz : P' z) : Upheld P' (hs ++ [z]) := by
  intro before x after heq hkept
  rcases eq_of_snoc heq with ⟨-, -, rfl⟩ | ⟨rest, rfl, hbefore⟩
  · exact hz
  · refine himp x (h before x rest hbefore fun place hplace hmem => ?_) fun place hplace hdropped => ?_
    · exact hkept place hplace (List.mem_append_left _ hmem)
    · exact hkept place hplace (List.mem_append_right _ (hdropped ▸ List.mem_singleton_self _))

/-- **What happens next repeats nothing** if it repeats nothing that is upheld. -/
theorem Once.snoc (h : Once hs) (hupheld : Upheld P hs) (hz : ∀ x place, P x → ¬Repeats x z place) :
    Once (hs ++ [z]) := by
  intro before x between y after place heq hrepeats
  rw [← List.cons_append, ← List.append_assoc] at heq
  rcases eq_of_snoc heq with ⟨-, hbefore, rfl⟩ | ⟨rest, -, hbefore⟩
  · by_contra hkept
    refine hz x place (hupheld before x between hbefore fun p hp => ?_) hrepeats
    rw [hrepeats.place?_eq] at hp
    exact Option.some.inj hp ▸ hkept
  · rw [List.append_assoc, List.cons_append] at hbefore
    exact h before x between y rest place hbefore hrepeats

/-- What is upheld when the catalogs at some places are dropped. -/
theorem Upheld.drops (h : Upheld P hs) (hdropped : ∀ place, P (.dropped place)) (places : List Place) :
    Upheld (fun x => P x ∧ ∀ place, x.place? = some place → place ∉ places) (hs ++ places.map .dropped) := by
  induction places generalizing P hs with
  | nil =>
      rw [List.map_nil, List.append_nil]
      exact h.mono fun x hx => ⟨hx, fun place _ => List.not_mem_nil⟩
  | cons gone rest ih =>
      have hnext : Upheld (fun x => P x ∧ x.place? ≠ some gone) (hs ++ [.dropped gone]) :=
        h.snoc (fun x hx hkept => ⟨hx, fun hplace => hkept gone hplace rfl⟩)
          ⟨hdropped gone, fun hplace => by cases hplace⟩
      have hrest := ih hnext fun place => ⟨hdropped place, fun hplace => by cases hplace⟩
      rw [List.map_cons, List.append_cons]
      refine hrest.mono fun x hx => ⟨hx.1.1, fun place hplace hmem => ?_⟩
      rcases List.mem_cons.mp hmem with rfl | hlater
      · exact hx.1.2 hplace
      · exact hx.2 place hplace hlater

theorem Once.drops (h : Once hs) (hupheld : Upheld P hs) (hdropped : ∀ place, P (.dropped place))
    (places : List Place) : Once (hs ++ places.map .dropped) := by
  induction places generalizing hs with
  | nil =>
      rw [List.map_nil, List.append_nil]
      exact h
  | cons gone rest ih =>
      rw [List.map_cons, List.append_cons]
      exact ih (h.snoc hupheld fun x place _ hrepeats => by cases hrepeats)
        (hupheld.snoc (fun x hx _ => hx) (hdropped gone))

end Happening

namespace Resolver

open Phrasebook.Happening (Once Upheld Repeats)
open Phrasebook.Memory (keyOf)

/-! ## Witnesses -/

/-- **`HasText m place key`**: the catalog at a place has an entry with a text under a key. -/
def HasText (m : Memory) (place : Place) (key : Text) : Prop :=
  ∃ t e, m.at? place = some t ∧ t.get? key = some e ∧ e.text.isSome = true

/-- **`Live r m x`**: the memory bears witness to what has happened. -/
def Live (r : Resolver) (m : Memory) : Happening → Prop
  | .loaded locale place => (m.at? place).isSome = true
    ∧ if r.isDefault locale then m.defaultPlace = some place else place = .under (keyOf locale)
  | .obtained place key => HasText m place key
  | .settled place key => HasText m place key
  | _ => True

/-- **`Told m`**: the history tells of the load of every catalog that is there. -/
def Told (m : Memory) : Prop :=
  ∀ place, (m.at? place).isSome = true → ∃ locale, .loaded locale place ∈ m.history

/-- **`Truthful r m`**: the history of a memory tells of its catalogs and repeats nothing, and the memory bears
witness to all of it whose catalogs were not dropped. -/
structure Truthful (r : Resolver) (m : Memory) : Prop where
  sound : m.IsSound
  told : Told m
  once : Once m.history
  upheld : Upheld (r.Live m) m.history

variable {r : Resolver} {c : Configuration} {locale key : Text} {found : Option Entry} {m m' : Memory}
  {place : Place} {e : Entry} {x : Happening}

/-- A text stays where it is when a request goes on. -/
theorem HasText.grown {k : Text} (hk : HasText m place k) (h : Grown r c locale key found m m' place) :
    HasText m' place k := by
  obtain ⟨t, e, ht, he, htext⟩ := hk
  obtain ⟨t', ht', hfilled, -⟩ := h.kept ht
  exact ⟨t', e, ht', hfilled.kept he htext, htext⟩

theorem HasText.of_eq {k : Text} (hk : HasText m place k) (h : m'.at? place = m.at? place) :
    HasText m' place k := by
  obtain ⟨t, e, ht, he, htext⟩ := hk
  exact ⟨t, e, h.trans ht, he, htext⟩

/-- A memory bears witness to what another one does if it has kept what is at the place of it. -/
theorem Live.mono (h : r.Live m x)
    (hsome : ∀ p, x.place? = some p → (m.at? p).isSome = true → (m'.at? p).isSome = true)
    (hdefault : ∀ p, x.place? = some p → (m.at? p).isSome = true → m.defaultPlace = some p →
      m'.defaultPlace = some p)
    (htext : ∀ p k, x.place? = some p → HasText m p k → HasText m' p k) : r.Live m' x := by
  cases x with
  | loaded name place =>
      refine ⟨hsome place rfl h.1, ?_⟩
      have hplace := h.2
      split at hplace
      · next hd =>
          rw [if_pos hd]
          exact hdefault place rfl h.1 hplace
      · next hd =>
          rw [if_neg hd]
          exact hplace
  | obtained place k => exact htext place k rfl h
  | settled place k => exact htext place k rfl h
  | loading => trivial
  | referring => trivial
  | dropped => trivial

/-- **A move takes no witness away.** -/
theorem Live.move (h : r.Live m x) (hmove : Move r c locale key found m m') (hm : m.IsSound) :
    r.Live m' x := by
  refine h.mono (fun p _ hsome => ?_) (fun p _ _ hp => hmove.defaultPlace hp) fun p k _ hk => ?_
  · obtain ⟨t, ht⟩ := Option.isSome_iff_exists.mp hsome
    obtain ⟨t', ht', -⟩ := (hmove.grown hm p).kept ht
    rw [ht']
    rfl
  · exact hk.grown (hmove.grown hm p)

/-- What happens to a memory to which no catalog is added. -/
theorem Told.mono (h : Told m) (hat : ∀ p, (m'.at? p).isSome = true → (m.at? p).isSome = true)
    (hhistory : m.history ⊆ m'.history) : Told m' := by
  intro p hp
  obtain ⟨name, hname⟩ := h p (hat p hp)
  exact ⟨name, hhistory hname⟩

theorem Told.settle (h : Told m) (place : Place) (key : Text) (e : Entry) : Told (m.settle place key e) := by
  refine h.mono (fun p hp => ?_) ?_
  · rw [Memory.isSome_at?_settle] at hp
    exact hp
  · rw [Memory.history_settle]
    exact List.subset_append_left _ _

/-- **A move tells of the catalog that it adds.** -/
theorem Told.move (h : Told m) (hmove : Move r c locale key found m m') : Told m' := by
  have hrecord : ∀ z, Told (m.record z) := fun z => by
    refine h.mono (fun p hp => ?_) (List.subset_append_left _ _)
    rw [Memory.at?_record] at hp
    exact hp
  cases hmove with
  | asked j =>
      refine h.mono (fun p hp => ?_) fun z hz => hz
      rw [Memory.at?_journal] at hp
      exact hp
  | loading name => exact hrecord _
  -- Only these two put a catalog where none need have been, and both record at once that it was loaded.
  | @opened name t =>
      intro p hp
      rw [Memory.at?_record, Memory.at?_put] at hp
      rw [Memory.history_record, Memory.history_put]
      split at hp
      · next heq =>
          rw [heq]
          exact ⟨name, List.mem_append_right _ (List.mem_singleton_self _)⟩
      · obtain ⟨other, hother⟩ := h p hp
        exact ⟨other, List.mem_append_left _ hother⟩
  | @openedDefault t =>
      intro p hp
      rw [Memory.at?_record, Memory.at?_putDefault] at hp
      rw [Memory.history_record, Memory.history_putDefault]
      split at hp
      · next heq =>
          rw [heq]
          exact ⟨r.defaultLocale, List.mem_append_right _ (List.mem_singleton_self _)⟩
      · obtain ⟨other, hother⟩ := h p hp
        exact ⟨other, List.mem_append_left _ hother⟩
  | marked name =>
      refine h.mono (fun p hp => ?_) fun z hz => by rw [Memory.history_update]; exact hz
      rw [Memory.isSome_at?_update] at hp
      exact hp
  | referring => exact hrecord _
  | obtained => exact (hrecord _).settle _ key _
  | settled => exact h.settle _ key _

/-- A locale is loaded where no load of it is witnessed. -/
theorem not_repeats_loaded {name : Text} {at_ : Place} (hd : r.isDefault name = false)
    (hnone : m.catalog? name = none) (hx : r.Live m x) : ¬Repeats x (.loaded name at_) place := by
  intro hrepeats
  cases hrepeats with
  | @loaded other _ _ _ hkey =>
      have hsome := hx.1
      have hplace := hx.2
      rw [isDefault_congr hkey, hd] at hplace
      obtain rfl : place = .under (keyOf other) := hplace
      have hgone : m.at? (.under (keyOf other)) = none := by
        rw [hkey]
        exact hnone
      rw [hgone] at hsome
      cases hsome

/-- The default catalog is loaded where no load of it is witnessed. -/
theorem not_repeats_default {at_ : Place} (hnone : m.defaultPlace = none) (hx : r.Live m x) :
    ¬Repeats x (.loaded r.defaultLocale at_) place := by
  intro hrepeats
  cases hrepeats with
  | @loaded other _ _ _ hkey =>
      have hplace := hx.2
      have hd : r.isDefault other = true := isDefault_iff.mpr hkey
      rw [if_pos hd, hnone] at hplace
      cases hplace

/-- The file of an entry without a text is asked for, and no text of it is witnessed. -/
theorem not_repeats_referring {t : Catalog} (hat : m.at? place = some t) (hget : t.get? key = some e)
    (hnone : e.text = none) {other : Place} (hx : r.Live m x) : ¬Repeats x (.referring place key) other := by
  have hlacks : ∀ k : Text, k.fold = key.fold → ¬HasText m place k := by
    rintro k hk ⟨u, f, hu, hf, htext⟩
    obtain rfl := Option.some.inj (hat.symm.trans hu)
    have heq : t.get? k = t.get? key := by rw [Catalog.get?, Catalog.get?, hk]
    obtain rfl := Option.some.inj ((heq.trans hget).symm.trans hf)
    rw [hnone] at htext
    cases htext
  intro hrepeats
  cases hrepeats with
  | obtained hkey => exact hlacks _ hkey hx
  | settled hkey => exact hlacks _ hkey hx

/-- A settled entry bears witness to itself. -/
theorem Takes.hasText (h : Takes locale key found m place e) : HasText (m.settle place key e) place key := by
  obtain ⟨t, hat, -⟩ := h.lacks
  refine ⟨t.add key e, e, ?_, Pairs.get?_put_self key.fold e t.entries, h.text⟩
  rw [Memory.at?_settle, if_pos rfl, hat]
  rfl

theorem Takes.history (h : Takes locale key found m place e) :
    (m.settle place key e).history = m.history ++ [.settled place key] := by
  obtain ⟨t, hat, -⟩ := h.lacks
  rw [Memory.history_settle, hat]
  rfl

/-- **A move keeps a memory truthful.** -/
theorem Truthful.move (h : r.Truthful m) (hmove : Move r c locale key found m m') : r.Truthful m' := by
  have hlive : ∀ x, r.Live m x → r.Live m' x := fun x hx => hx.move hmove h.sound
  -- Most moves add one thing to the history, and it repeats nothing that the memory bears witness to.
  have hsnoc : ∀ z, m'.history = m.history ++ [z] → r.Live m' z →
      (∀ x place, r.Live m x → ¬Repeats x z place) → r.Truthful m' := by
    intro z hz hzlive honce
    refine ⟨hmove.sound h.sound, h.told.move hmove, ?_, ?_⟩
    · rw [hz]
      exact h.once.snoc h.upheld honce
    · rw [hz]
      exact h.upheld.snoc (fun x hx _ => hlive x hx) hzlive
  have hsound := hmove.sound h.sound
  have htold := h.told.move hmove
  cases hmove with
  | asked j => exact ⟨hsound, htold, h.once, h.upheld.mono hlive⟩
  | loading name => exact hsnoc _ rfl trivial fun x place _ hrepeats => by cases hrepeats
  | @opened name t _ hd hnone _ =>
      refine hsnoc _ (congrArg (· ++ [_]) (Memory.history_put m _ _)) ⟨?_, ?_⟩ fun x place hx =>
        not_repeats_loaded hd hnone hx
      · rw [Memory.at?_record, Memory.at?_put_self]
        rfl
      · rw [hd]
        exact rfl
  | @openedDefault t hnone _ =>
      refine hsnoc _ (congrArg (· ++ [_]) (Memory.history_putDefault m _ _)) ⟨?_, ?_⟩ fun x place hx =>
        not_repeats_default hnone hx
      · rw [Memory.at?_record, Memory.at?_putDefault, if_pos rfl]
        rfl
      · rw [if_pos isDefault_default]
        rfl
  | marked name =>
      refine ⟨hsound, htold, ?_, ?_⟩
      · rw [Memory.history_update]
        exact h.once
      · rw [Memory.history_update]
        exact h.upheld.mono hlive
  | referring hat hget hnone =>
      exact hsnoc _ rfl trivial fun x other hx => not_repeats_referring hat hget hnone hx
  | @obtained place e htakes =>
      -- Both the text that was obtained and the settled entry are in the history now.
      have hentry := (htakes.record (.obtained place key)).hasText
      have hhistory := (htakes.record (.obtained place key)).history
      have hupheld : Upheld (r.Live ((m.record (.obtained place key)).settle place key e))
          (m.history ++ [.obtained place key]) := h.upheld.snoc (fun x hx _ => hlive x hx) hentry
      have honce : Once (m.history ++ [.obtained place key]) :=
        h.once.snoc h.upheld fun x place _ hrepeats => by cases hrepeats
      refine ⟨hsound, htold, ?_, ?_⟩
      · rw [hhistory]
        exact honce.snoc hupheld fun x place _ hrepeats => by cases hrepeats
      · rw [hhistory]
        exact hupheld.snoc (fun x hx _ => hx) hentry
  | settled htakes =>
      exact hsnoc _ htakes.history htakes.hasText fun x place _ hrepeats => by cases hrepeats

theorem Truthful.moves (h : r.Truthful m) (hmoves : Moves r c locale key found m m') : r.Truthful m' := by
  induction hmoves with
  | refl => exact h
  | tail _ hmove ih => exact ih.move hmove

/-! ## Calls -/

theorem truthful_empty : r.Truthful .empty :=
  ⟨Memory.isSound_empty, fun place h => (by cases place <;> cases h), Happening.once_nil, Happening.upheld_nil⟩

/-- Where catalogs are dropped, what is not dropped keeps its witnesses. -/
theorem Truthful.forget (h : r.Truthful m) (hsound : m'.IsSound) (places : List Place)
    (hhistory : m'.history = m.history ++ places.map .dropped)
    (hgone : ∀ place ∈ places, m'.at? place = none)
    (hat : ∀ place ∉ places, m'.at? place = m.at? place)
    (hdefault : ∀ place ∉ places, (m.at? place).isSome = true → m.defaultPlace = some place →
      m'.defaultPlace = some place) :
    r.Truthful m' := by
  have hadded : ∀ p, (m'.at? p).isSome = true → (m.at? p).isSome = true := by
    intro p hp
    by_cases hmem : p ∈ places
    · rw [hgone p hmem] at hp
      cases hp
    · rw [← hat p hmem]
      exact hp
  -- What is witnessed of a place ends when it is dropped. Elsewhere all is as it was.
  refine ⟨hsound, h.told.mono hadded (hhistory ▸ List.subset_append_left _ _), ?_, ?_⟩
  · rw [hhistory]
    exact h.once.drops h.upheld (fun _ => trivial) places
  · rw [hhistory]
    refine (h.upheld.drops (fun _ => trivial) places).mono fun x hx => ?_
    obtain ⟨hlive, hkept⟩ := hx
    refine hlive.mono (fun p hp hsome => ?_) (fun p hp => hdefault p (hkept p hp)) fun p k hp hk => ?_
    · rw [hat p (hkept p hp)]
      exact hsome
    · exact hk.of_eq (hat p (hkept p hp))

theorem Truthful.drop (h : r.Truthful m) (name : Text) : r.Truthful (m.drop name) := by
  by_cases hhas : Pairs.has (keyOf name) m.catalogs = true
  · refine h.forget (h.sound.drop name) [.under (keyOf name)] ?_ (fun place hplace => ?_)
      (fun place hplace => ?_) fun place hplace _ hp => ?_
    · show m.history ++ (if Pairs.has (keyOf name) m.catalogs = true then _ else _) = _
      rw [if_pos hhas]
      rfl
    · rw [Memory.at?_drop m place h.sound.nodup, if_pos (List.mem_singleton.mp hplace)]
    · rw [Memory.at?_drop m place h.sound.nodup, if_neg fun heq => hplace (List.mem_singleton.mpr heq)]
    · show (if _ ∧ m.defaultPlace = some (.under (keyOf name)) then none else m.defaultPlace) = some place
      rw [hp, if_neg]
      rintro ⟨-, heq⟩
      exact hplace (List.mem_singleton.mpr (Option.some.inj heq))
  · -- Nothing is there that could be dropped.
    refine h.forget (h.sound.drop name) [] ?_ (fun place hplace => ?_) (fun place _ => ?_) fun place _ _ hp => ?_
    · show m.history ++ (if Pairs.has (keyOf name) m.catalogs = true then _ else _) = _
      rw [if_neg hhas]
      rfl
    · cases hplace
    · rw [Memory.at?_drop m place h.sound.nodup]
      split
      · next heq =>
          rw [heq]
          exact (Option.not_isSome_iff_eq_none.mp hhas).symm
      · rfl
    · show (if Pairs.has (keyOf name) m.catalogs = true ∧ _ then none else m.defaultPlace) = some place
      rw [if_neg fun hboth => hhas hboth.1]
      exact hp

theorem Truthful.dropAll (h : r.Truthful m) : r.Truthful m.dropAll := by
  refine h.forget (Memory.isSound_dropAll m) m.places rfl (fun place _ => Memory.at?_dropAll m place)
    (fun place hplace => ?_) fun place hplace hsome _ => ?_
  · rw [Memory.mem_places] at hplace
    rw [Memory.at?_dropAll]
    exact (Option.not_isSome_iff_eq_none.mp hplace).symm
  · exact absurd (Memory.mem_places m place |>.mpr hsome) hplace

/-- **A turn keeps a memory truthful**, whatever has become of the files. -/
theorem Truthful.turn (h : r.Truthful m) (turn : Turn) : r.Truthful (r.memoryOf m turn) := by
  -- What bears witness does not depend on the files.
  have hnow : (r.withSource turn.source).Truthful m := ⟨h.sound, h.told, h.once, h.upheld⟩
  have hcall : (r.withSource turn.source).Truthful
      (turn.call.memory (r.withSource turn.source) turn.configuration m) := by
    cases turn.call with
    | resolve asked key => exact hnow.moves (resolve_moves h.sound asked key)
    | expand asked a key =>
        show Truthful _ (((r.withSource turn.source).expand turn.configuration asked a key).on m).2
        rw [expand_on]
        exact hnow.moves (resolve_moves h.sound asked key)
    | drop name => exact hnow.drop _
    | dropAll => exact hnow.dropAll
  exact ⟨hcall.sound, hcall.told, hcall.once, hcall.upheld⟩

theorem truthful_memoryOver (r : Resolver) (turns : List Turn) : r.Truthful (r.memoryOver turns) :=
  memoryOver_induction truthful_empty (fun _ turn hm => hm.turn turn) turns

/-- **Nothing is read twice.** Whatever the turns were, the history tells of the load of every catalog that is
there; a locale is loaded again only after the catalog of its earlier load was dropped, and so it is with the file
of an entry that has become its text. A request begins three loads at most, the history tells of each that it came
through, unless the request failed there, and no load asks for a file twice. -/
theorem loads_once (r : Resolver) (turns : List Turn) :
    Told (r.memoryOver turns)
    ∧ (∀ before locale place between other place' after,
      (r.memoryOver turns).history
        = before ++ .loaded locale place :: (between ++ .loaded other place' :: after) →
      keyOf locale = keyOf other → .dropped place ∈ between)
    ∧ (∀ before place key x between other after, (x = .obtained place key ∨ x = .settled place key) →
      (r.memoryOver turns).history = before ++ x :: (between ++ .referring place other :: after) →
      key.fold = other.fold → .dropped place ∈ between)
    ∧ ∀ (s : Source) (c : Configuration),
      (∀ asked key (call : Call), call.Requests asked key →
        ∃ new, (call.memory (r.withSource s) c (r.memoryOver turns)).history
            = (r.memoryOver turns).history ++ new
          ∧ new.countP Happening.isLoading ≤ 3
          ∧ Happening.Finished (((r.withSource s).resolve c asked key).on (r.memoryOver turns)).1.isOk new)
      ∧ ∀ locale includesDefault (m : Memory),
        ∃ events, (((r.withSource s).catalog c locale includesDefault).on m).2.journal = m.journal ++ events
          ∧ (events.filterMap Event.file?).Nodup := by
  -- All but the bounds on a single request are read off what every turn keeps.
  obtain ⟨-, htold, honce, -⟩ := truthful_memoryOver r turns
  refine ⟨htold, fun before locale place between other place' after hhistory hkey => ?_,
    fun before place key x between other after hx hhistory hkey => ?_, fun s c => ⟨?_, ?_⟩⟩
  · exact honce _ _ _ _ _ _ hhistory (.loaded hkey)
  · rcases hx with rfl | rfl
    · exact honce _ _ _ _ _ _ hhistory (.obtained hkey)
    · exact honce _ _ _ _ _ _ hhistory (.settled hkey)
  · intro asked key call hcall
    rw [hcall.memory_eq]
    exact (r.withSource s).resolve_begins c key asked _
  · intro locale includesDefault m
    obtain ⟨names, hnodup, hasks⟩ := (r.withSource s).catalog_asks c locale includesDefault
    obtain ⟨events, hjournal, hsublist⟩ := hasks m
    exact ⟨events, hjournal, hnodup.sublist hsublist⟩

/-- Three calls between which the default catalog is dropped: it is loaded twice, and dropped in between. -/
theorem loads_once_greetings :
    let turns : List Turn := [
      ⟨greetings.source, greetings.configuration, .resolve none "hello"⟩,
      ⟨greetings.source, greetings.configuration, .drop "EN"⟩,
      ⟨greetings.source, greetings.configuration, .resolve none "bye"⟩]
    ∃ before locale place between other place' after, (greetings.memoryOver turns).history
        = before ++ .loaded locale place :: (between ++ .loaded other place' :: after)
      ∧ keyOf locale = keyOf other ∧ .dropped place ∈ between := by
  intro turns
  have hhistory : (greetings.memoryOver turns).history
      = [.loading "en"] ++ .loaded "en" (.under "EN") :: ([.dropped (.under "EN"), .loading "en"]
        ++ .loaded "en" (.under "EN") :: []) := by decide +kernel
  exact ⟨_, _, _, _, _, _, _, hhistory, rfl, (loads_once greetings turns).2.1 _ _ _ _ _ _ _ hhistory rfl⟩

end Resolver

end Phrasebook
