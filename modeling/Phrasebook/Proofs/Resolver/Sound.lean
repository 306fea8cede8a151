import Phrasebook.Proofs.Files.Built
import Phrasebook.Proofs.Resolver.Memory

/-!
# Sound memories

What is true of every memory that comes of calls to a resolver, whatever it reads: no key is there twice, what
is kept apart is the default catalog, and every entry is plain. Each change keeps it.
-/

namespace Phrasebook.Memory

/-- A memory that may come of calls. -/
structure IsSound (m : Memory) : Prop where
  nodup : (Pairs.keys m.catalogs).Nodup
  apart : (m.at? .apart).isSome = true → m.defaultPlace = some .apart
  plain : ∀ {place t}, m.at? place = some t → t.IsPlain

variable {m : Memory} {place : Place} {key : Text} {t : Catalog} {e : Entry}

theorem isSound_empty : empty.IsSound := by
  refine ⟨List.nodup_nil, fun h => ?_, fun {place t} h => ?_⟩
  · cases h
  · cases place <;> cases h

theorem IsSound.records (h : m.IsSound) (j : List Event) (hs : List Happening) :
    { m with journal := j, history := hs }.IsSound := by
  refine ⟨h.nodup, h.apart, fun {place t} ht => ?_⟩
  have hbefore : m.at? place = some t := by cases place <;> exact ht
  exact h.plain hbefore

/-- A plain catalog may be put anywhere, and apart from the others where the default one is apart. -/
theorem IsSound.put (h : m.IsSound) (ht : t.IsPlain)
    (hplace : place = .apart → m.defaultPlace = some .apart) : (m.put place t).IsSound := by
  refine ⟨?_, fun hapart => ?_, fun {other u} hu => ?_⟩
  · cases place with
    | under k => exact Pairs.nodup_put h.nodup k t
    | apart => exact h.nodup
  · rw [defaultPlace_put]
    by_cases heq : place = .apart
    · exact hplace heq
    · rw [at?_put_of_ne m t (Ne.symm heq)] at hapart
      exact h.apart hapart
  · rw [at?_put] at hu
    split at hu
    · exact Option.some.inj hu ▸ ht
    · exact h.plain hu

/-- A catalog that is there may be changed as long as its entries stay plain. -/
theorem IsSound.put_at (h : m.IsSound) (hat : m.at? place = some t) {u : Catalog} (hu : u.IsPlain) :
    (m.put place u).IsSound := by
  refine h.put hu fun heq => h.apart ?_
  rw [← heq, hat]
  rfl

theorem IsSound.update (h : m.IsSound) {f : Catalog → Catalog}
    (hf : ∀ t : Catalog, t.IsPlain → (f t).IsPlain) : (m.update place f).IsSound := by
  unfold Memory.update
  cases hat : m.at? place with
  | none => exact h
  | some t => exact h.put_at hat (hf t (h.plain hat))

/-- **A plain entry may be settled.** -/
theorem IsSound.settle (h : m.IsSound) (he : e.IsPlain) : (m.settle place key e).IsSound := by
  unfold Memory.settle
  cases hat : m.at? place with
  | none => exact h
  | some t => exact (h.put_at hat ((h.plain hat).add he)).records _ _

/-- Nothing is apart where there is no default catalog. -/
theorem IsSound.at?_apart (h : m.IsSound) (hnone : m.defaultPlace = none) : m.at? .apart = none := by
  cases hat : m.at? .apart with
  | none => rfl
  | some t =>
      have hplace := h.apart (by rw [hat]; rfl)
      rw [hnone] at hplace
      cases hplace

/-- **The default catalog takes the place of none.** -/
theorem IsSound.at?_placeForDefault (h : m.IsSound) (hnone : m.defaultPlace = none) (key : Text) :
    m.at? (m.placeForDefault key) = none := by
  unfold placeForDefault
  split
  · exact h.at?_apart hnone
  · next hfree => exact Option.not_isSome_iff_eq_none.mp hfree

theorem IsSound.putDefault (h : m.IsSound) (hnone : m.defaultPlace = none) (ht : t.IsPlain) (key : Text) :
    (m.putDefault key t).IsSound := by
  refine ⟨?_, fun hapart => ?_, fun {other u} hu => ?_⟩
  · show (Pairs.keys (m.put (m.placeForDefault key) t).catalogs).Nodup
    cases m.placeForDefault key with
    | under k => exact Pairs.nodup_put h.nodup k t
    | apart => exact h.nodup
  · show some (m.placeForDefault key) = some .apart
    rw [at?_putDefault] at hapart
    split at hapart
    · next heq => rw [← heq]
    · rw [h.at?_apart hnone] at hapart
      cases hapart
  · rw [at?_putDefault] at hu
    split at hu
    · exact Option.some.inj hu ▸ ht
    · exact h.plain hu

/-! ## Forgetting -/

theorem IsSound.drop (h : m.IsSound) (locale : Text) : (m.drop locale).IsSound := by
  refine ⟨Pairs.nodup_remove h.nodup _, fun hapart => ?_, fun {other u} hu => ?_⟩
  · have hplace : m.defaultPlace = some .apart := h.apart hapart
    show (if _ ∧ m.defaultPlace = some (.under (keyOf locale)) then none else m.defaultPlace) = _
    rw [hplace, if_neg]
    rintro ⟨-, heq⟩
    cases heq
  · rw [at?_drop m other h.nodup] at hu
    split at hu
    · cases hu
    · exact h.plain hu

theorem isSound_dropAll (m : Memory) : m.dropAll.IsSound := by
  refine ⟨List.nodup_nil, fun h => ?_, fun {place t} h => ?_⟩
  · cases h
  · rw [at?_dropAll] at h
    cases h

end Phrasebook.Memory
