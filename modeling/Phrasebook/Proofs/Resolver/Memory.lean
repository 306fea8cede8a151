import Phrasebook.Proofs.Pairs
import Phrasebook.Resolver.Memory

/-!
# What changes of a memory change

Each way to change a memory, seen by the catalogs at its places, by the place of the default catalog and by
the history.
-/

namespace Phrasebook.Memory

variable (m : Memory) (place other : Place) (key : Text) (t : Catalog) (e : Entry)

/-! ## Records -/

@[simp] theorem at?_record (h : Happening) : (m.record h).at? place = m.at? place := by
  cases place <;> rfl

@[simp] theorem at?_journal (j : List Event) : { m with journal := j }.at? place = m.at? place := by
  cases place <;> rfl

@[simp] theorem history_record (h : Happening) : (m.record h).history = m.history ++ [h] := rfl

/-! ## Another catalog at a place -/

theorem at?_put_self : (m.put place t).at? place = some t := by
  cases place with
  | under key => exact Pairs.get?_put_self key t m.catalogs
  | apart => rfl

variable {place other} in
theorem at?_put_of_ne (h : other ≠ place) : (m.put place t).at? other = m.at? other := by
  cases place with
  | under key =>
      cases other with
      | under k =>
          have hk : k ≠ key := fun heq => h (congrArg Place.under heq)
          exact Pairs.get?_put_of_ne hk t m.catalogs
      | apart => rfl
  | apart =>
      cases other with
      | under k => rfl
      | apart => exact absurd rfl h

theorem at?_put : (m.put place t).at? other = if other = place then some t else m.at? other := by
  split
  · next h => rw [h, at?_put_self]
  · next h => exact at?_put_of_ne m t h

@[simp] theorem defaultPlace_put : (m.put place t).defaultPlace = m.defaultPlace := by
  cases place <;> rfl

@[simp] theorem journal_put : (m.put place t).journal = m.journal := by cases place <;> rfl

@[simp] theorem history_put : (m.put place t).history = m.history := by cases place <;> rfl

/-! ## A changed catalog -/

theorem at?_update (f : Catalog → Catalog) :
    (m.update place f).at? other = if other = place then (m.at? place).map f else m.at? other := by
  unfold update
  cases hget : m.at? place with
  | none =>
      dsimp only
      by_cases h : other = place
      · rw [if_pos h, h, hget]
        rfl
      · rw [if_neg h]
  | some t => exact at?_put m place other (f t)

@[simp] theorem isSome_at?_update (f : Catalog → Catalog) :
    ((m.update place f).at? other).isSome = (m.at? other).isSome := by
  rw [at?_update]
  split
  · next h => rw [Option.isSome_map, h]
  · rfl

@[simp] theorem defaultPlace_update (f : Catalog → Catalog) :
    (m.update place f).defaultPlace = m.defaultPlace := by
  unfold update
  split
  · exact defaultPlace_put m place _
  · rfl

@[simp] theorem journal_update (f : Catalog → Catalog) : (m.update place f).journal = m.journal := by
  unfold update
  split
  · exact journal_put m place _
  · rfl

@[simp] theorem history_update (f : Catalog → Catalog) : (m.update place f).history = m.history := by
  unfold update
  split
  · exact history_put m place _
  · rfl

/-- **A settled entry is added to the catalog at its place**, and to no other. -/
theorem at?_settle : (m.settle place key e).at? other
    = if other = place then (m.at? place).map (·.add key e) else m.at? other := by
  unfold settle
  cases hget : m.at? place with
  | none =>
      dsimp only
      by_cases h : other = place
      · rw [if_pos h, h, hget]
        rfl
      · rw [if_neg h]
  | some t =>
      dsimp only
      rw [at?_record]
      exact at?_put m place other (t.add key e)

@[simp] theorem isSome_at?_settle :
    ((m.settle place key e).at? other).isSome = (m.at? other).isSome := by
  rw [at?_settle]
  split
  · next h => rw [Option.isSome_map, h]
  · rfl

@[simp] theorem defaultPlace_settle : (m.settle place key e).defaultPlace = m.defaultPlace := by
  unfold settle
  split
  · exact defaultPlace_put m place _
  · rfl

@[simp] theorem journal_settle : (m.settle place key e).journal = m.journal := by
  unfold settle
  split
  · exact journal_put m place _
  · rfl

theorem history_settle : (m.settle place key e).history
    = m.history ++ if (m.at? place).isSome then [.settled place key] else [] := by
  unfold settle
  cases m.at? place with
  | none => exact (List.append_nil _).symm
  | some t =>
      dsimp only
      rw [history_record, history_put]
      rfl

/-! ## The default catalog -/

theorem at?_putDefault : (m.putDefault key t).at? other
    = if other = m.placeForDefault key then some t else m.at? other := by
  refine Eq.trans ?_ (at?_put m (m.placeForDefault key) other t)
  cases other <;> rfl

theorem journal_putDefault : (m.putDefault key t).journal = m.journal :=
  journal_put m (m.placeForDefault key) t

theorem history_putDefault : (m.putDefault key t).history = m.history :=
  history_put m (m.placeForDefault key) t

/-! ## Forgetting -/

/-- **A dropped catalog is gone**, where every key is there once. -/
theorem at?_drop (h : (Pairs.keys m.catalogs).Nodup) (locale : Text) :
    (m.drop locale).at? other = if other = .under (keyOf locale) then none else m.at? other := by
  cases other with
  | apart => rfl
  | under k =>
      by_cases hk : k = keyOf locale
      · rw [if_pos (congrArg Place.under hk), hk]
        have hgone := Pairs.has_remove_self h (keyOf locale)
        exact Option.not_isSome_iff_eq_none.mp (by rw [Pairs.has] at hgone; exact hgone ▸ Bool.false_ne_true)
      · rw [if_neg fun heq => hk (Place.under.inj heq)]
        exact Pairs.get?_remove_of_ne hk m.catalogs

theorem at?_dropAll : m.dropAll.at? place = none := by cases place <;> rfl

theorem mem_places : place ∈ m.places ↔ (m.at? place).isSome = true := by
  unfold places
  cases place with
  | under k =>
      have hapart : Place.under k ∉ (if m.apart.isSome = true then [Place.apart] else []) := by
        split <;> simp
      rw [List.mem_append, or_iff_left hapart, List.mem_map]
      constructor
      · rintro ⟨k', hk', heq⟩
        obtain rfl := Place.under.inj heq
        exact Pairs.mem_keys_iff.mp hk'
      · exact fun h => ⟨k, Pairs.mem_keys_iff.mpr h, rfl⟩
  | apart =>
      have hunder : Place.apart ∉ (Pairs.keys m.catalogs).map Place.under := by simp
      rw [List.mem_append, or_iff_right hunder]
      show _ ↔ m.apart.isSome = true
      split <;> simp [*]

end Phrasebook.Memory
