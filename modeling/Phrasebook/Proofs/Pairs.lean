import Mathlib.Data.List.Nodup
import Phrasebook.Pairs

/-!
# Keys of ordered pairs

Putting and removing pairs, seen by the keys. The pairs that are only ever put have every key once, and
then removing a key leaves nothing under it.
-/

namespace Phrasebook.Pairs

variable {κ α : Type} [DecidableEq κ] {l : List (κ × α)} {key other : κ}

/-- What is looked up is one of the pairs. -/
theorem mem_of_get? {v : α} (h : get? key l = some v) : (key, v) ∈ l := by
  induction l with
  | nil => cases h
  | cons p rest ih =>
      obtain ⟨k, w⟩ := p
      rw [get?] at h
      split at h
      · next hk =>
        rw [hk, Option.some.inj h]
        exact List.mem_cons_self
      · exact List.mem_cons_of_mem _ (ih h)

theorem has_put_self (key : κ) (v : α) (l : List (κ × α)) : has key (put key v l) = true := by
  rw [has, get?_put_self, Option.isSome_some]

theorem has_put_of_ne (h : other ≠ key) (v : α) (l : List (κ × α)) :
    has other (put key v l) = has other l := by
  rw [has, get?_put_of_ne h, has]

/-- A value under a key that is taken takes no other key. -/
theorem has_put_of_has (h : has key l = true) (v : α) : has other (put key v l) = has other l := by
  by_cases hother : other = key
  · rw [hother, has_put_self, h]
  · exact has_put_of_ne hother v l

theorem mem_keys_iff : key ∈ keys l ↔ has key l = true := by
  unfold has keys
  induction l with
  | nil => simp [get?]
  | cons p rest ih =>
      obtain ⟨k, v⟩ := p
      rw [List.map_cons, List.mem_cons, get?]
      by_cases hk : k = key
      · simp [hk]
      · rw [if_neg hk, ← ih]
        exact or_iff_right fun h => hk h.symm

theorem mem_keys_put {v : α} : other ∈ keys (put key v l) ↔ other = key ∨ other ∈ keys l := by
  rw [mem_keys_iff, mem_keys_iff]
  by_cases hother : other = key
  · exact iff_of_true (by rw [hother, has_put_self]) (.inl hother)
  · rw [has_put_of_ne hother]
    exact (or_iff_right hother).symm

theorem mem_put {v : α} {p : κ × α} (h : p ∈ put key v l) : p = (key, v) ∨ p ∈ l := by
  induction l with
  | nil => exact .inl (List.mem_singleton.mp h)
  | cons q rest ih =>
      obtain ⟨k, w⟩ := q
      rw [put] at h
      split at h
      · rcases List.mem_cons.mp h with hp | hp
        · exact .inl hp
        · exact .inr (List.mem_cons_of_mem _ hp)
      · rcases List.mem_cons.mp h with hp | hp
        · exact .inr (hp ▸ List.mem_cons_self)
        · rcases ih hp with hp | hp
          · exact .inl hp
          · exact .inr (List.mem_cons_of_mem _ hp)

/-- A pair with a new key comes last. -/
theorem put_of_not_mem (h : key ∉ keys l) (v : α) : put key v l = l ++ [(key, v)] := by
  induction l with
  | nil => rfl
  | cons q rest ih =>
      obtain ⟨k, w⟩ := q
      have hk : k ≠ key := fun heq => h (heq ▸ List.mem_cons_self)
      rw [put, if_neg hk, ih fun hmem => h (List.mem_cons_of_mem k hmem)]
      rfl

/-- **Putting leaves every key there once.** -/
theorem nodup_put (h : (keys l).Nodup) (key : κ) (v : α) : (keys (put key v l)).Nodup := by
  induction l with
  | nil => exact List.nodup_singleton key
  | cons p rest ih =>
      obtain ⟨k, w⟩ := p
      obtain ⟨hk, hrest⟩ := List.nodup_cons.mp h
      rw [put]
      by_cases heq : k = key
      · rw [if_pos heq]
        rw [heq] at h
        exact h
      · rw [if_neg heq]
        refine List.nodup_cons.mpr ⟨fun hmem => ?_, ih hrest⟩
        rcases mem_keys_put.mp hmem with hkey | hmem
        · exact heq hkey
        · exact hk hmem

/-! ## Pairs with every key once -/

theorem get?_eq_some_iff (h : (keys l).Nodup) {v : α} : get? key l = some v ↔ (key, v) ∈ l := by
  induction l with
  | nil => simp [get?]
  | cons p rest ih =>
      obtain ⟨k, w⟩ := p
      obtain ⟨hk, hrest⟩ := List.nodup_cons.mp h
      rw [get?, List.mem_cons]
      by_cases heq : k = key
      · rw [if_pos heq, heq]
        have hnot : (key, v) ∉ rest := by
          intro hmem
          have hkey : key ∈ keys rest := List.mem_map_of_mem (f := Prod.fst) hmem
          exact hk (heq ▸ hkey)
        rw [or_iff_left hnot]
        simp [eq_comm]
      · rw [if_neg heq, ih hrest]
        exact (or_iff_right fun hpair => heq (congrArg Prod.fst hpair).symm).symm

/-- **What is under a key is there in any order.** -/
theorem get?_perm {l' : List (κ × α)} (h : l.Perm l') (hl : (keys l).Nodup) (key : κ) :
    get? key l = get? key l' := by
  have hl' : (keys l').Nodup := (h.map Prod.fst).nodup_iff.mp hl
  refine Option.ext fun v => ?_
  rw [get?_eq_some_iff hl, get?_eq_some_iff hl']
  exact h.mem_iff

theorem get?_ofList (hl : (keys l).Nodup) (key : κ) : get? key (ofList l) = get? key l := by
  -- What is put on top of other pairs hides those with the same keys.
  have honto : ∀ done : List (κ × α), get? key (l.foldl (fun done p => put p.1 p.2 done) done)
      = (get? key l).or (get? key done) := by
    induction l with
    | nil => exact fun done => rfl
    | cons p rest ih =>
        obtain ⟨k, v⟩ := p
        obtain ⟨hk, hrest⟩ := List.nodup_cons.mp hl
        intro done
        rw [List.foldl_cons, ih hrest, get?]
        by_cases heq : k = key
        · have hnone : get? key rest = none := by
            rw [← heq]
            exact Option.not_isSome_iff_eq_none.mp fun hhas => hk (mem_keys_iff.mpr hhas)
          rw [if_pos heq, hnone, heq, get?_put_self]
          rfl
        · rw [if_neg heq, get?_put_of_ne (Ne.symm heq)]
  refine (honto []).trans ?_
  cases get? key l <;> rfl

/-! ## Removing -/

theorem keys_remove (key : κ) (l : List (κ × α)) : keys (remove key l) = (keys l).erase key := by
  induction l with
  | nil => rfl
  | cons p rest ih =>
      obtain ⟨k, w⟩ := p
      rw [remove]
      show _ = (k :: keys rest).erase key
      by_cases hk : k = key
      · rw [if_pos hk, hk, List.erase_cons_head]
      · rw [if_neg hk, List.erase_cons_tail (by simpa using hk), ← ih]
        rfl

theorem nodup_remove (h : (keys l).Nodup) (key : κ) : (keys (remove key l)).Nodup := by
  rw [keys_remove]
  exact h.erase key

/-- **Nothing is left under a key that was removed.** -/
theorem has_remove_self (h : (keys l).Nodup) (key : κ) : has key (remove key l) = false := by
  rw [Bool.eq_false_iff]
  intro hhas
  rw [← mem_keys_iff, keys_remove] at hhas
  exact h.not_mem_erase hhas

theorem get?_remove_of_ne (h : other ≠ key) (l : List (κ × α)) :
    get? other (remove key l) = get? other l := by
  induction l with
  | nil => rfl
  | cons p rest ih =>
      obtain ⟨k, w⟩ := p
      rw [remove]
      by_cases hk : k = key
      · rw [if_pos hk, get?, if_neg fun hother => h (hother.symm.trans hk)]
      · rw [if_neg hk, get?, get?, ih]

end Phrasebook.Pairs
