/-!
# Ordered pairs

Keys with values as a list of pairs in the order in which the keys were first put there. Putting a
value under a key that is taken replaces the value in its place; looking up finds the first pair of a
key.
-/

namespace Phrasebook.Pairs

variable {κ α : Type} [DecidableEq κ]

/-- The value under a key. -/
def get? (key : κ) : List (κ × α) → Option α
  | [] => none
  | (k, v) :: rest => if k = key then some v else get? key rest

/-- The pairs with a value under a key. -/
def put (key : κ) (v : α) : List (κ × α) → List (κ × α)
  | [] => [(key, v)]
  | (k, w) :: rest => if k = key then (key, v) :: rest else (k, w) :: put key v rest

/-- Whether a key is taken. -/
def has (key : κ) (l : List (κ × α)) : Bool := (get? key l).isSome

/-- The pairs without the first one of a key. -/
def remove (key : κ) : List (κ × α) → List (κ × α)
  | [] => []
  | (k, w) :: rest => if k = key then rest else (k, w) :: remove key rest

/-- Pairs put one after the other, so that a later value takes the place of an earlier one. -/
def ofList (l : List (κ × α)) : List (κ × α) := l.foldl (fun done (k, v) => put k v done) []

/-- The keys in order. -/
def keys (l : List (κ × α)) : List κ := l.map (·.1)

theorem get?_put_self (key : κ) (v : α) (l : List (κ × α)) : get? key (put key v l) = some v := by
  induction l with
  | nil => simp [put, get?]
  | cons p l ih => by_cases h : p.1 = key <;> simp [put, get?, h, ih]

theorem get?_put_of_ne {key other : κ} (h : other ≠ key) (v : α) (l : List (κ × α)) :
    get? other (put key v l) = get? other l := by
  induction l with
  | nil => simp [put, get?, Ne.symm h]
  | cons p l ih =>
    obtain ⟨k, w⟩ := p
    by_cases hk : k = key
    · simp [put, get?, hk, Ne.symm h]
    · by_cases ho : k = other <;> simp [put, get?, hk, ho, ih, h]

end Phrasebook.Pairs
