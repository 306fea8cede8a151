import Mathlib.Init
import Phrasebook.Error

/-!
# Steps that may fail

What is known of the steps of a computation that has come through, and for which reasons one fails.
-/

namespace Phrasebook

variable {ε ε' α β : Type}

/-- **A sequence that came through has steps that came through.** -/
theorem exists_of_bind {x : Except ε α} {f : α → Except ε β} {b : β} (h : (x >>= f) = .ok b) :
    ∃ a, x = .ok a ∧ f a = .ok b := by
  cases x with
  | error e => cases h
  | ok a => exact ⟨a, rfl, h⟩

/-- **A sequence that failed did so in one of its steps.** -/
theorem failed_of_bind {x : Except ε α} {f : α → Except ε β} {e : ε} (h : (x >>= f) = .error e) :
    x = .error e ∨ ∃ a, x = .ok a ∧ f a = .error e := by
  cases x with
  | error e' =>
      obtain rfl := Except.error.inj h
      exact .inl rfl
  | ok a => exact .inr ⟨a, rfl, h⟩

theorem exists_of_map {x : Except ε α} {f : α → β} {b : β} (h : x.map f = .ok b) :
    ∃ a, x = .ok a ∧ f a = b := by
  cases x with
  | error e => cases h
  | ok a => exact ⟨a, rfl, Except.ok.inj h⟩

theorem ok_of_toOption {x : Except ε α} {a : α} (h : x.toOption = some a) : x = .ok a := by
  cases x with
  | error e => cases h
  | ok b => exact congrArg Except.ok (Option.some.inj h)

/-- An answer that passes a test is there. -/
theorem exists_of_any {x : Except ε (Option α)} {p : α → Bool} (h : x.toOption.join.any p = true) :
    ∃ a, x = .ok (some a) ∧ p a = true := by
  cases x with
  | error e => cases h
  | ok o =>
      obtain ⟨a, ha, hp⟩ := (Option.any_eq_true p o).mp h
      exact ⟨a, congrArg Except.ok ha, hp⟩

/-- Failures told in other words are failures all the same. -/
theorem ok_of_mapError {x : Except ε α} {f : ε → ε'} {a : α} (h : x.mapError f = .ok a) : x = .ok a := by
  cases x with
  | error e => cases h
  | ok b =>
      obtain rfl := Except.ok.inj h
      rfl

/-! ## Reasons to fail -/

/-- Whatever a computation fails with has a property. -/
def FailsWith (P : ε → Prop) (x : Except ε α) : Prop := ∀ e, x = .error e → P e

namespace FailsWith

variable {P Q : ε → Prop} {x : Except ε α} {f : α → Except ε β}

theorem ok (a : α) : FailsWith P (.ok a : Except ε α) := fun _ h => nomatch h

theorem of_ok {a : α} (h : x = .ok a) : FailsWith P x := h ▸ ok a

theorem error {e : ε} (h : P e) : FailsWith P (.error e : Except ε α) := by
  intro e' he
  rw [← Except.error.inj he]
  exact h

theorem mono (hx : FailsWith P x) (h : ∀ e, P e → Q e) : FailsWith Q x := fun e he => h e (hx e he)

/-- After a step that came through it is up to what follows. -/
theorem after {a : α} (h : x = .ok a) (hf : FailsWith P (f a)) : FailsWith P (x >>= f) := by
  subst h
  exact hf

/-- A sequence fails with what its steps fail with. -/
theorem bind (hx : FailsWith P x) (hf : ∀ a, x = .ok a → FailsWith P (f a)) : FailsWith P (x >>= f) := by
  intro e he
  rcases failed_of_bind he with he | ⟨a, ha, he⟩
  · exact hx e he
  · exact hf a ha e he

theorem map (hx : FailsWith P x) (f : α → β) : FailsWith P (x.map f) := by
  intro e he
  cases x with
  | error e' => exact hx e (congrArg Except.error (Except.error.inj he))
  | ok a => cases he

/-- Failures told in other words have what the words say. -/
theorem mapError {P : ε' → Prop} {f : ε → ε'} (hx : FailsWith (fun e => P (f e)) x) : FailsWith P (x.mapError f) := by
  intro e he
  cases x with
  | error e' =>
      rw [← Except.error.inj he]
      exact hx e' rfl
  | ok a => cases he

end FailsWith

/-- What a style or a format is blamed for: a value or a pattern that cannot be used, and a name that stands for nothing. -/
def IsBlamed (o : Obstacle) : Prop := o = .value ∨ o = .key

end Phrasebook
