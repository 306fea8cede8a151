import Phrasebook.Resolver.Load

/-!
# Running actions

What an action on the memory of a resolver comes to (`Action.on`), and two ways to speak of it. A quiet
action (`Quiet`) has the same outcome in every memory and adds to the journal at most. A triple
(`Meets P x Q`) says what holds after an action that starts where `P` does; what it says of failures
matters as much, since whatever was remembered before a failure stays remembered.
-/

namespace Phrasebook.Action

variable {α β : Type}

/-- The outcome of an action in a memory, and the memory after it. -/
def on (x : Action α) (m : Memory) : Outcome α × Memory := x.run.run m

theorem on_lift (o : Outcome α) (m : Memory) : on (liftM o) m = (o, m) := rfl

theorem on_get (m : Memory) : on get m = (.ok m, m) := rfl

theorem on_bind (x : Action α) (f : α → Action β) (m : Memory) :
    on (x >>= f) m = match on x m with
      | (.ok a, m') => on (f a) m'
      | (.error e, m') => (.error e, m') := by
  unfold on
  rw [ExceptT.run_bind, StateT.run_bind]
  obtain ⟨o, m'⟩ := x.run.run m
  cases o <;> rfl

theorem on_change (f : Memory → Memory) (m : Memory) : on (Resolver.change f) m = (.ok (), f m) := rfl

theorem on_record (h : Happening) (m : Memory) : on (Resolver.record h) m = (.ok (), m.record h) := rfl

theorem on_bind_ok {x : Action α} {a : α} {m m' : Memory} (h : x.on m = (.ok a, m'))
    (f : α → Action β) : on (x >>= f) m = (f a).on m' := by
  rw [on_bind, h]

theorem on_bind_error {x : Action α} {e : Failure} {m m' : Memory} (h : x.on m = (.error e, m'))
    (f : α → Action β) : on (x >>= f) m = (.error e, m') := by
  rw [on_bind, h]

/-- **A sequence fails in its first part or in its second.** -/
theorem error_of_bind {x : Action α} {f : α → Action β} {e : Failure} {m m' : Memory}
    (h : on (x >>= f) m = (.error e, m')) :
    on x m = (.error e, m') ∨ ∃ a m₁, on x m = (.ok a, m₁) ∧ on (f a) m₁ = (.error e, m') := by
  rw [on_bind] at h
  revert h
  obtain ⟨o, m₁⟩ := on x m
  intro h
  cases o with
  | error e' =>
      obtain ⟨he, rfl⟩ := Prod.mk.inj h
      obtain rfl := Except.error.inj he
      exact .inl rfl
  | ok a => exact .inr ⟨a, m₁, rfl, h⟩

/-- **`Adds x hs o`**: the action has the outcome `o` in every memory, adds the happenings `hs` to the history
and something to the journal, and changes nothing else. -/
def Adds (x : Action α) (hs : List Happening) (o : Outcome α) : Prop :=
  ∀ m, ∃ j, x.on m = (o, { m with journal := m.journal ++ j, history := m.history ++ hs })

/-- **`Quiet x o`**: the action has the outcome `o` in every memory and adds to the journal at most. -/
abbrev Quiet (x : Action α) (o : Outcome α) : Prop := Adds x [] o

theorem quiet_pure (a : α) : Quiet (pure a) (.ok a) := by
  intro m
  refine ⟨[], ?_⟩
  rw [List.append_nil, List.append_nil]
  rfl

theorem quiet_lift (o : Outcome α) : Quiet (liftM o) o := by
  intro m
  refine ⟨[], ?_⟩
  rw [List.append_nil, List.append_nil]
  rfl

theorem quiet_note (e : Event) : Quiet (Resolver.note e) (.ok ()) := by
  intro m
  refine ⟨[e], ?_⟩
  rw [List.append_nil]
  rfl

theorem adds_record (h : Happening) : Adds (Resolver.record h) [h] (.ok ()) := by
  intro m
  refine ⟨[], ?_⟩
  rw [List.append_nil]
  rfl

/-- An action that comes through, and what is done with its value. -/
theorem Adds.bind {x : Action α} {a : α} {hs hs' : List Happening} (hx : Adds x hs (.ok a))
    {f : α → Action β} {o : Outcome β} (hf : Adds (f a) hs' o) : Adds (x >>= f) (hs ++ hs') o := by
  intro m
  obtain ⟨j, hon⟩ := hx m
  obtain ⟨j', hon'⟩ := hf { m with journal := m.journal ++ j, history := m.history ++ hs }
  refine ⟨j ++ j', (on_bind_ok hon f).trans ?_⟩
  rw [hon', List.append_assoc, List.append_assoc]

theorem Adds.bind_error {x : Action α} {e : Failure} {hs : List Happening} (hx : Adds x hs (.error e))
    (f : α → Action β) : Adds (x >>= f) hs (.error e) := by
  intro m
  obtain ⟨j, hon⟩ := hx m
  exact ⟨j, on_bind_error hon f⟩

/-- **What only the first of two actions adds, both add.** -/
theorem Adds.seq {x : Action α} {o : Outcome α} {hs : List Happening} (hx : Adds x hs o)
    {f : α → Action β} {g : α → Outcome β} (hf : ∀ a, Quiet (f a) (g a)) : Adds (x >>= f) hs (o >>= g) := by
  cases o with
  | error e => exact hx.bind_error f
  | ok a =>
      have hboth := hx.bind (hf a)
      rw [List.append_nil] at hboth
      exact hboth

/-! ## Triples -/

/-- **`Meets P x Q`**: from a memory with the property `P` the action ends with an outcome and a memory
that are as `Q` says. -/
def Meets (P : Memory → Prop) (x : Action α) (Q : Outcome α → Memory → Prop) : Prop :=
  ∀ m, P m → Q (x.on m).1 (x.on m).2

variable {P : Memory → Prop}

theorem Meets.pure {Q : Outcome α → Memory → Prop} {a : α} (h : ∀ m, P m → Q (.ok a) m) :
    Meets P (Pure.pure a) Q := h

theorem Meets.pre {P' : Memory → Prop} {x : Action α} {Q : Outcome α → Memory → Prop}
    (hx : Meets P x Q) (h : ∀ m, P' m → P m) : Meets P' x Q :=
  fun m hm => hx m (h m hm)

/-- **Triples one after the other.** A failure of the first action is the failure of both. -/
theorem Meets.bind {x : Action α} {f : α → Action β} {R : Outcome α → Memory → Prop}
    {Q : Outcome β → Memory → Prop} (hx : Meets P x R) (hok : ∀ a, Meets (R (.ok a)) (f a) Q)
    (herror : ∀ e m, R (.error e) m → Q (.error e) m) : Meets P (x >>= f) Q := by
  intro m hm
  have hR := hx m hm
  rw [on_bind]
  revert hR
  obtain ⟨o, m'⟩ := x.on m
  intro hR
  cases o with
  | error e => exact herror e m' hR
  | ok a => exact hok a m' hR

/-- What reads the memory sees it as it is. -/
theorem Meets.get {f : Memory → Action β} {Q : Outcome β → Memory → Prop}
    (h : ∀ m, P m → Q ((f m).on m).1 ((f m).on m).2) : Meets P (MonadState.get >>= f) Q := by
  intro m hm
  rw [on_bind_ok (on_get m) f]
  exact h m hm

/-- A change of the memory comes through. -/
theorem Meets.change {f : Memory → Memory} {Q : Outcome Unit → Memory → Prop}
    (h : ∀ m, P m → Q (.ok ()) (f m)) : Meets P (Resolver.change f) Q := h

theorem Meets.change_bind {f : Memory → Memory} {g : Unit → Action β} {R : Memory → Prop}
    {Q : Outcome β → Memory → Prop} (hf : ∀ m, P m → R (f m)) (hg : Meets R (g ()) Q) :
    Meets P (Resolver.change f >>= g) Q := by
  intro m hm
  rw [on_bind_ok (on_change f m) g]
  exact hg (f m) (hf m hm)

/-- **What the journal and the history have no part in is kept.** -/
theorem Adds.meets {x : Action α} {o : Outcome α} {hs : List Happening} (hx : Adds x hs o)
    (hP : ∀ m j h, P m → P { m with journal := j, history := h }) :
    Meets P x fun o' m => o' = o ∧ P m := by
  intro m hm
  obtain ⟨j, hon⟩ := hx m
  rw [hon]
  exact ⟨rfl, hP m _ _ hm⟩

end Phrasebook.Action
