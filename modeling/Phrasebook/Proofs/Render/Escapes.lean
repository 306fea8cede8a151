import Phrasebook.Proofs.Number.Double
import Phrasebook.Proofs.Outcome
import Phrasebook.Render.Style

/-!
# What is reported as it is

An operation of the library answers a failure with its own error about the value. What it does not know of escapes as
it is, and so does an error that would show an integer of more digits than can be written (`Value.showing_escapes`).
-/

namespace Phrasebook

/-- A failure that is the library's own error about a value, or one of some obstacles. -/
inductive Escapes (P : Obstacle → Prop) : Failure → Prop
  | processing (e : ProcessingError) : Escapes P (.processing e)
  | obstacle {o : Obstacle} (h : P o) : Escapes P (.obstacle o)

/-- The operation has a result or fails with the library's own error. -/
def Settled {α : Type} (r : Outcome α) : Prop := FailsWith (Escapes fun _ => False) r

theorem Escapes.mono {P Q : Obstacle → Prop} (h : ∀ o, P o → Q o) {f : Failure} (hf : Escapes P f) : Escapes Q f := by
  cases hf with
  | processing e => exact .processing e
  | obstacle ho => exact .obstacle (h _ ho)

theorem failure_of_obstacle {α : Type} {r : Except Obstacle α} {f : Failure} (h : Failure.ofObstacle r = .error f) :
    ∃ o, f = .obstacle o := by
  cases r with
  | ok a => cases h
  | error o => exact ⟨o, (Except.error.inj h).symm⟩

/-- What is reported as it is settles only if it has a result. -/
theorem settled_ofObstacle {α : Type} {r : Except Obstacle α} : Settled (Failure.ofObstacle r) ↔ ∃ a, r = .ok a := by
  cases r with
  | ok a => exact iff_of_true (.ok a) ⟨a, rfl⟩
  | error o =>
      refine iff_of_false (fun h => ?_) fun ⟨a, ha⟩ => nomatch ha
      cases h (.obstacle o) rfl with
      | obstacle hnone => exact hnone

namespace Value

/-- A value as it can be passed: a floating-point number of 64 bits, microseconds that are less than a second, and
lists that can be shown. -/
def IsProper : Value → Prop
  | double x => x.IsProper
  | time t => t.microsecond < 1000000
  | moment m => m.time.microsecond < 1000000
  | list items => areWritable items = true
  | _ => True

theorem showing_escapes {P : Obstacle → Prop} {v : Value} (h : v.isWritable = false → P .value)
    (e : ProcessingError) : Escapes P (v.showing e) := by
  rw [Value.showing]
  split
  · exact .processing e
  · next hlong => exact .obstacle (h (by simpa using hlong))

theorem written_fails {P : Obstacle → Prop} {v : Value} (h : v.isWritable = false → P .value) (c : Culture) :
    FailsWith (Escapes P) (v.written c) := by
  rw [Value.written]
  split
  · exact .ok _
  · next hlong => exact .error (.obstacle (h (by simpa using hlong)))

end Value

namespace Render

variable {v : Value} {P : Obstacle → Prop}

/-- **What a style is blamed for becomes an error about the value**, and the rest is reported as it is. -/
theorem blaming_fails {obstacles : List Obstacle} {e : Obstacle → ProcessingError} {r : Except Obstacle Text}
    (hr : FailsWith (fun o => o ∈ obstacles ∨ P o) r) (hv : v.isWritable = false → P .value) :
    FailsWith (Escapes P) (blaming obstacles v e r) := by
  refine FailsWith.mapError (hr.mono fun o ho => ?_)
  by_cases hblamed : blames obstacles o = true
  · rw [if_pos hblamed]
    exact Value.showing_escapes hv (e o)
  · rw [if_neg hblamed]
    refine .obstacle (ho.resolve_left fun hmem => hblamed ?_)
    exact List.contains_iff_mem.mpr hmem

end Render

end Phrasebook
