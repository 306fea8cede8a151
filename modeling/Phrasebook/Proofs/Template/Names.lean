import Mathlib.Data.List.Nodup
import Phrasebook.Template.Node

/-!
# The argument names of a template

Names are noted one by one, so what noting a name preserves is preserved over a whole template
(`noteNodes_induction`). No name is noted twice (`nodup_argumentNames`), none is lost, and so the argument
of every node is among the names of its template (`mem_argumentNames`).
-/

namespace Phrasebook.Template

variable {seen : List Text} {name : Text}

theorem mem_noteName {a : Text} : a ∈ noteName seen name ↔ a ∈ seen ∨ a = name := by
  unfold noteName
  split
  · next h =>
      constructor
      · exact .inl
      · rintro (ha | rfl)
        · exact ha
        · exact h
  · simp

theorem nodup_noteName (h : seen.Nodup) : (noteName seen name).Nodup := by
  unfold noteName
  split
  · exact h
  · next hname =>
      rw [← List.concat_eq_append]
      exact h.concat hname

/-! ## Over a template -/

section Induction

variable {P : List Text → Prop} (hname : ∀ seen name, P seen → P (noteName seen name))
include hname

set_option linter.unusedSectionVars false in
mutual

theorem noteNode_induction {seen : List Text} (h : P seen) (n : Node) : P (noteNode seen n) := by
  cases n with
  | literal t => exact h
  | pluralValue => exact h
  | simple argument format alignment raw => exact hname seen argument h
  | formatted kind argument style raw => exact hname seen argument h
  | choice kind argument offset cases raw => exact noteCases_induction (hname seen argument h) cases

/-- **What noting a name preserves is preserved over a template.** -/
theorem noteNodes_induction {seen : List Text} (h : P seen) (ns : List Node) : P (noteNodes seen ns) := by
  cases ns with
  | nil => exact h
  | cons n rest => exact noteNodes_induction (noteNode_induction h n) rest

theorem noteCases_induction {seen : List Text} (h : P seen) (cs : List (Text × List Node)) :
    P (noteCases seen cs) := by
  cases cs with
  | nil => exact h
  | cons c rest =>
      obtain ⟨word, body⟩ := c
      exact noteCases_induction (noteNodes_induction h body) rest

end

end Induction

/-- **No name is noted twice.** -/
theorem nodup_argumentNames (ns : List Node) : (argumentNames ns).Nodup :=
  noteNodes_induction (fun _ _ => nodup_noteName) List.nodup_nil ns

/-- A name that has been noted stays. -/
theorem mem_noteNodes (h : name ∈ seen) (ns : List Node) : name ∈ noteNodes seen ns :=
  noteNodes_induction (P := (name ∈ ·)) (fun _ _ h => mem_noteName.mpr (.inl h)) h ns

theorem mem_noteCases (h : name ∈ seen) (cs : List (Text × List Node)) : name ∈ noteCases seen cs :=
  noteCases_induction (P := (name ∈ ·)) (fun _ _ h => mem_noteName.mpr (.inl h)) h cs

/-- The name that a node asks for. -/
def Node.argument? : Node → Option Text
  | .literal _ => none
  | .pluralValue => none
  | .simple argument _ _ _ => some argument
  | .formatted _ argument _ _ => some argument
  | .choice _ argument _ _ _ => some argument

theorem mem_noteNode {n : Node} (h : n.argument? = some name) : name ∈ noteNode seen n := by
  cases n with
  | literal t => cases h
  | pluralValue => cases h
  | simple argument format alignment raw =>
      obtain rfl := Option.some.inj h
      exact mem_noteName.mpr (.inr rfl)
  | formatted kind argument style raw =>
      obtain rfl := Option.some.inj h
      exact mem_noteName.mpr (.inr rfl)
  | choice kind argument offset cases raw =>
      obtain rfl := Option.some.inj h
      exact mem_noteCases (mem_noteName.mpr (.inr rfl)) cases

/-- **The name of every node is among those of its template.** -/
theorem mem_argumentNames {ns : List Node} {n : Node} (hn : n ∈ ns) (h : n.argument? = some name) :
    name ∈ argumentNames ns := by
  rw [argumentNames]
  generalize ([] : List Text) = seen
  induction ns generalizing seen with
  | nil => cases hn
  | cons m rest ih =>
      rcases List.mem_cons.mp hn with rfl | hn
      · exact mem_noteNodes (mem_noteNode h) rest
      · exact ih hn (noteNode seen m)

end Phrasebook.Template
