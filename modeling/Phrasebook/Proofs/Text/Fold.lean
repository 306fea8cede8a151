import Mathlib.Data.List.Basic
import Phrasebook.Proofs.Text.Ascii
import Phrasebook.Proofs.Text.Parts
import Phrasebook.Tree

/-!
# Case and dotted names

Names are compared by their upper case, and dotted names are made of segments between full stops. The two do not
get in each other's way: upper case keeps full stops and makes none (`dot_mem_upper_iff`), so the folded form of a
dotted name has the folded forms of the segments for its segments (`fold_join`), and no segment gets lost
(`fold_eq_nil`).
-/

namespace Phrasebook

namespace Unicode

/-- A code point that a case map moves lies in a run that moves so far. -/
theorem exists_run_of_shiftOf {runs : List Run} {n : Nat} {d : Int} (h : shiftOf runs n = some d) :
    ∃ r ∈ runs, r.first ≤ n ∧ n ≤ r.last ∧ r.shift = d := by
  induction runs with
  | nil => cases h
  | cons r rest ih =>
      rw [shiftOf] at h
      split at h
      · cases h
      · split at h
        · split at h
          · obtain rfl := Option.some.inj h
            exact ⟨r, List.mem_cons_self, by omega, by omega, rfl⟩
          · cases h
        · obtain ⟨s, hs, hn⟩ := ih h
          exact ⟨s, List.mem_cons_of_mem r hs, hn⟩

theorem mem_of_exceptionOf {exceptions : List (Nat × List Nat)} {n : Nat} {image : List Nat}
    (h : exceptionOf exceptions n = some image) : (n, image) ∈ exceptions := by
  induction exceptions with
  | nil => cases h
  | cons e rest ih =>
      obtain ⟨m, i⟩ := e
      rw [exceptionOf] at h
      split at h
      · cases h
      · split at h
        · next hm =>
          obtain rfl := Option.some.inj h
          rw [hm]
          exact List.mem_cons_self
        · exact List.mem_cons_of_mem (m, i) (ih h)

/-- **What a case map makes of one code point**: several others, one other, or itself. -/
theorem mapCase_cases (exceptions : List (Nat × List Nat)) (runs : List Run) (x : CodePoint) :
    (∃ image, (x.val, image) ∈ exceptions ∧ mapCase exceptions runs x = image.map CodePoint.ofNat)
      ∨ (∃ r ∈ runs, r.first ≤ x.val ∧ x.val ≤ r.last
        ∧ mapCase exceptions runs x = [CodePoint.ofNat (Int.toNat (x.val + r.shift))])
      ∨ mapCase exceptions runs x = [x] := by
  unfold mapCase
  cases hexception : exceptionOf exceptions x.val with
  | some image => exact .inl ⟨image, mem_of_exceptionOf hexception, rfl⟩
  | none =>
      right
      cases hshift : shiftOf runs x.val with
      | none => exact .inr rfl
      | some d =>
          obtain ⟨r, hr, hfirst, hlast, rfl⟩ := exists_run_of_shiftOf hshift
          exact .inl ⟨r, hr, hfirst, hlast, rfl⟩

/-- The number of the full stop. -/
def dotNumber : Nat := 0x2E

/-- No exception of the upper-case map has a full stop in its image, or nothing at all. -/
theorem upperExceptions_apart : ∀ e ∈ upperExceptions, e.2 ≠ [] ∧ dotNumber ∉ e.2 := by
  decide +kernel

/-- No run of the upper-case map moves a code point onto the full stop, since none reaches over it. -/
theorem upperRuns_apart :
    ∀ r ∈ upperRuns, r.last + r.shift < dotNumber ∨ dotNumber < r.first + r.shift := by
  decide +kernel

end Unicode

namespace CodePoint

open Unicode

theorem ofNat_eq_dot_iff {n : Nat} : ofNat n = Group.dot ↔ n = dotNumber := by
  constructor
  · intro h
    unfold ofNat at h
    split at h
    · exact congrArg CodePoint.val h
    · exact absurd (congrArg CodePoint.val h) (by decide)
  · rintro rfl
    rfl

theorem upper_dot : upper Group.dot = [Group.dot] := by decide +kernel

/-- **What becomes of one code point in upper case**: several others, one other, or itself. -/
theorem upper_cases (x : CodePoint) :
    (∃ image, (x.val, image) ∈ upperExceptions ∧ x.upper = image.map ofNat)
      ∨ (∃ r ∈ upperRuns, r.first ≤ x.val ∧ x.val ≤ r.last ∧ x.upper = [ofNat (Int.toNat (x.val + r.shift))])
      ∨ x.upper = [x] :=
  mapCase_cases upperExceptions upperRuns x

theorem upper_ne_nil (x : CodePoint) : x.upper ≠ [] := by
  rcases upper_cases x with ⟨image, himage, hupper⟩ | ⟨r, -, -, -, hupper⟩ | hupper
  · rw [hupper]
    exact fun hnil => (upperExceptions_apart _ himage).1 (List.map_eq_nil_iff.mp hnil)
  · rw [hupper]
    exact List.cons_ne_nil _ _
  · rw [hupper]
    exact List.cons_ne_nil _ _

/-- **Upper case keeps the full stop and makes no other.** -/
theorem dot_mem_upper_iff {x : CodePoint} : Group.dot ∈ x.upper ↔ x = Group.dot := by
  constructor
  · intro hmem
    rcases upper_cases x with ⟨image, himage, hupper⟩ | ⟨r, hr, hfirst, hlast, hupper⟩ | hupper
    · rw [hupper] at hmem
      obtain ⟨n, hn, hdot⟩ := List.mem_map.mp hmem
      rw [ofNat_eq_dot_iff.mp hdot] at hn
      exact absurd hn (upperExceptions_apart _ himage).2
    · rw [hupper, List.mem_singleton] at hmem
      have hnumber := ofNat_eq_dot_iff.mp hmem.symm
      have hapart := upperRuns_apart r hr
      unfold dotNumber at hnumber hapart
      omega
    · rw [hupper, List.mem_singleton] at hmem
      exact hmem.symm
  · rintro rfl
    rw [upper_dot]
    exact List.mem_cons_self

end CodePoint

namespace Text

open Phrasebook.Group (dot)

theorem fold_append (s t : Text) : (s ++ t).fold = s.fold ++ t.fold := upper_append s t

theorem fold_dot : fold [dot] = [dot] := by
  show [dot].flatMap CodePoint.upper = [dot]
  rw [List.flatMap_singleton, CodePoint.upper_dot]

/-- Nothing but the empty text is folded to nothing. -/
theorem fold_eq_nil {s : Text} : s.fold = [] ↔ s = [] := by
  constructor
  · intro h
    cases s with
    | nil => rfl
    | cons x s =>
        have hx : x.upper = [] := (List.append_eq_nil_iff.mp h).1
        exact absurd hx (CodePoint.upper_ne_nil x)
  · rintro rfl
    rfl

theorem dot_mem_fold_iff {s : Text} : dot ∈ s.fold ↔ dot ∈ s := by
  show dot ∈ s.flatMap CodePoint.upper ↔ dot ∈ s
  rw [List.mem_flatMap]
  constructor
  · rintro ⟨x, hx, hdot⟩
    rw [← CodePoint.dot_mem_upper_iff.mp hdot]
    exact hx
  · intro h
    exact ⟨dot, h, CodePoint.dot_mem_upper_iff.mpr rfl⟩

/-- **Folding goes segment by segment.** -/
theorem fold_join (names : List Text) : (join [dot] names).fold = join [dot] (names.map fold) := by
  induction names with
  | nil => rfl
  | cons name rest ih =>
      cases rest with
      | nil => rfl
      | cons next rest =>
          rw [join, fold_append, fold_append, fold_dot, ih]
          · rfl
          · exact List.cons_ne_nil next rest

theorem splitAll_fold (t : Text) : splitAll dot t.fold = (splitAll dot t).map fold := by
  have hparts : ∀ part ∈ (splitAll dot t).map fold, dot ∉ part := by
    intro part hpart
    obtain ⟨s, hs, rfl⟩ := List.mem_map.mp hpart
    exact fun hdot => (mem_of_mem_splitAll hs (dot_mem_fold_iff.mp hdot)).2 rfl
  have hne : (splitAll dot t).map fold ≠ [] := fun hnil => splitAll_ne_nil dot t (List.map_eq_nil_iff.mp hnil)
  rw [← splitAll_join hne hparts, ← fold_join, join_splitAll]

theorem cutLast_fold (t : Text) :
    cutLast dot t.fold = ((cutLast dot t).1.fold, (cutLast dot t).2.fold) := by
  by_cases h : dot ∈ t
  · obtain ⟨before, after, rfl, hafter⟩ := exists_last h
    have hfold : (before ++ dot :: after).fold = before.fold ++ dot :: after.fold := by
      rw [← List.singleton_append, fold_append, fold_append, fold_dot]
      rfl
    rw [hfold, cutLast_append hafter, cutLast_append fun hdot => hafter (dot_mem_fold_iff.mp hdot)]
  · rw [cutLast_eq_self h, cutLast_eq_self fun hdot => h (dot_mem_fold_iff.mp hdot)]
    rfl

end Text

end Phrasebook
