import Phrasebook.Proofs.Number.Patterns
import Phrasebook.Proofs.Text.Parts
import Phrasebook.Proofs.Text.Runs

/-!
# Patterns with a fixed number of digits

A text of digits, number signs, commas and points is a pattern that has no exponent and counts no significant digits;
what stands after the last point are the digits of the fraction (`ofText_digits`). So a pattern that ends with some
zeros after a point asks for exactly so many digits (`isPlain_fixed`).
-/

namespace Phrasebook.NumberPattern

open Text

/-- A code point of a pattern that is about the digits alone. -/
def IsDigitSign (c : CodePoint) : Prop := startsNumber c = true ∧ c ≠ '@'

instance (c : CodePoint) : Decidable (IsDigitSign c) := inferInstanceAs (Decidable (_ ∧ _))

/-- A code point that ends the part for the number, and not the pattern. -/
def EndsNumber (c : CodePoint) : Prop := inNumber c = false ∧ c ≠ ';' ∧ c ≠ CodePoint.lineFeed

theorem IsDigitSign.apart {c : CodePoint} (h : IsDigitSign c) : inNumber c = true ∧ c ≠ ';' ∧ c ≠ 'E' ∧ c ≠ quote := by
  refine ⟨?_, ?_, ?_, ?_⟩
  · rw [inNumber, h.1, Bool.true_or, Bool.true_or]
  all_goals
    rintro rfl
    exact absurd h.1 (by decide)

theorem cut_of_not_mem {c : CodePoint} {t : Text} (h : c ∉ t) : cut c t = (t, none) := by
  induction t with
  | nil => rfl
  | cons x t ih =>
      have hx : x ≠ c := fun hxc => h (by simp [hxc])
      rw [cut, if_neg hx, ih fun hc => h (List.mem_cons_of_mem x hc)]

theorem parts_digits {number tail : Text} (hne : number ≠ []) (hnumber : ∀ c ∈ number, IsDigitSign c)
    (htail : ∀ c ∈ tail, EndsNumber c) : parts (number ++ tail) = ([], number, tail) := by
  obtain ⟨c, rest, rfl⟩ := List.exists_cons_of_ne_nil hne
  have hc := hnumber c List.mem_cons_self
  have hbefore : lengthBefore 0 (c :: rest ++ tail) = 0 := by
    rw [List.cons_append, lengthBefore, if_neg hc.apart.2.2.2, if_pos hc.1]
  have hrun : (c :: rest ++ tail).takeWhile inNumber = c :: rest :=
    takeWhile_run (fun d hd => (hnumber d hd).apart.1) fun d hd => (htail d (List.mem_of_head? hd)).1
  have hafter : tail.takeWhile (fun d => decide (d ≠ CodePoint.lineFeed)) = tail := by
    rw [List.takeWhile_eq_self_iff]
    exact fun d hd => decide_eq_true (htail d hd).2.2
  unfold parts
  rw [hbefore]
  simp only [List.take_zero, List.length_nil, List.drop_zero]
  rw [hrun, List.drop_left, hafter]

/-- **A text of digits and their signs**, with anything after it that belongs to no number. -/
theorem ofText_digits {number : Text} (tail : Text) (hne : number ≠ []) (hnumber : ∀ c ∈ number, IsDigitSign c)
    (htail : ∀ c ∈ tail, EndsNumber c) :
    ∃ p, ofText (number ++ tail) = .ok p ∧ p.exponent = none ∧ p.isSignificant = false ∧
      p.positive = ⟨[], tail⟩ ∧ p.negative = ⟨['-'], tail⟩ ∧
      p.fraction = digitRange (if CodePoint.ofChar '.' ∈ number then (cutLast '.' number).2 else []) := by
  have hsemicolon : CodePoint.ofChar ';' ∉ number ++ tail := by
    intro hmem
    rcases List.mem_append.mp hmem with hmem | hmem
    · exact (hnumber _ hmem).apart.2.1 rfl
    · exact (htail _ hmem).2.1 rfl
  have hexponent : CodePoint.ofChar 'E' ∉ number := fun hmem => (hnumber _ hmem).apart.2.2.1 rfl
  have hat : CodePoint.ofChar '@' ∉ number := fun hmem => (hnumber _ hmem).2 rfl
  have hat' : CodePoint.ofChar '@' ∉ number ++ tail := by
    intro hmem
    rcases List.mem_append.mp hmem with hmem | hmem
    · exact hat hmem
    · exact absurd (htail _ hmem).1 (by decide)
  -- Without a semicolon there is one part, and without an E and an at sign it has neither exponent nor significant
  -- digits.
  unfold ofText
  rw [cut_of_not_mem hsemicolon]
  dsimp only
  rw [parts_digits hne hnumber htail]
  dsimp only
  rw [cut_of_not_mem hexponent]
  dsimp only
  rw [if_neg (by simp [hat])]
  refine ⟨_, rfl, rfl, decide_eq_false hat', rfl, rfl, ?_⟩
  simp only [decide_eq_true_eq]
  split <;> rfl

theorem digitRange_zeros (n : Nat) : digitRange (zeros n) = ⟨n, n⟩ := by
  induction n with
  | zero => rfl
  | succ n ih =>
      show digitRange ('0' :: zeros n) = _
      rw [digitRange, ih]
      rfl

theorem isDigitSign_zeros (n : Nat) : ∀ c ∈ zeros n, IsDigitSign c := by
  intro c hc
  rw [List.eq_of_mem_replicate hc]
  exact ⟨by decide, by decide⟩

/-- **Zeros after the last point are the digits of the fraction.** -/
theorem ofText_fraction {whole tail : Text} (hwhole : ∀ c ∈ whole, IsDigitSign c) (n : Nat)
    (htail : ∀ c ∈ tail, EndsNumber c) :
    ∃ p, ofText (whole ++ CodePoint.ofChar '.' :: zeros n ++ tail) = .ok p ∧ p.exponent = none ∧ p.isSignificant = false ∧
      p.positive = ⟨[], tail⟩ ∧ p.negative = ⟨['-'], tail⟩ ∧ p.fraction.most = n := by
  have hnumber : ∀ c ∈ whole ++ CodePoint.ofChar '.' :: zeros n, IsDigitSign c := by
    intro c hc
    rcases List.mem_append.mp hc with hc | hc
    · exact hwhole c hc
    rcases List.mem_cons.mp hc with rfl | hc
    · exact ⟨by decide, by decide⟩
    · exact isDigitSign_zeros n c hc
  have hpoint : CodePoint.ofChar '.' ∉ zeros n := by
    intro hmem
    exact absurd (List.eq_of_mem_replicate hmem) (by decide)
  obtain ⟨p, hp, hexponent, hsignificant, hpositive, hnegative, hfraction⟩ :=
    ofText_digits tail (by simp) hnumber htail
  refine ⟨p, hp, hexponent, hsignificant, hpositive, hnegative, ?_⟩
  rw [hfraction, if_pos (by simp), cutLast_append hpoint, digitRange_zeros]

end Phrasebook.NumberPattern
