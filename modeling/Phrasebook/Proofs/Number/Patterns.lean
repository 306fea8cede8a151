import Phrasebook.Number.Format
import Phrasebook.Proofs.Number.Context

/-!
# Which numbers a pattern can write

A pattern writes a number with as many digits as the number has before its point and the pattern asks for after it.
All of them have to fit into the context: `NumberPattern.Holds k d` says that a pattern has room for the number `d`
below `10 ^ k`, for each of the three ways in which a pattern counts digits. Where it holds, writing the number fails
with an unusable pattern at most (`apply_settles`); otherwise arithmetic may come to a stop (`apply_fails`).

The patterns that a culture has for plain numbers, for percentages, for amounts and for numbers in few words count no
significant digits and have no exponent (`IsPlain`). For them any number below `10 ^ k` will do.
-/

namespace Phrasebook

open Decimal

/-- How many digits of a number and of a pattern together fit into the context, one kept back for rounding up. -/
def digitRoom : Nat := 26

/-- The most digits that a currency has after the point. -/
def mostPlaces : Nat := 4

theorem digitsOf_le (code : Text) : Territory.digitsOf code ≤ mostPlaces := by
  have hall : ∀ entry ∈ Territory.currencyDigits, entry.1 ≤ mostPlaces := by
    intro entry hmem
    simp only [Territory.currencyDigits, List.mem_cons, List.not_mem_nil, or_false] at hmem
    rcases hmem with rfl | rfl | rfl <;> decide
  rw [Territory.digitsOf]
  generalize hfind : Territory.currencyDigits.find? _ = found
  cases found with
  | none => decide
  | some entry => exact hall entry (List.mem_of_find?_eq_some hfind)

namespace NumberPattern

/-- A pattern without an exponent or significant digits that has room for the numbers below `10 ^ k`. -/
structure IsPlain (k : Nat) (p : NumberPattern) : Prop where
  exponent : p.exponent = none
  significant : p.isSignificant = false
  room : k + p.scale + max p.fraction.most mostPlaces ≤ digitRoom

/-- A pattern with an exponent that has room for the digits that it asks for. -/
structure IsScientific (p : NumberPattern) : Prop where
  exponent : p.exponent.isSome = true
  room : p.integer.least + max p.fraction.most mostPlaces ≤ digitRoom

/-- A pattern that has room for the number `d` below `10 ^ k`. -/
inductive Holds (k : Nat) (d : Decimal) (p : NumberPattern) : Prop
  /-- The digits before the point and after it are written. -/
  | plain (h : p.IsPlain k)
  /-- Digits are counted from the first one on. Infinity has none. -/
  | significant (exponent : p.exponent = none) (significant : p.isSignificant = true)
      (room : p.integer.most ≤ digitRoom) (finite : d.isInfinite = false) (small : k + 3 ≤ largestExponent)
  /-- The size of the number stands in the exponent. -/
  | scientific (h : p.IsScientific) (normal : d.IsNormal) (small : k + 3 ≤ largestExponent)

theorem IsPlain.mono {j k : Nat} {p : NumberPattern} (hp : p.IsPlain k) (h : j ≤ k) : p.IsPlain j :=
  ⟨hp.exponent, hp.significant, by have := hp.room; omega⟩

theorem scale_le (p : NumberPattern) : p.scale ≤ 3 := by
  rw [scale]
  split
  · decide
  · split <;> decide

/-- A pattern whose number is written is unusable. -/
def IsUnusable (o : Obstacle) : Prop := o = .value

/-- What stops writing a number by a pattern. -/
def StopsWriting (o : Obstacle) : Prop := IsUnusable o ∨ IsArithmetic o

/-! ## Writing the digits -/

variable (p : NumberPattern) (s : NumberSymbols)

theorem checkedFraction_fails (range : DigitRange) (t : Text) : FailsWith IsUnusable (checkedFraction s range t) := by
  rw [checkedFraction]
  split
  · exact .error rfl
  · exact .ok _

theorem rounded_settles {range : DigitRange} {d : Decimal}
    (h : d.isInfinite = false → ∃ d', quantize (place range.most) d = .ok d') :
    FailsWith IsUnusable (rounded p s range d) := by
  rw [rounded]
  split
  · exact .ok _
  · next hfinite =>
    obtain ⟨d', hd'⟩ := h (by simpa using hfinite)
    refine FailsWith.after hd' ?_
    exact (checkedFraction_fails s range _).bind fun _ _ => .ok _

/-- The digits after the point as a pattern asks for them, or as many as the number has if these are more. -/
def IsAsked (range : DigitRange) (d : Decimal) (r : DigitRange) : Prop :=
  r = range ∨ ∃ j, fractionDigits d = .ok j ∧ r = { range with most := max range.most j }

/-- A number of the context has room for the digits that are asked for if there is room for those of the pattern. -/
theorem IsAsked.room {range r : DigitRange} {d : Decimal} {k : Int} (hr : IsAsked range d r) (hd : d.IsRound)
    (hb : d.IsBelow k) (hk : 0 ≤ k) (hroom : k + range.most < precision) (hf : d.isInfinite = false) :
    ∃ d', quantize (place r.most) d = .ok d' := by
  obtain ⟨hprecision, hlargest, -⟩ := bounds_eq
  have hlarge : k ≤ largestExponent := by omega
  rcases hr with rfl | ⟨j, hj, rfl⟩
  · obtain ⟨d', hd', -⟩ := quantize_place hb hf hk hlarge hroom
    exact ⟨d', hd'⟩
  · obtain ⟨i, d', hi, hd'⟩ := quantize_natural hd hb hf hk hlarge hroom
    obtain rfl := Except.ok.inj (hi.symm.trans hj)
    exact ⟨d', hd'⟩

/-- Whether the number has more digits than asked for is found out where all of them are to be written. -/
theorem fails_asked {β : Type} {P : Obstacle → Prop} {natural : Bool} (range : DigitRange) {d : Decimal}
    {f : DigitRange → Except Obstacle β} (hd : FailsWith P (fractionDigits d))
    (hf : ∀ r, IsAsked range d r → FailsWith P (f r)) :
    FailsWith P (if natural = true then do
        let j ← fractionDigits d
        let r ← pure { range with most := max range.most j }
        f r
      else do
        let r ← pure range
        f r) := by
  split
  · exact hd.bind fun j hj => hf _ (.inr ⟨j, hj, rfl⟩)
  · exact hf range (.inl rfl)

/-! ## The three kinds of patterns -/

/-- **A number with an exponent has one digit before the point**, or as many as the pattern wants there. -/
theorem scientific_settles {d : Decimal} (hd : d.IsRound) (hnormal : -largestExponent ≤ d.adjusted) {range : DigitRange}
    (hroom : p.integer.least + range.most ≤ digitRoom) (e : ExponentStyle) (natural : Bool) :
    FailsWith IsUnusable (scientific p s e range natural d) := by
  obtain ⟨hprecision, hlargest, -⟩ := bounds_eq
  have hdigits : digitRoom = 26 := rfl
  unfold scientific
  dsimp only
  obtain ⟨shift, hshift⟩ : ∃ shift : Int, ((max 1 p.integer.least : Nat) : Int) - 1 = shift := ⟨_, rfl⟩
  rw [hshift]
  -- First there is one digit before the point, then there are as many as the pattern wants.
  obtain ⟨d₁, hd₁, hround₁, hbelow₁, hinfinite₁, hadjusted₁⟩ :=
    timesPowerOfTen_spec (-d.adjusted) hd (isBelow_adjusted hd) (by omega) (by omega) (by omega)
  obtain ⟨d₂, hd₂, hround₂, hbelow₂, hinfinite₂, -⟩ :=
    timesPowerOfTen_spec shift hround₁ hbelow₁ (by omega) (by omega) (by omega)
  refine FailsWith.after hd₁ ?_
  refine FailsWith.after hd₂ ?_
  obtain ⟨j, hj⟩ := fractionDigits_ok hround₂
  refine fails_asked _ (.of_ok hj) fun r hr => ?_
  refine FailsWith.bind (rounded_settles p s fun hf => hr.room hround₂ hbelow₂ (by omega) (by omega) hf) fun _ _ => ?_
  exact .ok _

/-- **Significant digits are as many as the pattern says**, however large the number is. -/
theorem significant_settles {d : Decimal} (hd : d.IsRound) (hfinite : d.isInfinite = false)
    (hroom : p.integer.most ≤ digitRoom) : FailsWith IsUnusable (significant p s d) := by
  obtain ⟨hprecision, hlargest, hsmallest⟩ := bounds_eq
  have hdigits : digitRoom = 26 := rfl
  have hshift : largestShift = 2000054 := rfl
  obtain ⟨hleast, hmost⟩ := adjusted_bounds hd
  -- All digits that count are moved before the point, and the others are rounded away.
  obtain ⟨d₁, hd₁, -, hbelow₁, hinfinite₁, -⟩ :=
    scale_spec ((p.integer.most : Int) - 1 - d.adjusted) (isBelow_adjusted hd) (by omega) (by omega) (by omega)
  obtain ⟨d₂, hd₂, -⟩ :=
    quantize_place (n := 0) hbelow₁ (hinfinite₁.trans hfinite) (by omega) (by omega) (by omega)
  have hwritten : FailsWith IsUnusable (significantDigits p.integer d) := by
    unfold significantDigits
    dsimp only
    refine FailsWith.after hd₁ ?_
    refine FailsWith.after hd₂ ?_
    split
    · exact .ok _
    · exact .ok _
  exact hwritten.bind fun _ _ => .ok _

/-! ## Writing a number -/

/-- How many digits after the point are asked for: those of a currency, or else those of the pattern. -/
def askedRange (r : Request) : DigitRange :=
  match r.places with
  | some n => ⟨n, n⟩
  | none => p.fraction

theorem askedRange_most_le {r : Request} (hr : ∀ n ∈ r.places, n ≤ mostPlaces) :
    (p.askedRange r).most ≤ max p.fraction.most mostPlaces := by
  rw [askedRange]
  split
  · next n hn => exact le_max_of_le_right (hr n hn)
  · exact le_max_left _ _

/-- **A pattern that has room for a number writes it**, or else is unusable. -/
theorem apply_settles {k : Nat} {d : Decimal} (hp : p.Holds k d) (hb : d.IsBelow k) {r : Request}
    (hr : ∀ n ∈ r.places, n ≤ mostPlaces) : FailsWith IsUnusable (p.apply s r d) := by
  obtain ⟨hprecision, hlargest, -⟩ := bounds_eq
  have hdigits : digitRoom = 26 := rfl
  have hshift : largestShift = 2000054 := rfl
  have hscale := p.scale_le
  have hmost := p.askedRange_most_le hr
  have hsmall : k + 3 ≤ largestExponent := by
    cases hp with
    | plain h =>
        have := h.room
        omega
    | significant _ _ _ _ small => exact small
    | scientific _ _ small => exact small
  -- The number is multiplied for a percentage, made positive and freed of its zeros.
  obtain ⟨d₁, hd₁, hround₁, hbelow₁, hinfinite₁, hnormal₁⟩ :=
    scale_spec (p.scale : Int) hb (by omega) (by omega) (by omega)
  obtain ⟨d₂, hd₂, hkept₂⟩ := magnitude_kept hround₁
  obtain ⟨d₃, hd₃, hkept₃, hadjusted⟩ := normalize_kept hkept₂.round
  have hkept := hkept₂.trans hkept₃
  unfold NumberPattern.apply
  refine FailsWith.after hd₁ ?_
  refine FailsWith.after hd₂ ?_
  refine FailsWith.after hd₃ ?_
  show FailsWith IsUnusable _
  cases hp with
  | plain h =>
      rw [h.exponent]
      dsimp only
      rw [h.significant, if_neg Bool.false_ne_true]
      obtain ⟨j, hj⟩ := fractionDigits_ok hkept.round
      have hroom := h.room
      refine fails_asked (p.askedRange r) (.of_ok hj) fun range hrange => ?_
      refine FailsWith.bind (rounded_settles p s fun hf => ?_) fun _ _ => .ok _
      exact hrange.room hkept.round (hkept.below hbelow₁) (by omega) (by omega) hf
  | significant exponent significant room finite _ =>
      rw [exponent]
      dsimp only
      rw [significant, if_pos rfl]
      have hfinite : d₃.isInfinite = false := hkept.infinite.trans (hinfinite₁.trans finite)
      exact (significant_settles p s hkept.round hfinite room).bind fun _ _ => .ok _
  | scientific h normal _ =>
      obtain ⟨e, hexponent⟩ := Option.isSome_iff_exists.mp h.exponent
      have room := h.room
      rw [hexponent]
      have hnormal := hadjusted (hkept₂.normal (hnormal₁ (by omega) normal))
      have hroom : p.integer.least + (p.askedRange r).most ≤ digitRoom := by omega
      exact (scientific_settles p s hkept.round hnormal hroom _ r.natural).bind fun _ _ => .ok _

/-- **Whatever the number is**, nothing but an unusable pattern and arithmetic stop its being written. -/
theorem apply_fails (r : Request) (d : Decimal) : FailsWith StopsWriting (p.apply s r d) := by
  have harith : ∀ {α : Type} {x : Except Obstacle α}, FailsWith IsArithmetic x → FailsWith StopsWriting x :=
    fun h => h.mono fun _ => .inr
  have hrounded : ∀ range d, FailsWith StopsWriting (rounded p s range d) := by
    intro range d
    rw [rounded]
    split
    · exact .ok _
    · refine (harith (quantize_fails d _)).bind fun d' _ => ?_
      exact ((checkedFraction_fails s range _).mono fun _ => .inl).bind fun _ _ => .ok _
  -- One step of arithmetic after the other, up to the three ways of writing digits.
  unfold NumberPattern.apply
  refine (harith (scale_fails d _)).bind fun d₁ _ => ?_
  refine (harith (magnitude_fails d₁)).bind fun d₂ _ => ?_
  refine (harith (normalize_fails d₂)).bind fun d₃ _ => ?_
  dsimp only
  split
  · next e _ =>
    refine FailsWith.bind ?_ fun _ _ => .ok _
    unfold scientific
    refine (harith (timesPowerOfTen_fails d₃ _)).bind fun d₄ _ => ?_
    refine (harith (timesPowerOfTen_fails d₄ _)).bind fun d₅ _ => ?_
    exact fails_asked _ (harith (fractionDigits_fails d₅)) fun range _ => (hrounded range d₅).bind fun _ _ => .ok _
  · split
    · refine FailsWith.bind ?_ fun _ _ => .ok _
      refine FailsWith.bind (f := fun digits => _) ?_ fun _ _ => .ok _
      unfold significantDigits
      refine (harith (scale_fails d₃ _)).bind fun d₄ _ => ?_
      refine (harith (quantize_fails d₄ _)).bind fun d₅ _ => ?_
      dsimp only
      split
      · exact .ok _
      · exact .ok _
    · exact fails_asked _ (harith (fractionDigits_fails d₃)) fun range _ => (hrounded range d₃).bind fun _ _ => .ok _

end NumberPattern

end Phrasebook
