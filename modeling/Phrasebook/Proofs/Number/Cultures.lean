import Phrasebook.Proofs.Number.Patterns
import Phrasebook.Proofs.Pairs

/-!
# Numbers as a culture writes them

A culture that has room for the numbers of up to twenty digits before the point in its own patterns (`Culture.HasRoom`)
writes each of them: plainly, as a percentage, as an amount of money and in few words. All that can go wrong then is that a
pattern is unusable or that a name stands for nothing, which is what a style is blamed for (`IsBlamed`).

A number in few words is divided first, which takes digits away, and rounded to one digit after the point, which may
add one. So it is written as a number of two digits more. What is not finite is not divided but written as it is, unless
the culture compares it with the powers of ten all the same (`Culture.Unordered`).
-/

namespace Phrasebook

open Decimal

/-- What stops a number from being written. -/
def StopsNumber (o : Obstacle) : Prop := IsBlamed o ∨ IsArithmetic o

theorem NumberPattern.ofText_fails (t : Text) : FailsWith IsBlamed (NumberPattern.ofText t) := by
  unfold NumberPattern.ofText
  dsimp only
  split
  · exact .error (.inl rfl)
  · exact .ok _

/-- The pattern that a text writes has room for a number, if it writes one. -/
def HoldsNumber (t : Text) (d : Decimal) : Prop :=
  ∀ p, NumberPattern.ofText t = .ok p → ∃ k : Nat, d.IsBelow k ∧ p.Holds k d

/-- A pattern that counts no significant digits and has no exponent has room for every number below some bound. -/
theorem holdsNumber_of_isPlain {k : Nat} {t : Text} {d : Decimal} (hd : d.IsBelow k)
    (h : ∀ p, NumberPattern.ofText t = .ok p → p.IsPlain k) : HoldsNumber t d :=
  fun p hp => ⟨k, hd, .plain (h p hp)⟩

namespace Culture

variable {c : Culture} {k : Nat} {d : Decimal}

/-- The patterns that numbers in few words may be written by. -/
def compactPatterns (c : Culture) : List Text :=
  (compactForms c.conventions.compact.short ++ compactForms c.conventions.compact.long).flatMap fun form =>
    form.patterns.map Prod.snd

/-- How many digits before the point the patterns of a culture have room for. -/
def digitsHeld : Nat := 20

/-- The patterns of a culture have room for numbers of `digitsHeld` digits. A percentage has two digits more than its
number, and so may have a number in few words. -/
structure HasRoom (c : Culture) : Prop where
  decimal : ∀ p, NumberPattern.ofText c.conventions.numbers.decimal = .ok p → p.IsPlain (digitsHeld + 2)
  percent : ∀ p, NumberPattern.ofText c.conventions.numbers.percent = .ok p → p.IsPlain digitsHeld
  currency : ∀ p, NumberPattern.ofText c.conventions.numbers.currency = .ok p → p.IsPlain digitsHeld
  scientific : ∀ p, NumberPattern.ofText c.conventions.numbers.scientific = .ok p → p.IsScientific
  compact : ∀ t ∈ c.compactPatterns, ∀ p, NumberPattern.ofText t = .ok p → p.IsPlain (digitsHeld + 2)

/-- A number that is no place in the order of numbers, in a culture that asks for one. -/
structure Unordered (c : Culture) (d : Decimal) : Prop where
  asked : c.ordersSpecials = true
  special : d.isFinite = false

/-! ## By a pattern -/

/-- **A number that its pattern has room for is written.** -/
theorem byPattern_settles {t : Text} (h : HoldsNumber t d) {r : NumberPattern.Request}
    (hr : ∀ n ∈ r.places, n ≤ mostPlaces) : FailsWith IsBlamed (c.byPattern t r d) := by
  refine (NumberPattern.ofText_fails t).bind fun p hread => ?_
  obtain ⟨k, hbelow, hp⟩ := h p hread
  exact (p.apply_settles _ hp hbelow hr).mono fun _ => .inl

theorem byPattern_fails (t : Text) (r : NumberPattern.Request) (d : Decimal) :
    FailsWith StopsNumber (c.byPattern t r d) := by
  refine ((NumberPattern.ofText_fails t).mono fun _ => .inl).bind fun p _ => ?_
  exact (p.apply_fails _ r d).mono fun _ h => h.imp_left .inl

theorem numberAs_settles {t : Text} (h : HoldsNumber t d) : FailsWith IsBlamed (c.numberAs t d) :=
  byPattern_settles h nofun

theorem HasRoom.number (h : c.HasRoom) (hd : d.IsBelow digitsHeld) : FailsWith IsBlamed (c.number d) :=
  numberAs_settles (holdsNumber_of_isPlain hd fun p hp => (h.decimal p hp).mono (by decide))

theorem HasRoom.percent_settles (h : c.HasRoom) (hd : d.IsBelow digitsHeld) : FailsWith IsBlamed (c.percent d) :=
  numberAs_settles (holdsNumber_of_isPlain hd h.percent)

/-- **A number is written with an exponent**, unless it is too close to zero. -/
theorem HasRoom.scientific_settles (h : c.HasRoom) (hd : d.IsBelow digitsHeld) (hnormal : d.IsNormal) :
    FailsWith IsBlamed (c.scientific d) :=
  numberAs_settles fun p hp => ⟨digitsHeld, hd, .scientific (h.scientific p hp) hnormal (by decide)⟩

/-- **An amount of money is written in every currency.** -/
theorem HasRoom.amount (h : c.HasRoom) (hd : d.IsBelow digitsHeld) (code : Text) : FailsWith IsBlamed (c.amount code d) := by
  refine byPattern_settles (holdsNumber_of_isPlain hd h.currency) fun n hn => ?_
  dsimp only at hn
  split at hn
  · cases hn
  · obtain rfl := Option.some.inj hn
    exact digitsOf_le code

/-! ## In few words -/

theorem mem_of_compactPattern? {forms : List CompactForm} {category : Text} {power : Nat} {t : Text}
    (h : compactPattern? forms category power = some t) : ∃ form ∈ forms, t ∈ form.patterns.map Prod.snd := by
  have hform : ∀ category : Text, (do
      let form ← forms.find? fun f => f.category = category
      (Pairs.get? power form.patterns).filter fun t => !t.isEmpty) = some t →
        ∃ form ∈ forms, t ∈ form.patterns.map Prod.snd := by
    intro category h
    obtain ⟨form, hfind, hfilter⟩ := Option.bind_eq_some_iff.mp h
    have hget := (Option.filter_eq_some_iff.mp hfilter).1
    exact ⟨form, List.mem_of_find?_eq_some hfind, List.mem_map_of_mem (f := Prod.snd) (Pairs.mem_of_get? hget)⟩
  rcases Option.or_eq_some_iff.mp h with h | ⟨-, h⟩
  · exact hform category h
  · exact hform "other" h

/-- A power of ten that is reached is one of those that were asked for. -/
theorem mem_of_firstReached {m : Decimal} {powers : List (Nat × Text)} {p : Nat × Text}
    (h : firstReached m powers = .ok (some p)) : p ∈ powers := by
  induction powers with
  | nil => cases h
  | cons q rest ih =>
      obtain ⟨reached, -, h⟩ := exists_of_bind h
      cases reached with
      | true =>
          obtain rfl := Option.some.inj (Except.ok.inj h)
          exact List.mem_cons_self
      | false => exact List.mem_cons_of_mem _ (ih h)

/-- Finite numbers are in order, and so is infinity. -/
theorem firstReached_fails (m : Decimal) (powers : List (Nat × Text)) :
    FailsWith (fun o => o = .invalidOperation ∧ m.isFinite = false) (firstReached m powers) := by
  induction powers with
  | nil => exact .ok none
  | cons p rest ih =>
      have hreaches : FailsWith (fun o => o = .invalidOperation ∧ m.isFinite = false) (m.reaches (powerOfTen p.1)) := by
        cases m with
        | finite s n e =>
            unfold reaches
            dsimp only
            repeat' split
            all_goals exact .ok _
        | infinite s => exact .ok true
        | nan s t n => exact .error ⟨rfl, rfl⟩
      refine hreaches.bind fun reached _ => ?_
      cases reached with
      | true => exact .ok _
      | false => exact ih

/-- What is left of a number once it is divided and rounded to one place. The division and the rounding may each make it one
power of ten larger. Infinity is divided, but nothing can be rounded off. -/
theorem divided_spec (hd : d.IsBelow k) (hk : k + 2 + mostPlaces ≤ digitRoom) {b : Nat} (hb : b ≠ 0) :
    ∃ d₁, d.divideBy b = .ok d₁ ∧
      (d.isFinite = false ∧ d₁.quantize (-1) = .error .invalidOperation ∨
        ∃ d₂ one size, d₁.quantize (-1) = .ok d₂ ∧ d₂.IsBelow (k + 2 : Nat) ∧
          Decimal.equals d₁ (.ofInt 1) = .ok one ∧ d₁.magnitude = .ok size) := by
  obtain ⟨hprecision, hlargest, -⟩ := bounds_eq
  have hdigits : digitRoom = 26 := rfl
  have hplaces : mostPlaces = 4 := rfl
  obtain ⟨d₁, hd₁, hround₁, hbelow₁, hinfinite₁⟩ := divideBy_spec hd (by omega) hb
  have hpos := digitCount_pos b
  refine ⟨d₁, hd₁, ?_⟩
  cases hinfinite : d.isInfinite with
  | true =>
      refine .inl ⟨?_, ?_⟩
      · cases d with
        | infinite s => rfl
        | finite | nan => cases hinfinite
      · cases d₁ with
        | infinite s => rfl
        | finite | nan => cases hinfinite₁.trans hinfinite
  | false =>
      obtain ⟨d₂, hd₂, -, hbelow₂⟩ :=
        quantize_place (n := 1) (k := k + 1) (hbelow₁.mono (by omega)) (hinfinite₁.trans hinfinite) (by omega)
          (by omega) (by omega)
      obtain ⟨one, hone⟩ := equals_ofInt hround₁ 1
      obtain ⟨size, hsize, -⟩ := magnitude_kept hround₁
      exact .inr ⟨d₂, one, size, hd₂, hbelow₂.mono (by omega), hone, hsize⟩

/-- **A number is made ready for few words** without being stopped, unless it is asked for its place in an order in which
it has none. It stays below `10 ^ (k + 2)`, and the pattern that is found for it is one of those for few words. -/
theorem shorten_spec (forms : List CompactForm) (hd : d.IsBelow k) (hk : k + 2 + mostPlaces ≤ digitRoom) :
    (∃ d' pattern, c.shorten forms d = .ok (d', pattern) ∧ d'.IsBelow (k + 2 : Nat) ∧
      ∀ t ∈ pattern, ∃ form ∈ forms, t ∈ form.patterns.map Prod.snd) ∨
    c.Unordered d ∧ c.shorten forms d = .error .invalidOperation := by
  obtain ⟨hprecision, hlargest, -⟩ := bounds_eq
  have hdigits : digitRoom = 26 := rfl
  obtain ⟨m, hm, hfinite⟩ := magnitude_spec hd (by omega) (by omega)
  have hself : d.IsBelow (k + 2 : Nat) := hd.mono (by omega)
  unfold shorten
  split
  · exact .inl ⟨d, none, rfl, hself, fun _ h => nomatch h⟩
  next hguard =>
  have hspecial : d.isFinite = false → c.Unordered d := fun h => ⟨by simpa [h] using hguard, h⟩
  rw [hm]
  dsimp only [bind, Except.bind, pure, Except.pure]
  generalize hpowers : (((forms.find? fun f => f.category = Text.ofString "other").map CompactForm.patterns).getD []) = powers
  cases hfirst : firstReached m powers.reverse with
  | error o =>
      obtain ⟨rfl, hm⟩ := firstReached_fails m _ o hfirst
      exact .inr ⟨hspecial (hfinite.symm.trans hm), rfl⟩
  | ok found =>
      cases found with
      | none => exact .inl ⟨d, none, rfl, hself, fun _ h => nomatch h⟩
      | some reached =>
          obtain ⟨power, pattern⟩ := reached
          have hmem := List.mem_reverse.mp (mem_of_firstReached hfirst)
          dsimp only
          split
          · -- The number is not divided. The pattern is that of the category `other`.
            refine .inl ⟨d, some pattern, rfl, hself, fun t ht => ?_⟩
            obtain rfl := Option.some.inj ht
            rw [← hpowers] at hmem
            cases hother : forms.find? fun f => f.category = Text.ofString "other" with
            | none =>
                rw [hother] at hmem
                cases hmem
            | some form =>
                rw [hother] at hmem
                exact ⟨form, List.mem_of_find?_eq_some hother, List.mem_map_of_mem (f := Prod.snd) hmem⟩
          · obtain ⟨d₁, hd₁, ⟨hinfinite, hstop⟩ | ⟨d₂, one, size, hd₂, hbelow, hone, hsize⟩⟩ :=
              divided_spec hd hk (powerOfTen_pos (power + 1 - pattern.count (CodePoint.ofChar '0'))).ne'
            · rw [hd₁]
              dsimp only
              rw [hstop]
              exact .inr ⟨hspecial hinfinite, rfl⟩
            · rw [hd₁]
              dsimp only
              rw [hd₂]
              dsimp only
              rw [hone]
              dsimp only
              rw [hsize]
              exact .inl ⟨d₂, _, rfl, hbelow, fun t ht => mem_of_compactPattern? ht⟩

/-- **A number is written in few words**, in a language that has some, unless it has no place in the order of numbers. -/
theorem HasRoom.compactBy (h : c.HasRoom) (hd : d.IsBelow digitsHeld) {words : Text}
    (hwords : ∀ form ∈ compactForms words, ∀ t ∈ form.patterns.map Prod.snd, t ∈ c.compactPatterns) :
    FailsWith (fun o => IsBlamed o ∨ o = .invalidOperation ∧ c.Unordered d) (c.compactBy words d) := by
  unfold Culture.compactBy
  dsimp only
  split
  · exact .error (.inl (.inr rfl))
  rcases shorten_spec (c := c) (compactForms words) hd (by decide) with
    ⟨d', pattern, hd', hbelow, hpattern⟩ | ⟨hunordered, hstopped⟩
  · refine FailsWith.after hd' (FailsWith.mono (P := IsBlamed) ?_ fun _ => .inl)
    refine byPattern_settles (holdsNumber_of_isPlain hbelow fun p hp => ?_) fun _ h => nomatch h
    cases pattern with
    | none => exact h.decimal p hp
    | some t =>
        obtain ⟨form, hform, hmem⟩ := hpattern t rfl
        exact h.compact t (hwords form hform t hmem) p hp
  · rw [hstopped]
    exact .error (.inr ⟨rfl, hunordered⟩)

theorem HasRoom.compact_settles (h : c.HasRoom) (hd : d.IsBelow digitsHeld) :
    FailsWith (fun o => IsBlamed o ∨ o = .invalidOperation ∧ c.Unordered d) (c.compact d) :=
  h.compactBy hd fun form hform _ ht => List.mem_flatMap.mpr ⟨form, List.mem_append_left _ hform, ht⟩

theorem HasRoom.compactLong (h : c.HasRoom) (hd : d.IsBelow digitsHeld) :
    FailsWith (fun o => IsBlamed o ∨ o = .invalidOperation ∧ c.Unordered d) (c.compactLong d) :=
  h.compactBy hd fun form hform _ ht => List.mem_flatMap.mpr ⟨form, List.mem_append_right _ hform, ht⟩

/-! ## What stops a number in general -/

theorem stops_of_arithmetic {α : Type} {x : Except Obstacle α} (h : FailsWith IsArithmetic x) :
    FailsWith StopsNumber x := h.mono fun _ => .inr

theorem shorten_fails (c : Culture) (forms : List CompactForm) (d : Decimal) :
    FailsWith StopsNumber (c.shorten forms d) := by
  unfold shorten
  split
  · exact .ok _
  refine (stops_of_arithmetic (magnitude_fails d)).bind fun m _ => ?_
  dsimp only
  refine ((firstReached_fails m _).mono fun o ho => .inr (.inl ho.1)).bind fun reached _ => ?_
  split
  · exact .ok _
  · split
    · exact .ok _
    · refine (stops_of_arithmetic (divideBy_fails d _)).bind fun d₁ _ => ?_
      refine (stops_of_arithmetic (quantize_fails d₁ _)).bind fun d₂ _ => ?_
      refine (stops_of_arithmetic (equals_fails d₁ _)).bind fun _ _ => ?_
      exact (stops_of_arithmetic (magnitude_fails d₁)).bind fun _ _ => .ok _

theorem compactBy_fails (c : Culture) (words : Text) (d : Decimal) : FailsWith StopsNumber (c.compactBy words d) := by
  unfold Culture.compactBy
  dsimp only
  split
  · exact .error (.inl (.inr rfl))
  · exact (shorten_fails c _ d).bind fun _ _ => byPattern_fails _ _ _

end Culture

end Phrasebook
