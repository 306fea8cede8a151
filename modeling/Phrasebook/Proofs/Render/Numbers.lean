import Phrasebook.Proofs.Number.Cultures
import Phrasebook.Proofs.Number.DoubleText
import Phrasebook.Proofs.Number.FixedPatterns
import Phrasebook.Proofs.Render.Escapes
import Phrasebook.Render.Composite

/-!
# Numbers by a style

What becomes of a number that is to be written by a style or by a composite format. The style is blamed for patterns
that are unusable and for names that stand for nothing, and the error shows the value. Three things are left: an integer
of so many digits that it cannot be shown (`Value.isWritable`), arithmetic that comes to a stop, and a number in few words
that is no place in the order of numbers. Arithmetic stops only for a number that does not fit, with the digits that its
pattern asks for, into the context (`Fits`).
-/

namespace Phrasebook

open Decimal

namespace Render

variable {c : Culture} {k : Nat} {d : Decimal} {v : Value}

/-! ## The style -/

/-- A number that a style has room for. A style that is no word is a pattern. -/
def Fits (d : Decimal) : Template.Style → Prop
  | .default => d.IsBelow Culture.digitsHeld
  | .named t => d.IsBelow Culture.digitsHeld ∧ HoldsNumber t d
  | .pattern t => HoldsNumber t d

/-- A skeleton that asks for few words. -/
def ShortensBySkeleton (skeleton : Text) : Prop :=
  (skeleton.words.headD []).lower ∈ (["compact-short", "k", "compact-long", "kk"] : List Text)

/-- A style that asks for few words. -/
def Shortens (style : Text) : Prop :=
  style.strip.lower ∈ (["compact", "compact-short", "short", "compact-long", "long"] : List Text) ∨
    Text.startsWith style.strip.lower "::" = true ∧ ShortensBySkeleton (style.strip.drop 2)

theorem integerPattern_isPlain (h : k + 2 + mostPlaces ≤ digitRoom) :
    ∀ p, NumberPattern.ofText integerPattern = .ok p → p.IsPlain k := by
  intro p hp
  have hread : (NumberPattern.ofText integerPattern).toOption.any (fun p =>
      decide (p.exponent = none ∧ p.isSignificant = false ∧ p.scale = 0 ∧ p.fraction.most = 0)) = true := by
    decide +kernel
  rw [hp] at hread
  obtain ⟨hexponent, hsignificant, hscale, hmost⟩ := of_decide_eq_true hread
  refine ⟨hexponent, hsignificant, ?_⟩
  rw [hscale, hmost, Nat.zero_max]
  omega

theorem integer_settles (hd : d.IsBelow Culture.digitsHeld) : FailsWith IsBlamed (c.numberAs integerPattern d) :=
  Culture.numberAs_settles (holdsNumber_of_isPlain hd (integerPattern_isPlain (by decide)))

/-- **A skeleton writes every number that the culture has room for**, unless it is in no order and to be shortened. -/
theorem numberBySkeleton_settles (h : c.HasRoom) (hd : d.IsBelow Culture.digitsHeld) (skeleton : Text) :
    FailsWith (fun o => IsBlamed o ∨ o = .invalidOperation ∧ c.Unordered d ∧ ShortensBySkeleton skeleton)
      (numberBySkeleton c skeleton d) := by
  unfold numberBySkeleton
  dsimp only
  split
  · next hhead =>
    refine (h.compact_settles hd).mono fun o => Or.imp_right fun ho => ⟨ho.1, ho.2, ?_⟩
    rcases hhead with hhead | hhead <;> rw [ShortensBySkeleton, hhead] <;> decide
  split
  · next hhead =>
    refine (h.compactLong hd).mono fun o => Or.imp_right fun ho => ⟨ho.1, ho.2, ?_⟩
    rcases hhead with hhead | hhead <;> rw [ShortensBySkeleton, hhead] <;> decide
  -- Nothing else is shortened.
  refine FailsWith.mono (P := IsBlamed) ?_ fun _ => .inl
  split
  · have hheld : Culture.digitsHeld = 20 := rfl
    obtain ⟨-, hlargest, -⟩ := bounds_eq
    have hhundred : digitCount 100 = 3 := by decide +kernel
    obtain ⟨d', hd', -, hbelow, -⟩ := divideBy_spec hd (by omega) (show 100 ≠ 0 by decide)
    refine FailsWith.after hd' ?_
    exact h.percent_settles (hbelow.mono (by omega))
  split
  · exact h.amount hd _
  split
  · exact integer_settles hd
  · exact h.number hd

/-- **A word, a skeleton or a pattern writes every number that there is room for**, with the same exception. -/
theorem numberByName_settles (h : c.HasRoom) {style : Text} (hfits : Fits d (.named style)) :
    FailsWith (fun o => IsBlamed o ∨ o = .invalidOperation ∧ c.Unordered d ∧ Shortens style)
      (numberByName c style d) := by
  obtain ⟨hd, hpattern⟩ := hfits
  have hwords : ∀ {words : List Text}, words.contains style.strip.lower = true →
      (∀ word ∈ words, word ∈ (["compact", "compact-short", "short", "compact-long", "long"] : List Text)) →
        Shortens style := fun hword hall => .inl (hall _ (List.contains_iff_mem.mp hword))
  unfold numberByName
  dsimp only
  split
  · exact (h.number hd).mono fun _ => .inl
  split
  · next hskeleton =>
    refine (numberBySkeleton_settles h hd _).mono fun o => Or.imp_right fun ho => ⟨ho.1, ho.2.1, .inr ⟨hskeleton, ho.2.2⟩⟩
  split
  · exact (integer_settles hd).mono fun _ => .inl
  split
  · exact (h.percent_settles hd).mono fun _ => .inl
  split
  · exact (h.amount hd _).mono fun _ => .inl
  split
  · next hword =>
    exact (h.compact_settles hd).mono fun o => Or.imp_right fun ho => ⟨ho.1, ho.2, hwords hword (by decide)⟩
  split
  · next hword =>
    exact (h.compactLong hd).mono fun o => Or.imp_right fun ho => ⟨ho.1, ho.2, hwords hword (by decide)⟩
  · exact (Culture.numberAs_settles hpattern).mono fun _ => .inl

theorem numberByName_fails (c : Culture) (style : Text) (d : Decimal) :
    FailsWith StopsNumber (numberByName c style d) := by
  have hpattern : ∀ t r d, FailsWith StopsNumber (c.byPattern t r d) := Culture.byPattern_fails
  -- Every style comes down to a pattern or to a short form. Only the one per hundred does arithmetic first.
  unfold numberByName
  dsimp only
  split
  · exact hpattern _ _ _
  split
  · unfold numberBySkeleton
    dsimp only
    split
    · exact Culture.compactBy_fails c _ d
    split
    · exact Culture.compactBy_fails c _ d
    split
    · exact (Culture.stops_of_arithmetic (divideBy_fails d 100)).bind fun _ _ => hpattern _ _ _
    split
    · exact hpattern _ _ _
    split
    · exact hpattern _ _ _
    · exact hpattern _ _ _
  split
  · exact hpattern _ _ _
  split
  · exact hpattern _ _ _
  split
  · exact hpattern _ _ _
  split
  · exact Culture.compactBy_fails c _ d
  split
  · exact Culture.compactBy_fails c _ d
  · exact hpattern _ _ _

/-- Why a number is not written by a style, where it is not the fault of the style. -/
inductive NumberStop (c : Culture) (style : Template.Style) (v : Value) : Obstacle → Prop
  /-- The error cannot show the value. -/
  | unwritable (h : v.isWritable = false) : NumberStop c style v .value
  /-- The number does not fit. -/
  | beyond {o : Obstacle} {d : Decimal} (ho : IsArithmetic o) (hd : v.toDecimal = .ok d) (h : ¬Fits d style) :
      NumberStop c style v o
  /-- The number is to be shortened and is no place in the order of numbers. -/
  | unordered {d : Decimal} {t : Text} (hd : v.toDecimal = .ok d) (h : c.Unordered d) (hstyle : style = .named t)
      (hshortens : Shortens t) : NumberStop c style v .invalidOperation

/-- **A value is a number or refused with an error about it.** -/
theorem toDecimal_settles (hv : v.IsProper) : Settled v.toDecimal := by
  cases v with
  | int n => exact .ok _
  | decimal d => exact .ok _
  | double x =>
      obtain ⟨d, hd⟩ := Double.exists_toDecimal hv
      rw [Value.toDecimal, hd]
      exact .ok _
  | text t =>
      rw [Value.toDecimal]
      split
      · exact .ok _
      · exact .error (.processing _)
  | null | bool | date | time | moment | list => exact .error (.processing _)

/-- **A number is written by a style, or the error is about the value**, with the exceptions that are named. -/
theorem number_fails (hc : c.HasRoom) (style : Template.Style) (hv : v.IsProper) :
    FailsWith (Escapes (NumberStop c style v)) (number c style v) := by
  refine ((toDecimal_settles hv).mono fun f hf => hf.mono fun _ => False.elim).bind fun d hd => ?_
  refine blaming_fails ?_ .unwritable
  have hblamed : ∀ {o}, IsBlamed o → o ∈ [Obstacle.value, .key] ∨ NumberStop c style v o := by
    rintro o (rfl | rfl)
    · exact .inl (by decide)
    · exact .inl (by decide)
  -- With room for the number the style settles it; without, arithmetic may stop.
  by_cases hfits : Fits d style
  · cases style with
    | default => exact (hc.number hfits).mono fun _ => hblamed
    | pattern t => exact (Culture.numberAs_settles hfits).mono fun _ => hblamed
    | named t =>
        refine (numberByName_settles hc hfits).mono fun o ho => ?_
        rcases ho with ho | ⟨rfl, hunordered, hshortens⟩
        · exact hblamed ho
        · exact .inr (.unordered hd hunordered rfl hshortens)
  · refine FailsWith.mono (P := StopsNumber) ?_ fun o ho => ?_
    · cases style with
      | default => exact Culture.byPattern_fails _ _ _
      | named t => exact numberByName_fails c t d
      | pattern t => exact Culture.byPattern_fails _ _ _
    · rcases ho with ho | ho
      · exact hblamed ho
      · exact .inr (.beyond ho hd hfits)

/-! ## Composite formats -/

/-- A letter for numbers, perhaps with a precision. -/
def isLetterFormat (format : Text) : Bool :=
  numberLetters.contains (Text.upper (format.take 1)) && ((format.drop 1).isEmpty || Text.isNumber (format.drop 1))

/-- A number below `10 ^ k` that a letter with a precision has room for. -/
structure FitsLetter (k : Nat) (d : Decimal) (format : Text) : Prop where
  below : d.IsBelow k
  held : k ≤ Culture.digitsHeld
  /-- The digits after the point that the letter asks for. -/
  places : ∀ n, Count.ofDigits (format.drop 1) = .ok n → k + 2 + n ≤ digitRoom
  /-- The letter for an exponent. -/
  exponent : Text.upper (format.take 1) = "E" → d.IsNormal

/-- A number that a composite format has room for. What is no letter is a pattern. -/
structure FitsComposite (d : Decimal) (format : Text) : Prop where
  letter : isLetterFormat format = true → ∃ k, FitsLetter k d format
  pattern : isLetterFormat format = false → HoldsNumber format d

/-- Why a number is not written by a composite format, where it is not the fault of the format. -/
inductive CompositeStop (format : Text) (v : Value) : Obstacle → Prop
  /-- The number does not fit. -/
  | beyond {o : Obstacle} {d : Decimal} (ho : IsArithmetic o) (hd : v.toDecimal = .ok d)
      (h : ¬FitsComposite d format) : CompositeStop format v o
  /-- Infinity has no hexadecimal notation. -/
  | infinite {d : Decimal} (hd : v.toDecimal = .ok d) (hinfinite : d.isInfinite = true)
      (hletter : Text.upper (format.take 1) = "X") : CompositeStop format v .overflow
  /-- No text has so many digits. -/
  | precision {n : Nat} (hn : Count.ofDigits (format.drop 1) = .ok n) (hlong : longestText < n) :
      CompositeStop format v .overflow

/-- **A pattern with a fixed number of digits has room for a number** if the digits of both fit. -/
theorem fixedPattern_isPlain {whole tail : Text} (hne : whole ≠ [])
    (hwhole : ∀ c ∈ whole, NumberPattern.IsDigitSign c ∧ c ≠ '.') (htail : tail = [] ∨ tail = "%") {n : Nat}
    (hroom : k + 2 + max n mostPlaces ≤ digitRoom) :
    ∀ p, NumberPattern.ofText (fixedPattern whole n ++ tail) = .ok p → p.IsPlain k := by
  have hsigns : ∀ c ∈ whole, NumberPattern.IsDigitSign c := fun c hc => (hwhole c hc).1
  have hends : ∀ c ∈ tail, NumberPattern.EndsNumber c := by
    rcases htail with rfl | rfl
    · exact fun c hc => nomatch hc
    · intro c hc
      obtain rfl := List.mem_singleton.mp (show c ∈ [CodePoint.ofChar '%'] from hc)
      exact ⟨by decide, by decide, by decide⟩
  have hread : ∃ p, NumberPattern.ofText (fixedPattern whole n ++ tail) = .ok p ∧ p.exponent = none ∧
      p.isSignificant = false ∧ p.positive = ⟨[], tail⟩ ∧ p.negative = ⟨['-'], tail⟩ ∧ p.fraction.most = n := by
    rw [fixedPattern]
    by_cases hn : n = 0
    · subst hn
      obtain ⟨p, hp, hexponent, hsignificant, hpositive, hnegative, hfraction⟩ :=
        NumberPattern.ofText_digits tail hne hsigns hends
      refine ⟨p, by simpa using hp, hexponent, hsignificant, hpositive, hnegative, ?_⟩
      rw [hfraction, if_neg fun hmem => (hwhole _ hmem).2 rfl]
      rfl
    · rw [if_neg hn]
      exact NumberPattern.ofText_fraction hsigns n hends
  intro p hp
  obtain ⟨p', hp', hexponent, hsignificant, hpositive, hnegative, hmost⟩ := hread
  obtain rfl := Except.ok.inj (hp'.symm.trans hp)
  -- The scale is told by what stands around the digits: a percent sign, or nothing.
  have hscale : p'.scale ≤ 2 := by
    unfold NumberPattern.scale NumberPattern.affixesHave
    rw [hpositive, hnegative]
    rcases htail with rfl | rfl <;> decide +kernel
  exact ⟨hexponent, hsignificant, by rw [hmost]; omega⟩

/-- The pattern of a whole number with some zeros before it. -/
theorem zeros_isPlain {n : Nat} (hn : 0 < n) (hroom : k + 2 + mostPlaces ≤ digitRoom) :
    ∀ p, NumberPattern.ofText (Text.zeros n) = .ok p → p.IsPlain k := by
  have hne : Text.zeros n ≠ [] := by
    intro hnil
    have := congrArg List.length hnil
    rw [Text.zeros, List.length_replicate, List.length_nil] at this
    omega
  have hpoint : CodePoint.ofChar '.' ∉ Text.zeros n := by
    intro hmem
    exact absurd (List.eq_of_mem_replicate hmem) (by decide)
  intro p hp
  obtain ⟨p', hp', hexponent, hsignificant, hpositive, hnegative, hfraction⟩ :=
    NumberPattern.ofText_digits [] hne (NumberPattern.isDigitSign_zeros n) fun c hc => absurd hc List.not_mem_nil
  rw [List.append_nil] at hp'
  obtain rfl := Except.ok.inj (hp'.symm.trans hp)
  rw [if_neg hpoint] at hfraction
  have hscale : p'.scale = 0 := by
    unfold NumberPattern.scale NumberPattern.affixesHave
    rw [hpositive, hnegative]
    decide +kernel
  refine ⟨hexponent, hsignificant, ?_⟩
  rw [hscale, hfraction]
  show k + 0 + max 0 mostPlaces ≤ digitRoom
  omega

theorem eq_of_countable {n m : Nat} (h : countable n = .ok m) : m = n := by
  rw [countable] at h
  split at h
  · cases h
  · exact (Except.ok.inj h).symm

/-- What stops a number that fits is what the format is blamed for. -/
theorem stops_unless_fits {format : Text} {r : Except Obstacle Text} {room : Prop} (hd : v.toDecimal = .ok d)
    (hroom : FitsComposite d format → room) (hfits : room → FailsWith IsBlamed r) (hr : FailsWith StopsNumber r) :
    FailsWith (fun o => IsBlamed o ∨ CompositeStop format v o) r := by
  by_cases h : room
  · exact (hfits h).mono fun _ => .inl
  · exact hr.mono fun o ho => ho.imp_right fun harith => .beyond harith hd fun hfit => h (hroom hfit)

section Letters

variable {format : Text} {precision : Option Nat} (hprecision : ∀ n ∈ precision, Count.ofDigits (format.drop 1) = .ok n)

/-- The places that are written without a precision can be counted. -/
theorem getD_le_or_mem {default : Nat} (h : default ≤ longestText) :
    precision.getD default ≤ longestText ∨ precision.getD default ∈ precision := by
  cases precision with
  | none => exact .inl h
  | some n => exact .inr rfl

include hprecision

/-- Too long a precision is the only one that cannot be counted. -/
theorem countable_fails {n : Nat} (hn : n ≤ longestText ∨ n ∈ precision) :
    FailsWith (fun o => IsBlamed o ∨ CompositeStop format v o) (countable n) := by
  rw [countable]
  split
  · next hlong => exact .error (.inr (.precision (hprecision n (hn.resolve_left (by omega))) hlong))
  · exact .ok _

theorem FitsLetter.getD_le (h : FitsLetter k d format) : k + 2 + max (precision.getD 2) mostPlaces ≤ digitRoom := by
  have hheld := h.held
  have hcount : Culture.digitsHeld = 20 := rfl
  have hlimit : digitRoom = 26 := rfl
  have hmost : mostPlaces = 4 := rfl
  cases precision with
  | none =>
      show k + 2 + max 2 mostPlaces ≤ digitRoom
      omega
  | some n =>
      have := h.places n (hprecision n rfl)
      show k + 2 + max n mostPlaces ≤ digitRoom
      omega

variable (hc : c.HasRoom) (hletter : isLetterFormat format = true) (hd : v.toDecimal = .ok d)

include hletter hd

/-- **A pattern made from the precision** is usable where the number fits. -/
theorem countedPattern_fails {n : Nat} (hn : n ≤ longestText ∨ n ∈ precision) {pattern : Nat → Text}
    (hplain : ∀ k, FitsLetter k d format → ∀ p, NumberPattern.ofText (pattern n) = .ok p → p.IsPlain k) :
    FailsWith (fun o => IsBlamed o ∨ CompositeStop format v o) (countable n >>= fun m => c.numberAs (pattern m) d) := by
  refine (countable_fails hprecision hn).bind fun m hm => ?_
  rw [eq_of_countable hm]
  refine stops_unless_fits hd (·.letter hletter) (fun ⟨k, hk⟩ => ?_) (Culture.byPattern_fails _ _ _)
  exact Culture.numberAs_settles (holdsNumber_of_isPlain hk.below (hplain k hk))

/-- **A pattern with a fixed number of digits**, two if there is no precision. -/
theorem fixedPattern_fails {whole tail : Text} (hne : whole ≠ [])
    (hwhole : ∀ c ∈ whole, NumberPattern.IsDigitSign c ∧ c ≠ '.') (htail : tail = [] ∨ tail = "%") :
    FailsWith (fun o => IsBlamed o ∨ CompositeStop format v o)
      (countable (precision.getD 2) >>= fun n => c.numberAs (fixedPattern whole n ++ tail) d) :=
  countedPattern_fails hprecision hletter hd (getD_le_or_mem (by decide)) fun _ hk =>
    fixedPattern_isPlain hne hwhole htail (hk.getD_le hprecision)

include hc

/-- **A number by a letter.** -/
theorem numberByLetter_fails {isUpper : Bool} :
    FailsWith (fun o => IsBlamed o ∨ CompositeStop format v o)
      (numberByLetter c (Text.upper (format.take 1)) isUpper precision d) := by
  have hheld : ∀ {k}, FitsLetter k d format → d.IsBelow Culture.digitsHeld := fun hk =>
    hk.below.mono (Int.ofNat_le.mpr hk.held)
  unfold numberByLetter
  dsimp only
  -- The letters N, F, D, P, C, X and E, in the order of the definition.
  split
  · simpa only [List.append_nil] using fixedPattern_fails hprecision hletter hd (by decide) (by decide) (.inl rfl)
  split
  · simpa only [List.append_nil] using fixedPattern_fails hprecision hletter hd (by decide) (by decide) (.inl rfl)
  split
  · have hn : max 1 (precision.getD 1) ≤ longestText ∨ max 1 (precision.getD 1) ∈ precision := by
      rcases Nat.le_total (precision.getD 1) 1 with hle | hge
      · rw [Nat.max_eq_left hle]
        exact .inl (by decide)
      · rw [Nat.max_eq_right hge]
        exact getD_le_or_mem (by decide)
    refine countedPattern_fails hprecision hletter hd hn fun k hk => zeros_isPlain (by omega) ?_
    have hroom : Culture.digitsHeld + 2 + mostPlaces ≤ digitRoom := by decide
    have := hk.held
    omega
  split
  · exact fixedPattern_fails hprecision hletter hd (by decide) (by decide) (.inr rfl)
  split
  · exact stops_unless_fits hd (·.letter hletter) (fun ⟨k, hk⟩ => hc.amount (hheld hk) _) (Culture.byPattern_fails _ _ _)
  split
  · next hhex =>
    refine FailsWith.bind ?_ fun n _ =>
      (countable_fails hprecision (getD_le_or_mem (by decide))).bind fun _ _ => .ok _
    cases d with
    | finite negative n e => exact .ok _
    | infinite negative => exact .error (.inr (.infinite hd rfl hhex))
    | nan negative signaling payload => exact .error (.inl (.inl rfl))
  split
  · next hexponent =>
    exact stops_unless_fits hd (·.letter hletter)
      (fun ⟨k, hk⟩ => hc.scientific_settles (hheld hk) (hk.exponent hexponent)) (Culture.byPattern_fails _ _ _)
  · exact .ok _

end Letters

theorem ofDigits_fails (t : Text) : FailsWith (· = .value) (Count.ofDigits t) := by
  unfold Count.ofDigits
  split
  · exact .error rfl
  split
  · exact .ok _
  · exact .error rfl

/-- **A number is written by a composite format, or the format is blamed**, unless the number does not fit. -/
theorem compositeNumber_fails (hc : c.HasRoom) {format : Text} (hd : v.toDecimal = .ok d) :
    FailsWith (fun o => IsBlamed o ∨ CompositeStop format v o) (compositeNumber c format d) := by
  unfold compositeNumber
  dsimp only
  split
  · next hletter =>
    by_cases hempty : (format.drop 1).isEmpty = true
    · rw [if_pos hempty]
      refine numberByLetter_fails ?_ hc hletter hd
      intro n hn
      cases hn
    · rw [if_neg hempty]
      cases hcount : Count.ofDigits (format.drop 1) with
      | ok n =>
          refine numberByLetter_fails (fun m hm => ?_) hc hletter hd
          obtain rfl := Option.some.inj hm
          exact hcount
      | error o => exact .error (.inl (.inl (ofDigits_fails _ o hcount)))
  · next hletter =>
    have hpattern : isLetterFormat format = false := by simpa [isLetterFormat] using hletter
    exact stops_unless_fits hd (·.pattern hpattern) Culture.numberAs_settles (Culture.byPattern_fails _ _ _)

end Render

end Phrasebook
