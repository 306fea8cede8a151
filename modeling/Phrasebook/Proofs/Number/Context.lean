import Phrasebook.Number.Decimal
import Phrasebook.Proofs.Number.Digits
import Phrasebook.Proofs.Outcome

/-!
# Arithmetic in the context

Where the operations on decimal numbers have a result. A number below `10 ^ k` that is no signaling not-a-number
(`IsBelow`) comes out of an operation as a number of the context (`IsRound`), perhaps one power of ten larger since
it was rounded up. A number of the context stays what it is when it is only taken over (`Kept`).

Rounding to a multiple of `10 ^ target` needs a digit for each power of ten between the target and the number, so it
succeeds where there are less than `precision` of them (`quantize_spec`), and where nothing but zeros is cut off
(`quantize_exact`).
-/

namespace Phrasebook.Decimal

/-- Below `10 ^ k` if it is finite; a not-a-number is a quiet one. -/
def IsBelow (k : Int) : Decimal → Prop
  | .finite _ coefficient exponent => coefficient = 0 ∨ exponent + digitCount coefficient ≤ k
  | .infinite _ => True
  | .nan _ signaling _ => signaling = false

/-- Not as close to zero as the numbers that have less digits than the context. -/
def IsNormal : Decimal → Prop
  | .finite _ coefficient exponent => coefficient = 0 ∨ -largestExponent < exponent + digitCount coefficient
  | _ => True

/-- A number that arithmetic takes over as it is. -/
def IsRound : Decimal → Prop
  | .finite _ coefficient exponent =>
      digitCount coefficient ≤ precision ∧ smallestExponent ≤ exponent ∧
        exponent + digitCount coefficient - 1 ≤ largestExponent
  | .infinite _ => True
  | .nan _ signaling _ => signaling = false

/-- What is known of a number that was taken over from another one. -/
structure Kept (d d' : Decimal) : Prop where
  round : d'.IsRound
  below : ∀ {k : Int}, d.IsBelow k → d'.IsBelow k
  normal : d.IsNormal → d'.IsNormal
  infinite : d'.isInfinite = d.isInfinite

theorem Kept.trans {d d' d'' : Decimal} (h : Kept d d') (h' : Kept d' d'') : Kept d d'' :=
  ⟨h'.round, fun hd => h'.below (h.below hd), fun hd => h'.normal (h.normal hd), h'.infinite.trans h.infinite⟩

theorem IsBelow.mono {j k : Int} (h : j ≤ k) {d : Decimal} (hd : d.IsBelow j) : d.IsBelow k := by
  cases d with
  | finite n c e => exact hd.imp_right fun hlt => le_trans hlt h
  | infinite n => trivial
  | nan n s p => exact hd

/-! ## Rescaling -/

/-- Digits that are cut off are missing from the result, but for one if it was rounded up. -/
theorem digitCount_rescale_le (c : Nat) {e t : Int} (h : e < t) :
    (digitCount (rescale c e t) : Int) ≤ max 1 (e + digitCount c - t + 1) := by
  have hzero := digitCount_zero
  simp only [rescale]
  split
  · omega
  · rw [if_neg (by omega)]
    split
    · omega
    · obtain ⟨drop, hdrop⟩ : ∃ drop : Nat, (drop : Int) = t - e := ⟨(t - e).toNat, by omega⟩
      have htoNat : (t - e).toNat = drop := by omega
      rw [htoNat]
      rcases Nat.lt_or_ge (digitCount c) drop with hfar | hclose
      · -- All digits are cut off.
        have := digitCount_eq_one (divideToEven_le_one (le_of_lt hfar))
        omega
      · have := digitCount_divideToEven_le hclose
        omega

/-- The leading digit stays where it is. -/
theorem le_digitCount_rescale {c : Nat} (hc : c ≠ 0) {e t : Int} (h : e < t) :
    e + digitCount c - t ≤ digitCount (rescale c e t) := by
  rcases le_or_gt (e + digitCount c) t with hsmall | hlarge
  · omega
  simp only [rescale]
  rw [if_neg hc, if_neg (by omega)]
  obtain ⟨drop, hdrop⟩ : ∃ drop : Nat, (drop : Int) = t - e := ⟨(t - e).toNat, by omega⟩
  have htoNat : (t - e).toNat = drop := by omega
  rw [htoNat, if_neg (by omega)]
  have hlow : 10 ^ (digitCount c - 1 - drop) * powerOfTen drop ≤ c := by
    have hsplit : 10 ^ (digitCount c - 1 - drop) * powerOfTen drop = 10 ^ (digitCount c - 1) := by
      show 10 ^ (digitCount c - 1 - drop) * 10 ^ drop = 10 ^ (digitCount c - 1)
      rw [← pow_add, Nat.sub_add_cancel (by omega)]
    rw [hsplit]
    exact pow_le_of_lt_digitCount hc (by omega)
  have := lt_digitCount_of_pow_le (le_divideToEven (powerOfTen_pos drop) hlow)
  omega

/-- Zeros that are appended are digits more. -/
theorem digitCount_rescale_of_le {c : Nat} (hc : c ≠ 0) {e t : Int} (h : t ≤ e) :
    (digitCount (rescale c e t) : Int) = e + digitCount c - t := by
  rw [rescale, if_neg hc, if_pos h]
  have := digitCount_mul_pow hc (e - t).toNat
  show (digitCount (c * 10 ^ (e - t).toNat) : Int) = _
  omega

/-- Cutting off zeros changes nothing. -/
theorem rescale_mul_pow {c : Nat} (hc : c ≠ 0) (e : Int) (j : Nat) : rescale (c * 10 ^ j) e (e + j) = c := by
  have hne : c * 10 ^ j ≠ 0 := Nat.mul_ne_zero hc (Nat.pow_pos (by decide)).ne'
  rw [rescale, if_neg hne]
  rcases Nat.eq_zero_or_pos j with rfl | hj
  · rw [if_pos (by omega), Nat.cast_zero, add_zero, sub_self, Int.toNat_zero, pow_zero, Nat.mul_one]
    exact Nat.mul_one c
  · have hdrop : (e + j - e).toNat = j := by omega
    rw [if_neg (by omega), hdrop]
    dsimp only
    have := digitCount_mul_pow hc j
    have := digitCount_pos c
    rw [if_neg (by omega)]
    exact divideToEven_mul (powerOfTen_pos j) c

/-! ## Taking a number over -/

theorem bounds_eq : precision = 28 ∧ largestExponent = 999999 ∧ smallestExponent = -1000026 := ⟨rfl, rfl, rfl⟩

/-- **A number below the largest exponent has a result**, at most one power of ten larger than it. -/
theorem fix_spec (n : Bool) {c : Nat} {e k : Int} (hk : 0 ≤ k) (hlarge : k ≤ largestExponent)
    (h : c = 0 ∨ e + digitCount c ≤ k) :
    ∃ c' e', fix n c e = .ok (.finite n c' e') ∧ IsRound (.finite n c' e') ∧ IsBelow (k + 1) (.finite n c' e') ∧
      (IsNormal (.finite n c e) → IsNormal (.finite n c' e')) := by
  obtain ⟨hprecision, hlargest, hsmallest⟩ := bounds_eq
  have hzero := digitCount_zero
  simp only [IsRound, IsBelow, IsNormal]
  by_cases hc : c = 0
  · subst hc
    exact ⟨0, max smallestExponent (min e largestExponent), by rw [fix, if_pos rfl], by omega, .inl rfl,
      fun _ => .inl rfl⟩
  have hbelow := h.resolve_left hc
  have hcount := digitCount_pos c
  rw [fix, if_neg hc]
  dsimp only
  rw [if_neg (by omega)]
  split
  · next hexact => exact ⟨c, e, rfl, by omega, by omega, fun hnormal => hnormal⟩
  · next hcut =>
    -- Digits are cut off at the target.
    obtain ⟨t, ht⟩ : ∃ t : Int, max smallestExponent (e + digitCount c - 1 - precision + 1) = t := ⟨_, rfl⟩
    rw [ht] at hcut ⊢
    have hle := digitCount_rescale_le c (show e < t by omega)
    have hge := le_digitCount_rescale hc (show e < t by omega)
    split
    · next hcarry =>
      -- Rounding up has made one digit more, the last of which is a zero.
      rw [if_neg (by omega)]
      have hcount := digitCount_div_ten_le (show 1 < digitCount (rescale c e t) by omega)
      have hlow : 10 ^ 28 ≤ rescale c e t := by
        refine pow_le_of_lt_digitCount ?_ hcarry
        intro hnone
        rw [hnone] at hcarry
        omega
      have hmore : 27 < digitCount (rescale c e t / 10) := lt_digitCount_of_pow_le (by omega)
      exact ⟨rescale c e t / 10, t + 1, rfl, by omega, .inr (by omega), fun _ => .inr (by omega)⟩
    · next hfits =>
      exact ⟨rescale c e t, t, rfl, by omega, .inr (by omega), fun hnormal => .inr (by omega)⟩

/-- **A number below the largest exponent has an absolute value.** -/
theorem magnitude_spec {d : Decimal} {k : Int} (hd : d.IsBelow k) (hk : 0 ≤ k) (hlarge : k ≤ largestExponent) :
    ∃ d', magnitude d = .ok d' ∧ d'.isFinite = d.isFinite := by
  cases d with
  | finite s c e =>
      obtain ⟨c', e', hfix, -⟩ := fix_spec false hk hlarge hd
      exact ⟨_, hfix, rfl⟩
  | infinite s => exact ⟨.infinite false, rfl, rfl⟩
  | nan s t p =>
      obtain rfl : t = false := hd
      exact ⟨.nan s false p, rfl, rfl⟩

/-- **A number of the context stays as it is.** -/
theorem fix_of_round (n : Bool) {c : Nat} (hc : c ≠ 0) {e : Int} (h : IsRound (.finite n c e)) :
    fix n c e = .ok (.finite n c e) := by
  obtain ⟨hprecision, hlargest, hsmallest⟩ := bounds_eq
  simp only [IsRound] at h
  rw [fix, if_neg hc]
  dsimp only
  rw [if_neg (by omega), if_pos (by omega)]

theorem fix_kept (m n : Bool) {c : Nat} {e : Int} (h : IsRound (.finite m c e)) :
    ∃ d, fix n c e = .ok d ∧ Kept (.finite m c e) d := by
  by_cases hc : c = 0
  · subst hc
    obtain ⟨c', e', hfix, hround, -, -⟩ :=
      fix_spec n (c := 0) (e := e) (k := 0) le_rfl (by decide) (.inl rfl)
    have hzero : fix n 0 e = .ok (.finite n 0 (max smallestExponent (min e largestExponent))) := by rw [fix, if_pos rfl]
    refine ⟨_, hzero, ?_, fun _ => .inl rfl, fun _ => .inl rfl, rfl⟩
    rw [hzero] at hfix
    rw [Except.ok.inj hfix]
    exact hround
  · exact ⟨_, fix_of_round n hc h, h, fun hd => hd, fun hd => hd, rfl⟩

theorem plus_kept {d : Decimal} (h : d.IsRound) : ∃ d', plus d = .ok d' ∧ Kept d d' := by
  cases d with
  | finite n c e => exact fix_kept n n h
  | infinite n => exact ⟨_, rfl, trivial, fun _ => trivial, fun _ => trivial, rfl⟩
  | nan n s p =>
      obtain rfl : s = false := h
      exact ⟨.nan n false p, rfl, rfl, fun _ => rfl, fun _ => trivial, rfl⟩

/-- **The absolute value of a number of the context.** -/
theorem magnitude_kept {d : Decimal} (h : d.IsRound) : ∃ d', magnitude d = .ok d' ∧ Kept d d' := by
  cases d with
  | finite n c e => exact fix_kept n false h
  | infinite n => exact ⟨_, rfl, trivial, fun _ => trivial, fun _ => trivial, rfl⟩
  | nan n s p => exact plus_kept h

/-- **The number without its trailing zeros**, of which zero itself has none. -/
theorem normalize_kept {d : Decimal} (h : d.IsRound) :
    ∃ d', normalize d = .ok d' ∧ Kept d d' ∧ (d.IsNormal → -largestExponent ≤ d'.adjusted) := by
  obtain ⟨-, hlargest, -⟩ := bounds_eq
  obtain ⟨e, he, hkept⟩ := plus_kept h
  rw [normalize, he]
  cases e with
  | infinite n => exact ⟨_, rfl, hkept, fun _ => (by decide : -largestExponent ≤ 0)⟩
  | nan n s p => exact ⟨_, rfl, hkept, fun _ => (by decide : -largestExponent ≤ 0)⟩
  | finite n c e =>
      refine (?_ : ∃ d', (if c = 0 then Except.ok (.finite n 0 0)
        else .ok (.finite n (dropZeros (digitCount c) c).1 (e + (dropZeros (digitCount c) c).2))) = .ok d' ∧ Kept d d' ∧
          (d.IsNormal → -largestExponent ≤ d'.adjusted))
      -- Zero becomes zero with no exponent. Any other number has as many digits less as its exponent grows by.
      by_cases hc : c = 0
      · have hzero := digitCount_zero
        rw [if_pos hc]
        refine ⟨_, rfl, hkept.trans ⟨?_, fun _ => .inl rfl, fun _ => .inl rfl, rfl⟩, fun _ => ?_⟩
        · simp only [IsRound]
          decide +kernel
        · simp only [adjusted]
          omega
      · rw [if_neg hc]
        have hround := hkept.round
        have hcount := digitCount_dropZeros (digitCount c) hc
        simp only [IsRound] at hround
        refine ⟨_, rfl, hkept.trans ⟨?_, fun {k} hbelow => ?_, fun hnormal => ?_, rfl⟩, fun hnormal => ?_⟩
        · simp only [IsRound]
          omega
        · have := hbelow.resolve_left hc
          exact .inr (by omega)
        · have := hnormal.resolve_left hc
          exact .inr (by omega)
        · have := (hkept.normal hnormal).resolve_left hc
          simp only [adjusted]
          omega

/-- **The number with its point moved.** -/
theorem scale_spec (power : Int) {d : Decimal} {k : Int} (hd : d.IsBelow k) (hshift : power.natAbs ≤ largestShift)
    (hk : 0 ≤ k + power) (hlarge : k + power ≤ largestExponent) :
    ∃ d', scale power d = .ok d' ∧ d'.IsRound ∧ d'.IsBelow (k + power + 1) ∧ d'.isInfinite = d.isInfinite ∧
      (0 ≤ power → d.IsNormal → d'.IsNormal) := by
  cases d with
  | nan n s p =>
      obtain rfl : s = false := hd
      exact ⟨.nan n false p, rfl, rfl, rfl, rfl, fun _ _ => trivial⟩
  | infinite n => exact ⟨.infinite n, by rw [scale, if_neg (by omega)], trivial, trivial, rfl, fun _ _ => trivial⟩
  | finite n c e =>
      have hmoved : c = 0 ∨ e + power + digitCount c ≤ k + power := hd.imp_right fun hlt => by omega
      obtain ⟨c', e', hfix, hround, hbelow, hnormal⟩ := fix_spec n hk hlarge hmoved
      refine ⟨_, by rw [scale, if_neg (by omega), hfix], hround, hbelow, rfl, fun hpower hd => hnormal ?_⟩
      exact hd.imp_right fun hlt => by omega

/-! ## Rounding to a place -/

/-- **Rounding needs a digit for each place between the number and the last one.** -/
theorem quantize_spec (n : Bool) {c : Nat} {e k t : Int} (h : c = 0 ∨ e + digitCount c ≤ k) (hk : k ≤ largestExponent)
    (ht : smallestExponent ≤ t) (htk : t ≤ k) (hroom : k - t < precision) :
    ∃ d, quantize t (.finite n c e) = .ok d ∧ d.IsRound ∧ d.IsBelow (k + 1) := by
  obtain ⟨hprecision, hlargest, hsmallest⟩ := bounds_eq
  rw [quantize, if_neg (by omega)]
  by_cases hc : c = 0
  · rw [if_pos hc]
    have hzero := digitCount_zero
    refine ⟨.finite n 0 (max smallestExponent (min t largestExponent)), by rw [fix, if_pos rfl], ?_, .inl rfl⟩
    simp only [IsRound]
    omega
  · have hbelow := h.resolve_left hc
    have hcount := digitCount_pos c
    rw [if_neg hc]
    dsimp only
    rw [if_neg (by omega)]
    -- Rounding may carry into one more digit, and there is room for that one.
    have hdigits : (digitCount (rescale c e t) : Int) ≤ max 1 (e + digitCount c - t + 1) := by
      rcases le_or_gt t e with hle | hlt
      · have := digitCount_rescale_of_le hc hle
        omega
      · exact digitCount_rescale_le c hlt
    rw [if_neg (by omega)]
    refine ⟨.finite n (rescale c e t) t, rfl, ?_, .inr (by omega)⟩
    simp only [IsRound]
    omega

/-- **Cutting off zeros needs no room.** -/
theorem quantize_exact (n : Bool) {c : Nat} (hc : c ≠ 0) (j : Nat) {e : Int} (h : IsRound (.finite n c (e + j)))
    : ∃ d, quantize (e + j) (.finite n (c * 10 ^ j) e) = .ok d := by
  obtain ⟨hprecision, hlargest, hsmallest⟩ := bounds_eq
  have hne : c * 10 ^ j ≠ 0 := Nat.mul_ne_zero hc (Nat.pow_pos (by decide)).ne'
  have hcount := digitCount_mul_pow hc j
  have hpos := digitCount_pos c
  simp only [IsRound] at h
  rw [quantize, if_neg (by omega), if_neg hne]
  dsimp only
  rw [if_neg (by omega), rescale_mul_pow hc, if_neg (by omega)]
  exact ⟨_, rfl⟩

/-- Where digits after the point are written: no further than the context reaches. -/
def place (n : Nat) : Int := max smallestExponent (-(n : Int))

/-- **A number can be written with some digits after the point** if there is room for them. -/
theorem quantize_place {d : Decimal} {k : Int} (hb : d.IsBelow k) (hf : d.isInfinite = false)
    (hk : 0 ≤ k) (hlarge : k ≤ largestExponent) {n : Nat} (hroom : k + n < precision) :
    ∃ d', quantize (place n) d = .ok d' ∧ d'.IsRound ∧ d'.IsBelow (k + 1) := by
  obtain ⟨hprecision, hlargest, hsmallest⟩ := bounds_eq
  have hplace : place n = -(n : Int) := max_eq_right (by omega)
  rw [hplace]
  cases d with
  | infinite n => cases hf
  | nan n s p =>
      obtain rfl : s = false := hb
      exact ⟨.nan n false p, rfl, rfl, rfl⟩
  | finite s c e => exact quantize_spec s hb hlarge (by omega) (by omega) (by omega)

theorem fractionDigits_ok {d : Decimal} (hd : d.IsRound) : ∃ j, fractionDigits d = .ok j := by
  obtain ⟨d', hd', -⟩ := normalize_kept hd
  rw [fractionDigits, hd']
  cases d' with
  | finite s c e => exact ⟨_, rfl⟩
  | infinite s => exact ⟨_, rfl⟩
  | nan s t p => exact ⟨_, rfl⟩

/-- The digits after the point, without the zeros at the end. -/
theorem fractionDigits_finite (s : Bool) {c : Nat} (hc : c ≠ 0) {e : Int} (hd : IsRound (.finite s c e)) :
    ∃ m j : Nat, m ≠ 0 ∧ m * 10 ^ j = c ∧ fractionDigits (.finite s c e) = .ok (-(e + j : Int)).toNat := by
  refine ⟨_, _, dropZeros_ne_zero (digitCount c) hc, dropZeros_mul (digitCount c) c, ?_⟩
  rw [fractionDigits, normalize, plus, fix_of_round s hc hd]
  simp only [bind, Except.bind, pure, Except.pure, if_neg hc]

theorem fractionDigits_zero (s : Bool) (e : Int) : fractionDigits (.finite s 0 e) = .ok 0 := by
  have hnormal : normalize (.finite s 0 e) = .ok (.finite s 0 0) := by
    rw [normalize, plus, fix, if_pos rfl]
    rfl
  rw [fractionDigits, hnormal]
  rfl

/-- **A number of the context has room for all its digits**, and for those that are asked for besides if they fit. -/
theorem quantize_natural {d : Decimal} {k : Int} (hd : d.IsRound) (hb : d.IsBelow k) (hf : d.isInfinite = false)
    (hk : 0 ≤ k) (hlarge : k ≤ largestExponent) {n : Nat} (hroom : k + n < precision) :
    ∃ j d', fractionDigits d = .ok j ∧ quantize (place (max n j)) d = .ok d' := by
  -- With a shorter fraction the number needs no more places than are asked for.
  have hfew : ∀ j, fractionDigits d = .ok j → j ≤ n →
      ∃ j d', fractionDigits d = .ok j ∧ quantize (place (max n j)) d = .ok d' := by
    intro j hj hle
    obtain ⟨d', hd', -⟩ := quantize_place hb hf hk hlarge hroom
    exact ⟨j, d', hj, by rwa [Nat.max_eq_left hle]⟩
  cases d with
  | infinite s => cases hf
  | nan s t p =>
      obtain rfl : t = false := hd
      exact hfew 0 rfl (Nat.zero_le n)
  | finite s c e =>
      by_cases hc : c = 0
      · subst hc
        exact hfew 0 (fractionDigits_zero s e) (Nat.zero_le n)
      obtain ⟨m, j, hm, rfl, hdigits⟩ := fractionDigits_finite s hc hd
      rcases Nat.lt_or_ge n (-(e + j : Int)).toNat with hmore | hless
      · -- Exactly the zeros at the end of the number are cut off.
        have hcount := digitCount_mul_pow hm j
        simp only [IsRound] at hd
        have hplace : place (max n (-(e + j : Int)).toNat) = e + j := by
          obtain ⟨-, -, hsmallest⟩ := bounds_eq
          rw [place, Nat.max_eq_right (le_of_lt hmore)]
          omega
        have hround : IsRound (.finite s m (e + j)) := by
          simp only [IsRound]
          omega
        obtain ⟨d', hd'⟩ := quantize_exact s hm j hround
        exact ⟨_, d', hdigits, by rw [hplace]; exact hd'⟩
      · exact hfew _ hdigits hless

/-! ## Other operations -/

/-- The quotient of two numbers that were scaled to have some digits more or less. -/
theorem scaled_div_lt {c divisor a b g : Nat} (hdivisor : divisor ≠ 0)
    (h : digitCount c + a = digitCount divisor + b + g) : c * powerOfTen a / (divisor * powerOfTen b) < 10 ^ (g + 1) := by
  rw [Nat.div_lt_iff_lt_mul (Nat.mul_pos (Nat.pos_of_ne_zero hdivisor) (powerOfTen_pos b))]
  have hlow : 10 ^ (digitCount divisor - 1) ≤ divisor :=
    pow_le_of_lt_digitCount hdivisor (by have := digitCount_pos divisor; omega)
  have hpos := digitCount_pos divisor
  calc c * 10 ^ a < 10 ^ digitCount c * 10 ^ a :=
        Nat.mul_lt_mul_of_pos_right (lt_pow_digitCount c) (Nat.pow_pos (by decide))
    _ = 10 ^ (g + 1) * (10 ^ (digitCount divisor - 1) * 10 ^ b) := by
        rw [← pow_add, ← pow_add, ← pow_add]
        congr 1
        omega
    _ ≤ 10 ^ (g + 1) * (divisor * 10 ^ b) := Nat.mul_le_mul_left _ (Nat.mul_le_mul_right _ hlow)

/-- **A quotient has less digits before its point**, as many as the divisor has beyond the first. -/
theorem divideBy_spec {divisor : Nat} {d : Decimal} {k : Int} (hd : d.IsBelow k) (hlarge : k ≤ largestExponent)
    (hdivisor : divisor ≠ 0) :
    ∃ d', divideBy divisor d = .ok d' ∧ d'.IsRound ∧ d'.IsBelow (max 1 (k - digitCount divisor + 2)) ∧
      d'.isInfinite = d.isInfinite := by
  obtain ⟨hprecision, hlargest, hsmallest⟩ := bounds_eq
  have hpos := digitCount_pos divisor
  cases d with
  | infinite s => exact ⟨.infinite s, rfl, trivial, trivial, rfl⟩
  | nan s t p =>
      obtain rfl : t = false := hd
      exact ⟨.nan s false p, rfl, rfl, rfl, rfl⟩
  | finite s c e =>
      have hfixed : ∀ (c' : Nat) (e' : Int), (c' = 0 ∨ e' + digitCount c' ≤ k - digitCount divisor + 1) →
          ∃ d', fix s c' e' = .ok d' ∧ d'.IsRound ∧ d'.IsBelow (max 1 (k - digitCount divisor + 2)) ∧
            d'.isInfinite = false := by
        intro c' e' h
        obtain ⟨c'', e'', hfix, hround, hbelow, -⟩ :=
          fix_spec s (e := e') (k := max 0 (k - digitCount divisor + 1)) (by omega) (by omega)
            (h.imp_right fun hle => by omega)
        exact ⟨_, hfix, hround, hbelow.mono (by omega), rfl⟩
      rw [divideBy, if_neg hdivisor]
      by_cases hc : c = 0
      · rw [if_pos hc]
        exact hfixed 0 e (.inl rfl)
      rw [if_neg hc]
      have hbelow := hd.resolve_left hc
      dsimp only
      obtain ⟨shift, hshift⟩ : ∃ shift : Int, (digitCount divisor : Int) - digitCount c + precision + 1 = shift := ⟨_, rfl⟩
      rw [hshift]
      obtain ⟨q, hq⟩ : ∃ q, c * powerOfTen shift.toNat / (divisor * powerOfTen (-shift).toNat) = q := ⟨_, rfl⟩
      have hlt : q < 10 ^ 30 := hq ▸ scaled_div_lt (g := 29) hdivisor (by omega)
      rw [hq]
      split
      · -- The division comes out even.
        by_cases hzero : q = 0
        · subst hzero
          refine hfixed _ _ (.inl ?_)
          have := dropZeros_mul shift.toNat 0
          exact (Nat.mul_eq_zero.mp this).resolve_right (Nat.pow_pos (by decide)).ne'
        · have hcount := digitCount_dropZeros shift.toNat hzero
          have hdigits : digitCount q ≤ 30 := (digitCount_le_iff (by decide)).mpr hlt
          exact hfixed _ _ (.inr (by omega))
      · -- A digit that stands for what is left over is no digit more.
        have hdigits : digitCount (if q % 5 = 0 then q + 1 else q) ≤ 30 := by
          rw [digitCount_le_iff (by decide)]
          split <;> omega
        exact hfixed _ _ (.inr (by omega))

/-- **Multiplied by a power of ten, a number of the context is not rounded**, unless it becomes smaller than one. -/
theorem timesPowerOfTen_spec (power : Int) {d : Decimal} {k : Int} (hd : d.IsRound) (hb : d.IsBelow k)
    (hpower : power ≤ largestExponent) (hlarge : k + power ≤ largestExponent) (hlow : 0 ≤ d.adjusted + power) :
    ∃ d', timesPowerOfTen power d = .ok d' ∧ d'.IsRound ∧ d'.IsBelow (k + power) ∧ d'.isInfinite = d.isInfinite ∧
      0 ≤ d'.adjusted := by
  obtain ⟨hprecision, hlargest, hsmallest⟩ := bounds_eq
  unfold timesPowerOfTen
  rw [if_neg (by omega)]
  cases d with
  | infinite s => exact ⟨.infinite s, rfl, trivial, trivial, rfl, le_rfl⟩
  | nan s t p =>
      obtain rfl : t = false := hd
      exact ⟨.nan s false p, rfl, rfl, rfl, rfl, le_rfl⟩
  | finite s c e =>
      simp only [adjusted] at hlow
      simp only [IsRound] at hd
      -- Only a zero may have its exponent moved. The digits of any other number stay, and its exponent is in bounds.
      by_cases hc : c = 0
      · subst hc
        have hzero := digitCount_zero
        have hfix : fix s 0 (e + power) = .ok (.finite s 0 (max smallestExponent (min (e + power) largestExponent))) := by
          rw [fix, if_pos rfl]
        refine ⟨_, hfix, ?_, .inl rfl, rfl, ?_⟩
        · simp only [IsRound]
          omega
        · simp only [adjusted]
          omega
      · have hbelow := hb.resolve_left hc
        have hround : IsRound (.finite s c (e + power)) := by
          simp only [IsRound]
          omega
        refine ⟨.finite s c (e + power), fix_of_round s hc hround, hround, .inr (by omega), rfl, ?_⟩
        simp only [adjusted]
        omega

theorem isBelow_adjusted {d : Decimal} (hd : d.IsRound) : d.IsBelow (d.adjusted + 1) := by
  cases d with
  | finite s c e =>
      simp only [IsBelow, adjusted]
      omega
  | infinite s => trivial
  | nan s t p => exact hd

theorem adjusted_bounds {d : Decimal} (hd : d.IsRound) :
    smallestExponent ≤ d.adjusted ∧ d.adjusted ≤ largestExponent := by
  obtain ⟨hprecision, hlargest, hsmallest⟩ := bounds_eq
  cases d with
  | finite s c e =>
      have := digitCount_pos c
      simp only [IsRound] at hd
      simp only [adjusted]
      omega
  | infinite s => exact ⟨(by decide : smallestExponent ≤ 0), (by decide : 0 ≤ largestExponent)⟩
  | nan s t p => exact ⟨(by decide : smallestExponent ≤ 0), (by decide : 0 ≤ largestExponent)⟩

/-- Comparing numbers stops at no quiet one. -/
theorem equals_ofInt {d : Decimal} (hd : d.IsRound) (n : Int) : ∃ b, equals d (.ofInt n) = .ok b := by
  cases d with
  | finite s c e =>
      simp only [ofInt, equals]
      split
      · exact ⟨_, rfl⟩
      · exact ⟨_, rfl⟩
  | infinite s => exact ⟨_, rfl⟩
  | nan s t p =>
      obtain rfl : t = false := hd
      exact ⟨_, rfl⟩

/-! ## What arithmetic fails with -/

/-- An operation has no result, or one that is too large. -/
def IsArithmetic (o : Obstacle) : Prop := o = .invalidOperation ∨ o = .decimalOverflow

variable (d : Decimal)

theorem fix_fails (n : Bool) (c : Nat) (e : Int) : FailsWith IsArithmetic (fix n c e) := by
  rw [fix]
  split
  · exact .ok _
  dsimp only
  split
  · exact .error (.inr rfl)
  split
  · exact .ok _
  split
  · split
    · exact .error (.inr rfl)
    · exact .ok _
  · exact .ok _

theorem plus_fails : FailsWith IsArithmetic (plus d) := by
  cases d with
  | finite n c e => exact fix_fails n c e
  | infinite n => exact .ok _
  | nan n s p =>
      rw [plus]
      split
      · exact .error (.inl rfl)
      · exact .ok _

theorem magnitude_fails : FailsWith IsArithmetic (magnitude d) := by
  cases d with
  | finite n c e => exact fix_fails false c e
  | infinite n => exact .ok _
  | nan n s p => exact plus_fails (.nan n s p)

theorem scale_fails (power : Int) : FailsWith IsArithmetic (scale power d) := by
  cases d with
  | finite n c e =>
      rw [scale]
      split
      · exact .error (.inl rfl)
      · exact fix_fails n c (e + power)
  | infinite n =>
      rw [scale]
      split
      · exact .error (.inl rfl)
      · exact .ok _
  | nan n s p => exact plus_fails (.nan n s p)

theorem timesPowerOfTen_fails (power : Int) : FailsWith IsArithmetic (timesPowerOfTen power d) := by
  unfold timesPowerOfTen
  split
  · exact .error (.inr rfl)
  · cases d with
    | finite n c e => exact fix_fails n c (e + power)
    | infinite n => exact plus_fails (.infinite n)
    | nan n s p => exact plus_fails (.nan n s p)

theorem normalize_fails : FailsWith IsArithmetic (normalize d) := by
  refine (plus_fails d).bind fun d' _ => ?_
  cases d' with
  | finite n c e =>
      refine (?_ : FailsWith IsArithmetic (if c = 0 then .ok (finite n 0 0) else .ok _))
      split
      · exact .ok _
      · exact .ok _
  | infinite n => exact .ok _
  | nan n s p => exact .ok _

theorem fractionDigits_fails : FailsWith IsArithmetic (fractionDigits d) := by
  refine (normalize_fails d).bind fun d' _ => ?_
  cases d' with
  | finite n c e => exact .ok _
  | infinite n => exact .ok _
  | nan n s p => exact .ok _

theorem quantize_fails (t : Int) : FailsWith IsArithmetic (quantize t d) := by
  cases d with
  | infinite n => exact .error (.inl rfl)
  | nan n s p => exact plus_fails (.nan n s p)
  | finite n c e =>
      rw [quantize]
      split
      · exact .error (.inl rfl)
      split
      · exact fix_fails n 0 t
      dsimp only
      split
      · exact .error (.inl rfl)
      split
      · exact .error (.inl rfl)
      · exact .ok _

theorem divideBy_fails (divisor : Nat) : FailsWith IsArithmetic (divideBy divisor d) := by
  cases d with
  | infinite n => exact .ok _
  | nan n s p => exact plus_fails (.nan n s p)
  | finite n c e =>
      rw [divideBy]
      split
      · exact .error (.inl rfl)
      split
      · exact fix_fails n 0 e
      dsimp only
      split
      · exact fix_fails n _ _
      · exact fix_fails n _ _

theorem equals_fails (d' : Decimal) : FailsWith IsArithmetic (equals d d') := by
  unfold equals
  split
  · exact .error (.inl rfl)
  · exact .error (.inl rfl)
  · exact .ok _
  · exact .ok _
  · exact .ok _
  · split
    · exact .ok _
    · exact .ok _
  · exact .ok _

end Phrasebook.Decimal
