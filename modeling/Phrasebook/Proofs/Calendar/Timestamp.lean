import Phrasebook.Calendar.Timestamp
import Phrasebook.Proofs.Number.Double

/-!
# The timestamps that are moments

A timestamp is a moment if and only if it lies between the start of the year 1 and the end of the year 9999
(`Moment.ofTimestamp_ok_iff`). The microseconds are rounded (`microsecond_spec`), so a fraction can fill up to a whole second;
at either border it cannot, because numbers of that size have no digits for so small a distance (`split_grid`).
-/

namespace Phrasebook

open Double

namespace Double

theorem div_add_rest {p q : Nat} (hq : 0 < q) : (p : ℚ) / q = (p / q : Nat) + ((p % q : Nat) : ℚ) / q := by
  have hq' : (q : ℚ) ≠ 0 := by exact_mod_cast hq.ne'
  rw [eq_comm, add_div' _ _ _ hq', div_left_inj' hq']
  exact_mod_cast Nat.div_add_mod' p q

theorem rest_lt_one {p q : Nat} (hq : 0 < q) : ((p % q : Nat) : ℚ) / q < 1 := by
  rw [div_lt_iff₀ (by exact_mod_cast hq), one_mul]
  exact_mod_cast Nat.mod_lt p hq

/-- The fraction of a number is a number. -/
theorem rest_eq_magnitude (m : Nat) (e : Int) : ∃ n ≤ m,
    (((ratio m e).1 % (ratio m e).2 : Nat) : ℚ) / (ratio m e).2 = magnitude n e := by
  obtain ⟨k, rfl | rfl⟩ := e.eq_nat_or_neg
  · refine ⟨0, Nat.zero_le m, ?_⟩
    simp [ratio, powerOfTwo, magnitude, Nat.mod_one]
  · refine ⟨m % 2 ^ k, Nat.mod_le _ _, ?_⟩
    simp [ratio, powerOfTwo, magnitude, div_eq_mul_inv]

/-- **A number is its whole part and its fraction**, and the fraction is held exactly. -/
theorem split_spec (negative : Bool) {m : Nat} {e : Int} (hm : m < 2 ^ 53) (he : leastExponent ≤ e)
    (hlarge : e ≤ greatestExponent) :
    ∃ w n f, split negative m e = (w, .finite negative n f) ∧ magnitude m e = w + magnitude n f ∧ magnitude n f < 1 := by
  have hq := ratio_pos m e
  obtain ⟨r, hr, hrest⟩ := rest_eq_magnitude m e
  obtain ⟨n, f, hfraction, hsame⟩ := ofRatio_exact negative hq (hr.trans_lt hm) he hlarge hrest
  refine ⟨(ratio m e).1 / (ratio m e).2, n, f, ?_, ?_, ?_⟩
  · rw [← hfraction]
    rfl
  · rw [← ratio_cast, hsame, ← hrest]
    exact div_add_rest hq
  · rw [hsame, ← hrest]
    exact rest_lt_one hq

/-- **A large number has few digits after the point.** -/
theorem split_grid {m w : Nat} {e : Int} {x : ℚ} (hm : m < 2 ^ 53) (h : magnitude m e = w + x) (hx : 0 ≤ x) {k : Nat}
    (hk : k ≤ 52) (hw : 2 ^ k ≤ w) : ∃ j : Nat, x * 2 ^ (52 - k) = j := by
  -- With at most 53 digits, the last digit of so large a number is worth `2 ^ (k - 52)` or more.
  have hexponent : (k : Int) < e + 53 := by
    have hlow : (2 : ℚ) ^ (k : Int) ≤ magnitude m e := by
      rw [h, zpow_natCast]
      have : (2 : ℚ) ^ k ≤ w := by exact_mod_cast hw
      linarith
    exact (zpow_lt_zpow_iff_right₀ (by norm_num)).mp (hlow.trans_lt (magnitude_lt hm e))
  obtain ⟨d, hd⟩ : ∃ d : Nat, (d : Int) = e + (52 - k : Nat) := ⟨(e + (52 - k : Nat)).toNat, by omega⟩
  have hwhole : magnitude m e * 2 ^ (52 - k) = (m * 2 ^ d : Nat) := by
    rw [magnitude, mul_assoc, ← zpow_natCast (2 : ℚ) (52 - k), ← zpow_add₀ (by norm_num), ← hd, zpow_natCast]
    push_cast
    ring
  have hle : w * 2 ^ (52 - k) ≤ m * 2 ^ d := by
    have : (w : ℚ) * 2 ^ (52 - k) ≤ (m * 2 ^ d : Nat) := by
      rw [← hwhole, h]
      exact mul_le_mul_of_nonneg_right (by linarith) (by positivity)
    exact_mod_cast this
  refine ⟨m * 2 ^ d - w * 2 ^ (52 - k), ?_⟩
  rw [Nat.cast_sub hle, ← hwhole, h]
  push_cast
  ring

/-- The number of microseconds in a second. -/
theorem million_eq : ∃ m e, ofRatio false 1000000 1 = .finite false m e ∧ magnitude m e = 1000000 := by
  have hvalue : ((1000000 : Nat) : ℚ) / (1 : Nat) = magnitude 1000000 0 := by simp
  obtain ⟨m, e, heq, hsame⟩ := ofRatio_exact false Nat.one_pos (by norm_num) (by decide) (by decide) hvalue
  exact ⟨m, e, heq, by simp [hsame]⟩

theorem times_million (negative : Bool) {n : Nat} {f : Int} (hone : magnitude n f < 1) :
    ∃ m e, (finite negative n f).times (ofRatio false 1000000 1) = .finite negative m e ∧ ∀ j : Nat,
      ((j : ℚ) ≤ magnitude n f * 1000000 → (j : ℚ) ≤ magnitude m e) ∧
        (j < 2 ^ 53 → magnitude n f * 1000000 ≤ j → magnitude m e ≤ j) := by
  obtain ⟨M, E, hmillion, hvalue⟩ := million_eq
  have hexact : ((ratio (n * M) (f + E)).1 : ℚ) / (ratio (n * M) (f + E)).2 = magnitude n f * 1000000 := by
    rw [ratio_cast, magnitude_mul, hvalue]
  have hbound : magnitude n f * 1000000 ≤ (1000000 : Nat) := by
    push_cast
    linarith
  obtain ⟨m, e, hproduct, hsides⟩ :=
    ofRatio_integers negative (ratio_pos (n * M) (f + E)) (by norm_num) (hexact.trans_le hbound)
  rw [hmillion, times]
  simp only [Bool.bne_false]
  exact ⟨m, e, hproduct, hexact ▸ hsides⟩

/-- A number rounded to an integer. -/
theorem roundTo_zero (negative : Bool) {m : Nat} {e : Int} {bound : Nat} (hbound : bound < 2 ^ 53)
    (h : magnitude m e ≤ bound) :
    ∃ k m' e', (finite negative m e).roundTo 0 = .finite negative m' e' ∧ magnitude m' e' = (k : Nat) ∧ ∀ j : Nat,
      ((j : ℚ) ≤ magnitude m e → j ≤ k) ∧ (magnitude m e ≤ j → k ≤ j) := by
  have hq := ratio_pos m e
  have hq' : (0 : ℚ) < (ratio m e).2 := by exact_mod_cast hq
  obtain ⟨k, hk⟩ : ∃ k, k = divideToEven (ratio m e).1 (ratio m e).2 := ⟨_, rfl⟩
  have hsides : ∀ j : Nat, ((j : ℚ) ≤ magnitude m e → j ≤ k) ∧ (magnitude m e ≤ j → k ≤ j) := by
    intro j
    rw [← ratio_cast, le_div_iff₀ hq', div_le_iff₀ hq', hk]
    exact ⟨fun h => le_divideToEven hq (by exact_mod_cast h), fun h => divideToEven_le hq (by exact_mod_cast h)⟩
  have hinteger : (k : ℚ) / (1 : Nat) = magnitude k 0 := by simp
  obtain ⟨m', e', hrounded, hsame⟩ := ofRatio_exact negative Nat.one_pos (((hsides bound).2 h).trans_lt hbound)
    (by decide) (by decide) hinteger
  refine ⟨k, m', e', ?_, hsame.trans (magnitude_integer k), hsides⟩
  rw [roundTo, if_neg (by decide), ← hrounded, hk]
  simp only [powerOfTen, Nat.pow_zero, Nat.pow_eq, Nat.mul_one]

theorem truncate_integer (negative : Bool) {m k : Nat} {e : Int} (h : magnitude m e = k) :
    (finite negative m e).truncate = .ok (Decimal.signed negative k) := by
  have hq := ratio_pos m e
  rw [← ratio_cast, div_eq_iff (by exact_mod_cast hq.ne')] at h
  have hratio : (ratio m e).1 = k * (ratio m e).2 := by exact_mod_cast h
  simp only [truncate, hratio, Nat.mul_div_cancel _ hq]

/-- **The microseconds of a fraction of a second**: an integer bounds them if it bounds the exact number. -/
theorem microsecond_spec (negative : Bool) {n : Nat} {f : Int} (hone : magnitude n f < 1) :
    ∃ k : Nat, (((finite negative n f).times (ofRatio false 1000000 1)).roundTo 0).truncate =
        .ok (Decimal.signed negative k) ∧
      (∀ j : Nat, (j : ℚ) ≤ magnitude n f * 1000000 → j ≤ k) ∧
        ∀ j : Nat, j < 2 ^ 53 → magnitude n f * 1000000 ≤ j → k ≤ j := by
  obtain ⟨m, e, hproduct, hsides⟩ := times_million negative hone
  have hbound : magnitude m e ≤ (1000000 : Nat) := by
    refine (hsides 1000000).2 (by norm_num) ?_
    push_cast
    linarith
  obtain ⟨k, m', e', hrounded, hinteger, hrounding⟩ := roundTo_zero negative (by norm_num) hbound
  refine ⟨k, ?_, fun j h => ?_, fun j hj h => ?_⟩
  · rw [hproduct, hrounded, truncate_integer negative hinteger]
  · exact (hrounding j).1 ((hsides j).1 h)
  · exact (hrounding j).2 ((hsides j).2 hj h)

end Double

namespace Moment

/-- The first second of the year 1, counted from the start of 1970. -/
def firstSecond : Int := -62135596800

/-- The first second after the year 9999. -/
def endSecond : Int := 253402300800

/-- **The seconds that are moments.** -/
theorem ofSeconds_ok_iff (s : Int) (microsecond : Nat) :
    (∃ m, ofSeconds s microsecond = .ok m) ↔ firstSecond ≤ s ∧ s < endSecond := by
  have hyears : Date.daysBeforeYear 10000 = 3652059 := by decide
  have hdays : Int.fdiv s 86400 = s / 86400 := Int.fdiv_eq_ediv_of_nonneg s (by decide)
  unfold ofSeconds firstSecond endSecond epochDay
  simp only [hyears, hdays]
  split
  · constructor
    · rintro ⟨m, hm⟩
      cases hm
    · omega
  split
  · constructor
    · rintro ⟨m, hm⟩
      cases hm
    · omega
  · exact ⟨fun _ => by omega, fun _ => ⟨_, rfl⟩⟩

theorem ofSeconds_microsecond {s : Int} {microsecond : Nat} {m : Moment} (h : ofSeconds s microsecond = .ok m) :
    m.time.microsecond = microsecond := by
  unfold ofSeconds at h
  split at h
  · cases h
  simp only at h
  split at h
  · cases h
  · rw [← Except.ok.inj h]

/-- The moment of whole seconds and microseconds that fill up to a second at most. -/
def ofRounded (negative : Bool) (whole microsecond : Nat) : Except Obstacle Moment :=
  let s := Decimal.signed negative whole
  let micro := Decimal.signed negative microsecond
  let (s, micro) :=
    if micro ≥ 1000000 then (s + 1, micro - 1000000)
    else if micro < 0 then (s - 1, micro + 1000000)
    else (s, micro)
  if s < -9223372036854775808 ∨ 9223372036854775807 < s then .error .overflow else ofSeconds s micro.toNat

/-- The seconds with the one that the microseconds fill up to. -/
def carried (negative : Bool) (whole microsecond : Nat) : Int :=
  if negative then if microsecond = 0 then -(whole : Int) else -(whole : Int) - 1
  else if microsecond = 1000000 then whole + 1
  else whole

theorem ofRounded_spec (negative : Bool) (whole : Nat) {microsecond : Nat} (h : microsecond ≤ 1000000) :
    ((∃ m, ofRounded negative whole microsecond = .ok m) ↔
      firstSecond ≤ carried negative whole microsecond ∧ carried negative whole microsecond < endSecond) ∧
      ∀ m, ofRounded negative whole microsecond = .ok m → m.time.microsecond < 1000000 := by
  obtain ⟨n, hn, heq⟩ : ∃ n < 1000000, ofRounded negative whole microsecond =
      if carried negative whole microsecond < -9223372036854775808 ∨
        9223372036854775807 < carried negative whole microsecond then .error .overflow
      else ofSeconds (carried negative whole microsecond) n := by
    simp only [ofRounded, carried, Decimal.signed]
    cases negative with
    | true =>
        -- Microseconds below zero are counted from one second earlier.
        by_cases hzero : microsecond = 0
        · exact ⟨0, by decide, by simp [hzero]⟩
        · refine ⟨1000000 - microsecond, by omega, ?_⟩
          have hcarry : ¬(1000000 ≤ -(microsecond : Int)) := by omega
          have hnegative : 0 < microsecond := by omega
          have hrest : (-(microsecond : Int) + 1000000).toNat = 1000000 - microsecond := by omega
          simp [hzero, hcarry, hnegative, hrest]
    | false =>
        by_cases hfull : microsecond = 1000000
        · exact ⟨0, by decide, by simp [hfull]⟩
        · refine ⟨microsecond, by omega, ?_⟩
          have hcarry : ¬(1000000 ≤ (microsecond : Int)) := by omega
          have hnegative : ¬((microsecond : Int) < 0) := by omega
          simp [hfull, hcarry, hnegative]
  rw [heq]
  split
  · next hfar =>
    refine ⟨⟨fun h => (nomatch h.choose_spec), fun hnear => ?_⟩, fun m hm => nomatch hm⟩
    have hfirst : firstSecond = -62135596800 := rfl
    have hend : endSecond = 253402300800 := rfl
    omega
  · exact ⟨ofSeconds_ok_iff _ n, fun m hm => (ofSeconds_microsecond hm).symm ▸ hn⟩

end Moment

namespace Double

/-- A number that lies in the years from 1 to 9999 when it counts the seconds since the start of 1970. -/
def IsMoment : Double → Prop
  | finite negative m e =>
    let x := if negative then -magnitude m e else magnitude m e
    Moment.firstSecond ≤ x ∧ x < Moment.endSecond
  | _ => False

end Double

namespace Moment

section

variable {m w k : Nat} {e : Int} {x : ℚ}

/-- At the end of the last year the microseconds do not fill up to a second. -/
theorem not_full_at_end (hm : m < 2 ^ 53) (hsum : magnitude m e = w + x) (hx : 0 ≤ x) (hone : x < 1)
    (habove : ∀ j : Nat, j < 2 ^ 53 → x * 1000000 ≤ j → k ≤ j) (hw : w = 253402300799) : k ≠ 1000000 := by
  -- Fractions are multiples of `2 ^ -15` there. The largest is thirty microseconds below one.
  obtain ⟨j, hj⟩ := split_grid hm hsum hx (show 37 ≤ 52 by decide) (by rw [hw]; norm_num)
  norm_num at hj
  have hlt : (j : ℚ) < 32768 := by linarith
  have hlt' : j + 1 ≤ 32768 := by exact_mod_cast hlt
  have hle : (j : ℚ) + 1 ≤ 32768 := by exact_mod_cast hlt'
  have := habove 999999 (by norm_num) (by push_cast; linarith)
  omega

/-- At the start of the first year a fraction shows in the microseconds. -/
theorem rest_at_start (hm : m < 2 ^ 53) (hsum : magnitude m e = w + x) (hx : 0 ≤ x)
    (hbelow : ∀ j : Nat, (j : ℚ) ≤ x * 1000000 → j ≤ k) (habove : ∀ j : Nat, j < 2 ^ 53 → x * 1000000 ≤ j → k ≤ j)
    (hw : w = 62135596800) : k = 0 ↔ x = 0 := by
  -- Fractions are multiples of `2 ^ -17` there. The smallest is more than seven microseconds.
  obtain ⟨j, hj⟩ := split_grid hm hsum hx (show 35 ≤ 52 by decide) (by rw [hw]; norm_num)
  norm_num at hj
  constructor
  · intro hk
    rcases Nat.eq_zero_or_pos j with rfl | hpos
    · simpa using hj
    · have hone : (1 : ℚ) ≤ j := by exact_mod_cast hpos
      have := hbelow 1 (by push_cast; linarith)
      omega
  · intro hzero
    have := habove 0 (by norm_num) (by rw [hzero]; norm_num)
    omega

theorem carried_positive_iff (hm : m < 2 ^ 53) (hsum : magnitude m e = w + x) (hx : 0 ≤ x) (hone : x < 1)
    (habove : ∀ j : Nat, j < 2 ^ 53 → x * 1000000 ≤ j → k ≤ j) :
    (firstSecond ≤ carried false w k ∧ carried false w k < endSecond) ↔ (finite false m e).IsMoment := by
  have hfull := not_full_at_end hm hsum hx hone habove
  have hwhole : (w : ℚ) + x < 253402300800 ↔ w < 253402300800 := by
    constructor
    · intro h
      have : (w : ℚ) < 253402300800 := by linarith
      exact_mod_cast this
    · intro h
      have : (w : ℚ) + 1 ≤ 253402300800 := by exact_mod_cast h
      linarith
  have hlow : (-62135596800 : ℚ) ≤ w + x := by
    have : (0 : ℚ) ≤ w := Nat.cast_nonneg w
    linarith
  have hvalue : (finite false m e).IsMoment ↔ w < 253402300800 := by
    rw [IsMoment, hsum, firstSecond, endSecond, ← hwhole]
    push_cast
    exact and_iff_right hlow
  rw [hvalue, carried, firstSecond, endSecond, if_neg (by decide)]
  split <;> omega

theorem carried_negative_iff (hm : m < 2 ^ 53) (hsum : magnitude m e = w + x) (hx : 0 ≤ x) (hone : x < 1)
    (hbelow : ∀ j : Nat, (j : ℚ) ≤ x * 1000000 → j ≤ k) (habove : ∀ j : Nat, j < 2 ^ 53 → x * 1000000 ≤ j → k ≤ j) :
    (firstSecond ≤ carried true w k ∧ carried true w k < endSecond) ↔ (finite true m e).IsMoment := by
  have hrest := rest_at_start hm hsum hx hbelow habove
  -- At the first second of all, only a number without a fraction is not before it.
  have hwhole : (w : ℚ) + x ≤ 62135596800 ↔ w < 62135596800 ∨ w = 62135596800 ∧ k = 0 := by
    constructor
    · intro h
      have hle : (w : ℚ) ≤ 62135596800 := by linarith
      have hle' : w ≤ 62135596800 := by exact_mod_cast hle
      rcases hle'.lt_or_eq with hlt | heq
      · exact .inl hlt
      · refine .inr ⟨heq, (hrest heq).mpr ?_⟩
        have : (w : ℚ) = 62135596800 := by exact_mod_cast heq
        linarith
    · rintro (hlt | ⟨heq, hk⟩)
      · have : (w : ℚ) + 1 ≤ 62135596800 := by exact_mod_cast hlt
        linarith
      · rw [(hrest heq).mp hk, add_zero, heq]
        norm_num
  have hhigh : -((w : ℚ) + x) < 253402300800 := by
    have : (0 : ℚ) ≤ w := Nat.cast_nonneg w
    linarith
  have hvalue : (finite true m e).IsMoment ↔ w < 62135596800 ∨ w = 62135596800 ∧ k = 0 := by
    rw [IsMoment, hsum, firstSecond, endSecond, ← hwhole]
    push_cast
    exact (and_iff_left hhigh).trans neg_le_neg_iff
  rw [hvalue, carried, firstSecond, endSecond, if_pos rfl]
  split <;> omega

end

/-- A timestamp is its whole part and its rounded microseconds. -/
theorem ofTimestamp_rounded (negative : Bool) {m : Nat} {e : Int} (hm : m < 2 ^ 53) (he : leastExponent ≤ e)
    (hlarge : e ≤ greatestExponent) :
    ∃ (w k : Nat) (x : ℚ), ofTimestamp (.finite negative m e) = ofRounded negative w k ∧ k ≤ 1000000 ∧
      magnitude m e = w + x ∧ 0 ≤ x ∧ x < 1 ∧ (∀ j : Nat, (j : ℚ) ≤ x * 1000000 → j ≤ k) ∧
        ∀ j : Nat, j < 2 ^ 53 → x * 1000000 ≤ j → k ≤ j := by
  obtain ⟨w, n, f, hsplit, hsum, hone⟩ := split_spec negative hm he hlarge
  obtain ⟨k, hmicro, hbelow, habove⟩ := microsecond_spec negative hone
  refine ⟨w, k, magnitude n f, ?_, ?_, hsum, magnitude_nonneg n f, hone, hbelow, habove⟩
  · simp only [ofTimestamp, hsplit, hmicro]
    rfl
  · refine habove 1000000 (by norm_num) ?_
    push_cast
    linarith

/-- **A timestamp is a moment if and only if it lies in the years that the calendar has.** -/
theorem ofTimestamp_ok_iff {x : Double} (hx : x.IsProper) : (∃ m, ofTimestamp x = .ok m) ↔ x.IsMoment := by
  cases x with
  | nan => exact ⟨fun h => (nomatch h.choose_spec), False.elim⟩
  | infinite negative => exact ⟨fun h => (nomatch h.choose_spec), False.elim⟩
  | finite negative m e =>
      obtain ⟨hm, he, hlarge⟩ := hx
      obtain ⟨w, k, x, hrounded, hk, hsum, hx, hone, hbelow, habove⟩ := ofTimestamp_rounded negative hm he hlarge
      rw [hrounded, (ofRounded_spec negative w hk).1]
      cases negative with
      | false => exact carried_positive_iff hm hsum hx hone habove
      | true => exact carried_negative_iff hm hsum hx hone hbelow habove

theorem ofTimestamp_microsecond {x : Double} (hx : x.IsProper) {m : Moment} (h : ofTimestamp x = .ok m) :
    m.time.microsecond < 1000000 := by
  cases x with
  | nan => cases h
  | infinite negative => cases h
  | finite negative n e =>
      obtain ⟨hn, he, hlarge⟩ := hx
      obtain ⟨w, k, x, hrounded, hk, -⟩ := ofTimestamp_rounded negative hn he hlarge
      exact (ofRounded_spec negative w hk).2 m (hrounded ▸ h)

end Moment

end Phrasebook
