import Phrasebook.Calendar.Format
import Phrasebook.Proofs.Number.Double
import Phrasebook.Proofs.Outcome

/-!
# What stops a field of a date pattern

A date has no fields of the time of day, a time has none of the date, and the digits of a fraction of a second are computed
with a power of ten that has to be a number. Nothing else stops a field (`field_fails`), except what a pattern
is blamed for anyway.
-/

namespace Phrasebook

open Double

/-! ## Fractions of a second -/

namespace Double

/-- The powers of ten up to the largest number. -/
theorem power_le_greatest {count : Nat} (h : count ≤ 308) :
    ((powerOfTen count : Nat) : ℚ) / (1 : Nat) ≤ magnitude (2 ^ 53 - 1) greatestExponent := by
  have hpower : powerOfTen count ≤ (2 ^ 53 - 1) * 2 ^ 971 :=
    calc powerOfTen count ≤ 10 ^ (77 * 4) := Nat.pow_le_pow_right (by decide) h
      _ = (10 ^ 77) ^ 4 := pow_mul 10 77 4
      _ ≤ (2 ^ 53 - 1) * (2 ^ 203 * (2 ^ 256) ^ 3) := by norm_num
      _ = (2 ^ 53 - 1) * 2 ^ 971 := by rw [← pow_mul, ← pow_add]
  have hexponent : greatestExponent = ((971 : Nat) : Int) := rfl
  rw [Nat.cast_one, div_one, magnitude, hexponent, zpow_natCast]
  exact_mod_cast hpower

/-- **A power of ten with an exponent of up to 308 is a number.** -/
theorem ofInt?_powerOfTen {count : Nat} (h : count ≤ 308) :
    ∃ m e, ofInt? (powerOfTen count : Nat) = .ok (.finite false m e) ∧ m < 2 ^ 53 ∧ leastExponent ≤ e ∧ e ≤ greatestExponent := by
  obtain ⟨m, e, heq, -⟩ := ofRatio_le false Nat.one_pos (by norm_num) (by decide) le_rfl (power_le_greatest h)
  refine ⟨m, e, ?_, ?_⟩
  · have hsign : decide (((powerOfTen count : Nat) : Int) < 0) = false := decide_eq_false (by omega)
    rw [ofInt?, hsign, Int.natAbs_natCast, heq]
  · have := ofRatio_isProper false (powerOfTen count) 1
    rwa [heq] at this

/-- A number of at most one stays so when it is rounded to some places. -/
theorem roundTo_le_one (places : Nat) {m : Nat} {e : Int} (h : magnitude m e ≤ 1) :
    ∃ m' e', (finite false m e).roundTo places = .finite false m' e' ∧ magnitude m' e' ≤ 1 := by
  rw [roundTo]
  split
  · exact ⟨m, e, rfl, h⟩
  · have hq := ratio_pos m e
    have hpower : 0 < powerOfTen places := Nat.pow_pos (by decide)
    have hle : (ratio m e).1 ≤ (ratio m e).2 := by
      rw [← ratio_cast, div_le_iff₀ (by exact_mod_cast hq), one_mul] at h
      exact_mod_cast h
    have hdigits : divideToEven ((ratio m e).1 * powerOfTen places) (ratio m e).2 ≤ powerOfTen places :=
      divideToEven_le hq (by rw [Nat.mul_comm]; exact Nat.mul_le_mul_left _ hle)
    have hone : ((divideToEven ((ratio m e).1 * powerOfTen places) (ratio m e).2 : Nat) : ℚ) / powerOfTen places
        ≤ magnitude 1 0 := by
      rw [magnitude_integer, div_le_iff₀ (by exact_mod_cast hpower), Nat.cast_one, one_mul]
      exact_mod_cast hdigits
    obtain ⟨m', e', heq, hle', -⟩ := ofRatio_le false hpower (by decide) (by decide) (by decide) hone
    exact ⟨m', e', heq, by simpa using hle'⟩

/-- A number of at most one times a number. -/
theorem times_le {m n : Nat} {e f : Int} (h : magnitude m e ≤ 1) (hn : n < 2 ^ 53) (hf : leastExponent ≤ f)
    (hlarge : f ≤ greatestExponent) : ∃ m' e', (finite false m e).times (.finite false n f) = .finite false m' e' := by
  have hle : ((ratio (m * n) (e + f)).1 : ℚ) / (ratio (m * n) (e + f)).2 ≤ magnitude n f := by
    rw [ratio_cast, magnitude_mul]
    exact mul_le_of_le_one_left (magnitude_nonneg n f) h
  obtain ⟨m', e', heq, -⟩ := ofRatio_le false (ratio_pos _ _) hn hf hlarge hle
  exact ⟨m', e', heq⟩

theorem ofInt?_error {n : Int} {o : Obstacle} (h : ofInt? n = .error o) : o = .overflow := by
  rw [ofInt?] at h
  split at h
  · exact (Except.error.inj h).symm
  · cases h

theorem truncate_error {x : Double} {o : Obstacle} (h : x.truncate = .error o) : o = .value ∨ o = .overflow := by
  cases x with
  | finite negative m e => cases h
  | infinite negative => exact .inr (Except.error.inj h).symm
  | nan => exact .inl (Except.error.inj h).symm

end Double

namespace Culture

/-- **The digits of a fraction of a second** are written if no more than 308 are asked for. -/
theorem fractionOfSecond_fails (count : Nat) {microsecond : Nat} (hmicro : microsecond < 1000000) :
    FailsWith (fun o => 308 < count ∧ (o = .value ∨ o = .overflow)) (fractionOfSecond count microsecond) := by
  by_cases hcount : count ≤ 308
  · obtain ⟨n, f, hpower, hn, hf, hlarge⟩ := ofInt?_powerOfTen hcount
    have hone : (microsecond : ℚ) / (1000000 : Nat) ≤ magnitude 1 0 := by
      rw [magnitude_integer, div_le_iff₀ (by norm_num), Nat.cast_one, one_mul]
      exact_mod_cast hmicro.le
    obtain ⟨m, e, hfraction, hle, -⟩ := ofRatio_le false (by norm_num) (by norm_num) (by decide) (by decide) hone
    obtain ⟨m', e', hrounded, hle'⟩ := roundTo_le_one count (hle.trans (by simp))
    obtain ⟨m'', e'', hproduct⟩ := times_le hle' hn hf hlarge
    refine FailsWith.after hpower ?_
    rw [hfraction, hrounded, hproduct]
    exact FailsWith.bind (.ok _) fun _ _ => .ok _
  · refine FailsWith.bind (fun o h => ?_) fun power _ => FailsWith.bind (fun o h => ?_) fun _ _ => .ok _
    · exact ⟨not_le.mp hcount, .inr (ofInt?_error h)⟩
    · exact ⟨not_le.mp hcount, truncate_error h⟩

end Culture

/-! ## Fields -/

/-- The letters of the fields of a date. -/
def dateLetters : List Char := ['G', 'y', 'u', 'Y', 'Q', 'q', 'M', 'L', 'w', 'W', 'd', 'D', 'F', 'E', 'e', 'c']

/-- A letter of a field of a date. -/
def showsDate (letter : CodePoint) : Bool := dateLetters.any fun c => CodePoint.ofChar c = letter

/-- Why a field is not written, of so many letters. -/
inductive FieldStop (t : Temporal) (letter : CodePoint) (count : Nat) : Obstacle → Prop
  /-- The pattern is blamed for it. -/
  | blamed {o : Obstacle} (h : IsBlamed o) : FieldStop t letter count o
  /-- A time has no field of a date. -/
  | dateless {clock : TimeOfDay} {on : Option Date} (ht : t = .time clock on) (hletter : showsDate letter = true) :
      FieldStop t letter count .attribute
  /-- A time has no day that could be counted. -/
  | uncounted {clock : TimeOfDay} {on : Option Date} (ht : t = .time clock on) (hletter : letter = 'w' ∨ letter = 'D') :
      FieldStop t letter count .type
  /-- A date has no field of a time of day. -/
  | clockless {d : Date} (ht : t = .date d) (hletter : showsDate letter = false) : FieldStop t letter count .attribute
  /-- There is no power of ten for so many digits of a second. -/
  | fraction (hletter : letter = 'S') (hcount : 308 < count) : FieldStop t letter count .overflow

namespace Temporal

/-- A date or a time whose microseconds are less than a second. -/
def IsProper : Temporal → Prop
  | date _ => True
  | time clock _ => clock.microsecond < 1000000
  | moment m => m.time.microsecond < 1000000

theorem day_fails {t : Temporal} {letter : CodePoint} (hletter : showsDate letter = true) (count : Nat) :
    FailsWith (FieldStop t letter count) t.day := by
  cases t with
  | date d => exact .ok d
  | time clock on => exact .error (.dateless rfl hletter)
  | moment m => exact .ok m.date

theorem countedDay_fails {t : Temporal} {letter : CodePoint} (hletter : letter = 'w' ∨ letter = 'D') (count : Nat) :
    FailsWith (FieldStop t letter count) t.countedDay := by
  cases t with
  | date d => exact .ok d
  | time clock on => exact .error (.uncounted rfl hletter)
  | moment m => exact .ok m.date

theorem clock_fails {t : Temporal} {letter : CodePoint} (hletter : showsDate letter = false) (count : Nat) :
    FailsWith (FieldStop t letter count) t.clock := by
  cases t with
  | date d => exact .error (.clockless rfl hletter)
  | time clock on => exact .ok clock
  | moment m => exact .ok m.time

theorem clock_microsecond {t : Temporal} (ht : t.IsProper) {clock : TimeOfDay} (h : t.clock = .ok clock) :
    clock.microsecond < 1000000 := by
  cases t with
  | date d => cases h
  | time clock' on =>
      obtain rfl := Except.ok.inj h
      exact ht
  | moment m =>
      obtain rfl := Except.ok.inj h
      exact ht

end Temporal

namespace Culture

variable {c : Culture} {letter : CodePoint} {count : Nat} {t : Temporal}

theorem weekOfYear_fails (c : Culture) (d : Date) : FailsWith IsBlamed (c.weekOfYear d) := by
  unfold weekOfYear
  dsimp only
  split
  · split
    · exact .error (.inl rfl)
    · exact .ok _
  split
  · split
    · exact .error (.inl rfl)
    · exact .ok _
  · exact .ok _

theorem weekYear_fails (c : Culture) (d : Date) : FailsWith IsBlamed (c.weekYear d) := by
  unfold weekYear
  split
  · exact (c.weekOfYear_fails d).bind fun _ _ => .ok _
  split
  · exact (c.weekOfYear_fails d).bind fun _ _ => .ok _
  · exact .ok _

theorem dayPeriodName_fails (w : Widths) (count : Nat) (period : Text) :
    FailsWith IsBlamed (dayPeriodName w count period) := by
  unfold dayPeriodName
  split
  · exact .ok _
  · exact .error (.inl rfl)

/-- Of a field that is found by its letter, one letter is looked at after the other. -/
theorem forall_mem_ite {α : Type} {p : Prop} [Decidable p] {P : α → Prop} {a : α} {rest : Option α} (ha : p → P a)
    (hrest : ∀ b ∈ rest, P b) : ∀ b ∈ (if p then some a else rest), P b := by
  intro b hb
  split at hb
  · next h =>
    obtain rfl := Option.some.inj hb
    exact ha h
  · exact hrest b hb

/-- **A field of a date** is one of a letter that shows a date, and stops for a time alone. -/
theorem dateField?_fails :
    ∀ r ∈ c.dateField? letter count t, showsDate letter = true ∧ FailsWith (FieldStop t letter count) r := by
  have hday : ∀ {f : Date → Except Obstacle Text} (hletter : showsDate letter = true),
      (∀ d, FailsWith IsBlamed (f d)) → showsDate letter = true ∧ FailsWith (FieldStop t letter count) (t.day >>= f) :=
    fun hletter hf => ⟨hletter, (Temporal.day_fails hletter count).bind fun d _ => (hf d).mono fun _ => .blamed⟩
  -- The week and the day of the year are counted, and stop for another reason.
  have hcounted : ∀ {f : Date → Except Obstacle Text} (hletter : letter = 'w' ∨ letter = 'D'),
      (∀ d, FailsWith IsBlamed (f d)) →
        showsDate letter = true ∧ FailsWith (FieldStop t letter count) (t.countedDay >>= f) := by
    refine fun hletter hf => ⟨?_, (Temporal.countedDay_fails hletter count).bind fun d _ => (hf d).mono fun _ => .blamed⟩
    rcases hletter with rfl | rfl <;> decide
  unfold dateField?
  dsimp only
  -- One case for each letter, in the order of the definition.
  refine forall_mem_ite (fun hletter => hday (by subst hletter; decide) fun _ => .ok _) ?_
  refine forall_mem_ite (fun hletter => hday (by rcases hletter with rfl | rfl <;> decide) fun _ => .ok _) ?_
  refine forall_mem_ite (fun hletter => hday (by subst hletter; decide) fun d =>
    (c.weekYear_fails d).bind fun _ _ => .ok _) ?_
  refine forall_mem_ite (fun hletter => hday (by subst hletter; decide) fun _ => .ok _) ?_
  refine forall_mem_ite (fun hletter => hday (by subst hletter; decide) fun _ => .ok _) ?_
  refine forall_mem_ite (fun hletter => hday (by subst hletter; decide) fun _ => .ok _) ?_
  refine forall_mem_ite (fun hletter => hday (by subst hletter; decide) fun _ => .ok _) ?_
  refine forall_mem_ite (fun hletter => hcounted (.inl hletter) fun d => (c.weekOfYear_fails d).bind fun _ _ => .ok _) ?_
  refine forall_mem_ite (fun hletter => hday (by subst hletter; decide) fun _ => .ok _) ?_
  refine forall_mem_ite (fun hletter => hday (by subst hletter; decide) fun _ => .ok _) ?_
  refine forall_mem_ite (fun hletter => hcounted (.inr hletter) fun _ => .ok _) ?_
  refine forall_mem_ite (fun hletter => hday (by subst hletter; decide) fun _ => .ok _) ?_
  refine forall_mem_ite (fun hletter => hday (by rcases hletter with rfl | rfl | rfl <;> decide) fun _ => .ok _) ?_
  intro r hr
  cases hr

/-- **A field of a time of day** stops for a date alone, and for too many digits of a second. -/
theorem clockField?_fails (ht : t.IsProper) :
    ∀ r ∈ c.clockField? letter count t, FailsWith (FieldStop t letter count) r := by
  have hclock : ∀ {f : TimeOfDay → Except Obstacle Text} (hletter : showsDate letter = false),
      (∀ clock, FailsWith IsBlamed (f clock)) → FailsWith (FieldStop t letter count) (t.clock >>= f) :=
    fun hletter hf => (Temporal.clock_fails hletter count).bind fun clock _ => (hf clock).mono fun _ => .blamed
  unfold clockField?
  dsimp only
  refine forall_mem_ite (fun hletter => hclock (by subst hletter; decide) fun _ => dayPeriodName_fails _ _ _) ?_
  refine forall_mem_ite (fun hletter => hclock (by subst hletter; decide) fun _ => dayPeriodName_fails _ _ _) ?_
  refine forall_mem_ite (fun hletter => hclock (by subst hletter; decide) fun _ => dayPeriodName_fails _ _ _) ?_
  refine forall_mem_ite (fun hletter => hclock (by subst hletter; decide) fun _ => .ok _) ?_
  refine forall_mem_ite (fun hletter => hclock (by subst hletter; decide) fun _ => .ok _) ?_
  refine forall_mem_ite (fun hletter => hclock (by subst hletter; decide) fun _ => .ok _) ?_
  refine forall_mem_ite (fun hletter => hclock (by subst hletter; decide) fun _ => .ok _) ?_
  refine forall_mem_ite (fun hletter => hclock (by subst hletter; decide) fun _ => .ok _) ?_
  refine forall_mem_ite (fun hletter => hclock (by subst hletter; decide) fun _ => .ok _) ?_
  refine forall_mem_ite (fun hletter => ?_) ?_
  · refine (Temporal.clock_fails (by subst hletter; decide) count).bind fun clock hclock => ?_
    refine (fractionOfSecond_fails count (Temporal.clock_microsecond ht hclock)).mono ?_
    rintro o ⟨hcount, rfl | rfl⟩
    · exact .blamed (.inl rfl)
    · exact .fraction hletter hcount
  refine forall_mem_ite (fun hletter => hclock (by subst hletter; decide) fun _ => .ok _) ?_
  intro r hr
  cases hr

theorem zoneField_fails (c : Culture) (letter : CodePoint) (count : Nat) (t : Temporal) :
    FailsWith (FieldStop t letter count) (c.zoneField letter count t) := by
  have hzone : ∀ {f : Zone → Text}, showsDate letter = false →
      FailsWith (FieldStop t letter count) (t.zone >>= fun z => pure (f z)) := fun hletter =>
    ((Temporal.clock_fails hletter count).bind fun _ _ => .ok _).bind fun _ _ => .ok _
  unfold zoneField
  dsimp only
  split
  · next hletter => exact hzone (by subst hletter; decide)
  split
  · split
    · exact .ok _
    · exact .ok _
  split
  · exact .ok _
  split
  · next hletter => exact hzone (by rw [hletter.1]; decide)
  split
  · next hletter => exact hzone (by rw [hletter.1]; decide)
  split
  · next hletter => exact hzone (by rcases hletter with rfl | rfl <;> decide)
  · exact .ok _

/-- **A field is written**, unless the value has no such field or the fraction of a second has too many digits. -/
theorem field_fails (c : Culture) (letter : CodePoint) (count : Nat) (ht : t.IsProper) :
    FailsWith (FieldStop t letter count) (c.field letter count t) := by
  rw [field]
  split
  · next r hr =>
    rcases Option.or_eq_some_iff.mp hr with hdate | ⟨-, hclock⟩
    · exact (dateField?_fails r hdate).2
    · exact clockField?_fails ht r hclock
  · split
    · exact .error (.blamed (.inr rfl))
    · exact c.zoneField_fails letter count t

/-! ## Patterns -/

/-- Why a value is not written by a pattern: one of its fields is not. -/
def PatternStop (t : Temporal) (pattern : Text) (o : Obstacle) : Prop :=
  IsBlamed o ∨ ∃ letter count, .field letter count ∈ DatePattern.pieces pattern ∧ FieldStop t letter count o

theorem byDatePattern_fails (c : Culture) (ht : t.IsProper) (p : DatePattern) :
    FailsWith (fun o => ∃ letter count, .field letter count ∈ p ∧ FieldStop t letter count o) (c.byDatePattern t p) := by
  induction p with
  | nil => exact .ok _
  | cons piece rest ih =>
      have hrest : FailsWith (fun o => ∃ letter count, .field letter count ∈ piece :: rest ∧ FieldStop t letter count o)
          (c.byDatePattern t rest) :=
        ih.mono fun o ⟨letter, count, hmem, hstop⟩ => ⟨letter, count, List.mem_cons_of_mem _ hmem, hstop⟩
      cases piece with
      | literal x => exact hrest.bind fun _ _ => .ok _
      | field letter count =>
          refine ((c.field_fails letter count ht).mono fun o ho => ?_).bind fun _ _ => hrest.bind fun _ _ => .ok _
          exact ⟨letter, count, List.mem_cons_self, ho⟩

/-- **A pattern is written if its fields are.** -/
theorem temporalAs_fails (c : Culture) (pattern : Text) (ht : t.IsProper) :
    FailsWith (PatternStop t pattern) (c.temporalAs pattern t) := by
  unfold temporalAs DatePattern.ofText
  dsimp only
  split
  · exact FailsWith.after rfl ((c.byDatePattern_fails ht _).mono fun _ => .inr)
  · exact FailsWith.bind (.error (.inl (.inl rfl))) fun _ h => nomatch h

end Culture

end Phrasebook
