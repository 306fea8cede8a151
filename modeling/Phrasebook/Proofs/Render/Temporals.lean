import Phrasebook.Proofs.Calendar.Cultures
import Phrasebook.Proofs.Calendar.Timestamp
import Phrasebook.Proofs.Render.Escapes
import Phrasebook.Render.Composite
import Phrasebook.Render.Style

/-!
# Dates and times by a style

A number is a date if it counts the seconds of a moment, and otherwise what stops it is told as it is
(`Value.toTemporal_settles_iff`). What is a date or a time is written by every style, except for two kinds of patterns that
no style is blamed for (`temporal_fails`); a composite format has no blame for a time that a date does not have
(`compositeTemporal_fails`).
-/

namespace Phrasebook

/-! ## Values -/

theorem TimeOfDay.microsecond_of_ofParts? {hour minute second microsecond : Nat} {offset : Option Int} {t : TimeOfDay}
    (h : ofParts? hour minute second microsecond offset = some t) : t.microsecond < 1000000 := by
  rw [ofParts?] at h
  split at h
  · next hparts =>
    rw [← Option.some.inj h]
    exact hparts.2.2.2
  · cases h

namespace Iso

theorem microsecond_of_time? {t : Text} {clock : TimeOfDay} (h : time? t = some clock) : clock.microsecond < 1000000 := by
  unfold time? at h
  dsimp only at h
  split at h
  · cases h
  obtain ⟨⟨c, unread⟩, -, h⟩ := Option.bind_eq_some_iff.mp h
  dsimp only at h
  split at h
  · split at h
    · cases h
    · exact TimeOfDay.microsecond_of_ofParts? h
  split at h
  · split at h
    · exact TimeOfDay.microsecond_of_ofParts? h
    · cases h
  obtain ⟨⟨z, unread⟩, -, h⟩ := Option.bind_eq_some_iff.mp h
  dsimp only at h
  split at h
  · cases h
  obtain ⟨offset, -, h⟩ := Option.bind_eq_some_iff.mp h
  exact TimeOfDay.microsecond_of_ofParts? h

theorem microsecond_of_timeOfDay? {t : Text} {clock : TimeOfDay} (h : timeOfDay? t = some clock) :
    clock.microsecond < 1000000 := by
  unfold timeOfDay? at h
  split at h
  · cases h
  · split at h <;> exact microsecond_of_time? h

theorem microsecond_of_moment? {t : Text} {m : Moment} (h : moment? t = some m) : m.time.microsecond < 1000000 := by
  unfold moment? at h
  dsimp only at h
  split at h
  · cases h
  obtain ⟨date, -, h⟩ := Option.bind_eq_some_iff.mp h
  split at h
  · rw [← Option.some.inj h]
    exact Nat.zero_lt_succ _
  · obtain ⟨clock, hclock, h⟩ := Option.bind_eq_some_iff.mp h
    rw [← Option.some.inj h]
    exact microsecond_of_time? hclock

end Iso

namespace Double

theorem ofInt?_isProper {n : Int} {x : Double} (h : ofInt? n = .ok x) : x.IsProper := by
  rw [ofInt?] at h
  split at h
  · cases h
  · rw [← Except.ok.inj h]
    exact ofRatio_isProper _ _ _

theorem ofDecimal?_isProper {d : Decimal} {x : Double} (h : ofDecimal? d = .ok x) : x.IsProper := by
  cases d with
  | infinite negative =>
      obtain rfl := Except.ok.inj h
      trivial
  | nan negative signaling payload =>
      rw [ofDecimal?] at h
      split at h
      · cases h
      · obtain rfl := Except.ok.inj h
        trivial
  | finite negative coefficient exponent =>
      obtain rfl := Except.ok.inj h
      unfold ofDecimal
      dsimp only
      split
      · exact ⟨by norm_num, le_rfl, by decide⟩
      split
      · trivial
      · exact ofRatio_isProper _ _ _

end Double

namespace Value

/-- The seconds that a number counts. -/
def seconds : Value → Except Obstacle Double
  | int n => Double.ofInt? n
  | double x => .ok x
  | decimal d => Double.ofDecimal? d
  | _ => .error .type

variable {v : Value}

theorem seconds_isProper (hv : v.IsProper) {x : Double} (h : v.seconds = .ok x) : x.IsProper := by
  cases v with
  | int n => exact Double.ofInt?_isProper h
  | double y =>
      obtain rfl := Except.ok.inj h
      exact hv
  | decimal d => exact Double.ofDecimal?_isProper h
  | null | bool | text | date | time | moment | list => cases h

theorem toTemporal_of_isNumber (hv : v.isNumber = true) :
    v.toTemporal = Failure.ofObstacle (do return .moment (← Moment.ofTimestamp (← v.seconds))) := by
  cases v with
  | int n => rfl
  | double x => rfl
  | decimal d => rfl
  | null | bool | text | date | time | moment | list => cases hv

/-- What is no number is a date or a time, or refused with an error about the value. -/
theorem toTemporal_settles (hv : v.IsProper) (hnumber : v.isNumber = false) : Settled v.toTemporal := by
  have hrefused : v.isWritable = true → ∀ e, Settled (.error (v.showing e) : Outcome Temporal) := fun hwritable e =>
    .error (Value.showing_escapes (fun hlong => by rw [hwritable] at hlong; cases hlong) e)
  cases v with
  | int n => cases hnumber
  | double x => cases hnumber
  | decimal d => cases hnumber
  | null => exact hrefused rfl _
  | bool b => exact hrefused rfl _
  | list items => exact hrefused hv _
  | date d => exact .ok _
  | time t => exact .ok _
  | moment m => exact .ok _
  | text t =>
      rw [toTemporal]
      split
      · exact .ok _
      · exact .ok _
      · exact hrefused rfl _

/-- What stops a value from being a date or a time is an error about the value or an obstacle. -/
theorem toTemporal_fails (hv : v.IsProper) :
    FailsWith (Escapes fun o => v.toTemporal = .error (.obstacle o)) v.toTemporal := by
  intro f hf
  cases hnumber : v.isNumber with
  | false =>
      cases toTemporal_settles hv hnumber f hf with
      | processing e => exact .processing e
      | obstacle hnone => exact hnone.elim
  | true =>
      obtain ⟨o, rfl⟩ : ∃ o, f = .obstacle o := by
        rw [toTemporal_of_isNumber hnumber] at hf
        exact failure_of_obstacle hf
      exact .obstacle hf

/-- **A number is a date if and only if it counts the seconds of a moment.** Whatever stops another number is reported
as it is. -/
theorem toTemporal_settles_iff (hv : v.IsProper) :
    Settled v.toTemporal ↔ (v.isNumber = true → ∃ x, v.seconds = .ok x ∧ x.IsMoment) := by
  cases hnumber : v.isNumber with
  | false => exact iff_of_true (toTemporal_settles hv hnumber) nofun
  | true =>
      rw [toTemporal_of_isNumber hnumber, settled_ofObstacle, forall_prop_of_true rfl]
      constructor
      · rintro ⟨t, ht⟩
        obtain ⟨x, hseconds, ht⟩ := exists_of_bind ht
        obtain ⟨m, hm, -⟩ := exists_of_bind ht
        exact ⟨x, hseconds, (Moment.ofTimestamp_ok_iff (seconds_isProper hv hseconds)).mp ⟨m, hm⟩⟩
      · rintro ⟨x, hseconds, hmoment⟩
        obtain ⟨m, hm⟩ := (Moment.ofTimestamp_ok_iff (seconds_isProper hv hseconds)).mpr hmoment
        rw [hseconds]
        exact ⟨.moment m, congrArg (fun r => (do return Temporal.moment (← r))) hm⟩

theorem toTemporal_isProper (hv : v.IsProper) {t : Temporal} (h : v.toTemporal = .ok t) : t.IsProper := by
  by_cases hnumber : v.isNumber = true
  · rw [toTemporal_of_isNumber hnumber] at h
    obtain ⟨x, hseconds, h⟩ := exists_of_bind (ok_of_mapError h)
    obtain ⟨m, hm, h⟩ := exists_of_bind h
    rw [← Except.ok.inj h]
    -- A number is taken for the seconds since 1970, and what is left of a second is counted anew.
    exact Moment.ofTimestamp_microsecond (seconds_isProper hv hseconds) hm
  · cases v with
    | int n => exact absurd rfl hnumber
    | double x => exact absurd rfl hnumber
    | decimal d => exact absurd rfl hnumber
    | null | bool | list => cases h
    | date d =>
        rw [← Except.ok.inj h]
        trivial
    | time t =>
        rw [← Except.ok.inj h]
        exact hv
    | moment m =>
        rw [← Except.ok.inj h]
        exact hv
    | text t =>
        rw [toTemporal] at h
        split at h
        · next m _ hm =>
          rw [← Except.ok.inj h]
          exact Iso.microsecond_of_moment? hm
        · next clock _ hclock =>
          rw [← Except.ok.inj h]
          exact Iso.microsecond_of_timeOfDay? hclock
        · cases h

end Value

namespace Render

variable {c : Culture} {v : Value} {t : Temporal}

theorem toMoment_microsecond (ht : t.IsProper) (today : Date) : (t.toMoment today).time.microsecond < 1000000 := by
  cases t with
  | date d => exact Nat.zero_lt_succ _
  | time clock on => exact ht
  | moment m => exact ht

/-! ## Styles -/

/-- A style between quotes. -/
def isQuoted : Template.Style → Bool
  | .pattern _ => true
  | _ => false

/-- The text of a style without the blanks around it. -/
def trimmedStyle (style : Template.Style) : Text :=
  (((writtenStyle? style).filter fun t => !t.isEmpty).getD "medium").strip

/-- The style that a date or a time is written by: capitals do not count in a word. -/
def usedStyle (style : Template.Style) : Text :=
  if !isQuoted style && lengthWords.contains (trimmedStyle style).lower then (trimmedStyle style).lower
  else trimmedStyle style

theorem temporal_eq (c : Culture) (kind : Template.FormatKind) (style : Template.Style) (v : Value) :
    temporal c kind style v = v.toTemporal >>= fun t =>
      let blame := blaming [.value, .key, .attribute] v (styleError v kind.word style)
      if !isQuoted style && Text.startsWith (trimmedStyle style) "::" then
        blame (c.momentBySkeleton ((trimmedStyle style).drop 2) (t.toMoment c.today))
      else
        match kind, t with
        | .date, .time _ _ => Value.refuse ("Time value " ++ v.described ++ " cannot be formatted as a date")
        | _, t => blame (temporalAs c kind (usedStyle style) t) := rfl

/-- Why a value is not written by a style as a date or a time, where it is not the fault of the style. -/
inductive TemporalStop (kind : Template.FormatKind) (style : Template.Style) (v : Value) : Obstacle → Prop
  /-- The value is no date or time, and no error says so. -/
  | conversion {o : Obstacle} (h : v.toTemporal = .error (.obstacle o)) : TemporalStop kind style v o
  /-- The error cannot show the value. -/
  | unwritable (h : v.isWritable = false) : TemporalStop kind style v .value
  /-- The style asks for too many digits of a second. -/
  | fraction (h : LongFraction (usedStyle style)) : TemporalStop kind style v .overflow
  /-- A time is asked for its place in the year. -/
  | uncounted (hkind : kind = .time) (h : CountsDays (usedStyle style)) : TemporalStop kind style v .type

/-- What stops a date or a time in an orderly culture: the fault of the style, too many digits of a second, or a time that
is asked for its place in the year. -/
def StopsStyle (kind : Template.FormatKind) (style : Text) (o : Obstacle) : Prop :=
  o ∈ [Obstacle.value, .key, .attribute] ∨ (o = .overflow ∧ LongFraction style) ∨
    o = .type ∧ kind = .time ∧ CountsDays style

theorem temporalAs_fails (hc : c.IsOrderly) (kind : Template.FormatKind) (style : Text) (ht : t.IsProper) :
    FailsWith (StopsStyle kind style) (temporalAs c kind style t) := by
  have hblamed : ∀ {o}, IsBlamed o → o ∈ [Obstacle.value, .key, .attribute] := by
    rintro o (rfl | rfl) <;> decide
  have hdate : ∀ d, FailsWith (StopsStyle kind style) (c.date style d) := by
    refine fun d => (Culture.date_fails hc style d).mono fun o ho => ?_
    rcases ho with ho | rfl | hlong
    · exact .inl (hblamed ho)
    · exact .inl (by decide)
    · exact .inr (.inl hlong)
  have htime : ∀ {clock : TimeOfDay} (hclock : clock.microsecond < 1000000) (on : Option Date), kind = .time →
      FailsWith (StopsStyle kind style) (c.time style clock on) := by
    refine fun hclock on hkind => (Culture.time_fails hc style hclock on).mono fun o ho => ?_
    rcases ho with ho | rfl | ⟨htype, hcounts⟩ | hlong
    · exact .inl (hblamed ho)
    · exact .inl (by decide)
    · exact .inr (.inr ⟨htype, hkind, hcounts⟩)
    · exact .inr (.inl hlong)
  -- Nothing but a pattern for times that counts days can ask for a date that is not there.
  unfold temporalAs
  split
  · exact hdate _
  · exact hdate _
  · exact htime ht _ rfl
  · exact htime (toMoment_microsecond ht _) _ rfl
  · exact (Culture.moment_fails hc style (toMoment_microsecond ht _)).mono fun o => Or.imp hblamed .inl

/-- **A date or a time is written by a style, or the error is about the value**, with the exceptions that are named. -/
theorem temporal_fails (hc : c.IsOrderly) (kind : Template.FormatKind) (style : Template.Style) (hv : v.IsProper) :
    FailsWith (Escapes (TemporalStop kind style v)) (temporal c kind style v) := by
  rw [temporal_eq]
  refine ((Value.toTemporal_fails hv).mono fun f hf => hf.mono fun o ho => .conversion ho).bind fun t ht => ?_
  have hproper := Value.toTemporal_isProper hv ht
  dsimp only
  split
  · refine blaming_fails (P := TemporalStop kind style v) ?_ .unwritable
    refine (Culture.momentBySkeleton_fails hc _ (toMoment_microsecond hproper _)).mono ?_
    rintro o (rfl | rfl) <;> exact .inl (by decide)
  · split
    · exact .error (Escapes.processing _)
    · refine blaming_fails (P := TemporalStop kind style v) ?_ .unwritable
      refine (temporalAs_fails hc kind (usedStyle style) hproper).mono fun o ho => ?_
      rcases ho with ho | ⟨rfl, hlong⟩ | ⟨rfl, hkind, hcounts⟩
      · exact .inl ho
      · exact .inr (.fraction hlong)
      · exact .inr (.uncounted hkind hcounts)

/-! ## Composite formats -/

/-- Why a date or a time is not written by a composite format, where the format is not blamed. -/
inductive ClockStop (format : Text) (t : Temporal) : Obstacle → Prop
  /-- The format asks for too many digits of a second. -/
  | fraction (h : LongFraction format) : ClockStop format t .overflow
  /-- A date has no time of day. -/
  | clockless {d : Date} (ht : t = .date d) (hformat : format = "t" ∨ format = "T") : ClockStop format t .attribute
  /-- A time has no date. -/
  | dateless {clock : TimeOfDay} {on : Option Date} (ht : t = .time clock on) (hformat : format = "d" ∨ format = "D") :
      ClockStop format t .attribute

theorem dateOnly_fails (hc : c.IsOrderly) {style format : Text} (hstyle : Culture.IsNamed style)
    (hformat : format = "d" ∨ format = "D") (ht : t.IsProper) :
    FailsWith (fun o => IsBlamed o ∨ ClockStop format t o) (dateOnly c style t) := by
  cases t with
  | date d => exact (hc.date hstyle d).mono fun _ => .inl
  | time clock on =>
      refine (hc.dateless hstyle ht on).mono fun o => Or.imp_right ?_
      rintro rfl
      exact .dateless rfl hformat
  | moment m => exact (hc.date hstyle m.date).mono fun _ => .inl

theorem timeOnly_fails (hc : c.IsOrderly) {style format : Text} (hstyle : Culture.IsNamed style)
    (hformat : format = "t" ∨ format = "T") (ht : t.IsProper) :
    FailsWith (fun o => IsBlamed o ∨ ClockStop format t o) (timeOnly c style t) := by
  cases t with
  | date d => exact .error (.inr (.clockless rfl hformat))
  | time clock on => exact (hc.time hstyle ht on).mono fun _ => .inl
  | moment m => exact (hc.time hstyle ht (some m.date)).mono fun _ => .inl

theorem dateAndTime_fails (hc : c.IsOrderly) {dateStyle timeStyle : Text} (hdate : Culture.IsNamed dateStyle)
    (htime : Culture.IsNamed timeStyle) (ht : t.IsProper) : FailsWith IsBlamed (dateAndTime c dateStyle timeStyle t) :=
  (hc.time htime (toMoment_microsecond ht _) _).bind fun _ _ => (hc.date hdate _).bind fun _ _ => .ok _

/-- **A date or a time is written by a composite format, or the format is blamed**, with the exceptions that are named. -/
theorem compositeTemporal_fails (hc : c.IsOrderly) (format : Text) (ht : t.IsProper) :
    FailsWith (fun o => IsBlamed o ∨ ClockStop format t o) (compositeTemporal c format t) := by
  have hfull : Culture.IsNamed "full" := .inl rfl
  have hmedium : Culture.IsNamed "medium" := .inr (.inr (.inl rfl))
  have hshort : Culture.IsNamed "short" := .inr (.inr (.inr rfl))
  -- Eight letters name styles that every culture has. Any other format is a pattern.
  unfold compositeTemporal
  split
  · next hformat => exact dateOnly_fails hc hshort (.inl hformat) ht
  split
  · next hformat => exact dateOnly_fails hc hfull (.inr hformat) ht
  split
  · next hformat => exact timeOnly_fails hc hshort (.inl hformat) ht
  split
  · next hformat => exact timeOnly_fails hc hmedium (.inr hformat) ht
  split
  · exact (dateAndTime_fails hc hfull hshort ht).mono fun _ => .inl
  split
  · exact (dateAndTime_fails hc hfull hmedium ht).mono fun _ => .inl
  split
  · exact (dateAndTime_fails hc hshort hshort ht).mono fun _ => .inl
  split
  · exact (dateAndTime_fails hc hshort hmedium ht).mono fun _ => .inl
  · refine (Culture.moment_fails hc format (toMoment_microsecond ht _)).mono fun o => Or.imp_right ?_
    rintro ⟨rfl, hlong⟩
    exact .fraction hlong

end Render

end Phrasebook
