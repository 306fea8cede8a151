import Phrasebook.Proofs.Calendar.Fields
import Phrasebook.Proofs.Pairs

/-!
# Dates and times as a culture writes them

In an orderly culture the patterns of dates show nothing but the date and those of times nothing but the time
(`Culture.IsOrderly`). Such a culture writes every date and every time by a style that it knows. By any other style, which
is a pattern then, two things can go wrong apart from what a style is blamed for: a time has no day to count, and
a fraction of a second may have too many digits.
-/

namespace Phrasebook

/-- A pattern that asks for more digits of a second than there are powers of ten. -/
def LongFraction (pattern : Text) : Prop := ∃ count, 308 < count ∧ .field 'S' count ∈ DatePattern.pieces pattern

/-- A pattern with a field that counts weeks or days of the year. -/
def CountsDays (pattern : Text) : Prop :=
  ∃ letter count, (letter = CodePoint.ofChar 'w' ∨ letter = CodePoint.ofChar 'D') ∧
    .field letter count ∈ DatePattern.pieces pattern

/-- The pattern for a skeleton is one of those of the culture. -/
theorem Skeleton.mem_of_pattern? {patterns : List (Text × Text)} {skeleton pattern : Text}
    (h : pattern? patterns skeleton = some pattern) : ∃ p ∈ patterns, p.2 = pattern := by
  unfold pattern? at h
  split at h
  · next p hp => exact ⟨_, Pairs.mem_of_get? hp, Option.some.inj h⟩
  · obtain ⟨nearest, -, hp⟩ := Option.bind_eq_some_iff.mp h
    exact ⟨_, Pairs.mem_of_get? hp, rfl⟩

namespace DatePattern

variable {letter c : CodePoint} {count : Nat}

theorem mem_of_addLetter {p : DatePattern} (h : .field letter count ∈ addLetter c p) :
    letter = c ∨ ∃ n, .field letter n ∈ p := by
  unfold addLetter at h
  split at h
  · next d n rest =>
    split at h
    · next hsame =>
      rcases List.mem_cons.mp h with heq | hmem
      · obtain ⟨rfl, -⟩ := DatePiece.field.inj heq
        exact .inl hsame
      · exact .inr ⟨count, List.mem_cons_of_mem _ hmem⟩
    · rcases List.mem_cons.mp h with heq | hmem
      · exact .inl (DatePiece.field.inj heq).1
      · exact .inr ⟨count, hmem⟩
  · rcases List.mem_cons.mp h with heq | hmem
    · exact .inl (DatePiece.field.inj heq).1
    · exact .inr ⟨count, hmem⟩

/-- The letters of fields stand in the pattern. -/
theorem letter_mem_of_piecesFrom {skip : Nat} {t : Text} {count : Nat} (h : .field letter count ∈ piecesFrom skip t) :
    letter ∈ t := by
  induction skip, t using piecesFrom.induct generalizing count with
  | case1 skip => simp [piecesFrom] at h
  | case2 skip c t ih => exact List.mem_cons_of_mem _ (ih h)
  | case3 t hhead ih =>
      rw [piecesFrom, if_pos rfl, if_pos hhead] at h
      exact List.mem_cons_of_mem _ (ih ((List.mem_cons.mp h).resolve_left nofun))
  | case4 t hhead x n hquoted ih =>
      rw [piecesFrom, if_pos rfl, if_neg hhead, hquoted] at h
      rcases List.mem_append.mp h with hliteral | h
      · obtain ⟨c, -, hc⟩ := List.mem_map.mp hliteral
        cases hc
      · exact List.mem_cons_of_mem _ (ih h)
  | case5 t hhead hquoted =>
      rw [piecesFrom, if_pos rfl, if_neg hhead, hquoted] at h
      cases h
  | case6 c t hc hletter ih =>
      rw [piecesFrom, if_neg hc, if_pos hletter] at h
      rcases mem_of_addLetter h with rfl | ⟨n, hn⟩
      · exact List.mem_cons_self
      · exact List.mem_cons_of_mem _ (ih hn)
  | case7 c t hc hletter ih =>
      rw [piecesFrom, if_neg hc, if_neg hletter] at h
      exact List.mem_cons_of_mem _ (ih ((List.mem_cons.mp h).resolve_left nofun))

end DatePattern

namespace Culture

/-- A word for one of the patterns of a culture. -/
def IsNamed (style : Text) : Prop :=
  style = "full" ∨ style = "long" ∨ style = "medium" ∨ style = "short"

/-- A culture whose own patterns for dates show only dates and count no days, and those for times show only times. -/
structure IsOrderly (c : Culture) : Prop where
  dates : ∀ style, IsNamed style → ∀ letter count,
    .field letter count ∈ DatePattern.pieces (c.datePattern style) → showsDate letter = true
  uncounted : ∀ style, IsNamed style → ¬CountsDays (c.datePattern style)
  times : ∀ style, IsNamed style → ∀ letter count,
    .field letter count ∈ DatePattern.pieces (c.timePattern style) → showsDate letter = false
  fractions : ∀ style, IsNamed style → ¬LongFraction (c.timePattern style)
  skeletons : ∀ p ∈ c.conventions.skeletonPatterns, ¬LongFraction p.2

variable {c : Culture} {style : Text}

theorem styled?_eq_none {α : Type} {full long medium short : α} :
    styled? style full long medium short = none ↔ ¬IsNamed style := by
  unfold styled? IsNamed
  split
  · next h => simp [h]
  split
  · next h => simp [h]
  split
  · next h => simp [h]
  split
  · next h => simp [h]
  · next hfull hlong hmedium hshort => simp [hfull, hlong, hmedium, hshort]

theorem mem_of_styled? {α : Type} {full long medium short a : α} (h : styled? style full long medium short = some a) :
    a ∈ [full, long, medium, short] := by
  unfold styled? at h
  repeat' split at h
  all_goals cases h <;> simp

/-- What a word names is one of the four. -/
theorem exists_of_named {α : Type} {full long medium short : α} (h : IsNamed style) :
    ∃ a ∈ [full, long, medium, short], styled? style full long medium short = some a := by
  obtain ⟨a, ha⟩ := Option.ne_none_iff_exists'.mp fun hnone => styled?_eq_none.mp hnone h
  exact ⟨a, mem_of_styled? ha, ha⟩

theorem datePattern_of_named (c : Culture) (h : IsNamed style) :
    ∃ s ∈ [c.conventions.dates.full, c.conventions.dates.long, c.conventions.dates.medium, c.conventions.dates.short],
      c.datePattern style = Text.ofString s := by
  obtain ⟨s, hs, hstyled⟩ := exists_of_named h
  exact ⟨s, hs, by rw [datePattern, hstyled]; rfl⟩

theorem timePattern_of_named (c : Culture) (h : IsNamed style) :
    ∃ s ∈ [c.conventions.times.full, c.conventions.times.long, c.conventions.times.medium, c.conventions.times.short],
      c.timePattern style = Text.ofString s := by
  obtain ⟨s, hs, hstyled⟩ := exists_of_named h
  exact ⟨s, hs, by rw [timePattern, hstyled]; rfl⟩

theorem datePattern_of_not_named (c : Culture) (h : ¬IsNamed style) : c.datePattern style = style := by
  simp only [datePattern, styled?_eq_none.mpr h, Option.map_none, Option.getD_none]

theorem timePattern_of_not_named (c : Culture) (h : ¬IsNamed style) : c.timePattern style = style := by
  simp only [timePattern, styled?_eq_none.mpr h, Option.map_none, Option.getD_none]

/-! ## Patterns by what they are applied to -/

section

variable {pattern : Text} {o : Obstacle}

theorem stop_of_date {d : Date} (h : PatternStop (.date d) pattern o) :
    IsBlamed o ∨ o = .attribute ∧ (∃ letter count, showsDate letter = false ∧
      .field letter count ∈ DatePattern.pieces pattern) ∨ o = .overflow ∧ LongFraction pattern := by
  rcases h with h | ⟨letter, count, hmem, hstop⟩
  · exact .inl h
  cases hstop with
  | blamed h => exact .inl h
  | dateless ht _ => cases ht
  | uncounted ht _ => cases ht
  | clockless _ hletter => exact .inr (.inl ⟨rfl, letter, count, hletter, hmem⟩)
  | fraction hletter hcount => exact .inr (.inr ⟨rfl, count, hcount, hletter ▸ hmem⟩)

theorem stop_of_time {clock : TimeOfDay} {on : Option Date} (h : PatternStop (.time clock on) pattern o) :
    IsBlamed o ∨ o = .attribute ∧ (∃ letter count, showsDate letter = true ∧
      .field letter count ∈ DatePattern.pieces pattern) ∨ o = .type ∧ CountsDays pattern ∨
        o = .overflow ∧ LongFraction pattern := by
  rcases h with h | ⟨letter, count, hmem, hstop⟩
  · exact .inl h
  cases hstop with
  | blamed h => exact .inl h
  | dateless _ hletter => exact .inr (.inl ⟨rfl, letter, count, hletter, hmem⟩)
  | uncounted _ hletter => exact .inr (.inr (.inl ⟨rfl, letter, count, hletter, hmem⟩))
  | clockless ht _ => cases ht
  | fraction hletter hcount => exact .inr (.inr (.inr ⟨rfl, count, hcount, hletter ▸ hmem⟩))

theorem stop_of_moment {m : Moment} (h : PatternStop (.moment m) pattern o) :
    IsBlamed o ∨ o = .overflow ∧ LongFraction pattern := by
  rcases h with h | ⟨letter, count, hmem, hstop⟩
  · exact .inl h
  cases hstop with
  | blamed h => exact .inl h
  | dateless ht _ => cases ht
  | uncounted ht _ => cases ht
  | clockless ht _ => cases ht
  | fraction hletter hcount => exact .inr ⟨rfl, count, hcount, hletter ▸ hmem⟩

end

/-! ## Styles -/

theorem showsDate_of_countsDays {pattern : Text} (h : CountsDays pattern) :
    ∃ letter count, showsDate letter = true ∧ .field letter count ∈ DatePattern.pieces pattern := by
  obtain ⟨letter, count, hletter, hmem⟩ := h
  refine ⟨letter, count, ?_, hmem⟩
  rcases hletter with rfl | rfl <;> decide

theorem IsOrderly.no_longFraction (h : c.IsOrderly) (hnamed : IsNamed style) : ¬LongFraction (c.datePattern style) := by
  rintro ⟨count, -, hmem⟩
  exact absurd (h.dates style hnamed _ count hmem) (by decide)

/-- **An orderly culture writes every date by a word.** -/
theorem IsOrderly.date (h : c.IsOrderly) (hnamed : IsNamed style) (d : Date) : FailsWith IsBlamed (c.date style d) := by
  refine (c.temporalAs_fails (c.datePattern style) (t := .date d) trivial).mono fun o ho => ?_
  rcases stop_of_date ho with ho | ⟨-, letter, count, hletter, hmem⟩ | ⟨-, hlong⟩
  · exact ho
  · exact absurd (h.dates style hnamed letter count hmem) (by rw [hletter]; decide)
  · exact absurd hlong (h.no_longFraction hnamed)

/-- In an orderly culture a time is refused as a date for want of one. -/
theorem IsOrderly.dateless (h : c.IsOrderly) (hnamed : IsNamed style) {clock : TimeOfDay} (hclock : clock.microsecond < 1000000)
    (on : Option Date) :
    FailsWith (fun o => IsBlamed o ∨ o = .attribute) (c.temporalAs (c.datePattern style) (.time clock on)) := by
  refine (c.temporalAs_fails (c.datePattern style) (t := .time clock on) hclock).mono fun o ho => ?_
  rcases stop_of_time ho with ho | ⟨ho, -⟩ | ⟨-, hcounts⟩ | ⟨-, hlong⟩
  · exact .inl ho
  · exact .inr ho
  · exact absurd hcounts (h.uncounted style hnamed)
  · exact absurd hlong (h.no_longFraction hnamed)

/-- **An orderly culture writes every time by a word.** -/
theorem IsOrderly.time (h : c.IsOrderly) (hnamed : IsNamed style) {clock : TimeOfDay} (hclock : clock.microsecond < 1000000)
    (on : Option Date) : FailsWith IsBlamed (c.time style clock on) := by
  refine (c.temporalAs_fails (c.timePattern style) (t := .time clock on) hclock).mono fun o ho => ?_
  have hnone : ∀ letter count, showsDate letter = true → .field letter count ∉ DatePattern.pieces (c.timePattern style) := by
    intro letter count hletter hmem
    exact absurd (h.times style hnamed letter count hmem) (by rw [hletter]; decide)
  rcases stop_of_time ho with ho | ⟨-, letter, count, hletter, hmem⟩ | ⟨-, hcounts⟩ | ⟨-, hlong⟩
  · exact ho
  · exact absurd hmem (hnone letter count hletter)
  · obtain ⟨letter, count, hletter, hmem⟩ := showsDate_of_countsDays hcounts
    exact absurd hmem (hnone letter count hletter)
  · exact absurd hlong (h.fractions style hnamed)

theorem date_fails (h : c.IsOrderly) (style : Text) (d : Date) :
    FailsWith (fun o => IsBlamed o ∨ o = .attribute ∨ o = .overflow ∧ LongFraction style) (c.date style d) := by
  by_cases hnamed : IsNamed style
  · exact (h.date hnamed d).mono fun _ => .inl
  · refine (c.temporalAs_fails (c.datePattern style) (t := .date d) trivial).mono fun o ho => ?_
    rw [c.datePattern_of_not_named hnamed] at ho
    exact (stop_of_date ho).imp_right (Or.imp_left And.left)

theorem time_fails (h : c.IsOrderly) (style : Text) {clock : TimeOfDay} (hclock : clock.microsecond < 1000000)
    (on : Option Date) :
    FailsWith (fun o => IsBlamed o ∨ o = .attribute ∨ o = .type ∧ CountsDays style ∨ o = .overflow ∧ LongFraction style)
      (c.time style clock on) := by
  by_cases hnamed : IsNamed style
  · exact (h.time hnamed hclock on).mono fun _ => .inl
  · refine (c.temporalAs_fails (c.timePattern style) (t := .time clock on) hclock).mono fun o ho => ?_
    rw [c.timePattern_of_not_named hnamed] at ho
    exact (stop_of_time ho).imp_right (Or.imp_left And.left)

/-- **An orderly culture writes every moment**, unless a pattern asks for too many digits of a second. -/
theorem moment_fails (h : c.IsOrderly) (style : Text) {m : Moment} (hm : m.time.microsecond < 1000000) :
    FailsWith (fun o => IsBlamed o ∨ o = .overflow ∧ LongFraction style) (c.moment style m) := by
  unfold moment
  dsimp only
  split
  · exact (c.temporalAs_fails style (t := .moment m) hm).mono fun o => stop_of_moment
  · next glue hglue =>
    have hnamed : IsNamed style := by
      by_contra hnot
      rw [styled?_eq_none.mpr hnot] at hglue
      cases hglue
    refine ((h.time hnamed hm _).mono fun _ => .inl).bind fun _ _ => ?_
    exact ((h.date hnamed m.date).mono fun _ => .inl).bind fun _ _ => .ok _

theorem momentBySkeleton_fails (h : c.IsOrderly) (skeleton : Text) {m : Moment} (hm : m.time.microsecond < 1000000) :
    FailsWith IsBlamed (c.momentBySkeleton skeleton m) := by
  unfold momentBySkeleton
  split
  · next pattern hpattern =>
    refine (c.temporalAs_fails pattern (t := .moment m) hm).mono fun o ho => ?_
    obtain ⟨p, hp, rfl⟩ := Skeleton.mem_of_pattern? hpattern
    exact (stop_of_moment ho).resolve_right fun hlong => h.skeletons p hp hlong.2
  · exact .error (.inr rfl)

end Culture

end Phrasebook
