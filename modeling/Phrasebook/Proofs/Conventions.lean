import Phrasebook.Proofs.Calendar.Cultures
import Phrasebook.Proofs.Number.Cultures
import Phrasebook.Proofs.Text.Parts

/-!
# The conventions of the locales

Every culture that a locale name is taken for is regular (`Culture.ofName_isRegular`): its patterns have room for numbers of
twenty digits, and keep dates and times apart. The patterns are checked one after the other, as they stand in the tables
(`areFit_all`).

A pattern in the tables is a string literal. Taking it to its characters would decode its bytes, which evaluation is slow
at; but a literal is `String.ofList` of its characters by definition. So each table is first matched with the characters of
its patterns (`Spelled`), and the check is evaluated on these.
-/

namespace Phrasebook

open Conventions

/-- A culture whose own patterns have room for numbers and keep dates and times apart. -/
structure Culture.IsRegular (c : Culture) : Prop where
  roomy : c.HasRoom
  orderly : c.IsOrderly

/-! ## Checking a pattern -/

/-- What a string of patterns is for. -/
inductive PatternUse where
  | date
  | time
  /-- Numbers of up to so many digits before the point. -/
  | number (digits : Nat)
  /-- Numbers with an exponent. -/
  | exponent
  /-- Numbers in few words. -/
  | words
  /-- Dates and times by the fields that they show. -/
  | skeletons

namespace PatternUse

/-- Whether all fields of a pattern have letters of some kind. -/
def hasLetters (p : CodePoint → Bool) (t : Text) : Bool :=
  (DatePattern.pieces t).all fun
    | .field letter _ => p letter
    | .literal _ => true

/-- Whether the pattern that a text writes passes a test, if it writes one. -/
def hasPattern (test : NumberPattern → Bool) (t : Text) : Bool :=
  match NumberPattern.ofText t with
  | .ok p => test p
  | .error _ => true

/-- Whether a pattern has room for numbers of some digits. -/
def isRoomy (digits : Nat) (p : NumberPattern) : Bool :=
  p.exponent.isNone && !p.isSignificant && decide (digits + p.scale + max p.fraction.most mostPlaces ≤ digitRoom)

/-- Whether a pattern has an exponent and room for the digits that it asks for. -/
def isExponential (p : NumberPattern) : Bool :=
  p.exponent.isSome && decide (p.integer.least + max p.fraction.most mostPlaces ≤ digitRoom)

/-- Whether patterns are fit for their use. -/
def accepts : PatternUse → Text → Bool
  | date, t => hasLetters (fun c => showsDate c && c ≠ 'w' && c ≠ 'D') t
  | time, t => hasLetters (fun c => !showsDate c && c ≠ 'S') t
  | number digits, t => hasPattern (isRoomy digits) t
  | exponent, t => hasPattern isExponential t
  | words, t => (Culture.compactForms t).all fun form =>
      form.patterns.all fun p => hasPattern (isRoomy (Culture.digitsHeld + 2)) p.2
  | skeletons, t => t.all fun c => c ≠ 'S'

theorem of_hasLetters {p : CodePoint → Bool} {t : Text} (h : hasLetters p t = true) {letter : CodePoint} {count : Nat}
    (hmem : .field letter count ∈ DatePattern.pieces t) : p letter = true :=
  List.all_eq_true.mp h _ hmem

theorem of_hasPattern {test : NumberPattern → Bool} {t : Text} (h : hasPattern test t = true) {p : NumberPattern}
    (hp : NumberPattern.ofText t = .ok p) : test p = true := by
  rw [hasPattern, hp] at h
  exact h

theorem isPlain_of_isRoomy {digits : Nat} {p : NumberPattern} (h : isRoomy digits p = true) : p.IsPlain digits := by
  simp only [isRoomy, Bool.and_eq_true, Option.isNone_iff_eq_none, Bool.not_eq_true', decide_eq_true_eq] at h
  exact ⟨h.1.1, h.1.2, h.2⟩

theorem isPlain_of_accepts {digits : Nat} {t : Text} (h : (number digits).accepts t = true) {p : NumberPattern}
    (hp : NumberPattern.ofText t = .ok p) : p.IsPlain digits := by
  rw [accepts] at h
  exact isPlain_of_isRoomy (of_hasPattern h hp)

theorem isScientific_of_accepts {t : Text} (h : exponent.accepts t = true) {p : NumberPattern}
    (hp : NumberPattern.ofText t = .ok p) : p.IsScientific := by
  rw [accepts] at h
  have hpattern := of_hasPattern h hp
  simp only [isExponential, Bool.and_eq_true, decide_eq_true_eq] at hpattern
  exact ⟨hpattern.1, hpattern.2⟩

end PatternUse

/-! ## Checking conventions -/

/-- What follows the key of an item stands in the item. -/
theorem mem_of_keyed {x : CodePoint} {item : Text} (h : x ∈ (keyed item).2) : x ∈ item := by
  rw [keyed] at h
  cases hcut : Text.cut (CodePoint.ofChar ' ') item with
  | mk key rest =>
      rw [hcut] at h
      cases rest with
      | none => cases h
      | some rest =>
          rw [Text.eq_of_cut hcut]
          exact List.mem_append_right _ (List.mem_cons_of_mem _ h)

/-- The patterns of conventions with what they are for. -/
def Conventions.patterns (v : Conventions) : List (PatternUse × String) :=
  [ (.date, v.dates.full), (.date, v.dates.long), (.date, v.dates.medium), (.date, v.dates.short),
    (.time, v.times.full), (.time, v.times.long), (.time, v.times.medium), (.time, v.times.short),
    (.number (Culture.digitsHeld + 2), v.numbers.decimal), (.number Culture.digitsHeld, v.numbers.percent),
    (.number Culture.digitsHeld, v.numbers.currency), (.exponent, v.numbers.scientific),
    (.words, v.compact.short), (.words, v.compact.long) ] ++ v.skeletons.map fun block => (.skeletons, block)

/-- Patterns that are all fit for their use. -/
def AreAccepted (patterns : List (PatternUse × String)) : Prop := ∀ p ∈ patterns, p.1.accepts p.2 = true

namespace Culture

variable {c : Culture}

/-- **Where all patterns are accepted there is room for numbers.** -/
theorem HasRoom.of_accepted (h : AreAccepted c.conventions.patterns) : c.HasRoom where
  decimal _ := PatternUse.isPlain_of_accepts (h (.number (digitsHeld + 2), c.conventions.numbers.decimal) (by simp [patterns]))
  percent _ := PatternUse.isPlain_of_accepts (h (.number digitsHeld, c.conventions.numbers.percent) (by simp [patterns]))
  currency _ := PatternUse.isPlain_of_accepts (h (.number digitsHeld, c.conventions.numbers.currency) (by simp [patterns]))
  scientific _ := PatternUse.isScientific_of_accepts (h (.exponent, c.conventions.numbers.scientific) (by simp [patterns]))
  compact t ht p hp := by
    obtain ⟨form, hform, hmem⟩ := List.mem_flatMap.mp ht
    obtain ⟨pattern, hpattern, rfl⟩ := List.mem_map.mp hmem
    have hwords : ∀ words : String, (.words, words) ∈ c.conventions.patterns → form ∈ compactForms words →
        p.IsPlain (digitsHeld + 2) := by
      intro words hin hform
      have hall := List.all_eq_true.mp (h (.words, words) hin) form hform
      exact PatternUse.isPlain_of_isRoomy (PatternUse.of_hasPattern (List.all_eq_true.mp hall pattern hpattern) hp)
    rcases List.mem_append.mp hform with hform | hform
    · exact hwords c.conventions.compact.short (by simp [patterns]) hform
    · exact hwords c.conventions.compact.long (by simp [patterns]) hform

theorem accepts_datePattern (h : AreAccepted c.conventions.patterns) {style : Text} (hstyle : IsNamed style) :
    PatternUse.date.accepts (c.datePattern style) = true := by
  obtain ⟨s, hs, hpattern⟩ := c.datePattern_of_named hstyle
  rw [hpattern]
  refine h (.date, s) ?_
  simp only [List.mem_cons, List.not_mem_nil, or_false] at hs
  rcases hs with rfl | rfl | rfl | rfl <;> simp [patterns]

theorem accepts_timePattern (h : AreAccepted c.conventions.patterns) {style : Text} (hstyle : IsNamed style) :
    PatternUse.time.accepts (c.timePattern style) = true := by
  obtain ⟨s, hs, hpattern⟩ := c.timePattern_of_named hstyle
  rw [hpattern]
  refine h (.time, s) ?_
  simp only [List.mem_cons, List.not_mem_nil, or_false] at hs
  rcases hs with rfl | rfl | rfl | rfl <;> simp [patterns]

/-- **Where all patterns are accepted dates and times are kept apart.** -/
theorem IsOrderly.of_accepted (h : AreAccepted c.conventions.patterns) : c.IsOrderly := by
  refine ⟨fun style hstyle letter count hmem => ?_, fun style hstyle => ?_, fun style hstyle letter count hmem => ?_,
    fun style hstyle => ?_, fun p hp => ?_⟩
  · have hletter := PatternUse.of_hasLetters (accepts_datePattern h hstyle) hmem
    simp only [Bool.and_eq_true] at hletter
    exact hletter.1.1
  · rintro ⟨letter, count, hcounts, hmem⟩
    have hletter := PatternUse.of_hasLetters (accepts_datePattern h hstyle) hmem
    simp only [Bool.and_eq_true, decide_eq_true_eq] at hletter
    exact hcounts.elim hletter.1.2 hletter.2
  · have hletter := PatternUse.of_hasLetters (accepts_timePattern h hstyle) hmem
    simp only [Bool.and_eq_true, Bool.not_eq_true'] at hletter
    exact hletter.1
  · rintro ⟨count, -, hmem⟩
    have hletter := PatternUse.of_hasLetters (accepts_timePattern h hstyle) hmem
    simp only [Bool.and_eq_true, decide_eq_true_eq] at hletter
    exact hletter.2 rfl
  · -- The letter would stand in the block that the pattern was taken from.
    rintro ⟨count, -, hmem⟩
    obtain ⟨block, hblock, hp⟩ := List.mem_flatMap.mp hp
    obtain ⟨line, hline, rfl⟩ := List.mem_map.mp hp
    have hin : CodePoint.ofChar 'S' ∈ line := mem_of_keyed (DatePattern.letter_mem_of_piecesFrom hmem)
    have hall := List.all_eq_true.mp (h (.skeletons, block) (by simp [patterns, hblock])) _ (Text.mem_of_mem_splitAll hline hin).1
    exact of_decide_eq_true hall rfl

theorem IsRegular.of_accepted (h : AreAccepted c.conventions.patterns) : c.IsRegular := ⟨.of_accepted h, .of_accepted h⟩

end Culture

/-! ## Checking the tables -/

/-- Strings with their characters. -/
inductive Spelled : List (PatternUse × String) → List (PatternUse × List Char) → Prop
  | nil : Spelled [] []
  | cons (use : PatternUse) (l : List Char) {patterns : List (PatternUse × String)} {spellings : List (PatternUse × List Char)}
      (h : Spelled patterns spellings) : Spelled ((use, String.ofList l) :: patterns) ((use, l) :: spellings)

/-- What is accepted as characters is accepted as a string. -/
theorem Spelled.areAccepted {patterns : List (PatternUse × String)} {spellings : List (PatternUse × List Char)}
    (h : Spelled patterns spellings)
    (hall : (spellings.all fun p => p.1.accepts (p.2.map CodePoint.ofChar)) = true) : AreAccepted patterns := by
  induction h with
  | nil => exact fun _ hp => nomatch hp
  | cons use l h ih =>
      rw [List.all_cons, Bool.and_eq_true] at hall
      intro p hp
      rcases List.mem_cons.mp hp with rfl | hp
      · rw [Text.ofString, String.toList_ofList]
        exact hall.1
      · exact ih hall.2 p hp

/-- The patterns of some conventions are fit for their use. -/
def AreFit (table : List (String × Conventions)) : Prop := AreAccepted (table.flatMap fun entry => entry.2.patterns)

theorem areFit_append {s t : List (String × Conventions)} : AreFit (s ++ t) ↔ AreFit s ∧ AreFit t := by
  simp only [AreFit, AreAccepted, List.flatMap_append, List.forall_mem_append]

set_option maxRecDepth 100000 in
/-- **The patterns of all conventions are fit for their use.** -/
theorem areFit_all : AreFit all := by
  unfold all
  simp only [areFit_append, and_assoc]
  -- One table after the other: what it takes to check them together would not be little.
  refine ⟨?_, ?_, ?_, ?_, ?_, ?_, ?_, ?_, ?_, ?_, ?_⟩
  all_goals exact Spelled.areAccepted (by repeat constructor) (by decide +kernel)

/-! ## Cultures by their names -/

/-- Surroundings where all conventions have patterns that are fit for their use. -/
def Surroundings.IsFit (s : Surroundings) : Prop := ∀ i v, s.conventions? i = some v → AreAccepted v.patterns

theorem areAccepted_of_mem_all {entry : String × Conventions} (h : entry ∈ all) : AreAccepted entry.2.patterns :=
  fun p hp => areFit_all p (List.mem_flatMap.mpr ⟨entry, h, hp⟩)

/-- The conventions of the tables are fit, whatever day it is. -/
theorem Surroundings.isFit_of_tables {s : Surroundings} (h : s.conventions? = ofIdentifier?) : s.IsFit := by
  intro i v hv
  rw [h] at hv
  obtain ⟨entry, hfind, rfl⟩ := Option.map_eq_some_iff.mp hv
  exact areAccepted_of_mem_all (List.mem_of_find?_eq_some hfind)

/-- **The culture of every locale name is regular.** -/
theorem Culture.ofName_isRegular {s : Surroundings} (hs : s.IsFit) (name : Text) : (Culture.ofName name s).IsRegular := by
  refine .of_accepted ?_
  unfold Culture.ofName Culture.ofIdentifier?
  cases hfound : s.conventions? (Locale.Identifier.ofName name) with
  | some v => exact hs _ v hfound
  | none => exact areAccepted_of_mem_all (show ("en", ConventionsOf.en) ∈ all from List.mem_cons_self)

end Phrasebook
