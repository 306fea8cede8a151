import Phrasebook.Proofs.Conventions
import Phrasebook.Proofs.Render.Numbers
import Phrasebook.Proofs.Render.Temporals

/-!
# How formatting fails

Taking a value as a date, and writing it by a style or by a composite format, ends with a result or with the library's own
error about the value, and everything else that can come out of it is named here (`formatting_outcomes`): a number that
counts no seconds of the calendar, a number that does not fit with the digits of its pattern into the context of
arithmetic or is no place in the order of numbers, an integer that is too long to be shown, and a few letters that ask for
what the value does not have. This holds in regular cultures, and those of all locale names are regular.
-/

namespace Phrasebook.Render

open Decimal

variable {c : Culture} {v : Value} {P : Obstacle → Prop}

/-- Why a value is not written by a composite format, where it is not the fault of the format. -/
inductive FormatStop (format : Text) (v : Value) : Obstacle → Prop
  | number {o : Obstacle} (hv : v.isNumber = true) (h : CompositeStop format v o) : FormatStop format v o
  | clock {o : Obstacle} {t : Temporal} (hv : v.isNumber = false) (ht : v.toTemporal = .ok t)
      (h : ClockStop format t o) : FormatStop format v o
  /-- The value cannot be shown. -/
  | unwritable (h : v.isWritable = false) : FormatStop format v .value

theorem composite_fails (hc : c.IsRegular) (format : Option Text) (hv : v.IsProper) :
    FailsWith (Escapes (FormatStop (format.getD []) v)) (composite c format v) := by
  have hwritten : FailsWith (Escapes (FormatStop (format.getD []) v)) (v.written c) :=
    Value.written_fails .unwritable c
  -- Whichever way a value takes, the format is blamed in the same words.
  have hblame : ∀ {r : Except Obstacle Text}, FailsWith (fun o => IsBlamed o ∨ FormatStop (format.getD []) v o) r →
      FailsWith (Escapes (FormatStop (format.getD []) v)) (r.mapError fun o =>
        if o = .value ∨ o = .key then v.showing (compositeError v (format.getD [])) else .obstacle o) := by
    refine fun hr => FailsWith.mapError (hr.mono fun o ho => ?_)
    split
    · exact Value.showing_escapes .unwritable _
    · next hother => exact .obstacle (ho.resolve_left hother)
  have hnumber : v.isNumber = true → FailsWith (Escapes (FormatStop (format.getD []) v)) (v.toDecimal >>= fun d =>
      (compositeNumber c (format.getD []) d).mapError fun o =>
        if o = .value ∨ o = .key then v.showing (compositeError v (format.getD [])) else .obstacle o) := by
    intro hisNumber
    refine ((toDecimal_settles hv).mono fun f hf => hf.mono fun _ => False.elim).bind fun d hd => hblame ?_
    exact (compositeNumber_fails hc.roomy hd).mono fun o => Or.imp_right (.number hisNumber)
  have hclock : ∀ {t}, v.isNumber = false → v.toTemporal = .ok t →
      FailsWith (Escapes (FormatStop (format.getD []) v)) ((compositeTemporal c (format.getD []) t).mapError fun o =>
        if o = .value ∨ o = .key then v.showing (compositeError v (format.getD [])) else .obstacle o) := fun hno ht =>
    hblame ((compositeTemporal_fails hc.orderly _ (Value.toTemporal_isProper hv ht)).mono fun o => Or.imp_right (.clock hno ht))
  unfold composite
  dsimp only
  split
  · split
    · exact .ok _
    · exact hwritten
  · cases v with
    | null => exact .ok _
    | date d => exact hclock rfl rfl
    | time t => exact hclock rfl rfl
    | moment m => exact hclock rfl rfl
    | int n => exact hnumber rfl
    | double x => exact hnumber rfl
    | decimal d => exact hnumber rfl
    | bool | text | list => exact hwritten

/-- **How formatting fails.** A value is a date, or is refused as one with an error about it, unless it is a number that
counts the seconds of no moment. The cultures of all locale names are regular. In a regular culture a value that is written
as a number, as a date or a time, or by a composite format gives a text or an error about itself, or there is one of the
reasons named for it. -/
theorem formatting_outcomes (hv : v.IsProper) :
    (Settled v.toTemporal ↔ (v.isNumber = true → ∃ x, v.seconds = .ok x ∧ x.IsMoment)) ∧
    (∀ s : Surroundings, s.IsFit → ∀ name, (Culture.ofName name s).IsRegular) ∧
    (∀ s : Surroundings, s.conventions? = Conventions.ofIdentifier? → s.IsFit) ∧
    ∀ c : Culture, c.IsRegular →
      (∀ style, FailsWith (Escapes (NumberStop c style v)) (number c style v)) ∧
      (∀ kind style, FailsWith (Escapes (TemporalStop kind style v)) (temporal c kind style v)) ∧
      ∀ format : Option Text, FailsWith (Escapes (FormatStop (format.getD []) v)) (composite c format v) :=
  ⟨Value.toTemporal_settles_iff hv, fun _ => Culture.ofName_isRegular, fun _ => Surroundings.isFit_of_tables, fun _ hc =>
    ⟨fun style => number_fails hc.roomy style hv, fun kind style => temporal_fails hc.orderly kind style hv,
      fun format => composite_fails hc format hv⟩⟩

/-- One half. -/
def half : Double := .finite false 4503599627370496 (-53)

theorem half_toDecimal : (Value.double half).toDecimal = .ok (.finite false 5 (-1)) := by
  have hread : half.toDecimal = some (.finite false 5 (-1)) := by decide +kernel
  rw [Value.toDecimal, hread]

/-- One half is a date, and is written without a style as a number and as a date in the German of Austria, on every day. -/
theorem formatting_outcomes_half :
    (Value.double half).IsProper ∧ Settled (Value.double half).toTemporal ∧
      ∀ today, Settled (number (.ofName "de-AT" { today := today }) .default (.double half)) ∧
        ∀ kind, Settled (temporal (.ofName "de-AT" { today := today }) kind .default (.double half)) := by
  have hproper : (Value.double half).IsProper := ⟨by decide, by decide, by decide⟩
  obtain ⟨htemporal, hname, htables, hwritten⟩ := formatting_outcomes hproper
  have hmoment : half.IsMoment := by
    show ((-62135596800 : Int) : ℚ) ≤ Double.magnitude 4503599627370496 (-53) ∧
      Double.magnitude 4503599627370496 (-53) < ((253402300800 : Int) : ℚ)
    norm_num [Double.magnitude]
  have hsettled := htemporal.mpr fun _ => ⟨half, rfl, hmoment⟩
  have hletters : PatternUse.hasLetters (fun c => decide (c ≠ 'S' ∧ c ≠ 'w' ∧ c ≠ 'D')) (usedStyle .default) = true := by
    decide +kernel
  refine ⟨hproper, hsettled, fun today => ?_⟩
  obtain ⟨hnumber, hdate, -⟩ := hwritten _ (hname { today := today } (htables _ rfl) "de-AT")
  refine ⟨(hnumber .default).mono fun f hf => hf.mono fun o ho => ?_,
    fun kind => (hdate kind .default).mono fun f hf => hf.mono fun o ho => ?_⟩
  · cases ho with
    | unwritable h => cases h
    | unordered _ _ hstyle => cases hstyle
    | beyond _ hd hnone =>
        obtain rfl := Except.ok.inj (half_toDecimal.symm.trans hd)
        exact hnone (.inr (by decide +kernel))
  · cases ho with
    | conversion h =>
        cases hsettled _ h with
        | obstacle hnone => exact hnone
    | unwritable h => cases h
    | fraction h =>
        obtain ⟨count, -, hmem⟩ := h
        exact (of_decide_eq_true (PatternUse.of_hasLetters hletters hmem)).1 rfl
    | uncounted _ h =>
        obtain ⟨letter, count, hletter, hmem⟩ := h
        have hother := of_decide_eq_true (PatternUse.of_hasLetters hletters hmem)
        exact hletter.elim hother.2.1 hother.2.2

/-- English as written in the United States. -/
def american (s : Surroundings) : Culture := .ofConventions s ConventionsOf.en (some "US")

/-- A timestamp that is not a number, a number of thirty-one digits, the week of a time and the time of a date
escape, and where numbers in few words are put in order first, what is not a number among them. -/
theorem formatting_escapes :
    (Value.double .nan).toTemporal = .error (.obstacle .value) ∧
    number (american {}) .default (.int (10 ^ 30)) = .error (.obstacle .invalidOperation) ∧
    temporal (american {}) .time (.named "w") (.moment ⟨⟨2024, 1, 15⟩, .midnight⟩) = .error (.obstacle .type) ∧
    composite (american {}) (some "t") (.date ⟨2024, 1, 15⟩) = .error (.obstacle .attribute) ∧
    number (american { ordersSpecials := true }) (.named "compact") (.decimal (.nan false false 0))
      = .error (.obstacle .invalidOperation) :=
  ⟨rfl, by decide +kernel, by decide +kernel, by decide +kernel, by decide +kernel⟩

end Phrasebook.Render
