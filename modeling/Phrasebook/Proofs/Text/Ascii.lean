import Mathlib.Data.List.Basic
import Phrasebook.Text.Case

/-!
# ASCII

The case maps on ASCII do what they are known for: a letter has one upper and one lower form, 32 apart,
and nothing else is touched. They are far from that simple elsewhere, so what is said here about the
tables is checked for each of the 128 code points.
-/

namespace Phrasebook

namespace CodePoint

/-- A letter of the basic Latin alphabet. -/
def isAsciiLetter (c : CodePoint) : Bool :=
  (0x41 ≤ c.val && c.val ≤ 0x5A) || (0x61 ≤ c.val && c.val ≤ 0x7A)

/-- A letter of the basic Latin alphabet or one of the ten digits. -/
def isAsciiAlphanumeric (c : CodePoint) : Bool := c.isAsciiLetter || c.isAsciiDigit

/-- The capital of a small letter; every other code point itself. -/
def raised (c : CodePoint) : CodePoint :=
  if 0x61 ≤ c.val ∧ c.val ≤ 0x7A then ofNat (c.val - 0x20) else c

/-- The small letter of a capital; every other code point itself. -/
def lowered (c : CodePoint) : CodePoint :=
  if 0x41 ≤ c.val ∧ c.val ≤ 0x5A then ofNat (c.val + 0x20) else c

theorem ofNat_val (c : CodePoint) : ofNat c.val = c := by
  rw [ofNat, dif_pos c.isLt]

theorem val_ofNat {n : Nat} (h : n < 0x110000) : (ofNat n).val = n := by
  rw [ofNat, dif_pos h]

theorem eq_of_val {c d : CodePoint} (h : c.val = d.val) : c = d := by
  rw [← ofNat_val c, h, ofNat_val]

variable {c : CodePoint}

/-! ## Raising and lowering -/

/-- The number of a raised code point. -/
theorem raised_cases (c : CodePoint) :
    (0x61 ≤ c.val ∧ c.val ≤ 0x7A ∧ c.raised.val = c.val - 0x20)
      ∨ ((c.val < 0x61 ∨ 0x7A < c.val) ∧ c.raised.val = c.val) := by
  unfold raised
  split
  · next h => exact .inl ⟨h.1, h.2, val_ofNat (by omega)⟩
  · next h => exact .inr ⟨by omega, rfl⟩

/-- The number of a lowered code point. -/
theorem lowered_cases (c : CodePoint) :
    (0x41 ≤ c.val ∧ c.val ≤ 0x5A ∧ c.lowered.val = c.val + 0x20)
      ∨ ((c.val < 0x41 ∨ 0x5A < c.val) ∧ c.lowered.val = c.val) := by
  unfold lowered
  split
  · next h => exact .inl ⟨h.1, h.2, val_ofNat (by omega)⟩
  · next h => exact .inr ⟨by omega, rfl⟩

/-- Raising forgets the case of a letter. -/
theorem raised_raised (c : CodePoint) : c.raised.raised = c.raised := by
  have hc := raised_cases c
  have hraised := raised_cases c.raised
  apply eq_of_val
  omega

theorem raised_lowered (c : CodePoint) : c.lowered.raised = c.raised := by
  have hc := raised_cases c
  have hlow := lowered_cases c
  have hraised := raised_cases c.lowered
  apply eq_of_val
  omega

theorem lowered_raised (c : CodePoint) : c.raised.lowered = c.lowered := by
  have hc := raised_cases c
  have hlow := lowered_cases c
  have hlowered := lowered_cases c.raised
  apply eq_of_val
  omega

theorem lowered_lowered (c : CodePoint) : c.lowered.lowered = c.lowered := by
  have hc := lowered_cases c
  have hlowered := lowered_cases c.lowered
  apply eq_of_val
  omega

/-! ## Classes -/

theorem isAsciiLetter_iff :
    c.isAsciiLetter = true ↔ (0x41 ≤ c.val ∧ c.val ≤ 0x5A) ∨ (0x61 ≤ c.val ∧ c.val ≤ 0x7A) := by
  simp only [isAsciiLetter, Bool.or_eq_true, Bool.and_eq_true, decide_eq_true_eq]

theorem isAsciiDigit_iff : c.isAsciiDigit = true ↔ 0x30 ≤ c.val ∧ c.val ≤ 0x39 := by
  simp only [isAsciiDigit, Bool.and_eq_true, decide_eq_true_eq]

theorem isAsciiAlphanumeric_iff :
    c.isAsciiAlphanumeric = true ↔ c.isAsciiLetter = true ∨ c.isAsciiDigit = true :=
  Bool.or_eq_true_iff

theorem val_lt_of_letter (h : c.isAsciiLetter = true) : c.val < 0x80 := by
  rw [isAsciiLetter_iff] at h
  omega

theorem val_lt_of_alphanumeric (h : c.isAsciiAlphanumeric = true) : c.val < 0x80 := by
  rw [isAsciiAlphanumeric_iff, isAsciiLetter_iff, isAsciiDigit_iff] at h
  omega

theorem alphanumeric_of_letter (h : c.isAsciiLetter = true) : c.isAsciiAlphanumeric = true :=
  isAsciiAlphanumeric_iff.mpr (.inl h)

/-- Neither raising nor lowering leads out of the letters. -/
theorem letter_raised (h : c.isAsciiLetter = true) : c.raised.isAsciiLetter = true := by
  have hc := raised_cases c
  rw [isAsciiLetter_iff] at h ⊢
  omega

theorem letter_lowered (h : c.isAsciiLetter = true) : c.lowered.isAsciiLetter = true := by
  have hc := lowered_cases c
  rw [isAsciiLetter_iff] at h ⊢
  omega

theorem alphanumeric_raised (h : c.isAsciiAlphanumeric = true) :
    c.raised.isAsciiAlphanumeric = true := by
  have hc := raised_cases c
  rw [isAsciiAlphanumeric_iff, isAsciiLetter_iff, isAsciiDigit_iff] at h ⊢
  omega

theorem alphanumeric_lowered (h : c.isAsciiAlphanumeric = true) :
    c.lowered.isAsciiAlphanumeric = true := by
  have hc := lowered_cases c
  rw [isAsciiAlphanumeric_iff, isAsciiLetter_iff, isAsciiDigit_iff] at h ⊢
  omega

/-! ## The tables -/

/-- What the tables of case maps and classes say about a code point of ASCII. -/
structure AsTables (c : CodePoint) : Prop where
  upper : c.upper = [c.raised]
  lower : c.lower = [c.lowered]
  title : c.title = [c.raised]
  /-- In ASCII the letters of all scripts are those of the basic Latin alphabet. -/
  letter : c.isLetter = c.isAsciiLetter
  cased : c.isAsciiLetter = true → c.isCased = true
  not_blank : c.isAsciiAlphanumeric = true → c.isBlank = false

instance : DecidablePred AsTables := fun c =>
  decidable_of_iff (c.upper = [c.raised] ∧ c.lower = [c.lowered] ∧ c.title = [c.raised]
      ∧ c.isLetter = c.isAsciiLetter ∧ (c.isAsciiLetter = true → c.isCased = true)
      ∧ (c.isAsciiAlphanumeric = true → c.isBlank = false))
    ⟨fun ⟨hu, hl, ht, h, hc, hb⟩ => ⟨hu, hl, ht, h, hc, hb⟩,
      fun h => ⟨h.upper, h.lower, h.title, h.letter, h.cased, h.not_blank⟩⟩

/-- **The tables agree with ASCII**, checked point by point. -/
theorem asTables (h : c.val < 0x80) : AsTables c := by
  have hchecked : ∀ n ∈ List.range 0x80, AsTables (ofNat n) := by decide +kernel
  have hc := hchecked c.val (List.mem_range.mpr h)
  rwa [ofNat_val] at hc

end CodePoint

namespace Text

open CodePoint

/-- A text that is all ASCII. -/
def IsAscii (t : Text) : Prop := ∀ c ∈ t, c.val < 0x80

theorem IsAscii.tail {c : CodePoint} {t : Text} (h : IsAscii (c :: t)) : IsAscii t :=
  fun d hd => h d (List.mem_cons_of_mem c hd)

/-- The upper case of ASCII goes point by point. -/
theorem upper_ascii {t : Text} (h : IsAscii t) : t.upper = t.map raised := by
  unfold upper
  induction t with
  | nil => rfl
  | cons c t ih =>
      rw [List.flatMap_cons, (asTables (h c List.mem_cons_self)).upper, ih h.tail]
      rfl

/-- What stands around a code point of ASCII has no part in its lower case. -/
theorem lowerBetween_ascii (before : Text) {c : CodePoint} (h : c.val < 0x80) (after : Text) :
    lowerBetween before c after = [c.lowered] := by
  rw [lowerBetween, if_neg (by omega), (asTables h).lower]

theorem lowerFrom_ascii (before : Text) {t : Text} (h : IsAscii t) :
    lowerFrom before t = t.map lowered := by
  induction t generalizing before with
  | nil => rfl
  | cons c t ih =>
      rw [lowerFrom, lowerBetween_ascii before (h c List.mem_cons_self), ih _ h.tail]
      rfl

/-- The lower case of ASCII goes point by point. -/
theorem lower_ascii {t : Text} (h : IsAscii t) : t.lower = t.map lowered := lowerFrom_ascii [] h

/-- Within a word of ASCII letters title case is lower case. -/
theorem titleFrom_letters {before : Text} {b : CodePoint} (hb : b.isAsciiLetter = true) {t : Text}
    (h : ∀ c ∈ t, c.isAsciiLetter = true) : titleFrom (b :: before) t = t.map lowered := by
  induction t generalizing b before with
  | nil => rfl
  | cons c t ih =>
      have hc := h c List.mem_cons_self
      have ht : ∀ d ∈ t, d.isAsciiLetter = true := fun d hd => h d (List.mem_cons_of_mem c hd)
      rw [titleFrom, ih hc ht]
      simp only [(asTables (val_lt_of_letter hb)).cased hb, if_true]
      rw [lowerBetween_ascii _ (val_lt_of_letter hc)]
      rfl

/-- **The title case of a word of ASCII letters raises the first and lowers the others.** -/
theorem title_letters {c : CodePoint} {t : Text} (h : ∀ d ∈ c :: t, d.isAsciiLetter = true) :
    title (c :: t) = c.raised :: t.map lowered := by
  have hc := h c List.mem_cons_self
  have ht : ∀ d ∈ t, d.isAsciiLetter = true := fun d hd => h d (List.mem_cons_of_mem c hd)
  rw [title, titleFrom, titleFrom_letters hc ht]
  simp only [(asTables (val_lt_of_letter hc)).title]
  rfl

end Text

end Phrasebook
