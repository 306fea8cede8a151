import Phrasebook.Proofs.Text.Ascii
import Phrasebook.Proofs.Text.Numerals

/-!
# Hexadecimal notation, written and read

The digits that `Text.ofNatHex` writes are read back, in capitals too and with zeros before them. A hexadecimal
numeral is more than its value: `IsHexNumeral` also says where its sign stands, before all digits and nowhere
else, and how many digits it has at least.
-/

namespace Phrasebook

namespace CodePoint

/-- Letters are digits of the same value in both cases. -/
theorem hexValue?_raised (c : CodePoint) : c.raised.hexValue? = c.hexValue? := by
  have hc := raised_cases c
  unfold hexValue?
  repeat' split
  all_goals first | omega | exact congrArg some (by omega) | rfl

end CodePoint

/-! ## Reading -/

/-- The number written by hexadecimal digits of either case; none if something else stands among them. -/
def hexNumber? (t : Text) : Option Nat :=
  t.foldl (fun n c => do return (← n) * 16 + (← c.hexValue?)) (some 0)

/-- The integer written by hexadecimal digits, perhaps with a minus sign before them. -/
def hexInteger? : Text → Option Int
  | [] => none
  | c :: t =>
    if c = '-' then if t.isEmpty then none else (hexNumber? t).map fun n => -(n : Int)
    else (hexNumber? (c :: t)).map fun n => (n : Int)

/-- **`IsHexNumeral width n t`**: the text `t` is a sign or nothing and at least `width` hexadecimal digits, and
writes the integer `n`. -/
structure IsHexNumeral (width : Nat) (n : Int) (t : Text) : Prop where
  shape : ∃ sign digits : Text, t = sign ++ digits ∧ (sign = [] ∨ sign = "-") ∧ width ≤ digits.length
    ∧ ∀ c ∈ digits, c.hexValue?.isSome = true
  reads : hexInteger? t = some n

variable {t : Text} {n : Nat}

theorem hexNumber?_append (t : Text) (c : CodePoint) :
    hexNumber? (t ++ [c]) = (do return (← hexNumber? t) * 16 + (← c.hexValue?)) := by
  simp only [hexNumber?, List.foldl_append, List.foldl_cons, List.foldl_nil]

/-- Nothing but digits is read. -/
theorem isSome_of_hexNumber? (h : hexNumber? t = some n) : ∀ c ∈ t, c.hexValue?.isSome = true := by
  induction t using List.reverseRecOn generalizing n with
  | nil => exact fun c hc => nomatch hc
  | append_singleton t d ih =>
      rw [hexNumber?_append] at h
      obtain ⟨m, hm, h⟩ := Option.bind_eq_some_iff.mp h
      obtain ⟨k, hk, -⟩ := Option.bind_eq_some_iff.mp h
      intro c hc
      rcases List.mem_append.mp hc with hc | hc
      · exact ih hm c hc
      · rw [List.mem_singleton.mp hc, hk]
        rfl

theorem hexNumber?_raised (t : Text) : hexNumber? (t.map CodePoint.raised) = hexNumber? t := by
  simp only [hexNumber?, List.foldl_map, CodePoint.hexValue?_raised]

/-- Zeros before a number do not count. -/
theorem hexNumber?_zeros (k : Nat) (t : Text) : hexNumber? (Text.zeros k ++ t) = hexNumber? t := by
  induction k with
  | zero => rfl
  | succ k ih => exact ih

/-- The minus sign is no digit. -/
theorem hexValue?_minus : CodePoint.hexValue? '-' = none := by decide

/-- A numeral without a sign. -/
theorem isHexNumeral_plain {width : Nat} (hne : t ≠ []) (hwidth : width ≤ t.length) (h : hexNumber? t = some n) :
    IsHexNumeral width n t where
  shape := ⟨[], t, rfl, .inl rfl, hwidth, isSome_of_hexNumber? h⟩
  reads := by
    obtain ⟨c, rest, rfl⟩ := List.exists_cons_of_ne_nil hne
    have hc : c ≠ CodePoint.ofChar '-' := by
      rintro rfl
      have hsome := isSome_of_hexNumber? h _ List.mem_cons_self
      rw [hexValue?_minus] at hsome
      cases hsome
    rw [hexInteger?, if_neg hc, h]
    rfl

/-- A numeral with a sign. -/
theorem isHexNumeral_minus {width : Nat} (hne : t ≠ []) (hwidth : width ≤ t.length) (h : hexNumber? t = some n) :
    IsHexNumeral width (-(n : Int)) (CodePoint.ofChar '-' :: t) where
  shape := ⟨"-", t, rfl, .inr rfl, hwidth, isSome_of_hexNumber? h⟩
  reads := by
    rw [hexInteger?, if_pos rfl, if_neg (by simpa using hne), h]
    rfl

/-- **A numeral has its sign before all digits.** -/
theorem IsHexNumeral.minus_first {width k : Nat} {m : Int}
    (h : IsHexNumeral width m (Text.zeros k ++ CodePoint.ofChar '-' :: t)) : k = 0 ∧ width ≤ t.length := by
  obtain ⟨sign, digits, hsplit, hsign, hwidth, hdigits⟩ := h.shape
  have hnot : CodePoint.ofChar '-' ∉ digits := by
    intro hmem
    have hsome := hdigits _ hmem
    rw [hexValue?_minus] at hsome
    cases hsome
  rcases hsign with rfl | rfl
  · -- The sign would be among the digits.
    rw [List.nil_append] at hsplit
    rw [← hsplit] at hnot
    exact absurd (List.mem_append_right _ List.mem_cons_self) hnot
  · cases k with
    | zero =>
        have htail : t = digits := (List.cons.inj hsplit).2
        rw [htail]
        exact ⟨rfl, hwidth⟩
    | succ k =>
        have hfirst : CodePoint.ofChar '0' = CodePoint.ofChar '-' := (List.cons.inj hsplit).1
        exact absurd hfirst (by decide)

/-! ## Writing -/

namespace Text

theorem hexValue?_digit : ∀ d < 16, (digit d).hexValue? = some d := by decide

theorem digit_lt : ∀ d < 16, (digit d).val < 0x80 := by decide

theorem ofNatHex_ne_nil (n : Nat) : ofNatHex n ≠ [] := digitsOnto_ne_nil _ n

/-- **A number has at most `k` hexadecimal digits exactly if it is below `16 ^ k`.** -/
theorem length_ofNatHex_le_iff (n k : Nat) (hk : 0 < k) : (ofNatHex n).length ≤ k ↔ n < 16 ^ k :=
  length_digitsOnto_le_iff _ n k hk

/-- **Hexadecimal notation is read back.** -/
theorem hexNumber?_ofNatHex (n : Nat) : hexNumber? (ofNatHex n) = some n := by
  unfold ofNatHex
  have hbase : 1 < 16 := by decide
  induction n using digits_induction hbase with
  | small n h =>
      rw [digitsOnto_of_lt _ h]
      simp [hexNumber?, hexValue?_digit n h]
  | more n h ih =>
      rw [digitsOnto_of_ge _ h, hexNumber?_append, ih, hexValue?_digit _ (Nat.mod_lt n (by decide))]
      show some (n / 16 * 16 + n % 16) = some n
      rw [Nat.div_add_mod']

theorem isAscii_ofNatHex (n : Nat) : IsAscii (ofNatHex n) := by
  unfold ofNatHex
  have hbase : 1 < 16 := by decide
  induction n using digits_induction hbase with
  | small n h =>
      rw [digitsOnto_of_lt _ h]
      intro c hc
      rw [List.mem_singleton.mp hc]
      exact digit_lt n h
  | more n h ih =>
      rw [digitsOnto_of_ge _ h]
      intro c hc
      rcases List.mem_append.mp hc with hc | hc
      · exact ih c hc
      · rw [List.mem_singleton.mp hc]
        exact digit_lt _ (Nat.mod_lt n (by decide))

end Text

end Phrasebook
