import Phrasebook.Proofs.Text.Escape
import Phrasebook.Proofs.Text.Hexadecimal
import Phrasebook.Text.Quoted

/-!
# All ways to write a text with escapes

A writer may choose anew for each code point how to write it: as it is, unless it is the backslash, by an escape of
two code points if it has one, or by the four hexadecimal digits of its number if these are enough, in small letters
and capitals as it likes. `EscapedText s t` says that `t` is one of the texts that write `s`.

What is written for one code point decodes to it whatever comes next (`unescapeFrom_pointText`): an escape takes all
of its own code points and none of its neighbours'. So decoding undoes every way of writing.
-/

namespace Phrasebook.Text

/-! ## Writing -/

/-- The escapes of two code points: what follows the backslash, and what the two stand for. -/
def shortEscapes : List (CodePoint × CodePoint) :=
  [('"', '"'), ('\\', '\\'), ('/', '/'), ('b', CodePoint.ofNat 0x08), ('f', CodePoint.ofNat 0x0C), ('n', '\n'),
    ('r', '\r'), ('t', '\t')]

/-- **`PointText c w`**: `w` writes the code point `c`. -/
inductive PointText : CodePoint → Text → Prop
  | plain {c : CodePoint} (h : c ≠ '\\') : PointText c [c]
  | short {e c : CodePoint} (h : (e, c) ∈ shortEscapes) : PointText c ['\\', e]
  | hexadecimal {c : CodePoint} (digits : Text) (hc : c.val < 0x10000)
      (hdigits : digits.map CodePoint.lowered = hexField 4 c.val) : PointText c ('\\' :: 'u' :: digits)

/-- **`EscapedText s t`**: `t` writes the code points of `s` one after the other. -/
inductive EscapedText : Text → Text → Prop
  | nil : EscapedText [] []
  | cons {c : CodePoint} {s w t : Text} (hw : PointText c w) (ht : EscapedText s t) : EscapedText (c :: s) (w ++ t)

variable {c e : CodePoint} {s t w digits : Text}

/-! ## Hexadecimal digits -/

theorem hexValue?_lowered (c : CodePoint) : c.lowered.hexValue? = c.hexValue? := by
  rw [← CodePoint.hexValue?_raised c.lowered, CodePoint.raised_lowered, CodePoint.hexValue?_raised]

theorem hexNumber?_lowered (t : Text) : hexNumber? (t.map CodePoint.lowered) = hexNumber? t := by
  simp only [hexNumber?, List.foldl_map, hexValue?_lowered]

/-- Four digits are enough for a number below `16 ^ 4`. -/
theorem length_hexField {n : Nat} (h : n < 0x10000) : (hexField 4 n).length = 4 := by
  have hle : (ofNatHex n).length ≤ 4 := (length_ofNatHex_le_iff n 4 (by decide)).mpr h
  rw [hexField, padLeft, List.length_append, List.length_replicate]
  omega

theorem hexNumber?_hexField (width n : Nat) : hexNumber? (hexField width n) = some n := by
  rw [hexField, padLeft, ← zeros, hexNumber?_zeros, hexNumber?_ofNatHex]

/-- Four digits are read as any number of them is. -/
theorem fourHexDigits?_append (h : digits.length = 4) (t : Text) :
    fourHexDigits? (digits ++ t) = hexNumber? digits := by
  match digits, h with
  | [a, b, c, d], _ =>
      show fourHexDigits? (a :: b :: c :: d :: t) = hexNumber? [a, b, c, d]
      simp only [fourHexDigits?, hexNumber?, List.foldl_cons, List.foldl_nil]
      cases a.hexValue? <;> cases b.hexValue? <;> cases c.hexValue? <;> cases d.hexValue? <;> simp

/-! ## Decoding -/

/-- The decoder knows the escapes of two code points. -/
theorem simpleEscape?_of_mem (h : (e, c) ∈ shortEscapes) : simpleEscape? e = some c := by
  have hall : ∀ p ∈ shortEscapes, simpleEscape? p.1 = some p.2 := by decide
  exact hall (e, c) h

theorem unescapeFrom_skip (w t : Text) : unescapeFrom w.length (w ++ t) = unescapeFrom 0 t := by
  induction w with
  | nil => rfl
  | cons c w ih => exact ih

theorem unescapeFrom_hexadecimal {n : Nat} (hlength : digits.length = 4) (hn : hexNumber? digits = some n) (t : Text) :
    unescapeFrom 0 ('\\' :: 'u' :: (digits ++ t)) = CodePoint.ofNat n :: unescapeFrom 0 t := by
  have hu : simpleEscape? 'u' = none := by decide
  -- Of the six code points five are skipped once the first has been decoded.
  have hskip : unescapeFrom 5 ('u' :: (digits ++ t)) = unescapeFrom 0 t := by
    rw [← unescapeFrom_skip ('u' :: digits) t, List.length_cons, hlength, List.cons_append]
  rw [unescapeFrom.eq_def]
  simp only [if_true, hu, fourHexDigits?_append hlength, hn, hskip]

/-- **What is written for a code point decodes to it, whatever follows.** -/
theorem unescapeFrom_pointText (h : PointText c w) (t : Text) :
    unescapeFrom 0 (w ++ t) = c :: unescapeFrom 0 t := by
  cases h with
  | plain hc => exact unescapeFrom_plain hc t
  | short hmem => exact unescapeFrom_pair (simpleEscape?_of_mem hmem) t
  | hexadecimal digits hc hdigits =>
      have hlength : digits.length = 4 := by
        rw [← length_hexField hc, ← hdigits, List.length_map]
      have hn : hexNumber? digits = some c.val := by
        rw [← hexNumber?_lowered, hdigits, hexNumber?_hexField]
      have hstep := unescapeFrom_hexadecimal hlength hn t
      rw [CodePoint.ofNat_val] at hstep
      exact hstep

/-- **Decoding undoes every way of writing**: a text is decoded from each of the texts that write it. -/
theorem unescape_of_escapedText (h : EscapedText s t) : unescape t = s := by
  unfold unescape
  induction h with
  | nil => rfl
  | cons hw _ ih => rw [unescapeFrom_pointText hw, ih]

/-- An escaped backslash before an `n` makes no line feed, one that is written in digits starts no further escape, and
digits may follow the four digits of an escape. -/
theorem unescape_backslashes :
    EscapedText "\\n\\u0041\u00e90" "\\\\n\\u005Cu0041\\u00e90" ∧
      unescape "\\\\n\\u005Cu0041\\u00e90" = ("\\n\\u0041\u00e90" : Text) := by
  have htext : EscapedText "\\n\\u0041\u00e90" "\\\\n\\u005Cu0041\\u00e90" :=
    .cons (.short (e := '\\') (by decide)) <|
    .cons (.plain (by decide)) <|
    .cons (.hexadecimal "005C" (by decide) (by decide +kernel)) <|
    .cons (.plain (by decide)) <|
    .cons (.plain (by decide)) <|
    .cons (.plain (by decide)) <|
    .cons (.plain (by decide)) <|
    .cons (.plain (by decide)) <|
    .cons (.hexadecimal "00e9" (by decide) (by decide +kernel)) <|
    .cons (.plain (by decide)) .nil
  exact ⟨htext, unescape_of_escapedText htext⟩

end Phrasebook.Text
