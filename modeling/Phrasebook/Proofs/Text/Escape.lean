import Mathlib.Data.List.Basic
import Phrasebook.Text.Cursor
import Phrasebook.Text.Escape

/-!
# Texts written with escapes

A writer puts a backslash before the code points that its quotes could not hold, and gives some of them
another name (`escapedBy`). Decoding gives the text back, whichever code points the writer chose to escape, if
the backslash is among them (`unescape_escapedBy`).
-/

namespace Phrasebook.Text

/-- The text in which a code point `c` with `f c = some e` is written as a backslash and `e`. -/
def escapedBy (f : CodePoint → Option CodePoint) (t : Text) : Text :=
  t.flatMap fun c => (f c).elim [c] fun e => ['\\', e]

/-- **`IsEscape f`**: what `f` writes after a backslash decodes to what was written so, and a backslash is
never written as it is. -/
structure IsEscape (f : CodePoint → Option CodePoint) : Prop where
  decodes : ∀ {c e : CodePoint}, f c = some e → simpleEscape? e = some c
  backslash : f '\\' ≠ none

variable {f : CodePoint → Option CodePoint} {c e : CodePoint}

theorem escapedBy_plain (h : f c = none) (t : Text) : escapedBy f (c :: t) = c :: escapedBy f t := by
  rw [escapedBy, List.flatMap_cons, h]
  rfl

theorem escapedBy_pair (h : f c = some e) (t : Text) :
    escapedBy f (c :: t) = CodePoint.ofChar '\\' :: e :: escapedBy f t := by
  rw [escapedBy, List.flatMap_cons, h]
  rfl

/-- A code point that is written as it is is no backslash. -/
theorem IsEscape.ne_backslash (hf : IsEscape f) (h : f c = none) : c ≠ CodePoint.ofChar '\\' := by
  rintro rfl
  exact hf.backslash h

/-- The code points that known escapes end with, the hexadecimal one apart. -/
def marks : List CodePoint := ['"', '\\', '/', 'b', 'f', 'n', 'r', 't']

theorem mem_marks (h : simpleEscape? e = some c) : e ∈ marks := by
  by_contra hnot
  simp only [marks, List.mem_cons, List.not_mem_nil, not_or, or_false] at hnot
  obtain ⟨hquote, hbackslash, hslash, hb, hf, hn, hr, ht⟩ := hnot
  rw [simpleEscape?, if_neg (by rintro (h | h | h) <;> contradiction), if_neg hb, if_neg hf, if_neg hn,
    if_neg hr, if_neg ht] at h
  cases h

/-- What a known escape ends with neither breaks a line nor is a blank. -/
theorem mark_apart (h : simpleEscape? e = some c) :
    Cursor.isBreak e = false ∧ Cursor.isInlineBlank e = false := by
  have hall : ∀ x ∈ marks, Cursor.isBreak x = false ∧ Cursor.isInlineBlank x = false := by decide
  exact hall e (mem_marks h)

theorem unescapeFrom_plain (h : c ≠ CodePoint.ofChar '\\') (t : Text) :
    unescapeFrom 0 (c :: t) = c :: unescapeFrom 0 t := by
  rw [unescapeFrom.eq_def]
  exact if_neg h

theorem unescapeFrom_pair (h : simpleEscape? e = some c) (t : Text) :
    unescapeFrom 0 (CodePoint.ofChar '\\' :: e :: t) = c :: unescapeFrom 0 t := by
  simp only [unescapeFrom, if_pos, h]

/-- **Decoding undoes escaping.** -/
theorem unescape_escapedBy (hf : IsEscape f) (t : Text) : unescape (escapedBy f t) = t := by
  unfold unescape
  induction t with
  | nil => rfl
  | cons c t ih =>
      cases hc : f c with
      | none => rw [escapedBy_plain hc, unescapeFrom_plain (hf.ne_backslash hc), ih]
      | some e => rw [escapedBy_pair hc, unescapeFrom_pair (hf.decodes hc), ih]

end Phrasebook.Text
