import Mathlib.Data.List.Infix
import Phrasebook.Proofs.Text.Fold

/-!
# Words that only ASCII is written as

Texts are compared by their lower case in some places and by their upper case in others. The two do not agree in
general: a long s is an S in upper case, and the sign for kelvin a k in lower case. They do for a word of ASCII that no
other code point is mapped into (`IsApart`, which is read off the tables): the texts with the word for their lower case
are those with its capitals for their upper case (`lower_eq_iff`).
-/

namespace Phrasebook

namespace Unicode

variable {exceptions : List (Nat × List Nat)} {runs : List Run} {w : Text} {x : CodePoint}

/-- **`IsApart exceptions runs w`**: a case map takes no code point outside ASCII to a part of the word `w`. -/
def IsApart (exceptions : List (Nat × List Nat)) (runs : List Run) (w : Text) : Prop :=
  (∀ e ∈ exceptions, ¬e.2.map CodePoint.ofNat <:+: w)
    ∧ ∀ r ∈ runs, r.last < 0x80 ∨ (0 ≤ r.first + r.shift ∧ r.last + r.shift < 0x110000
      ∧ ∀ c ∈ w, c.val < r.first + r.shift ∨ r.last + r.shift < c.val)

instance : Decidable (IsApart exceptions runs w) := inferInstanceAs (Decidable (_ ∧ _))

theorem IsApart.val_lt (h : IsApart exceptions runs w) (hw : Text.IsAscii w) (hx : mapCase exceptions runs x <:+: w) :
    x.val < 0x80 := by
  rcases mapCase_cases exceptions runs x with ⟨image, himage, hmap⟩ | ⟨r, hr, hfirst, hlast, hmap⟩ | hmap
  · rw [hmap] at hx
    exact absurd hx (h.1 _ himage)
  · rw [hmap, List.singleton_infix_iff] at hx
    rcases h.2 r hr with hbelow | ⟨hlow, hhigh, hpast⟩
    · omega
    · have hval : (CodePoint.ofNat (Int.toNat (x.val + r.shift))).val = Int.toNat (x.val + r.shift) :=
        CodePoint.val_ofNat (by omega)
      have hcleared := hpast _ hx
      omega
  · rw [hmap, List.singleton_infix_iff] at hx
    exact hw x hx

end Unicode

namespace Text

open CodePoint Unicode

variable {t w : Text}

theorem raised_mem_upper {c : CodePoint} (hc : c.val < 0x80) (hmem : c ∈ t) : c.raised ∈ t.upper := by
  refine List.mem_flatMap.mpr ⟨c, hmem, ?_⟩
  rw [(asTables hc).upper]
  exact List.mem_singleton_self _

theorem isAscii_of_upper (hw : IsAscii w) (h : IsApart upperExceptions upperRuns w) (ht : t.upper = w) : IsAscii t := by
  intro c hc
  have hpart : c.upper <:+: t.upper := List.infix_flatMap_of_mem hc CodePoint.upper
  rw [ht] at hpart
  exact h.val_lt hw hpart

theorem exists_infix_lowerFrom {c : CodePoint} (before : Text) (hc : c ∈ t) :
    ∃ b a, lowerBetween b c a <:+: lowerFrom before t := by
  induction t generalizing before with
  | nil => cases hc
  | cons d t ih =>
      rw [lowerFrom]
      rcases List.mem_cons.mp hc with rfl | hc
      · exact ⟨before, t, (List.prefix_append _ _).isInfix⟩
      · obtain ⟨b, a, hpart⟩ := ih (d :: before) hc
        exact ⟨b, a, hpart.trans (List.suffix_append _ _).isInfix⟩

theorem isAscii_of_lower (hw : IsAscii w) (h : IsApart lowerExceptions lowerRuns w) (ht : t.lower = w) : IsAscii t := by
  intro c hc
  obtain ⟨b, a, hpart⟩ := exists_infix_lowerFrom [] hc
  change _ <:+: t.lower at hpart
  rw [ht, lowerBetween] at hpart
  split at hpart
  · -- Neither form of the small sigma is ASCII.
    split at hpart
    · exact absurd (hw _ ((List.singleton_infix_iff _ _).mp hpart)) (by decide)
    · exact absurd (hw _ ((List.singleton_infix_iff _ _).mp hpart)) (by decide)
  · exact h.val_lt hw hpart

/-- **A text is the word in lower case exactly if it is the word in capitals in upper case.** -/
theorem lower_eq_iff (hw : IsAscii w) (hsmall : w.map lowered = w) (hlower : IsApart lowerExceptions lowerRuns w)
    (hupper : IsApart upperExceptions upperRuns (w.map raised)) : t.lower = w ↔ t.upper = w.map raised := by
  constructor
  · intro ht
    have hascii := isAscii_of_lower hw hlower ht
    rw [lower_ascii hascii] at ht
    rw [upper_ascii hascii, ← ht, List.map_map]
    exact List.map_congr_left fun c _ => (raised_lowered c).symm
  · intro ht
    have hcapitals : IsAscii (w.map raised) := by
      intro c hc
      obtain ⟨d, hd, rfl⟩ := List.mem_map.mp hc
      have hd := hw d hd
      have hraised := raised_cases d
      omega
    -- No text but one in ASCII has these capitals, so the maps are those of ASCII letters.
    have hascii := isAscii_of_upper hcapitals hupper ht
    rw [upper_ascii hascii] at ht
    have hboth := congrArg (List.map lowered) ht
    rw [List.map_map, List.map_map] at hboth
    calc t.lower = t.map lowered := lower_ascii hascii
      _ = t.map (lowered ∘ raised) := List.map_congr_left fun c _ => (lowered_raised c).symm
      _ = w.map (lowered ∘ raised) := hboth
      _ = w.map lowered := List.map_congr_left fun c _ => lowered_raised c
      _ = w := hsmall

end Text

end Phrasebook
