import Mathlib.Data.List.DropRight
import Phrasebook.Unicode.Properties

/-!
# Runs of code points

A reader takes code points as long as they have a property. `takeWhile_run` and `dropWhile_run` say
that it takes exactly what a writer put there, if what comes next lacks the property. `doubled` is how
writers protect a code point: they write it twice.
-/

namespace Phrasebook.Text

/-- **`Stops p t`**: a run of code points with the property `p` ends where `t` begins. -/
def Stops (p : CodePoint → Bool) (t : Text) : Prop := ∀ c ∈ t.head?, p c = false

variable {p : CodePoint → Bool}

theorem stops_nil : Stops p [] := by
  intro c hc
  cases hc

theorem stops_cons {c : CodePoint} {t : Text} : Stops p (c :: t) ↔ p c = false := by
  constructor
  · intro h
    exact h c rfl
  · intro h d hd
    obtain rfl := Option.some.inj hd
    exact h

theorem takeWhile_of_stops {t : Text} (h : Stops p t) : t.takeWhile p = [] := by
  cases t with
  | nil => rfl
  | cons c t => rw [List.takeWhile_cons_of_neg (by simp [stops_cons.mp h])]

theorem dropWhile_of_stops {t : Text} (h : Stops p t) : t.dropWhile p = t := by
  cases t with
  | nil => rfl
  | cons c t => rw [List.dropWhile_cons_of_neg (by simp [stops_cons.mp h])]

/-- The whole of a run is taken. -/
theorem takeWhile_run {run rest : Text} (hp : ∀ c ∈ run, p c = true) (h : Stops p rest) :
    (run ++ rest).takeWhile p = run := by
  rw [List.takeWhile_append_of_pos hp, takeWhile_of_stops h, List.append_nil]

/-- Nothing but the run is taken. -/
theorem dropWhile_run {run rest : Text} (hp : ∀ c ∈ run, p c = true) (h : Stops p rest) :
    (run ++ rest).dropWhile p = rest := by
  rw [List.dropWhile_append_of_pos hp, dropWhile_of_stops h]

/-- A run is no longer for what stands after it, if that does not go on with it. -/
theorem takeWhile_append_of_stops (t : Text) {rest : Text} (h : Stops p rest) :
    (t ++ rest).takeWhile p = t.takeWhile p := by
  induction t with
  | nil => exact takeWhile_of_stops h
  | cons c t ih =>
      rw [List.cons_append, List.takeWhile_cons, List.takeWhile_cons, ih]

theorem dropWhile_append_of_stops (t : Text) {rest : Text} (h : Stops p rest) :
    (t ++ rest).dropWhile p = t.dropWhile p ++ rest := by
  induction t with
  | nil => exact dropWhile_of_stops h
  | cons c t ih =>
      rw [List.cons_append, List.dropWhile_cons, List.dropWhile_cons, ih]
      split <;> rfl

theorem drop_takeWhile (p : CodePoint → Bool) (t : Text) : t.drop (t.takeWhile p).length = t.dropWhile p := by
  calc t.drop (t.takeWhile p).length
      = (t.takeWhile p ++ t.dropWhile p).drop (t.takeWhile p).length := by rw [List.takeWhile_append_dropWhile]
    _ = t.dropWhile p := List.drop_left

theorem stops_dropWhile (p : CodePoint → Bool) (w : Text) : Stops p (w.dropWhile p) := by
  intro c hc
  have hnot := List.head?_dropWhile_not p w
  rw [Option.mem_def.mp hc] at hnot
  simpa using hnot

/-- Whether a run ends where a text begins is up to the first code point. -/
theorem stops_append {v : Text} (hne : v ≠ []) (u : Text) : Stops p (v ++ u) ↔ Stops p v := by
  obtain ⟨c, v, rfl⟩ := List.exists_cons_of_ne_nil hne
  rw [List.cons_append, stops_cons, stops_cons]

/-- The text with every code point written twice that has the property `p`. -/
def doubled (p : CodePoint → Bool) (t : Text) : Text := t.flatMap fun c => if p c then [c, c] else [c]

theorem doubled_nil : doubled p [] = [] := rfl

theorem doubled_cons_of_pos {c : CodePoint} (hc : p c = true) (t : Text) :
    doubled p (c :: t) = c :: c :: doubled p t := by
  simp [doubled, hc]

theorem doubled_cons_of_neg {c : CodePoint} (hc : p c = false) (t : Text) :
    doubled p (c :: t) = c :: doubled p t := by
  simp [doubled, hc]

/-- A code point that is not white space stays where it is. -/
theorem stripStart_of_stops {t : Text} (h : Stops CodePoint.isBlank t) : stripStart t = t :=
  dropWhile_of_stops h

/-- A text without white space at its ends stays as it is. -/
theorem strip_of_stops {t : Text} (h : Stops CodePoint.isBlank t)
    (hr : Stops CodePoint.isBlank t.reverse) : strip t = t := by
  rw [strip, stripEnd, stripStart_of_stops h, stripStart_of_stops hr, List.reverse_reverse]

/-- A text that stays as it is without the white space at its ends has none there. -/
theorem strip_eq_self_iff {t : Text} :
    strip t = t ↔ Stops CodePoint.isBlank t ∧ Stops CodePoint.isBlank t.reverse := by
  constructor
  · intro h
    have hshort : (strip t).length ≤ (stripStart t).length := by
      have hreverse : stripStart (stripStart t).reverse <:+ (stripStart t).reverse := List.dropWhile_suffix _
      simpa only [strip, stripEnd, List.length_reverse] using hreverse.length_le
    have hsuffix : stripStart t <:+ t := List.dropWhile_suffix _
    rw [h] at hshort
    have hstart : stripStart t = t := hsuffix.eq_of_length (Nat.le_antisymm hsuffix.length_le hshort)
    have hend : stripStart t.reverse = t.reverse := by
      rw [strip, hstart, stripEnd] at h
      exact List.reverse_eq_iff.mp h
    exact ⟨hstart ▸ stops_dropWhile _ t, hend ▸ stops_dropWhile _ t.reverse⟩
  · rintro ⟨hstart, hend⟩
    exact strip_of_stops hstart hend

/-- One blank is passed over. -/
theorem stripStart_space {t : Text} (h : Stops CodePoint.isBlank t) : stripStart (' ' :: t) = t := by
  rw [stripStart, List.dropWhile_cons_of_pos (by decide), dropWhile_of_stops h]

/-- White space before a text is passed over with what the text starts with. -/
theorem stripStart_append {b : Text} (hb : ∀ c ∈ b, c.isBlank = true) (t : Text) :
    stripStart (b ++ t) = stripStart t :=
  List.dropWhile_append_of_pos hb

/-- White space is passed over only once. -/
theorem stripStart_stripStart (t : Text) : stripStart (stripStart t) = stripStart t :=
  List.dropWhile_idempotent CodePoint.isBlank t

/-- What `dropLead?` looks for is what it leaves out. -/
theorem dropLead?_append (lead t : Text) : dropLead? lead (lead ++ t) = some t := by
  induction lead with
  | nil => rfl
  | cons c lead ih => simp [dropLead?, ih]

theorem eq_of_dropLead? {lead t rest : Text} (h : dropLead? lead t = some rest) : t = lead ++ rest := by
  induction lead generalizing t with
  | nil =>
      obtain rfl := Option.some.inj h
      rfl
  | cons c lead ih =>
      cases t with
      | nil => cases h
      | cons d t =>
          rw [dropLead?] at h
          split at h
          · next hc => rw [hc, ih h, List.cons_append]
          · cases h

/-- Text with a code point that does not belong to `lead` tells whether it starts with that. -/
theorem dropLead?_eq_none {lead v u : Text} {c : CodePoint} (hc : c ∈ v) (hlead : c ∉ lead)
    (h : dropLead? lead (v ++ u) = none) (w : Text) : dropLead? lead (v ++ w) = none := by
  cases hw : dropLead? lead (v ++ w) with
  | none => rfl
  | some rest =>
      exfalso
      rcases List.append_eq_append_iff.mp (eq_of_dropLead? hw) with ⟨x, rfl, -⟩ | ⟨x, rfl, -⟩
      · exact hlead (List.mem_append_left x hc)
      · rw [List.append_assoc, dropLead?_append] at h
        cases h

theorem startsWith_iff {t lead : Text} : startsWith t lead = true ↔ ∃ rest, t = lead ++ rest := by
  constructor
  · intro h
    obtain ⟨rest, hrest⟩ := Option.isSome_iff_exists.mp h
    exact ⟨rest, eq_of_dropLead? hrest⟩
  · rintro ⟨rest, rfl⟩
    rw [startsWith, dropLead?_append]
    rfl

/-- A text without `c` is cut where the first `c` stands. -/
theorem cut_append {c : CodePoint} {t : Text} (h : c ∉ t) (rest : Text) :
    cut c (t ++ c :: rest) = (t, some rest) := by
  induction t with
  | nil => simp [cut]
  | cons d t ih =>
      have hd : d ≠ c := fun hdc => h (by simp [hdc])
      have ht : c ∉ t := fun hc => h (List.mem_cons_of_mem d hc)
      simp [cut, hd, ih ht]

/-- A text is cut at a `c` that stands in it. -/
theorem eq_of_cut {c : CodePoint} {t before rest : Text} (h : cut c t = (before, some rest)) :
    t = before ++ c :: rest := by
  induction t generalizing before with
  | nil => cases h
  | cons d t ih =>
      by_cases hd : d = c
      · rw [cut, if_pos hd] at h
        cases h
        rw [hd, List.nil_append]
      · rw [cut, if_neg hd] at h
        obtain ⟨rfl, hrest⟩ := Prod.mk.inj h
        rw [List.cons_append, ← ih (Prod.ext rfl hrest)]

/-- Before the place where a text is cut, no `c` stands. -/
theorem not_mem_of_cut {c : CodePoint} {t before rest : Text} (h : cut c t = (before, some rest)) :
    c ∉ before := by
  induction t generalizing before with
  | nil => cases h
  | cons d t ih =>
      by_cases hd : d = c
      · rw [cut, if_pos hd] at h
        cases h
        exact List.not_mem_nil
      · rw [cut, if_neg hd] at h
        obtain ⟨rfl, hrest⟩ := Prod.mk.inj h
        intro hmem
        rcases List.mem_cons.mp hmem with hc | hmem
        · exact hd hc.symm
        · exact ih (Prod.ext rfl hrest) hmem

/-- What is dropped from the start of a text is white space. -/
theorem eq_stripStart (t : Text) : ∃ u, (∀ c ∈ u, c.isBlank = true) ∧ t = u ++ stripStart t :=
  ⟨t.takeWhile CodePoint.isBlank, fun _ => List.mem_takeWhile_imp, List.takeWhile_append_dropWhile.symm⟩

theorem mem_stripStart {t : Text} {c : CodePoint} (h : c ∈ t) : c.isBlank = true ∨ c ∈ stripStart t := by
  obtain ⟨u, hu, ht⟩ := eq_stripStart t
  rw [ht, List.mem_append] at h
  exact h.imp_left (hu c)

theorem mem_of_mem_strip {t : Text} {c : CodePoint} (h : c ∈ strip t) : c ∈ t := by
  have hstart : c ∈ stripStart t :=
    List.mem_reverse.mp ((List.dropWhile_suffix _).mem (List.mem_reverse.mp h))
  exact (List.dropWhile_suffix _).mem hstart

/-- Stripping a text loses nothing but white space. -/
theorem mem_strip {t : Text} {c : CodePoint} (h : c ∈ t) : c.isBlank = true ∨ c ∈ strip t := by
  rcases mem_stripStart h with h | h
  · exact .inl h
  · rw [strip, stripEnd, List.mem_reverse]
    exact mem_stripStart (List.mem_reverse.mpr h)

/-! ## Words between white space -/

/-- **`Surrounded w t`**: `t` is the text `w` with white space around it. -/
def Surrounded (w t : Text) : Prop :=
  ∃ b b', (∀ c ∈ b, c.isBlank = true) ∧ (∀ c ∈ b', c.isBlank = true) ∧ t = b ++ (w ++ b')

theorem surrounded_self (w : Text) : Surrounded w w :=
  ⟨[], [], by simp, by simp, by simp⟩

theorem surrounded_space (w : Text) : Surrounded w (' ' :: w) := by
  refine ⟨[' '], [], ?_, by simp, by simp⟩
  intro c hc
  rw [List.mem_singleton.mp hc]
  decide

/-- What is surrounded starts with white space or with the word. -/
theorem head?_surrounded {w t : Text} (h : Surrounded w t) (hne : w ≠ []) (rest : Text) :
    ∃ c, (t ++ rest).head? = some c ∧ (c.isBlank = true ∨ c ∈ w) := by
  obtain ⟨b, b', hb, -, rfl⟩ := h
  obtain ⟨d, w, rfl⟩ := List.exists_cons_of_ne_nil hne
  cases b with
  | nil => exact ⟨d, rfl, .inr (by simp)⟩
  | cons c b => exact ⟨c, rfl, .inl (hb c (by simp))⟩

/-- **A word is read with the white space around it**, up to a code point that belongs to neither. -/
theorem read_surrounded {w t : Text} (h : Surrounded w t) (hne : w ≠ []) (hw : ∀ c ∈ w, p c = true)
    (hp : ∀ c, p c = true → c.isBlank = false) {c : CodePoint} (hc : p c = false)
    (hblank : c.isBlank = false) (rest : Text) :
    ∃ v, stripStart (t ++ c :: rest) = w ++ v ∧ (w ++ v).takeWhile p = w ∧ stripStart v = c :: rest := by
  obtain ⟨b, b', hb, hb', rfl⟩ := h
  refine ⟨b' ++ c :: rest, ?_, ?_, dropWhile_run hb' (stops_cons.mpr hblank)⟩
  · have hstops : Stops CodePoint.isBlank (w ++ (b' ++ c :: rest)) := by
      obtain ⟨d, w, rfl⟩ := List.exists_cons_of_ne_nil hne
      exact stops_cons.mpr (hp d (hw d (by simp)))
    rw [List.append_assoc, List.append_assoc]
    exact dropWhile_run hb hstops
  · apply takeWhile_run hw
    cases b' with
    | nil => exact stops_cons.mpr hc
    | cons d b' =>
        -- White space is no part of the word, or it would not be white space.
        apply stops_cons.mpr
        by_contra hd
        have hnot := hp d (by simpa using hd)
        rw [hb' d (by simp)] at hnot
        cases hnot

/-- What is left after a word and the white space around it tells where they stood. -/
theorem surrounded_of_read {t rest : Text} {c : CodePoint}
    (h : stripStart ((stripStart t).drop ((stripStart t).takeWhile p).length) = c :: rest) :
    ∃ lead, Surrounded ((stripStart t).takeWhile p) lead ∧ t = lead ++ c :: rest := by
  obtain ⟨b, hb, ht⟩ := eq_stripStart t
  generalize stripStart t = v at *
  obtain ⟨b', hb', hv⟩ := eq_stripStart (v.drop (v.takeWhile p).length)
  rw [h] at hv
  have hsplit : v.takeWhile p ++ v.drop (v.takeWhile p).length = v :=
    List.prefix_iff_eq_append.mp (List.takeWhile_prefix p)
  refine ⟨b ++ (v.takeWhile p ++ b'), ⟨b, b', hb, hb', rfl⟩, ?_⟩
  calc t = b ++ (v.takeWhile p ++ v.drop (v.takeWhile p).length) := by rw [hsplit, ht]
    _ = b ++ (v.takeWhile p ++ (b' ++ c :: rest)) := by rw [hv]
    _ = b ++ (v.takeWhile p ++ b') ++ c :: rest := by simp

end Phrasebook.Text
