import Mathlib.Data.List.Basic
import Phrasebook.Proofs.Text.Runs

/-!
# Parts of a text

Splitting a text at a separator and joining the parts undo each other, and a map of code points that
leaves the separator alone goes through both.
-/

namespace Phrasebook

namespace Text

theorem strip_eq_self {t : Text} (h : ∀ c ∈ t, c.isBlank = false) : strip t = t := by
  apply strip_of_stops
  · intro c hc
    exact h c (List.mem_of_mem_head? hc)
  · intro c hc
    exact h c (List.mem_reverse.mp (List.mem_of_mem_head? hc))

/-- Replacing single code points goes point by point. -/
theorem replaceFrom_single (old new : CodePoint) (t : Text) :
    replaceFrom [old] [new] 0 t = t.map fun c => if c = old then new else c := by
  induction t with
  | nil => rfl
  | cons c t ih =>
      rw [replaceFrom, List.map_cons]
      by_cases hc : c = old
      · have hlead : startsWith (c :: t) [old] = true := by simp [startsWith, dropLead?, hc]
        rw [if_pos hlead, if_pos hc]
        exact congrArg (new :: ·) ih
      · have hlead : ¬startsWith (c :: t) [old] = true := by
          simp [startsWith, dropLead?, Ne.symm hc]
        rw [if_neg hlead, if_neg hc, ih]

/-- The parts of a text hold no separator, and nothing that is not in the text. -/
theorem mem_of_mem_splitAll {c : CodePoint} {t part : Text} (h : part ∈ splitAll c t) {x : CodePoint}
    (hx : x ∈ part) : x ∈ t ∧ x ≠ c := by
  induction t generalizing part with
  | nil =>
      obtain rfl : part = [] := by simpa [splitAll] using h
      cases hx
  | cons y t ih =>
      unfold splitAll at h
      split at h
      · rcases List.mem_cons.mp h with rfl | h
        · cases hx
        · exact ⟨List.mem_cons_of_mem y (ih h hx).1, (ih h hx).2⟩
      · next hy =>
          cases hs : splitAll c t with
          | nil => exact absurd hs (splitAll_ne_nil c t)
          | cons first rest =>
              rw [hs] at h ih
              rcases List.mem_cons.mp h with rfl | h
              · rcases List.mem_cons.mp hx with rfl | hx
                · exact ⟨List.mem_cons_self, hy⟩
                · have hin := ih List.mem_cons_self hx
                  exact ⟨List.mem_cons_of_mem y hin.1, hin.2⟩
              · have hin := ih (List.mem_cons_of_mem first h) hx
                exact ⟨List.mem_cons_of_mem y hin.1, hin.2⟩

/-- A map that leaves the separator alone goes through splitting. -/
theorem splitAll_map {c : CodePoint} {f : CodePoint → CodePoint} {t : Text}
    (h : ∀ x ∈ t, f x = c ↔ x = c) : splitAll c (t.map f) = (splitAll c t).map (List.map f) := by
  induction t with
  | nil => rfl
  | cons x t ih =>
      have hx := h x List.mem_cons_self
      rw [List.map_cons, splitAll, splitAll, ih fun y hy => h y (List.mem_cons_of_mem x hy)]
      by_cases hc : x = c
      · rw [if_pos (hx.mpr hc), if_pos hc]
        rfl
      · rw [if_neg (fun hf => hc (hx.mp hf)), if_neg hc]
        cases splitAll c t <;> rfl

/-- A text is split at each separator, so the parts of what follows one come after those of what precedes it. -/
theorem splitAll_append_cons (c : CodePoint) (s t : Text) :
    splitAll c (s ++ c :: t) = splitAll c s ++ splitAll c t := by
  induction s with
  | nil =>
      show (if c = c then [] :: splitAll c t else _) = _
      rw [if_pos rfl]
      rfl
  | cons x s ih =>
      rw [List.cons_append, splitAll, splitAll, ih]
      by_cases hx : x = c
      · rw [if_pos hx, if_pos hx]
        rfl
      · rw [if_neg hx, if_neg hx]
        cases hs : splitAll c s with
        | nil => exact absurd hs (splitAll_ne_nil c s)
        | cons part parts => rfl

theorem splitAll_eq_self {c : CodePoint} {t : Text} (h : c ∉ t) : splitAll c t = [t] := by
  induction t with
  | nil => rfl
  | cons x t ih =>
      have hx : x ≠ c := fun hxc => h (by simp [hxc])
      rw [splitAll, if_neg hx, ih fun hc => h (List.mem_cons_of_mem x hc)]

/-- A part without separators is split off as it is. -/
theorem splitAll_append {c : CodePoint} {part : Text} (h : c ∉ part) (rest : Text) :
    splitAll c (part ++ c :: rest) = part :: splitAll c rest := by
  rw [splitAll_append_cons, splitAll_eq_self h]
  rfl

/-- **Splitting undoes joining**, if no part holds the separator. -/
theorem splitAll_join {c : CodePoint} {parts : List Text} (hne : parts ≠ [])
    (h : ∀ part ∈ parts, c ∉ part) : splitAll c (join [c] parts) = parts := by
  induction parts with
  | nil => exact absurd rfl hne
  | cons part rest ih =>
      have hpart := h part List.mem_cons_self
      cases rest with
      | nil => exact splitAll_eq_self hpart
      | cons next rest =>
          have hrest := ih (by simp) fun t ht => h t (List.mem_cons_of_mem part ht)
          rw [join, List.append_assoc, List.singleton_append, splitAll_append hpart, hrest]
          intro hnil
          cases hnil

/-- A text that is joined from parts is cut after the first part. -/
theorem cut_join {c : CodePoint} {part : Text} (h : c ∉ part) (rest : List Text) :
    (cut c (join [c] (part :: rest))).1 = part := by
  cases rest with
  | nil =>
      show (cut c part).1 = part
      induction part with
      | nil => rfl
      | cons x part ih =>
          have hx : x ≠ c := fun hxc => h (by simp [hxc])
          rw [cut, if_neg hx]
          exact congrArg (x :: ·) (ih fun hc => h (List.mem_cons_of_mem x hc))
  | cons next rest =>
      rw [join, List.append_assoc, List.singleton_append, cut_append h]
      intro hnil
      cases hnil

/-- A text is cut at its last `c`, after which there is none. -/
theorem cutLast_append {c : CodePoint} {after : Text} (h : c ∉ after) (before : Text) :
    cutLast c (before ++ c :: after) = (before, after) := by
  have hreverse : (before ++ c :: after).reverse = after.reverse ++ c :: before.reverse := by simp
  have hrun : ∀ x ∈ after.reverse, decide (x ≠ c) = true := by
    intro x hx
    rw [decide_eq_true_eq]
    rintro rfl
    exact h (List.mem_reverse.mp hx)
  have htake : (after.reverse ++ c :: before.reverse).takeWhile (fun x => decide (x ≠ c)) = after.reverse :=
    takeWhile_run hrun (stops_cons.mpr (by simp))
  unfold cutLast
  dsimp only
  rw [hreverse, htake, List.reverse_reverse]
  have hlength : (before ++ c :: after).length - after.length - 1 = before.length := by
    rw [List.length_append, List.length_cons]
    omega
  rw [hlength, List.take_left]

theorem cutLast_eq_self {c : CodePoint} {t : Text} (h : c ∉ t) : cutLast c t = ([], t) := by
  have htake : t.reverse.takeWhile (fun x => decide (x ≠ c)) = t.reverse := by
    rw [List.takeWhile_eq_self_iff]
    intro x hx
    rw [decide_eq_true_eq]
    rintro rfl
    exact h (List.mem_reverse.mp hx)
  unfold cutLast
  dsimp only
  rw [htake, List.reverse_reverse, Nat.sub_self]
  rfl

/-- A text that has a separator has a last one. -/
theorem exists_last {c : CodePoint} {t : Text} (h : c ∈ t) :
    ∃ before after : Text, t = before ++ c :: after ∧ c ∉ after := by
  obtain ⟨after, before, hreverse, hafter⟩ := List.eq_append_cons_of_mem (List.mem_reverse.mpr h)
  refine ⟨before.reverse, after.reverse, ?_, fun hmem => hafter (List.mem_reverse.mp hmem)⟩
  rw [← List.reverse_reverse t, hreverse, List.reverse_append, List.reverse_cons, List.append_assoc]
  rfl

theorem mem_join {separator : Text} {parts : List Text} {x : CodePoint}
    (h : x ∈ join separator parts) : x ∈ separator ∨ ∃ part ∈ parts, x ∈ part := by
  induction parts with
  | nil => cases h
  | cons part rest ih =>
      cases rest with
      | nil => exact .inr ⟨part, List.mem_cons_self, h⟩
      | cons next rest =>
          rw [join] at h
          rcases List.mem_append.mp h with h | h
          · rcases List.mem_append.mp h with h | h
            · exact .inr ⟨part, List.mem_cons_self, h⟩
            · exact .inl h
          · rcases ih h with h | ⟨t, ht, hx⟩
            · exact .inl h
            · exact .inr ⟨t, List.mem_cons_of_mem part ht, hx⟩
          intro hnil
          cases hnil

/-! ## Parts without the blanks around them -/

theorem strip_cons_blank {b : CodePoint} (hb : b.isBlank = true) (t : Text) : strip (b :: t) = strip t := by
  rw [strip, stripStart, List.dropWhile_cons_of_pos hb]
  rfl

theorem strip_concat_blank {b : CodePoint} (hb : b.isBlank = true) (t : Text) :
    strip (t ++ [b]) = strip t := by
  induction t with
  | nil => exact strip_cons_blank hb []
  | cons c t ih =>
      rw [List.cons_append]
      by_cases hc : c.isBlank = true
      · rw [strip_cons_blank hc, strip_cons_blank hc, ih]
      · have hstart : ∀ u : Text, stripStart (c :: u) = c :: u := fun u => List.dropWhile_cons_of_neg hc
        rw [strip, strip, hstart, hstart, stripEnd, stripEnd, ← List.cons_append, List.reverse_append,
          List.reverse_singleton, List.singleton_append, stripStart, List.dropWhile_cons_of_pos hb]
        rfl

/-- A code point at the end goes to the last part. -/
theorem splitAll_concat {c b : CodePoint} (h : b ≠ c) (t : Text) :
    ∃ first last, splitAll c t = first ++ [last] ∧ splitAll c (t ++ [b]) = first ++ [last ++ [b]] := by
  induction t with
  | nil => exact ⟨[], [], rfl, by simp [splitAll, h]⟩
  | cons x t ih =>
      obtain ⟨first, last, ht, hconcat⟩ := ih
      rw [List.cons_append, splitAll, splitAll, ht, hconcat]
      by_cases hx : x = c
      · exact ⟨[] :: first, last, by rw [if_pos hx]; rfl, by rw [if_pos hx]; rfl⟩
      · rw [if_neg hx, if_neg hx]
        cases first with
        | nil => exact ⟨[], x :: last, rfl, rfl⟩
        | cons part first => exact ⟨(x :: part) :: first, last, rfl, rfl⟩

section Stripped

variable {c : CodePoint} (hc : c.isBlank = false)
include hc

theorem map_strip_splitAll_cons {b : CodePoint} (hb : b.isBlank = true) (t : Text) :
    (splitAll c (b :: t)).map strip = (splitAll c t).map strip := by
  have hne : b ≠ c := by
    rintro rfl
    rw [hb] at hc
    cases hc
  rw [splitAll, if_neg hne]
  cases hs : splitAll c t with
  | nil => exact absurd hs (splitAll_ne_nil c t)
  | cons part parts => rw [List.map_cons, List.map_cons, strip_cons_blank hb]

theorem map_strip_splitAll_concat {b : CodePoint} (hb : b.isBlank = true) (t : Text) :
    (splitAll c (t ++ [b])).map strip = (splitAll c t).map strip := by
  have hne : b ≠ c := by
    rintro rfl
    rw [hb] at hc
    cases hc
  obtain ⟨first, last, ht, hconcat⟩ := splitAll_concat hne t
  rw [ht, hconcat, List.map_append, List.map_append, List.map_singleton, List.map_singleton,
    strip_concat_blank hb]

theorem map_strip_splitAll_append {u : Text} (hu : ∀ b ∈ u, b.isBlank = true) (t : Text) :
    (splitAll c (t ++ u)).map strip = (splitAll c t).map strip := by
  induction u generalizing t with
  | nil => rw [List.append_nil]
  | cons b u ih =>
      rw [List.append_cons, ih fun x hx => hu x (List.mem_cons_of_mem b hx),
        map_strip_splitAll_concat hc (hu b List.mem_cons_self)]

/-- **The blanks around a text belong to its outer parts.** Whoever strips the parts need not strip the
text. -/
theorem map_strip_splitAll_strip (t : Text) :
    (splitAll c (strip t)).map strip = (splitAll c t).map strip := by
  have hstart : ∀ u : Text, (splitAll c (stripStart u)).map strip = (splitAll c u).map strip := by
    intro u
    induction u with
    | nil => rfl
    | cons b u ih =>
        by_cases hb : b.isBlank = true
        · rw [stripStart, List.dropWhile_cons_of_pos hb, map_strip_splitAll_cons hc hb]
          exact ih
        · rw [stripStart, List.dropWhile_cons_of_neg hb]
  obtain ⟨u, hu, hrest⟩ := eq_stripStart (stripStart t).reverse
  -- What stands before the blanks at the end is what is left without them.
  have hend : stripStart t = strip t ++ u.reverse := by
    rw [strip, stripEnd, ← List.reverse_append, ← hrest, List.reverse_reverse]
  rw [← hstart t, hend, map_strip_splitAll_append hc]
  intro b hb
  exact hu b (List.mem_reverse.mp hb)

end Stripped

end Text

end Phrasebook
