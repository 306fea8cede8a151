import Phrasebook.Proofs.Locale.Spelling

/-!
# Locale tags

A tag (`IsTag`) is a well-formed locale name: subtags of ASCII letters and digits, of any length, with one hyphen or
underscore between neighbours. Its normal spelling has the letters of the tag (`IsTag.upper_normalize`).

The normal spelling does depend on the case that a tag is written in, since subtags of unusual lengths are kept as they
are (`keptSubtags`). Two tags whose normal spellings have the same upper case have the same normal spelling exactly if
they agree in these (`IsTag.normalize_eq_iff`).
-/

namespace Phrasebook.Locale

open CodePoint Text

/-- **`IsTag name`**: subtags of ASCII letters and digits between single hyphens or underscores. -/
def IsTag (name : Text) : Prop := ∀ t ∈ splitAll hyphen (name.replace "_" "-"), IsPart t

instance : DecidablePred IsPart := fun _ => inferInstanceAs (Decidable (_ ∧ _))

instance : DecidablePred IsTag := fun name =>
  inferInstanceAs (Decidable (∀ t ∈ splitAll hyphen (name.replace "_" "-"), IsPart t))

/-- The subtags after the language whose case is left as it is written. -/
def keptSubtags (name : Text) : List Text := (subtags name).tail.filter fun t => ¬IsSubtag t

/-! ## Subtags of any length -/

variable {t u : Text} {parts others : List Text}

theorem isAsciiLetter_raised (c : CodePoint) : c.raised.isAsciiLetter = c.isAsciiLetter := by
  have hc := raised_cases c
  rw [Bool.eq_iff_iff, isAsciiLetter_iff, isAsciiLetter_iff]
  omega

/-- The case that a subtag is written in has no part in its shape. -/
theorem isSubtag_raised : IsSubtag (t.map raised) ↔ IsSubtag t := by
  have hletters : (∀ c ∈ t.map raised, c.isAsciiLetter = true) ↔ ∀ c ∈ t, c.isAsciiLetter = true := by
    simp only [List.forall_mem_map, isAsciiLetter_raised]
  rw [IsSubtag, IsSubtag, List.length_map, hletters]

/-- Subtags that are the same but for their case have the same usual case if those that are kept as they are written are
the same. -/
theorem map_normalizeSubtag_eq_iff (hp : ∀ t ∈ parts, IsPart t) (ho : ∀ t ∈ others, IsPart t)
    (hraised : parts.map (List.map raised) = others.map (List.map raised)) :
    parts.map normalizeSubtag = others.map normalizeSubtag
      ↔ parts.filter (fun t => ¬IsSubtag t) = others.filter fun t => ¬IsSubtag t := by
  induction parts generalizing others with
  | nil =>
      cases others with
      | nil => exact iff_of_true rfl rfl
      | cons u others => cases hraised
  | cons t parts ih =>
      cases others with
      | nil => cases hraised
      | cons u others =>
          obtain ⟨hfirst, hrest⟩ := List.cons.inj hraised
          have ht := hp t List.mem_cons_self
          have hu := ho u List.mem_cons_self
          have hshape : IsSubtag t ↔ IsSubtag u := by rw [← isSubtag_raised, hfirst, isSubtag_raised]
          have ih := ih (fun t ht => hp t (List.mem_cons_of_mem _ ht)) (fun u hu => ho u (List.mem_cons_of_mem _ hu))
            hrest
          rw [List.map_cons, List.map_cons, List.cons.injEq]
          -- Both have the same shape, so the usual case is either the same or that in which each is written.
          by_cases hs : IsSubtag t
          · have hsame : normalizeSubtag t = normalizeSubtag u := by
              rw [← normalizeSubtag_raised ht hs, hfirst, normalizeSubtag_raised hu (hshape.mp hs)]
            rw [List.filter_cons_of_neg (by simpa using hs), List.filter_cons_of_neg (by simpa using hshape.mp hs),
              and_iff_right hsame]
            exact ih
          · have hs' : ¬IsSubtag u := fun h => hs (hshape.mpr h)
            rw [List.filter_cons_of_pos (by simpa using hs), List.filter_cons_of_pos (by simpa using hs'),
              List.cons.injEq, normalizeSubtag_kept ht hs, normalizeSubtag_kept hu hs']
            exact and_congr_right fun _ => ih

theorem spelledParts_eq_iff (hp : ∀ t ∈ parts, IsPart t) (ho : ∀ t ∈ others, IsPart t)
    (hraised : parts.map (List.map raised) = others.map (List.map raised)) :
    spelledParts parts = spelledParts others
      ↔ parts.tail.filter (fun t => ¬IsSubtag t) = others.tail.filter fun t => ¬IsSubtag t := by
  cases parts with
  | nil =>
      cases others with
      | nil => exact iff_of_true rfl rfl
      | cons u others => cases hraised
  | cons t parts =>
      cases others with
      | nil => cases hraised
      | cons u others =>
          obtain ⟨hfirst, hrest⟩ := List.cons.inj hraised
          have hlanguage : t.lower = u.lower := by
            rw [Text.lower_ascii (hp t List.mem_cons_self).isAscii, Text.lower_ascii (ho u List.mem_cons_self).isAscii,
              ← map_lowered_raised, hfirst, map_lowered_raised]
          rw [spelledParts, spelledParts, List.cons.injEq, and_iff_right hlanguage]
          exact map_normalizeSubtag_eq_iff (fun t ht => hp t (List.mem_cons_of_mem _ ht))
            (fun u hu => ho u (List.mem_cons_of_mem _ hu)) hrest

/-- A map of code points that leaves the hyphen alone goes through joining. -/
theorem map_raised_join (parts : List Text) :
    (join [hyphen] parts).map raised = join [hyphen] (parts.map (List.map raised)) := by
  induction parts with
  | nil => rfl
  | cons t rest ih =>
      cases rest with
      | nil => rfl
      | cons u rest =>
          rw [join, List.map_append, List.map_append, ih]
          · rfl
          · exact List.cons_ne_nil u rest

/-! ## Tags -/

variable {name a b : Text}

/-- Underscores become hyphens. -/
theorem replace_underscore (name : Text) : name.replace "_" "-" = name.map dashed :=
  replaceFrom_single underscore hyphen name

theorem IsTag.isName (h : IsTag name) : IsName name := by
  intro c hc
  have hmem : dashed c ∈ name.map dashed := List.mem_map_of_mem hc
  rw [← join_splitAll hyphen (name.map dashed), ← replace_underscore] at hmem
  unfold dashed at hmem
  by_cases hunderscore : c = underscore
  · rw [hunderscore]
    rfl
  · rw [if_neg hunderscore] at hmem
    exact isName_join h _ hmem

theorem IsTag.subtags (h : IsTag name) : subtags name = splitAll hyphen (name.replace "_" "-") := by
  rw [subtags_plain h.isName, ← replace_underscore]
  exact List.filter_eq_self.mpr fun t ht => by simpa using (h t ht).1

theorem IsTag.part (h : IsTag name) : ∀ t ∈ Locale.subtags name, IsPart t := by
  rw [h.subtags]
  exact h

theorem IsTag.isAscii (h : IsTag name) : IsAscii (name.replace "_" "-") := by
  rw [replace_underscore]
  intro c hc
  obtain ⟨d, hd, rfl⟩ := List.mem_map.mp hc
  exact dashed_lt (val_lt_of_namePoint (h.isName d hd))

theorem isAscii_join (h : ∀ t ∈ parts, IsPart t) : IsAscii (join [hyphen] parts) :=
  fun c hc => val_lt_of_namePoint (isName_join h c hc)

theorem IsTag.isAscii_normalize (h : IsTag name) : IsAscii (normalize name) := by
  rw [normalize_eq_join]
  exact isAscii_join (isPart_spelledParts h.part)

/-- **The normal spelling has the letters of the tag.** -/
theorem IsTag.upper_normalize (h : IsTag name) : (normalize name).upper = (name.replace "_" "-").upper := by
  rw [Text.upper_ascii h.isAscii_normalize, Text.upper_ascii h.isAscii, normalize_eq_join, map_raised_join,
    raised_spelledParts h.part, ← map_raised_join, h.subtags, join_splitAll]

/-- The language of a tag is its first subtag. -/
theorem IsTag.language_eq (h : IsTag name) {first : Text} {rest : List Text}
    (hs : Locale.subtags name = first :: rest) : IsPart first ∧ language name = first.lower := by
  have hfirst := h.part first (hs ▸ List.mem_cons_self)
  refine ⟨hfirst, ?_⟩
  have hnormal : normalize name = join [hyphen] (first.lower :: rest.map Locale.normalizeSubtag) := by
    rw [normalize_eq_join, hs]
    rfl
  exact language_of_join (isPart_lower hfirst) hnormal

theorem IsTag.exists_first (h : IsTag name) : ∃ first rest, Locale.subtags name = first :: rest := by
  rw [h.subtags]
  exact List.exists_cons_of_ne_nil (splitAll_ne_nil _ _)

theorem IsTag.isPart_language (h : IsTag name) : IsPart (language name) := by
  obtain ⟨first, rest, hs⟩ := h.exists_first
  obtain ⟨hfirst, hlanguage⟩ := h.language_eq hs
  rw [hlanguage]
  exact isPart_lower hfirst

theorem IsTag.language_normalize (h : IsTag name) : language (Locale.normalize name) = language name :=
  h.isName.language_normalize

/-- Tags that are the same but for their case have the same subtags but for their case. -/
theorem IsTag.raised_subtags (ha : IsTag a) (hb : IsTag b)
    (hkey : (Locale.normalize a).upper = (Locale.normalize b).upper) :
    (Locale.subtags a).map (List.map raised) = (Locale.subtags b).map (List.map raised) := by
  rw [ha.upper_normalize, hb.upper_normalize, Text.upper_ascii ha.isAscii, Text.upper_ascii hb.isAscii] at hkey
  rw [ha.subtags, hb.subtags, ← splitAll_map fun c _ => raised_eq_iff (.inl rfl), hkey,
    splitAll_map fun c _ => raised_eq_iff (.inl rfl)]

theorem IsTag.language_eq_of_upper (ha : IsTag a) (hb : IsTag b)
    (hkey : (Locale.normalize a).upper = (Locale.normalize b).upper) : language a = language b := by
  obtain ⟨first, rest, hs⟩ := ha.exists_first
  obtain ⟨other, others, ho⟩ := hb.exists_first
  obtain ⟨hfirst, hlanguage⟩ := ha.language_eq hs
  obtain ⟨hother, hlanguage'⟩ := hb.language_eq ho
  have hraised := ha.raised_subtags hb hkey
  rw [hs, ho] at hraised
  rw [hlanguage, hlanguage', Text.lower_ascii hfirst.isAscii, Text.lower_ascii hother.isAscii, ← map_lowered_raised,
    (List.cons.inj hraised).1, map_lowered_raised]

/-- **Tags that are the same but for their case have the same normal spelling exactly if they agree in the subtags that
are kept as they are written.** -/
theorem IsTag.normalize_eq_iff (ha : IsTag a) (hb : IsTag b)
    (hkey : (Locale.normalize a).upper = (Locale.normalize b).upper) :
    Locale.normalize a = Locale.normalize b ↔ keptSubtags a = keptSubtags b := by
  have hspelled : Locale.normalize a = Locale.normalize b
      ↔ spelledParts (Locale.subtags a) = spelledParts (Locale.subtags b) := by
    rw [normalize_eq_join, normalize_eq_join]
    constructor
    · intro heq
      rw [← subtags_join (isPart_spelledParts ha.part), heq, subtags_join (isPart_spelledParts hb.part)]
    · intro heq
      rw [heq]
  rw [hspelled]
  exact spelledParts_eq_iff ha.part hb.part (ha.raised_subtags hb hkey)

theorem IsTag.hyphen_mem_iff (h : IsTag name) : hyphen ∈ (Locale.normalize name).upper ↔ hyphen ∈ Locale.normalize name := by
  rw [Text.upper_ascii h.isAscii_normalize, List.mem_map]
  constructor
  · rintro ⟨c, hc, hraised⟩
    rwa [← (raised_eq_iff (.inl rfl)).mp hraised]
  · intro hmem
    exact ⟨hyphen, hmem, rfl⟩

/-- A name without hyphens in its normal spelling is a language. -/
theorem language_eq_normalize (h : hyphen ∉ normalize name) : language name = normalize name := cut_join h []

end Phrasebook.Locale
