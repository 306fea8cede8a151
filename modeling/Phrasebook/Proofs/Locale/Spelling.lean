import Phrasebook.Locale.Name
import Phrasebook.Proofs.Text.Ascii
import Phrasebook.Proofs.Text.Parts

/-!
# The normal spelling of locale names

A name (`IsName`) has subtags of ASCII letters and digits between hyphens or underscores. Its normal
spelling is its own normal spelling (`IsName.normalize_normalize`).

A name is plain (`IsPlain`) if the subtags after the language are as long as those for scripts and regions
are. Then the normal spelling does not depend on the case that the name is written in (`normalize_upper`).
So the upper case of a plain name in its normal spelling, under which catalogs are remembered, tells the
name (`IsSpelled.eq_of_upper`).
-/

namespace Phrasebook.Locale

open CodePoint Text

/-! ## Names -/

/-- The length of a subtag after the language: a region or a variant of two or three letters or digits,
or a script of four letters. -/
def IsSubtag (t : Text) : Prop :=
  (t.length = 2 ∨ t.length = 3) ∨ (t.length = 4 ∧ ∀ c ∈ t, c.isAsciiLetter = true)

instance : DecidablePred IsSubtag := fun _ => inferInstanceAs (Decidable (_ ∨ _))

/-- A code point of a name. -/
def isNamePoint (c : CodePoint) : Bool := c.isAsciiAlphanumeric || c = hyphen || c = underscore

/-- **`IsName name`**: ASCII letters and digits between hyphens or underscores. There may be separators at
either end and several between neighbours. -/
def IsName (name : Text) : Prop := ∀ c ∈ name, isNamePoint c = true

instance : DecidablePred IsName := fun name => inferInstanceAs (Decidable (∀ c ∈ name, isNamePoint c = true))

/-- **`IsPlain name`**: ASCII letters and digits between hyphens or underscores, where the subtags after
the language are as long as those for scripts and regions. -/
def IsPlain (name : Text) : Prop :=
  (∀ c ∈ name, isNamePoint c = true) ∧ ∀ t ∈ (subtags name).tail, IsSubtag t

instance : DecidablePred IsPlain := fun _ => inferInstanceAs (Decidable (_ ∧ _))

/-- A subtag that is not empty. -/
def IsPart (t : Text) : Prop := t ≠ [] ∧ ∀ c ∈ t, c.isAsciiAlphanumeric = true

/-- The subtags of a plain name. -/
structure IsParts (parts : List Text) : Prop where
  part : ∀ t ∈ parts, IsPart t
  subtag : ∀ t ∈ parts.tail, IsSubtag t

theorem isNamePoint_cases {c : CodePoint} (h : isNamePoint c = true) :
    c.isAsciiAlphanumeric = true ∨ c = hyphen ∨ c = underscore := by
  simpa [isNamePoint, or_assoc] using h

theorem val_lt_of_namePoint {c : CodePoint} (h : isNamePoint c = true) : c.val < 0x80 := by
  rcases isNamePoint_cases h with halnum | rfl | rfl
  · exact val_lt_of_alphanumeric halnum
  · decide
  · decide

theorem not_blank_of_namePoint {c : CodePoint} (h : isNamePoint c = true) : c.isBlank = false := by
  rcases isNamePoint_cases h with halnum | rfl | rfl
  · exact (asTables (val_lt_of_alphanumeric halnum)).not_blank halnum
  · decide +kernel
  · decide +kernel

theorem ne_hyphen_of_alphanumeric {c : CodePoint} (h : c.isAsciiAlphanumeric = true) : c ≠ hyphen := by
  rintro rfl
  exact absurd h (by decide)

theorem IsPart.isAscii {t : Text} (h : IsPart t) : IsAscii t :=
  fun c hc => val_lt_of_alphanumeric (h.2 c hc)

theorem IsPart.not_mem_hyphen {t : Text} (h : IsPart t) : hyphen ∉ t :=
  fun hmem => ne_hyphen_of_alphanumeric (h.2 hyphen hmem) rfl

/-! ## Subtags -/

/-- An underscore becomes a hyphen. -/
def dashed (c : CodePoint) : CodePoint := if c = underscore then hyphen else c

theorem map_dashed_eq_self {t : Text} (h : underscore ∉ t) : t.map dashed = t := by
  rw [List.map_congr_left (g := id) ?_, List.map_id]
  intro c hc
  rw [dashed, if_neg, id]
  rintro rfl
  exact h hc

/-- The subtags of a name stand between its hyphens and underscores. -/
theorem subtags_plain {name : Text} (h : IsName name) :
    subtags name = (splitAll hyphen (name.map dashed)).filter fun t => !t.isEmpty := by
  have hstrip : name.strip = name := strip_eq_self fun c hc => not_blank_of_namePoint (h c hc)
  have hreplace : name.replace "_" "-" = name.map dashed := replaceFrom_single underscore hyphen name
  rw [subtags, hstrip, hreplace]

theorem IsName.part {name : Text} (h : IsName name) : ∀ t ∈ subtags name, IsPart t := by
  intro t ht
  rw [subtags_plain h] at ht
  obtain ⟨hsplit, hempty⟩ := List.mem_filter.mp ht
  refine ⟨by simpa using hempty, fun x hx => ?_⟩
  obtain ⟨hmem, hhyphen⟩ := mem_of_mem_splitAll hsplit hx
  obtain ⟨c, hc, rfl⟩ := List.mem_map.mp hmem
  rcases isNamePoint_cases (h c hc) with halnum | rfl | rfl
  · rw [dashed, if_neg]
    · exact halnum
    · rintro rfl
      exact absurd halnum (by decide)
  · exact absurd rfl hhyphen
  · exact absurd rfl hhyphen

theorem IsPlain.isParts {name : Text} (h : IsPlain name) : IsParts (subtags name) :=
  ⟨IsName.part h.1, h.2⟩

theorem mem_join_points {parts : List Text} (h : ∀ t ∈ parts, IsPart t) {c : CodePoint}
    (hc : c ∈ join [hyphen] parts) : c.isAsciiAlphanumeric = true ∨ c = hyphen := by
  rcases mem_join hc with hc | ⟨t, ht, hc⟩
  · exact .inr (List.mem_singleton.mp hc)
  · exact .inl ((h t ht).2 c hc)

theorem isName_join {parts : List Text} (h : ∀ t ∈ parts, IsPart t) : IsName (join [hyphen] parts) := by
  intro c hc
  rcases mem_join_points h hc with halnum | rfl
  · simp [isNamePoint, halnum]
  · decide

/-- There are no underscores in a name that is joined from subtags. -/
theorem map_dashed_join {parts : List Text} (h : ∀ t ∈ parts, IsPart t) :
    (join [hyphen] parts).map dashed = join [hyphen] parts := by
  refine map_dashed_eq_self fun hc => ?_
  rcases mem_join_points h hc with halnum | heq
  · exact absurd halnum (by decide)
  · exact absurd heq (by decide)

/-- The subtags that a name is joined from are its subtags. -/
theorem subtags_join {parts : List Text} (h : ∀ t ∈ parts, IsPart t) :
    subtags (join [hyphen] parts) = parts := by
  rw [subtags_plain (isName_join h), map_dashed_join h]
  cases parts with
  | nil => rfl
  | cons part rest =>
      rw [splitAll_join (by simp) fun t ht => (h t ht).not_mem_hyphen]
      refine List.filter_eq_self.mpr fun t ht => ?_
      simpa using (h t ht).1

theorem isNamePoint_raised {c : CodePoint} (h : isNamePoint c = true) :
    isNamePoint c.raised = true := by
  rcases isNamePoint_cases h with halnum | rfl | rfl
  · simp [isNamePoint, alphanumeric_raised halnum]
  · decide
  · decide

/-- Only letters are raised. -/
theorem raised_eq_iff {c d : CodePoint} (hd : d = hyphen ∨ d = underscore) : c.raised = d ↔ c = d := by
  have hval : d.val = 0x2D ∨ d.val = 0x5F := by
    rcases hd with rfl | rfl
    · exact .inl rfl
    · exact .inr rfl
  have hc := raised_cases c
  constructor
  · intro heq
    have hcd := congrArg CodePoint.val heq
    apply eq_of_val
    omega
  · intro heq
    have hcd := congrArg CodePoint.val heq
    apply eq_of_val
    omega

theorem dashed_raised (c : CodePoint) : dashed c.raised = (dashed c).raised := by
  unfold dashed
  by_cases hc : c = underscore
  · rw [if_pos hc, if_pos ((raised_eq_iff (.inr rfl)).mpr hc)]
    rfl
  · rw [if_neg hc, if_neg fun h => hc ((raised_eq_iff (.inr rfl)).mp h)]

theorem dashed_lt {c : CodePoint} (h : c.val < 0x80) : (dashed c).val < 0x80 := by
  unfold dashed
  split
  · decide
  · exact h

/-- Writing a name in capitals writes its subtags in capitals. -/
theorem subtags_upper {name : Text} (h : IsName name) :
    subtags name.upper = (subtags name).map Text.upper := by
  have hascii : IsAscii name := fun c hc => val_lt_of_namePoint (h c hc)
  have hname : IsName (name.map raised) := by
    intro c hc
    obtain ⟨d, hd, rfl⟩ := List.mem_map.mp hc
    exact isNamePoint_raised (h d hd)
  have hdashed : (name.map raised).map dashed = (name.map dashed).map raised := by
    rw [List.map_map, List.map_map]
    exact List.map_congr_left fun c _ => dashed_raised c
  have hlt : IsAscii (name.map dashed) := by
    intro c hc
    obtain ⟨d, hd, rfl⟩ := List.mem_map.mp hc
    exact dashed_lt (hascii d hd)
  rw [Text.upper_ascii hascii, subtags_plain hname, subtags_plain h, hdashed,
    splitAll_map fun c _ => raised_eq_iff (.inl rfl), List.filter_map]
  -- A part is empty in capitals just if it is empty.
  have hempty : ((fun t : Text => !t.isEmpty) ∘ List.map raised) = fun t => !t.isEmpty := by
    funext t
    cases t <;> rfl
  rw [hempty]
  refine List.map_congr_left fun t ht => (Text.upper_ascii fun c hc => ?_).symm
  exact hlt c (mem_of_mem_splitAll (List.mem_of_mem_filter ht) hc).1

/-! ## The normal spelling -/

/-- The subtags of a name in their usual case. -/
def spelledParts : List Text → List Text
  | [] => []
  | language :: rest => language.lower :: rest.map normalizeSubtag

theorem normalize_eq_join (name : Text) : normalize name = join [hyphen] (spelledParts (subtags name)) := by
  unfold normalize
  cases subtags name <;> rfl

/-- The usual case of a subtag, by its length. -/
theorem normalizeSubtag_short {t : Text} (hp : IsPart t) (h : t.length = 2 ∨ t.length = 3) :
    normalizeSubtag t = t.map raised := by
  rw [normalizeSubtag, if_neg (fun hfour => by omega), if_pos h, Text.upper_ascii hp.isAscii]

theorem normalizeSubtag_script {c : CodePoint} {t : Text} (h : (c :: t).length = 4)
    (hl : ∀ d ∈ c :: t, d.isAsciiLetter = true) :
    normalizeSubtag (c :: t) = c.raised :: t.map lowered := by
  have hall : (c :: t).all CodePoint.isLetter = true := by
    refine List.all_eq_true.mpr fun d hd => ?_
    rw [(asTables (val_lt_of_letter (hl d hd))).letter]
    exact hl d hd
  rw [normalizeSubtag, if_pos ⟨h, hall⟩, title_letters hl]

theorem map_raised_raised (t : Text) : (t.map raised).map raised = t.map raised := by
  rw [List.map_map]
  exact List.map_congr_left fun c _ => raised_raised c

theorem map_raised_lowered (t : Text) : (t.map lowered).map raised = t.map raised := by
  rw [List.map_map]
  exact List.map_congr_left fun c _ => raised_lowered c

theorem map_lowered_raised (t : Text) : (t.map raised).map lowered = t.map lowered := by
  rw [List.map_map]
  exact List.map_congr_left fun c _ => lowered_raised c

theorem IsPart.map {t : Text} (h : IsPart t) {f : CodePoint → CodePoint}
    (hf : ∀ c, c.isAsciiAlphanumeric = true → (f c).isAsciiAlphanumeric = true) : IsPart (t.map f) := by
  refine ⟨by simpa using h.1, fun c hc => ?_⟩
  obtain ⟨d, hd, rfl⟩ := List.mem_map.mp hc
  exact hf d (h.2 d hd)

theorem isPart_raised {t : Text} (h : IsPart t) : IsPart (t.map raised) :=
  h.map fun _ => alphanumeric_raised

theorem isPart_lowered {t : Text} (h : IsPart t) : IsPart (t.map lowered) :=
  h.map fun _ => alphanumeric_lowered

/-- A subtag in its usual case has the letters of the subtag. -/
theorem normalizeSubtag_spec {t : Text} (hp : IsPart t) (hs : IsSubtag t) :
    IsPart (normalizeSubtag t) ∧ IsSubtag (normalizeSubtag t)
      ∧ (normalizeSubtag t).map raised = t.map raised := by
  rcases hs with hshort | ⟨hfour, hletters⟩
  · rw [normalizeSubtag_short hp hshort]
    refine ⟨isPart_raised hp, ?_, map_raised_raised t⟩
    rw [IsSubtag, List.length_map]
    exact .inl hshort
  · cases t with
    | nil => cases hfour
    | cons c t =>
        rw [normalizeSubtag_script hfour hletters]
        have hletter : ∀ d ∈ c.raised :: t.map lowered, d.isAsciiLetter = true := by
          intro d hd
          rcases List.mem_cons.mp hd with rfl | hd
          · exact letter_raised (hletters c List.mem_cons_self)
          · obtain ⟨e, he, rfl⟩ := List.mem_map.mp hd
            exact letter_lowered (hletters e (List.mem_cons_of_mem c he))
        refine ⟨⟨by simp, fun d hd => alphanumeric_of_letter (hletter d hd)⟩, ?_, ?_⟩
        · refine .inr ⟨?_, hletter⟩
          simpa using hfour
        · rw [List.map_cons, List.map_cons, raised_raised c, map_raised_lowered t]

/-- The usual case of a subtag does not depend on the case that it is written in. -/
theorem normalizeSubtag_raised {t : Text} (hp : IsPart t) (hs : IsSubtag t) :
    normalizeSubtag (t.map raised) = normalizeSubtag t := by
  rcases hs with hshort | ⟨hfour, hletters⟩
  · have hlength : (t.map raised).length = 2 ∨ (t.map raised).length = 3 := by
      rw [List.length_map]
      exact hshort
    rw [normalizeSubtag_short hp hshort, normalizeSubtag_short (isPart_raised hp) hlength,
      map_raised_raised t]
  · cases t with
    | nil => cases hfour
    | cons c t =>
        have hletter : ∀ d ∈ (c :: t).map raised, d.isAsciiLetter = true := by
          intro d hd
          obtain ⟨e, he, rfl⟩ := List.mem_map.mp hd
          exact letter_raised (hletters e he)
        rw [normalizeSubtag_script hfour hletters]
        rw [List.map_cons] at hletter ⊢
        rw [normalizeSubtag_script (by simpa using hfour) hletter, raised_raised c,
          map_lowered_raised t]

theorem normalizeSubtag_kept {t : Text} (hp : IsPart t) (hs : ¬IsSubtag t) : normalizeSubtag t = t := by
  have hscript : ¬(t.length = 4 ∧ t.all CodePoint.isLetter = true) := by
    rintro ⟨hfour, hletters⟩
    refine hs (.inr ⟨hfour, fun c hc => ?_⟩)
    rw [← (asTables (val_lt_of_alphanumeric (hp.2 c hc))).letter]
    exact List.all_eq_true.mp hletters c hc
  rw [normalizeSubtag, if_neg hscript, if_neg fun hshort => hs (.inl hshort)]

/-- A subtag of any shape in its usual case has the letters of the subtag. -/
theorem IsPart.normalizeSubtag {t : Text} (hp : IsPart t) :
    IsPart (normalizeSubtag t) ∧ (normalizeSubtag t).map raised = t.map raised := by
  by_cases hs : IsSubtag t
  · obtain ⟨hpart, -, hraised⟩ := normalizeSubtag_spec hp hs
    exact ⟨hpart, hraised⟩
  · rw [normalizeSubtag_kept hp hs]
    exact ⟨hp, rfl⟩

/-- The usual case of a subtag is its own usual case. -/
theorem IsPart.normalizeSubtag_normalizeSubtag {t : Text} (hp : IsPart t) :
    Locale.normalizeSubtag (Locale.normalizeSubtag t) = Locale.normalizeSubtag t := by
  by_cases hs : IsSubtag t
  · obtain ⟨hpart, hsubtag, hraised⟩ := normalizeSubtag_spec hp hs
    rw [← normalizeSubtag_raised hpart hsubtag, hraised, normalizeSubtag_raised hp hs]
  · rw [normalizeSubtag_kept hp hs, normalizeSubtag_kept hp hs]

theorem isPart_lower {t : Text} (hp : IsPart t) : IsPart t.lower := by
  rw [Text.lower_ascii hp.isAscii]
  exact isPart_lowered hp

theorem lower_lower {t : Text} (hp : IsPart t) : t.lower.lower = t.lower := by
  rw [Text.lower_ascii (isPart_lower hp).isAscii, Text.lower_ascii hp.isAscii, List.map_map]
  exact List.map_congr_left fun c _ => lowered_lowered c

variable {parts : List Text}

theorem isPart_spelledParts (h : ∀ t ∈ parts, IsPart t) : ∀ t ∈ spelledParts parts, IsPart t := by
  cases parts with
  | nil => exact h
  | cons language rest =>
      intro t ht
      rcases List.mem_cons.mp ht with rfl | ht
      · exact isPart_lower (h language List.mem_cons_self)
      · obtain ⟨u, hu, rfl⟩ := List.mem_map.mp ht
        exact (h u (List.mem_cons_of_mem language hu)).normalizeSubtag.1

/-- Subtags in their usual case have the letters of the subtags. -/
theorem raised_spelledParts (h : ∀ t ∈ parts, IsPart t) :
    (spelledParts parts).map (List.map raised) = parts.map (List.map raised) := by
  cases parts with
  | nil => rfl
  | cons language rest =>
      rw [spelledParts, List.map_cons, List.map_cons, Text.lower_ascii (h language List.mem_cons_self).isAscii,
        map_raised_lowered, List.map_map]
      congr 1
      exact List.map_congr_left fun t ht => (h t (List.mem_cons_of_mem language ht)).normalizeSubtag.2

theorem IsParts.rest {language : Text} {rest : List Text} (h : IsParts (language :: rest)) :
    ∀ t ∈ rest, IsPart t ∧ IsSubtag t :=
  fun t ht => ⟨h.part t (List.mem_cons_of_mem language ht), h.subtag t ht⟩

theorem IsParts.spelled (h : IsParts parts) : IsParts (spelledParts parts) := by
  refine ⟨isPart_spelledParts h.part, ?_⟩
  cases parts with
  | nil => exact h.subtag
  | cons language rest =>
      intro t ht
      obtain ⟨u, hu, rfl⟩ := List.mem_map.mp ht
      exact (normalizeSubtag_spec (h.rest u hu).1 (h.rest u hu).2).2.1

/-- The usual case of subtags does not depend on the case that they are written in. -/
theorem IsParts.spelled_raised (h : IsParts parts) :
    spelledParts (parts.map (List.map raised)) = spelledParts parts := by
  cases parts with
  | nil => rfl
  | cons language rest =>
      have hlanguage := h.part language List.mem_cons_self
      rw [List.map_cons, spelledParts, spelledParts, Text.lower_ascii hlanguage.isAscii,
        Text.lower_ascii (isPart_raised hlanguage).isAscii, map_lowered_raised language,
        List.map_map]
      congr 1
      exact List.map_congr_left fun t ht => normalizeSubtag_raised (h.rest t ht).1 (h.rest t ht).2

/-- The usual case of subtags is its own usual case. -/
theorem spelledParts_spelledParts (h : ∀ t ∈ parts, IsPart t) :
    spelledParts (spelledParts parts) = spelledParts parts := by
  cases parts with
  | nil => rfl
  | cons language rest =>
      rw [spelledParts, spelledParts, lower_lower (h language List.mem_cons_self), List.map_map]
      congr 1
      exact List.map_congr_left fun t ht =>
        (h t (List.mem_cons_of_mem language ht)).normalizeSubtag_normalizeSubtag

/-! ## Names in their normal spelling -/

theorem IsName.subtags_normalize {name : Text} (h : IsName name) :
    subtags (normalize name) = spelledParts (subtags name) := by
  rw [normalize_eq_join, subtags_join (isPart_spelledParts h.part)]

/-- **The normal spelling of a name is its own normal spelling.** -/
theorem IsName.normalize_normalize {name : Text} (h : IsName name) :
    normalize (normalize name) = normalize name := by
  rw [normalize_eq_join (normalize name), h.subtags_normalize, spelledParts_spelledParts h.part,
    ← normalize_eq_join]

/-- **The normal spelling has the language of the name.** -/
theorem IsName.language_normalize {name : Text} (h : IsName name) :
    language (normalize name) = language name := by
  unfold language
  rw [h.normalize_normalize]

/-- **The normal spelling does not depend on the case that a name is written in.** -/
theorem normalize_upper {name : Text} (h : IsPlain name) : normalize name.upper = normalize name := by
  have hupper : (subtags name).map Text.upper = (subtags name).map (List.map raised) :=
    List.map_congr_left fun t ht => Text.upper_ascii (h.isParts.part t ht).isAscii
  rw [normalize_eq_join, normalize_eq_join, subtags_upper h.1, hupper, h.isParts.spelled_raised]

theorem isPlain_join (h : IsParts parts) : IsPlain (join [hyphen] parts) := by
  refine ⟨isName_join h.part, ?_⟩
  rw [subtags_join h.part]
  exact h.subtag

/-- **`IsSpelled name`**: a plain name in its normal spelling. -/
structure IsSpelled (name : Text) : Prop where
  plain : IsPlain name
  normal : normalize name = name

theorem isSpelled_normalize {name : Text} (h : IsPlain name) : IsSpelled (normalize name) := by
  refine ⟨?_, IsName.normalize_normalize h.1⟩
  rw [normalize_eq_join]
  exact isPlain_join h.isParts.spelled

/-- **The upper case of a name in its normal spelling tells the name.** -/
theorem IsSpelled.eq_of_upper {name other : Text} (h : IsSpelled name) (ho : IsSpelled other)
    (heq : name.upper = other.upper) : name = other := by
  calc name = normalize name.upper := by rw [normalize_upper h.plain, h.normal]
    _ = normalize other.upper := by rw [heq]
    _ = other := by rw [normalize_upper ho.plain, ho.normal]

/-! ## Languages -/

theorem language_of_join {name part : Text} {rest : List Text} (hp : IsPart part)
    (h : normalize name = join [hyphen] (part :: rest)) : language name = part := by
  rw [language, h, cut_join hp.not_mem_hyphen]

/-- The language of a name that has one is a subtag in lower case. -/
theorem language_spec {name : Text} (h : IsName name) :
    language name = [] ∨ (IsPart (language name) ∧ (language name).lower = language name) := by
  have hnormal := normalize_eq_join name
  have hparts := h.part
  cases hs : subtags name with
  | nil =>
      rw [hs] at hnormal
      rw [language, hnormal]
      exact .inl rfl
  | cons first rest =>
      rw [hs] at hnormal hparts
      have hfirst := hparts first List.mem_cons_self
      rw [language_of_join (isPart_lower hfirst) hnormal]
      exact .inr ⟨isPart_lower hfirst, lower_lower hfirst⟩

end Phrasebook.Locale
