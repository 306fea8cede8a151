import Phrasebook.Proofs.Locale.Spelling

/-!
# The locale that stands in for another one

A locale without a text of its own is answered for by the locale in which its language is most likely meant (`basic?`).
Which one that is stands in a table of likely locales, and all that is asked of the table is that each of them ends in a
territory (`EndsInTerritory`). Then fallback is a single step: the name that stands in is in its normal spelling, is a
locale of the same language, and no other name stands in for it (`IsName.basic`). Which name it is depends on the language
alone, so all locales of a language fall back to the same one (`basic?_same_language`), and fallback can neither chain nor
change the language (`fallback_closed`).
-/

namespace Phrasebook.Locale

open CodePoint Text

variable {name other substitute territory : Text} {likely : Text → Option Text}

/-! ## Territories -/

/-- A territory: two capital letters, or three digits. -/
def IsTerritory (t : Text) : Prop :=
  (t.length = 2 ∧ ∀ c ∈ t, 0x41 ≤ c.val ∧ c.val ≤ 0x5A) ∨ (t.length = 3 ∧ ∀ c ∈ t, c.isAsciiDigit = true)

instance : DecidablePred IsTerritory := fun _ => inferInstanceAs (Decidable (_ ∨ _))

/-- Each locale of a table ends in a territory. -/
def EndsInTerritory (likely : Text → Option Text) : Prop :=
  ∀ language locale, likely language = some locale →
    ∃ front territory, locale = front ++ underscore :: territory ∧ IsTerritory territory

/-- The likely locales that are known end in a territory. -/
theorem endsInTerritory_likelySubtags : EndsInTerritory likelySubtags? := by
  intro language locale h
  obtain ⟨entry, hfind, rfl⟩ := Option.map_eq_some_iff.mp h
  obtain ⟨written, hwritten, rfl⟩ := List.mem_map.mp (List.mem_of_find?_eq_some hfind)
  have hchecked : ∀ p ∈ regionLanguages, IsTerritory p.1 := by decide +kernel
  exact ⟨language, written.1, rfl, hchecked written hwritten⟩

theorem IsTerritory.length (h : IsTerritory territory) : territory.length = 2 ∨ territory.length = 3 :=
  h.imp And.left And.left

theorem IsTerritory.isPart (h : IsTerritory territory) : IsPart territory := by
  refine ⟨?_, fun c hc => ?_⟩
  · rintro rfl
    simpa using h.length
  · rcases h with ⟨-, hcapitals⟩ | ⟨-, hdigits⟩
    · have hc := hcapitals c hc
      simp [isAsciiAlphanumeric, isAsciiLetter, hc]
    · simp [isAsciiAlphanumeric, hdigits c hc]

/-- A territory is in its usual case. -/
theorem IsTerritory.normal (h : IsTerritory territory) : normalizeSubtag territory = territory := by
  rw [normalizeSubtag_short h.isPart h.length]
  refine (List.map_congr_left fun c hc => ?_).trans (List.map_id territory)
  have hsmall : ¬(0x61 ≤ c.val ∧ c.val ≤ 0x7A) := by
    rcases h with ⟨-, hcapitals⟩ | ⟨-, hdigits⟩
    · have hc := hcapitals c hc
      omega
    · have hc := hdigits c hc
      simp only [isAsciiDigit, Bool.and_eq_true, decide_eq_true_eq] at hc
      omega
  rw [raised, if_neg hsmall, id]

/-- The last subtag of a locale that ends in a territory is the territory. -/
theorem IsTerritory.lastSubtag? (h : IsTerritory territory) (front : Text) :
    lastSubtag? (front ++ underscore :: territory) = some territory := by
  have hmem : underscore ∉ territory := fun hmem => absurd (h.isPart.2 underscore hmem) (by decide)
  have hsplit : splitAll underscore (front ++ underscore :: territory) = splitAll underscore front ++ [territory] := by
    rw [splitAll_append_cons, splitAll_eq_self hmem]
  have hfront := List.length_pos_iff.mpr (splitAll_ne_nil underscore front)
  rw [Locale.lastSubtag?, hsplit, if_pos (by simpa using hfront)]
  exact List.getLast?_concat

/-- What is found in a table whose locales end in territories is a territory. -/
theorem EndsInTerritory.spec {language : Text} (hlikely : EndsInTerritory likely)
    (h : likelyTerritory? likely language = some territory) : language ≠ [] ∧ IsTerritory territory := by
  obtain ⟨_, hlanguage, h⟩ := Option.bind_eq_some_iff.mp h
  obtain ⟨locale, hlocale, h⟩ := Option.bind_eq_some_iff.mp h
  obtain ⟨front, found, rfl, hfound⟩ := hlikely language locale (Option.filter_eq_some_iff.mp hlocale).1
  rw [hfound.lastSubtag?] at h
  obtain rfl := Option.some.inj (Option.filter_eq_some_iff.mp h).1
  refine ⟨?_, hfound⟩
  rintro rfl
  cases hlanguage

/-- What stands in for a name whose language has a likely territory. -/
theorem basic?_of_territory (h : likelyTerritory? likely (language name) = some territory) :
    basic? name likely = if (join [hyphen] [language name, territory]).fold = (normalize name).fold then none
      else some (join [hyphen] [language name, territory]) := by
  unfold basic?
  rw [h]
  rfl

/-- A name that stands in for another one says the likely territory of its language. -/
theorem exists_territory (h : basic? name likely = some substitute) :
    ∃ territory, likelyTerritory? likely (language name) = some territory
      ∧ substitute = join [hyphen] [language name, territory] := by
  cases hterritory : likelyTerritory? likely (language name) with
  | none =>
      rw [basic?, hterritory] at h
      cases h
  | some territory =>
      rw [basic?_of_territory hterritory] at h
      split at h
      · cases h
      · exact ⟨territory, rfl, (Option.some.inj h).symm⟩

/-! ## One step -/

/-- A language and its likely territory are subtags in their usual case. -/
theorem IsName.spelled_territory (h : IsName name) (hlikely : EndsInTerritory likely)
    (hterritory : likelyTerritory? likely (language name) = some territory) :
    IsParts [language name, territory] ∧ spelledParts [language name, territory] = [language name, territory] := by
  obtain ⟨hne, hfound⟩ := hlikely.spec hterritory
  obtain ⟨hlanguage, hlower⟩ := (language_spec h).resolve_left hne
  refine ⟨⟨fun t ht => ?_, fun t ht => ?_⟩, ?_⟩
  · rcases List.mem_pair.mp ht with rfl | rfl
    · exact hlanguage
    · exact hfound.isPart
  · obtain rfl := List.mem_singleton.mp ht
    exact .inl hfound.length
  · rw [spelledParts, hlower, List.map_singleton, hfound.normal]

/-- **The name that stands in for another one is in its normal spelling and has the same language, and none stands in
for it.** -/
theorem IsName.basic (h : IsName name) (hlikely : EndsInTerritory likely) (hb : basic? name likely = some substitute) :
    IsSpelled substitute ∧ language substitute = language name ∧ basic? substitute likely = none := by
  obtain ⟨territory, hterritory, rfl⟩ := exists_territory hb
  obtain ⟨hparts, hspelled⟩ := h.spelled_territory hlikely hterritory
  have hnormal : normalize (join [hyphen] [language name, territory]) = join [hyphen] [language name, territory] := by
    rw [normalize_eq_join, subtags_join hparts.part, hspelled]
  have hlanguage : language (join [hyphen] [language name, territory]) = language name :=
    language_of_join (hparts.part _ List.mem_cons_self) hnormal
  have hagain : likelyTerritory? likely (language (join [hyphen] [language name, territory])) = some territory := by
    rw [hlanguage, hterritory]
  refine ⟨⟨isPlain_join hparts, hnormal⟩, hlanguage, ?_⟩
  rw [basic?_of_territory hagain, hlanguage, hnormal]
  exact if_pos rfl

theorem IsSpelled.basic (h : IsSpelled name) (hb : basic? name = some substitute) :
    IsSpelled substitute ∧ basic? substitute = none := by
  obtain ⟨hspelled, -, hnone⟩ := IsName.basic h.plain.1 endsInTerritory_likelySubtags hb
  exact ⟨hspelled, hnone⟩

/-- What stands in for a name depends on its language alone: it is the same for all names of the language, except that
no name stands in for itself. -/
theorem basic?_same_language (hb : basic? name likely = some substitute) (hlanguage : language other = language name) :
    basic? other likely = if (normalize other).fold = substitute.fold then none else some substitute := by
  obtain ⟨territory, hterritory, rfl⟩ := exists_territory hb
  have hother : likelyTerritory? likely (language other) = some territory := by rw [hlanguage, hterritory]
  rw [basic?_of_territory hother, hlanguage]
  simp only [eq_comm]

/-- **Fallback is one closed step.** The normal spelling of a name is its own normal spelling and has the language of the
name. A name that stands in for another one, by any table whose locales end in territories, is in its normal spelling and
has the same language, none stands in for it, and it stands in for every name of the language whose normal spelling is not
that name but for its case. -/
theorem fallback_closed (h : IsName name) :
    normalize (normalize name) = normalize name ∧ language (normalize name) = language name
      ∧ ∀ likely, EndsInTerritory likely → ∀ basic, basic? name likely = some basic →
        normalize basic = basic ∧ language basic = language name ∧ basic? basic likely = none
          ∧ ∀ other, language other = language name →
            basic? other likely = if (normalize other).fold = basic.fold then none else some basic := by
  refine ⟨h.normalize_normalize, h.language_normalize, fun likely hlikely basic hb => ?_⟩
  obtain ⟨hspelled, hlanguage, hnone⟩ := h.basic hlikely hb
  exact ⟨hspelled.normal, hlanguage, hnone, fun other hother => basic?_same_language hb hother⟩

/-- The Albanian of Kosovo, however it is spelled, falls back to that of Albania, as the Albanian of North Macedonia does. -/
theorem fallback_closed_albanian :
    IsName "_SQ--xk_" ∧ EndsInTerritory likelySubtags? ∧ basic? "_SQ--xk_" = some "sq-AL"
      ∧ normalize (normalize "_SQ--xk_") = "sq-XK" ∧ basic? "sq-AL" = none ∧ basic? "sq_mk" = some "sq-AL" := by
  have hname : IsName "_SQ--xk_" := by decide +kernel
  have hbasic : basic? "_SQ--xk_" = some "sq-AL" := by decide +kernel
  obtain ⟨hnormal, -, hstep⟩ := fallback_closed hname
  obtain ⟨-, -, hnone, hother⟩ := hstep likelySubtags? endsInTerritory_likelySubtags "sq-AL" hbasic
  refine ⟨hname, endsInTerritory_likelySubtags, hbasic, hnormal.trans (by decide +kernel), hnone, ?_⟩
  exact (hother "sq_mk" (by decide +kernel)).trans (if_neg (by decide +kernel))

end Phrasebook.Locale
