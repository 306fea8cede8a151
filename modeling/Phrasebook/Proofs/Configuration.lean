import Mathlib.Data.List.Nodup
import Phrasebook.Configuration
import Phrasebook.Proofs.Locale.Tags
import Phrasebook.Proofs.Pairs
import Phrasebook.Proofs.Text.Capitals

/-!
# The files that a configuration lists

Files are listed as pairs of a name and a file, and stored under keys that stand for the names. Here is what the pairs
say without such keys: a name is that of a locale if the two differ in nothing but outer blanks, letter case and
underscores for hyphens (`IsNameOf`), and any name of the wildcard is as good as another (`IsWildcard`). Keys follow names
(`keyOf_eq`), with one exception: the names of the wildcard might also be those of locales. What is stored under the key
of such a locale, and what the pairs say about it, is the file of the wildcard or nothing (`fileUnder?_any`,
`fileOf?_any`); for every other locale the two agree (`fileUnder?_named`).
-/

namespace Phrasebook.Configuration

open CodePoint Phrasebook.Locale

/-- The part of a name that counts when names are compared. -/
def comparable (name : Text) : Text := (name.strip.replace "_" "-").fold

/-- **`IsNameOf name locale`**: a name is that of a locale, up to outer blanks, letter case and underscores for hyphens. No
name is that of no locale. -/
def IsNameOf (name locale : Text) : Prop := locale ≠ [] ∧ comparable name = comparable locale

/-- A name of the wildcard. -/
def IsWildcard (name : Text) : Prop := ∃ any ∈ wildcardNames, IsNameOf name any

instance (locale : Text) : DecidablePred (IsNameOf · locale) := fun _ => inferInstanceAs (Decidable (_ ∧ _))

instance : DecidablePred IsWildcard := fun name => inferInstanceAs (Decidable (∃ any ∈ wildcardNames, IsNameOf name any))

/-- The file in the first pair whose name is as asked for, without outer blanks, unless it is blank. -/
def fileOf? (pairs : List (Text × Text)) (p : Text → Prop) [DecidablePred p] : Option Text :=
  ((pairs.find? fun q => p q.1).map fun q => q.2.strip).filter fun file => !file.isEmpty

/-- The files that some pairs name for a locale, for its language and for all others, those that there are. -/
def references (pairs : List (Text × Text)) (locale : Text) : List Text :=
  [fileOf? pairs (IsNameOf · locale), fileOf? pairs (IsNameOf · (language locale)), fileOf? pairs IsWildcard].filterMap id

/-! ## Names and keys -/

variable {name locale t w : Text}

/-- A word without hyphens and underscores is written as it is, up to letter case. -/
theorem upper_dashed_iff (hhyphen : hyphen ∉ w) (hunderscore : underscore ∉ w) :
    Text.upper (t.map dashed) = w ↔ t.upper = w := by
  constructor
  · intro h
    have hnone : underscore ∉ t := fun hmem => by
      have hdashed : hyphen ∈ t.map dashed := List.mem_map.mpr ⟨underscore, hmem, rfl⟩
      exact hhyphen (h ▸ Text.raised_mem_upper (by decide) hdashed)
    rwa [map_dashed_eq_self hnone] at h
  · intro h
    have hnone : underscore ∉ t := fun hmem => hunderscore (h ▸ Text.raised_mem_upper (by decide) hmem)
    rwa [map_dashed_eq_self hnone]

/-- What is checked of the names of the wildcard. -/
theorem wildcardNames_apart : ∀ any ∈ wildcardNames, Text.IsAscii any ∧ any ≠ [] ∧ any.map lowered = any
    ∧ any.map raised = comparable any ∧ hyphen ∉ comparable any ∧ underscore ∉ comparable any
    ∧ Unicode.IsApart Unicode.lowerExceptions Unicode.lowerRuns any
    ∧ Unicode.IsApart Unicode.upperExceptions Unicode.upperRuns (any.map raised) := by
  unfold Text.IsAscii
  decide +kernel

/-- **The names of the wildcard are told by their lower case, and might be by their upper case as well.** -/
theorem mem_wildcardNames_iff : name.strip.lower ∈ wildcardNames ↔ IsWildcard name := by
  have hname : ∀ any ∈ wildcardNames, name.strip.lower = any ↔ IsNameOf name any := by
    intro any hany
    obtain ⟨hascii, hne, hsmall, hraised, hhyphen, hunderscore, hlower, hupper⟩ := wildcardNames_apart any hany
    rw [Text.lower_eq_iff hascii hsmall hlower hupper, hraised, ← upper_dashed_iff hhyphen hunderscore,
      ← replace_underscore, IsNameOf, and_iff_right hne]
    rfl
  constructor
  · intro hmem
    exact ⟨_, hmem, (hname _ hmem).mp rfl⟩
  · rintro ⟨any, hany, hnames⟩
    rwa [(hname any hany).mpr hnames]

theorem keyOf_eq (name : Text) : keyOf name = if IsWildcard name then wildcard else comparable name := by
  unfold keyOf
  exact if_congr mem_wildcardNames_iff rfl rfl

/-- The key of the wildcard is what one of its names is compared by. -/
theorem isWildcard_of_key (h : comparable name = wildcard) : IsWildcard name :=
  ⟨"default", by decide, by decide, h.trans (by decide +kernel)⟩

theorem IsWildcard.of_eq (h : IsWildcard name) (heq : comparable name = comparable locale) : IsWildcard locale := by
  obtain ⟨any, hany, hne, hsame⟩ := h
  exact ⟨any, hany, hne, heq.symm.trans hsame⟩

theorem keyOf_eq_wildcard_iff : keyOf name = wildcard ↔ IsWildcard name := by
  rw [keyOf_eq]
  split
  · next hany => exact iff_of_true rfl hany
  · next hany => exact iff_of_false (fun heq => hany (isWildcard_of_key heq)) hany

/-! ## Tags -/

theorem comparable_part (h : IsPart t) : comparable t = t.upper := by
  have hstrip : t.strip = t := Text.strip_eq_self fun c hc => not_blank_of_namePoint (by simp [isNamePoint, h.2 c hc])
  have hdashed : t.map dashed = t := map_dashed_eq_self fun hmem => absurd (h.2 _ hmem) (by decide)
  rw [comparable, hstrip, replace_underscore, hdashed]
  rfl

section Tag

variable (h : locale = [] ∨ IsTag locale)
include h

/-- **Names are compared with a tag by the upper case of its normal spelling.** -/
theorem comparable_tag : comparable locale = (normalize locale).upper := by
  rcases h with rfl | h
  · rfl
  · have hstrip : locale.strip = locale := Text.strip_eq_self fun c hc => not_blank_of_namePoint (h.isName c hc)
    rw [h.upper_normalize, comparable, hstrip]
    rfl

theorem comparable_language : comparable (language locale) = (language locale).upper := by
  rcases h with rfl | h
  · rfl
  · exact comparable_part h.isPart_language

theorem comparable_tag_ne_nil : locale = [] ∨ comparable locale ≠ [] := by
  refine h.imp_right fun h hnil => ?_
  rw [comparable_tag (.inr h), h.upper_normalize] at hnil
  have hempty : locale = [] := by
    rw [← List.map_eq_nil_iff, ← replace_underscore]
    exact Text.fold_eq_nil.mp hnil
  rw [hempty] at h
  exact absurd h (by decide)

theorem comparable_language_ne_nil : language locale = [] ∨ comparable (language locale) ≠ [] := by
  rcases h with rfl | h
  · exact .inl rfl
  · rw [comparable_part h.isPart_language]
    exact .inr fun hnil => h.isPart_language.1 (Text.fold_eq_nil.mp hnil)

/-- A tag that the wildcard goes by the name of is a language. -/
theorem IsWildcard.language (hany : IsWildcard locale) : IsWildcard (language locale) := by
  rcases h with rfl | h
  · exact hany
  · have ⟨any, hmem, _, hsame⟩ := hany
    obtain ⟨-, -, -, -, hhyphen, -⟩ := wildcardNames_apart any hmem
    rw [← hsame, comparable_tag (.inr h), h.hyphen_mem_iff] at hhyphen
    refine hany.of_eq ?_
    rw [comparable_tag (.inr h), comparable_language (.inr h), language_eq_normalize hhyphen]

end Tag

/-! ## Pairs that are accepted -/

variable {pairs done files : List (Text × Text)}

theorem listFiles_ok (h : listFiles done pairs = .ok files) (hdone : (Pairs.keys done).Nodup) :
    files = done ++ pairs.map (fun q => (keyOf q.1, q.2.strip)) ∧ (Pairs.keys files).Nodup := by
  induction pairs generalizing done with
  | nil =>
      obtain rfl := Except.ok.inj h
      exact ⟨(List.append_nil _).symm, hdone⟩
  | cons q rest ih =>
      rw [listFiles] at h
      split at h
      · cases h
      · next hnew =>
        -- A pair is added only under a new key, so the keys stay apart.
        have hkey : keyOf q.1 ∉ Pairs.keys done := fun hmem => hnew (Pairs.mem_keys_iff.mp hmem)
        have hnodup : (Pairs.keys (done ++ [(keyOf q.1, q.2.strip)])).Nodup := by
          rw [← Pairs.put_of_not_mem hkey]
          exact Pairs.nodup_put hdone _ _
        obtain ⟨hfiles, hkeys⟩ := ih h hnodup
        rw [hfiles, List.append_assoc] at hkeys ⊢
        exact ⟨rfl, hkeys⟩

/-- **Pairs that are accepted are stored under their keys, which differ.** -/
theorem fileMap_ok (h : fileMap pairs = .ok files) :
    files = pairs.map (fun q => (keyOf q.1, q.2.strip)) ∧ (pairs.map fun q => keyOf q.1).Nodup := by
  obtain ⟨hfiles, hkeys⟩ := listFiles_ok h List.nodup_nil
  rw [List.nil_append] at hfiles
  refine ⟨hfiles, ?_⟩
  rw [hfiles, Pairs.keys, List.map_map] at hkeys
  exact hkeys

theorem listFiles_of_apart (hdone : ∀ q ∈ pairs, keyOf q.1 ∉ Pairs.keys done) (hapart : (pairs.map fun q => keyOf q.1).Nodup) :
    listFiles done pairs = .ok (done ++ pairs.map fun q => (keyOf q.1, q.2.strip)) := by
  induction pairs generalizing done with
  | nil => exact congrArg Except.ok (List.append_nil done).symm
  | cons q rest ih =>
      obtain ⟨hfirst, hrest⟩ := List.nodup_cons.mp hapart
      have hnew : ¬Pairs.has (keyOf q.1) done = true := fun hhas =>
        hdone q List.mem_cons_self (Pairs.mem_keys_iff.mpr hhas)
      rw [listFiles, if_neg hnew, ih _ hrest, List.append_assoc]
      · rfl
      · intro p hp hmem
        rw [Pairs.keys, List.map_append, List.mem_append] at hmem
        rcases hmem with hmem | hmem
        · exact hdone p (List.mem_cons_of_mem q hp) hmem
        · exact hfirst (List.mem_map.mpr ⟨p, hp, List.mem_singleton.mp hmem⟩)

/-- **Pairs are accepted exactly if their keys differ**, and stored under them. -/
theorem fileMap_ok_iff : fileMap pairs = .ok files ↔
    (pairs.map fun q => keyOf q.1).Nodup ∧ files = pairs.map fun q => (keyOf q.1, q.2.strip) := by
  constructor
  · intro h
    exact (fileMap_ok h).symm
  · rintro ⟨hapart, rfl⟩
    exact listFiles_of_apart (fun _ _ hmem => nomatch hmem) hapart

theorem get?_map (key : Text) (pairs : List (Text × Text)) :
    Pairs.get? key (pairs.map fun q => (keyOf q.1, q.2.strip))
      = (pairs.find? fun q => keyOf q.1 = key).map fun q => q.2.strip := by
  induction pairs with
  | nil => rfl
  | cons q rest ih =>
      rw [List.map_cons, Pairs.get?]
      by_cases hkey : keyOf q.1 = key
      · rw [if_pos hkey, List.find?_cons_of_pos (by simpa using hkey)]
        rfl
      · rw [if_neg hkey, List.find?_cons_of_neg (by simpa using hkey), ih]

variable {p p' : Text → Prop} [DecidablePred p] [DecidablePred p']

theorem fileOf?_congr (h : ∀ q ∈ pairs, p q.1 ↔ p' q.1) : fileOf? pairs p = fileOf? pairs p' := by
  have hfind : pairs.find? (fun q => p q.1) = pairs.find? fun q => p' q.1 := by
    induction pairs with
    | nil => rfl
    | cons q rest ih =>
        have hq := h q List.mem_cons_self
        have ih := ih fun q' hq' => h q' (List.mem_cons_of_mem q hq')
        rw [List.find?_cons, List.find?_cons, ih, decide_eq_decide.mpr hq]
  rw [fileOf?, hfind, fileOf?]

theorem fileOf?_eq_none (h : ∀ q ∈ pairs, ¬p q.1) : fileOf? pairs p = none := by
  have hfind : pairs.find? (fun q => p q.1) = none :=
    List.find?_eq_none.mpr fun q hq => by simpa using h q hq
  rw [fileOf?, hfind]
  rfl

section Accepted

variable {c : Configuration} (hmap : fileMap pairs = .ok c.files)
include hmap

theorem fileUnder?_eq {key : Text} (hne : key ≠ []) : c.fileUnder? key = fileOf? pairs (keyOf · = key) := by
  unfold fileUnder? fileOf?
  rw [if_neg (by simpa using hne), (fileMap_ok hmap).1, get?_map]

/-- Under its own key is the file of the wildcard. -/
theorem fileUnder?_wildcard : c.fileUnder? wildcard = fileOf? pairs IsWildcard := by
  rw [fileUnder?_eq hmap (by decide)]
  exact fileOf?_congr fun q _ => keyOf_eq_wildcard_iff

/-- **What is stored for a locale is what the pairs say of it**, unless the wildcard goes by its name. -/
theorem fileUnder?_named (hne : locale = [] ∨ comparable locale ≠ []) (hany : ¬IsWildcard locale) :
    c.fileUnder? (comparable locale) = fileOf? pairs (IsNameOf · locale) := by
  rcases hne with rfl | hne
  · rw [fileOf?_eq_none fun q _ hnames => hnames.1 rfl]
    rfl
  · rw [fileUnder?_eq hmap hne]
    refine fileOf?_congr fun q _ => ?_
    have hlocale : locale ≠ [] := by
      rintro rfl
      exact hne rfl
    rw [IsNameOf, and_iff_right hlocale, keyOf_eq]
    split
    · next hq =>
      exact iff_of_false (fun heq => hany (isWildcard_of_key heq.symm)) fun heq => hany (hq.of_eq heq)
    · exact Iff.rfl

/-- Under the key of a locale that the wildcard goes by the name of is the file of the wildcard, or nothing. -/
theorem fileUnder?_any (hany : IsWildcard locale) :
    c.fileUnder? (comparable locale) = none ∨ c.fileUnder? (comparable locale) = fileOf? pairs IsWildcard := by
  by_cases hwildcard : comparable locale = wildcard
  · rw [hwildcard]
    exact .inr (fileUnder?_wildcard hmap)
  · -- Every name of the wildcard is stored under the one key, so nothing is under this one.
    left
    by_cases hempty : comparable locale = []
    · rw [hempty]
      rfl
    · rw [fileUnder?_eq hmap hempty]
      refine fileOf?_eq_none fun q _ heq => ?_
      rw [keyOf_eq] at heq
      split at heq
      · exact hwildcard heq.symm
      · next hq => exact hq (hany.of_eq heq.symm)

/-- The keys differ, so there is no more than one pair for the wildcard. -/
theorem find?_wildcard {q : Text × Text} (hmem : q ∈ pairs) (hany : IsWildcard q.1) :
    pairs.find? (fun q => IsWildcard q.1) = some q := by
  cases hfind : pairs.find? fun q => IsWildcard q.1 with
  | none => exact absurd hany (by simpa using List.find?_eq_none.mp hfind q hmem)
  | some other =>
      have hother : IsWildcard other.1 := by simpa using List.find?_some hfind
      have hkeys : keyOf other.1 = keyOf q.1 := by
        rw [keyOf_eq_wildcard_iff.mpr hother, keyOf_eq_wildcard_iff.mpr hany]
      rw [List.inj_on_of_nodup_map (fileMap_ok hmap).2 (List.mem_of_find?_eq_some hfind) hmem hkeys]

/-- What the pairs say of a locale that the wildcard goes by the name of is the file of the wildcard, or nothing. -/
theorem fileOf?_any (hany : IsWildcard locale) :
    fileOf? pairs (IsNameOf · locale) = none ∨ fileOf? pairs (IsNameOf · locale) = fileOf? pairs IsWildcard := by
  cases hfind : pairs.find? fun q => IsNameOf q.1 locale with
  | none =>
      left
      rw [fileOf?, hfind]
      rfl
  | some q =>
      right
      have hnames : IsNameOf q.1 locale := by simpa using List.find?_some hfind
      have hfirst := find?_wildcard hmap (List.mem_of_find?_eq_some hfind) (hany.of_eq hnames.2.symm)
      rw [fileOf?, hfind, fileOf?, hfirst]

end Accepted

end Phrasebook.Configuration
