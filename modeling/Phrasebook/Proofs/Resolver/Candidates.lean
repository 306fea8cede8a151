import Mathlib.Data.List.Nodup
import Phrasebook.Proofs.Configuration
import Phrasebook.Proofs.Outcome
import Phrasebook.Resolver.Basic
import Phrasebook.Resolver.Memory

/-!
# Where the texts of a locale may be

The files that are tried for a locale are those that the configuration lists, those named after the locale and its
language, and the default file, each in its first place only (`triedFiles`). For a configuration with files from pairs
of a name and a file, the file that it knows for the locale and the order in which files are tried are two readings of
the same pairs (`candidates_of_pairs`).

Catalogs are remembered under the upper case of locale names, and files are named after the names as they are. So two
names may share a catalog but not the files that it is read from, exactly if they disagree in subtags that are kept as
they are written (`candidates_eq_iff`).
-/

namespace Phrasebook.Resolver

open Phrasebook.Configuration Phrasebook.Locale

/-! ## Files without repetitions -/

theorem nodup_eraseDups : (l : List Text) → l.eraseDups.Nodup
  | [] => List.nodup_nil
  | name :: rest => by
      rw [List.eraseDups_cons, List.nodup_cons]
      refine ⟨?_, nodup_eraseDups _⟩
      rw [List.mem_eraseDups]
      simp
termination_by l => l.length
decreasing_by exact Nat.lt_succ_of_le (List.length_filter_le _ _)

theorem eraseDups_eq_self {l : List Text} (h : l.Nodup) : l.eraseDups = l := by
  induction l with
  | nil => rfl
  | cons name rest ih =>
      obtain ⟨hname, hrest⟩ := List.nodup_cons.mp h
      have hfilter : rest.filter (fun other => !other == name) = rest :=
        List.filter_eq_self.mpr fun other hother => by
          simpa using fun heq : other = name => hname (heq ▸ hother)
      rw [List.eraseDups_cons, hfilter, ih hrest]

theorem head?_eraseDups (l : List Text) : l.eraseDups.head? = l.head? := by
  cases l with
  | nil => rfl
  | cons name rest => rw [List.eraseDups_cons, List.head?_cons, List.head?_cons]

/-- What is there already adds nothing. -/
theorem eraseDups_append_cons {l rest : List Text} {file : Text} (h : file ∈ l) :
    (l ++ file :: rest).eraseDups = (l ++ rest).eraseDups := by
  have hold : (file :: rest).removeAll l = rest.removeAll l :=
    List.filter_cons_of_neg (by simpa using h)
  rw [List.eraseDups_append, List.eraseDups_append, hold]

theorem eraseDups_or {l : List Text} {file? any? : Option Text} (h : file? = none ∨ file? = any?) :
    (l ++ (file?.toList ++ any?.toList)).eraseDups = (l ++ any?.toList).eraseDups := by
  rcases h with rfl | rfl
  · rfl
  · cases file? with
    | none => rfl
    | some file =>
        have hlast : file ∈ l ++ [file] := List.mem_append_right l (List.mem_singleton_self file)
        have htwice : (l ++ [file] ++ [file]).eraseDups = (l ++ [file] ++ []).eraseDups := eraseDups_append_cons hlast
        rw [List.append_nil, List.append_assoc] at htwice
        exact htwice

/-! ## The files that are tried -/

/-- The file beside the default file that is named after a locale. -/
def fileNamed (c : Configuration) (separator name : Text) : Text :=
  (Path.splitExtension c.defaultFile).1 ++ separator ++ name ++ (Path.splitExtension c.defaultFile).2

/-- The files that are tried for a locale, where `separator` stands before names of locales in names of files. The
default file is tried if that is asked for, or if files hold the texts of many locales. -/
def triedFiles (c : Configuration) (separator : Text) (many : Bool) (locale : Text) (includesDefault : Bool) :
    List Text :=
  let names : List Text := [locale, language locale]
  let shared : List Text := if includesDefault || many then [c.defaultFile] else []
  (listedFiles c locale ++ (names.filter fun t => !t.isEmpty).map (fileNamed c separator) ++ shared).eraseDups

variable {r : Resolver} {c : Configuration} {f : Files.Format} {separator name other file locale : Text}
  {many includesDefault : Bool}

theorem eraseDups_listedFiles (c : Configuration) (locale : Text) :
    (listedFiles c locale).eraseDups = listedFiles c locale :=
  eraseDups_eq_self (nodup_eraseDups _)

/-- **The candidates are the files that are tried.** -/
theorem candidates_eq (h : r.format c = .ok f) :
    r.candidates c locale includesDefault
      = .ok (triedFiles c f.localeSeparator f.holdsManyLocales locale includesDefault) := by
  have hfurther : furtherFiles c f locale includesDefault
      = ((namedFiles c f locale ++ sharedFiles c f includesDefault).removeAll (listedFiles c locale)).eraseDups := by
    refine congrArg List.eraseDups (List.filter_congr fun t _ => ?_)
    rw [Bool.eq_iff_iff]
    simp
  have htried : triedFiles c f.localeSeparator f.holdsManyLocales locale includesDefault
      = (listedFiles c locale ++ (namedFiles c f locale ++ sharedFiles c f includesDefault)).eraseDups := by
    rw [← List.append_assoc]
    rfl
  rw [htried, List.eraseDups_append, eraseDups_listedFiles, ← hfurther, candidates, h]
  rfl

/-- A file named after a locale has a longer name than the default file. -/
theorem fileNamed_ne (h : name ≠ []) : fileNamed c separator name ≠ c.defaultFile := by
  intro heq
  have hlength := congrArg List.length heq
  have hname := List.length_pos_iff.mpr h
  have hsplit : c.defaultFile.length
      ≤ (Path.splitExtension c.defaultFile).1.length + (Path.splitExtension c.defaultFile).2.length := by
    unfold Path.splitExtension
    dsimp only
    split
    · exact Nat.le_add_right _ _
    · split
      · exact Nat.le_add_right _ _
      · rw [List.length_take, List.length_cons, List.length_reverse]
        omega
  simp only [fileNamed, List.length_append] at hlength
  omega

theorem fileNamed_inj (h : fileNamed c separator name = fileNamed c separator other) : name = other :=
  List.append_cancel_left (List.append_cancel_right h)

theorem mem_triedFiles :
    file ∈ triedFiles c separator many locale includesDefault
      ↔ file ∈ listedFiles c locale
        ∨ (∃ name ∈ [locale, language locale], name ≠ [] ∧ fileNamed c separator name = file)
        ∨ (includesDefault = true ∨ many = true) ∧ file = c.defaultFile := by
  have hshared : file ∈ (if includesDefault || many then [c.defaultFile] else [])
      ↔ (includesDefault = true ∨ many = true) ∧ file = c.defaultFile := by
    rw [← Bool.or_eq_true]
    split
    · next h => rw [List.mem_singleton, and_iff_right h]
    · next h => exact iff_of_false List.not_mem_nil fun hboth => h hboth.1
  have hnamed : file ∈ ([locale, language locale].filter fun t => !t.isEmpty).map (fileNamed c separator)
      ↔ ∃ name ∈ [locale, language locale], name ≠ [] ∧ fileNamed c separator name = file := by
    simp only [List.mem_map, List.mem_filter, Bool.not_eq_true', List.isEmpty_eq_false_iff, and_assoc]
  unfold triedFiles
  rw [List.mem_eraseDups, List.mem_append, List.mem_append, hnamed, hshared, or_assoc]

/-- The listed files are tried before everything else. -/
theorem exists_later (c : Configuration) (separator : Text) (many : Bool) (locale : Text) (includesDefault : Bool) :
    ∃ later, triedFiles c separator many locale includesDefault = listedFiles c locale ++ later
      ∧ ∀ file ∈ later, file ∉ listedFiles c locale := by
  unfold triedFiles
  dsimp only
  rw [List.append_assoc, List.eraseDups_append, eraseDups_listedFiles]
  refine ⟨_, rfl, fun file hfile => ?_⟩
  have hnew := (List.mem_filter.mp (List.mem_eraseDups.mp hfile)).2
  simpa using hnew

/-- A file that is listed is not tried again for its name. -/
theorem triedFiles_of_mem (h : fileNamed c separator locale ∈ listedFiles c locale) :
    triedFiles c separator many locale includesDefault
      = (listedFiles c locale ++ (([language locale].filter fun t => !t.isEmpty).map (fileNamed c separator)
        ++ if includesDefault || many then [c.defaultFile] else [])).eraseDups := by
  unfold triedFiles
  dsimp only
  rw [List.append_assoc]
  by_cases hne : locale = []
  · rw [List.filter_cons_of_neg (by simpa using hne)]
  · rw [List.filter_cons_of_pos (by simpa using hne), List.map_cons, List.cons_append, eraseDups_append_cons h]

/-! ## Files from pairs -/

/-- Up to three files in order. -/
theorem filterMap_id_three (a b any? : Option Text) :
    [a, b, any?].filterMap id = a.toList ++ (b.toList ++ any?.toList) := by
  cases a <;> cases b <;> cases any? <;> rfl

theorem head?_filterMap_id_three (a b any? : Option Text) : ([a, b, any?].filterMap id).head? = (a.or b).or any? := by
  cases a <;> cases b <;> cases any? <;> rfl

theorem listedFiles_eq (c : Configuration) (locale : Text) :
    listedFiles c locale = ([c.fileUnder? locale.upper, c.fileUnder? (language locale).upper,
      c.fileUnder? wildcard].filterMap id).eraseDups := by
  have hkeys : [c.fileUnder? locale.upper, c.fileUnder? (language locale).upper, c.fileUnder? wildcard]
      = [locale.upper, (language locale).upper, wildcard].map c.fileUnder? := rfl
  rw [hkeys, List.filterMap_map]
  rfl

section Pairs

variable {pairs : List (Text × Text)} (hlocale : locale = [] ∨ IsTag locale)
include hlocale

theorem language_normalize_tag : language (normalize locale) = language locale := by
  rcases hlocale with rfl | h
  · rfl
  · exact h.language_normalize

/-- The file for a locale is the first of those that are listed for it. -/
theorem fileFor?_eq_head : c.fileFor? locale = (listedFiles c (normalize locale)).head? := by
  rw [listedFiles_eq, head?_eraseDups, head?_filterMap_id_three, language_normalize_tag hlocale, fileFor?]

/-- **The files that are listed for a locale are those that the pairs name for it**, in the same order. -/
theorem listedFiles_normalize (hmap : fileMap pairs = .ok c.files) :
    listedFiles c (normalize locale) = (references pairs locale).eraseDups := by
  rw [listedFiles_eq, language_normalize_tag hlocale, ← comparable_tag hlocale, ← comparable_language hlocale,
    fileUnder?_wildcard hmap, references, filterMap_id_three, filterMap_id_three]
  by_cases hlanguage : IsWildcard (language locale)
  · -- The wildcard goes by the name of the language, so there is nothing but its file, which is tried anyway.
    rw [eraseDups_or (fileUnder?_any hmap hlanguage), eraseDups_or (fileOf?_any hmap hlanguage)]
    by_cases hany : IsWildcard locale
    · have hstored := eraseDups_or (l := []) (fileUnder?_any hmap hany)
      have hnamed := eraseDups_or (l := []) (fileOf?_any hmap hany)
      exact hstored.trans hnamed.symm
    · rw [fileUnder?_named hmap (comparable_tag_ne_nil hlocale) hany]
  · have hany : ¬IsWildcard locale := fun h => hlanguage (h.language hlocale)
    rw [fileUnder?_named hmap (comparable_tag_ne_nil hlocale) hany,
      fileUnder?_named hmap (comparable_language_ne_nil hlocale) hlanguage]

end Pairs

/-- **`Tries c pairs separator many locale includesDefault files`**: the files are tried as the pairs of the
configuration have it. -/
structure Tries (c : Configuration) (pairs : List (Text × Text)) (separator : Text) (many : Bool) (locale : Text)
    (includesDefault : Bool) (files : List Text) : Prop where
  /-- Which files are tried. -/
  mem : ∀ file, file ∈ files ↔ file ∈ references pairs locale
    ∨ (∃ name ∈ [normalize locale, language locale], name ≠ [] ∧ fileNamed c separator name = file)
    ∨ (includesDefault = true ∨ many = true) ∧ file = c.defaultFile
  nodup : files.Nodup
  /-- The file for the locale is tried first. -/
  head : ∀ file ∈ c.fileFor? locale, files.head? = some file
  /-- What the pairs name is tried before everything else. -/
  order : ∃ later, files = (references pairs locale).eraseDups ++ later ∧ ∀ file ∈ later, file ∉ references pairs locale
  /-- When the default file is tried. -/
  shared : c.defaultFile ∈ files ↔ includesDefault = true ∨ many = true ∨ c.defaultFile ∈ references pairs locale

section Pairs

variable {pairs : List (Text × Text)} (hmap : fileMap pairs = .ok c.files) (hlocale : locale = [] ∨ IsTag locale)
include hmap hlocale

theorem fileFor?_eq_head_references : c.fileFor? locale = (references pairs locale).head? := by
  rw [fileFor?_eq_head hlocale, listedFiles_normalize hlocale hmap, head?_eraseDups]

theorem tries_triedFiles (separator : Text) (many includesDefault : Bool) :
    Tries c pairs separator many locale includesDefault
      (triedFiles c separator many (normalize locale) includesDefault) := by
  have hlisted := listedFiles_normalize hlocale hmap
  have hmem : ∀ file, file ∈ triedFiles c separator many (normalize locale) includesDefault
      ↔ file ∈ references pairs locale
        ∨ (∃ name ∈ [normalize locale, language locale], name ≠ [] ∧ fileNamed c separator name = file)
        ∨ (includesDefault = true ∨ many = true) ∧ file = c.defaultFile := by
    intro file
    rw [mem_triedFiles, hlisted, List.mem_eraseDups, language_normalize_tag hlocale]
  obtain ⟨later, heq, hnew⟩ := exists_later c separator many (normalize locale) includesDefault
  rw [hlisted] at heq hnew
  refine ⟨hmem, nodup_eraseDups _, fun file hfirst => ?_,
    ⟨later, heq, fun file hfile href => hnew file hfile (List.mem_eraseDups.mpr href)⟩, ?_⟩
  · rw [Option.mem_def, fileFor?_eq_head_references hmap hlocale, ← head?_eraseDups] at hfirst
    rw [heq, List.head?_append_of_ne_nil _ (fun hnil => by simp [hnil] at hfirst), hfirst]
  · -- No file that is named after a locale is the default file.
    rw [hmem]
    constructor
    · rintro (href | ⟨name, -, hne, hsame⟩ | ⟨hasked | hmany, -⟩)
      · exact .inr (.inr href)
      · exact absurd hsame (fileNamed_ne hne)
      · exact .inl hasked
      · exact .inr (.inl hmany)
    · rintro (hasked | hmany | href)
      · exact .inr (.inr ⟨.inl hasked, rfl⟩)
      · exact .inr (.inr ⟨.inr hmany, rfl⟩)
      · exact .inl href

end Pairs

/-- **The file for a locale and the files that are tried for it agree on the pairs they come from.** The file for a
locale is that of the pair with its name, else that of the pair with the name of its language, else that of the wildcard,
blank ones aside. The files that are tried begin with it, and the files of all these pairs come before any other. -/
theorem candidates_of_pairs {pairs : List (Text × Text)} (hmap : fileMap pairs = .ok c.files)
    (hlocale : locale = [] ∨ IsTag locale) :
    c.fileFor? locale = ((fileOf? pairs (IsNameOf · locale)).or (fileOf? pairs (IsNameOf · (language locale)))).or
        (fileOf? pairs IsWildcard)
      ∧ (∀ (r : Resolver) (f : Files.Format) (includesDefault : Bool), r.format c = .ok f →
        r.candidates c (normalize locale) includesDefault
          = .ok (triedFiles c f.localeSeparator f.holdsManyLocales (normalize locale) includesDefault))
      ∧ ∀ (separator : Text) (many includesDefault : Bool), Tries c pairs separator many locale includesDefault
        (triedFiles c separator many (normalize locale) includesDefault) := by
  refine ⟨?_, fun r f includesDefault => candidates_eq, tries_triedFiles hmap hlocale⟩
  rw [fileFor?_eq_head_references hmap hlocale, references, head?_filterMap_id_three]

/-- Files for German and for everything else, and a blank one for Austria. -/
def wordFiles : List (Text × Text) := [(" DE ", "de.ini"), ("de_AT", " "), ("other", " words.ini ")]

/-- A configuration with these files. -/
def wordConfiguration : Configuration :=
  { (default : Configuration) with
    defaultFile := "words.ini"
    files := [("DE", "de.ini"), ("DE-AT", ""), ("DEFAULT", "words.ini")] }

theorem candidates_of_wordFiles :
    fileMap wordFiles = .ok wordConfiguration.files ∧ IsTag "De_aT"
      ∧ wordConfiguration.fileFor? "De_aT" = some "de.ini"
      ∧ triedFiles wordConfiguration "_" false (normalize "De_aT") false
        = ["de.ini", "words.ini", "words_de-AT.ini", "words_de.ini"]
      ∧ wordConfiguration.defaultFile ∈ triedFiles wordConfiguration "_" false (normalize "De_aT") false := by
  have hmap : fileMap wordFiles = .ok wordConfiguration.files := by decide +kernel
  have htag : IsTag "De_aT" := by decide +kernel
  obtain ⟨hfile, -, htries⟩ := candidates_of_pairs hmap (.inr htag)
  have hshared := (htries "_" false false).shared
  refine ⟨hmap, htag, hfile.trans (by decide +kernel), by decide +kernel, hshared.mpr (.inr (.inr ?_))⟩
  decide +kernel

/-! ## Names that share a catalog -/

variable {a b : Text}

/-- If another name of the same catalog has the same files, then the file that is named after it is a listed one, or
the two are the same. -/
theorem fileNamed_mem_listed (ha : IsTag a) (hb : IsTag b) (hkey : (normalize a).upper = (normalize b).upper)
    (hne : normalize a ≠ normalize b)
    (htried : triedFiles c separator many (normalize a) includesDefault
      = triedFiles c separator many (normalize b) includesDefault) :
    fileNamed c separator (normalize a) ∈ listedFiles c (normalize b) := by
  have hempty : normalize a ≠ [] := by
    intro hnil
    rcases comparable_tag_ne_nil (.inr ha) with rfl | hcomparable
    · exact absurd ha (by decide)
    · exact hcomparable (by rw [comparable_tag (.inr ha), hnil]; rfl)
  have hmem : fileNamed c separator (normalize a) ∈ triedFiles c separator many (normalize a) includesDefault :=
    mem_triedFiles.mpr (.inr (.inl ⟨_, List.mem_cons_self, hempty, rfl⟩))
  rw [htried, mem_triedFiles, hb.language_normalize] at hmem
  rcases hmem with hlisted | ⟨name, hname, -, heq⟩ | ⟨-, heq⟩
  · exact hlisted
  · exfalso
    rcases List.mem_pair.mp hname with rfl | rfl
    · exact hne (fileNamed_inj heq).symm
    · -- A name that is its language has no hyphen, so neither has the other one.
      have hlanguage : language b = normalize a := fileNamed_inj heq
      have hnone : hyphen ∉ normalize b := by
        rw [← hb.hyphen_mem_iff, ← hkey, ha.hyphen_mem_iff, ← hlanguage]
        exact hb.isPart_language.not_mem_hyphen
      exact hne (hlanguage.symm.trans (language_eq_normalize hnone))
  · exact absurd heq (fileNamed_ne hempty)

/-- **Two names that share a catalog share the files that it is read from exactly if they agree in the subtags that are
kept as they are written**, unless the files that are named after the two are both listed ones. -/
theorem candidates_eq_iff (ha : IsTag a) (hb : IsTag b)
    (hkey : Memory.keyOf (normalize a) = Memory.keyOf (normalize b)) (r : Resolver) (c : Configuration)
    (includesDefault : Bool) :
    r.candidates c (normalize a) includesDefault = r.candidates c (normalize b) includesDefault
      ↔ ∀ f, r.format c = .ok f → keptSubtags a = keptSubtags b
        ∨ ∀ name ∈ [a, b], fileNamed c f.localeSeparator (normalize name) ∈ listedFiles c (normalize a) := by
  have hlanguage := ha.language_eq_of_upper hb hkey
  -- Listed files depend on the language and on the key, which the two names share.
  have hlisted : listedFiles c (normalize b) = listedFiles c (normalize a) := by
    rw [listedFiles_eq, listedFiles_eq, ha.language_normalize, hb.language_normalize, hlanguage]
    change (normalize a).upper = (normalize b).upper at hkey
    rw [hkey]
  cases hformat : r.format c with
  | error e =>
      refine iff_of_true ?_ fun f hf => nomatch hf
      rw [candidates, candidates, hformat]
      rfl
  | ok f =>
      rw [candidates_eq hformat, candidates_eq hformat, Except.ok.injEq]
      constructor
      · intro htried f' hf
        obtain rfl := Except.ok.inj hf
        rw [or_iff_not_imp_left, ← ha.normalize_eq_iff hb hkey]
        intro hne name hname
        rcases List.mem_pair.mp hname with rfl | rfl
        · exact hlisted ▸ fileNamed_mem_listed ha hb hkey hne htried
        · exact fileNamed_mem_listed hb ha hkey.symm (Ne.symm hne) htried.symm
      · intro h
        rcases h f rfl with hkept | hmem
        · rw [(ha.normalize_eq_iff hb hkey).mpr hkept]
        · have hb' : fileNamed c f.localeSeparator (normalize b) ∈ listedFiles c (normalize b) :=
            hlisted ▸ hmem b (List.mem_cons_of_mem _ List.mem_cons_self)
          rw [triedFiles_of_mem (hmem a List.mem_cons_self), triedFiles_of_mem hb', hlisted, ha.language_normalize,
            hb.language_normalize, hlanguage]

/-- A resolver of messages in files that are not listed. -/
def messages : Resolver where
  configuration := { (default : Configuration) with defaultFile := "m.ini" }
  registry := .standard .standard
  source := .ofFiles []
  hooks := .none
  columnMatcher := none
  defaultMode := none

/-- A variant that is written in the same case. -/
theorem candidates_eq_of_variant :
    Memory.keyOf (normalize "sl_nedis") = Memory.keyOf (normalize "SL-nedis")
      ∧ messages.candidates messages.configuration (normalize "sl_nedis") false
        = messages.candidates messages.configuration (normalize "SL-nedis") false := by
  have hkey : Memory.keyOf (normalize "sl_nedis") = Memory.keyOf (normalize "SL-nedis") := by decide +kernel
  have htag : IsTag "sl_nedis" := by decide +kernel
  have hother : IsTag "SL-nedis" := by decide +kernel
  have hkept : keptSubtags "sl_nedis" = keptSubtags "SL-nedis" := by decide +kernel
  exact ⟨hkey, (candidates_eq_iff htag hother hkey messages messages.configuration false).mpr fun _ _ => .inl hkept⟩

/-- A variant that is written in different cases. -/
theorem candidates_ne_of_variant :
    IsTag "de-abcde" ∧ IsTag "de-ABCDE"
      ∧ Memory.keyOf (normalize "de-abcde") = Memory.keyOf (normalize "de-ABCDE")
      ∧ messages.candidates messages.configuration (normalize "de-abcde") false = .ok ["m_de-abcde.ini", "m_de.ini"]
      ∧ messages.candidates messages.configuration (normalize "de-ABCDE") false
        = .ok ["m_de-ABCDE.ini", "m_de.ini"] :=
  ⟨by decide +kernel, by decide +kernel, by decide +kernel, ok_of_toOption (by decide +kernel),
    ok_of_toOption (by decide +kernel)⟩

end Phrasebook.Resolver
