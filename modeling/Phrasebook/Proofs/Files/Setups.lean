import Phrasebook.Files.Format
import Phrasebook.Proofs.Configuration
import Phrasebook.Proofs.Files.PairLines
import Phrasebook.Proofs.Outcome

/-!
# Configurations in ini and in toml files

A configuration says which file is the default one, perhaps its locale and a mode, and lists files by locale (`Setup`). It
can be written as an ini file and as a toml file. What is read back depends on what the configuration says and not on the
format that it is written in (`configuration_of_setup`): either the two are read to the same configuration, or neither is
read (`ini_toml_configurations_agree`).
-/

namespace Phrasebook

/-- A failure over a content: it is malformed, or well formed and unusable. -/
def Failure.IsOfContent : Failure → Prop
  | .content _ | .malformed _ => True
  | _ => False

namespace Configuration

/-- The last setting with a name, which is given in lower case. -/
def settingIn? (settings : List (Text × Text)) (name : Text) : Option Text :=
  (settings.reverse.find? fun p => p.1.lower = name).map Prod.snd

/-- The configuration of some settings and some files that are listed by locale. -/
def ofPairs (settings listed : List (Text × Text)) (source : Option Text) : Outcome Configuration := do
  let files ← fileMap listed
  ofSettings (settingIn? settings) files source

/-! ## Failures -/

theorem listFiles_fails (done pairs : List (Text × Text)) : FailsWith Failure.IsOfContent (listFiles done pairs) := by
  induction pairs generalizing done with
  | nil => exact .ok done
  | cons p pairs ih =>
      rw [listFiles]
      split
      · exact .error trivial
      · exact ih _

theorem ofSetting_fails (setting : Option Text) : FailsWith Failure.IsOfContent (Mode.ofSetting setting) := by
  unfold Mode.ofSetting
  split
  · exact .ok _
  · split
    · exact .ok _
    · split
      · exact .ok _
      · exact .error trivial

theorem validate_fails (c : Configuration) : FailsWith Failure.IsOfContent c.validate := by
  unfold validate
  split
  · exact .error trivial
  · split
    · exact .ok _
    · split
      · exact .ok _
      · exact .error trivial

/-- A configuration is valid exactly if it names a default file and its default locale is known. -/
theorem validate_ok_iff {c c' : Configuration} :
    c.validate = .ok c' ↔ c' = c ∧ c.defaultFile ≠ []
      ∧ ∀ name ∈ c.defaultLocale, name = [] ∨ Locale.isKnown name = true := by
  unfold validate
  rw [@eq_comm _ c' c]
  split
  · next hempty => simp [List.isEmpty_iff.mp hempty]
  · next hnamed =>
      have hnamed : c.defaultFile ≠ [] := by simpa using hnamed
      split
      · next hlocale => simp [hlocale, hnamed]
      · next name hlocale =>
          split
          · next hknown =>
              have hknown : name = [] ∨ Locale.isKnown name = true := by simpa using hknown
              simp [hlocale, hnamed, hknown]
          · next hunknown =>
              have hunknown : ¬(name = [] ∨ Locale.isKnown name = true) := by simpa using hunknown
              simp [hlocale, hunknown]

/-- **Settings and listed files make a configuration or are of no use.** -/
theorem ofPairs_fails (settings listed : List (Text × Text)) (source : Option Text) :
    FailsWith Failure.IsOfContent (ofPairs settings listed source) := by
  refine .bind (listFiles_fails [] listed) fun files _ => ?_
  exact .bind (ofSetting_fails _) fun mode _ => validate_fails _

end Configuration

namespace Files

open Phrasebook.Configuration (settingIn? ofPairs filesSection)
open Ini (IsKey)

variable {d : Dialect}

/-! ## What a document says -/

namespace Dialect.Writer

variable (w : d.Writer) {settings listed : List (Text × Text)}

theorem plainValue_item (sectionName : Text) {p : Text × Text} (hp : IsPair p) :
    (w.item sectionName p).plainValue = p.2 := w.plain hp.value

/-- The settings of a document are the pairs outside all sections. -/
theorem setting?_document (hsettings : ∀ p ∈ settings, IsPair p) (listed : List (Text × Text)) (name : Text) :
    (w.document settings filesSection listed).setting? name = settingIn? settings name := by
  have hinside : (listed.map (w.item filesSection)).reverse.find? (fun i => i.group.isEmpty && i.key.lower = name)
      = none := by
    rw [List.find?_eq_none]
    intro i hi
    obtain ⟨p, -, rfl⟩ := List.mem_map.mp (List.mem_reverse.mp hi)
    exact Bool.false_ne_true
  rw [Document.setting?, document, List.reverse_append, List.find?_append, hinside, Option.none_or, ← List.map_reverse,
    List.find?_map, Option.map_map, settingIn?]
  refine Option.map_congr fun p hp => w.plainValue_item [] (hsettings p ?_)
  exact List.mem_reverse.mp (List.mem_of_find?_eq_some hp)

/-- The files that a document lists are the pairs in the section. -/
theorem sectionPairs_document (hlisted : ∀ p ∈ listed, IsPair p) :
    (w.document settings filesSection listed).sectionPairs filesSection = listed := by
  have houtside : (settings.map (w.item [])).filter (fun i => i.group.fold = filesSection.fold) = [] := by
    rw [List.filter_eq_nil_iff]
    intro i hi
    obtain ⟨p, -, rfl⟩ := List.mem_map.mp hi
    show ¬decide (Text.fold [] = filesSection.fold) = true
    decide +kernel
  have hinside : (listed.map (w.item filesSection)).filter (fun i => i.group.fold = filesSection.fold)
      = listed.map (w.item filesSection) := by
    rw [List.filter_eq_self]
    intro i hi
    obtain ⟨p, -, rfl⟩ := List.mem_map.mp hi
    exact decide_eq_true rfl
  rw [Document.sectionPairs, document, List.filter_append, houtside, hinside, List.nil_append, List.map_map]
  refine (List.map_congr_left fun p hp => ?_).trans (List.map_id _)
  exact Prod.ext rfl (w.plainValue_item filesSection (hlisted p hp))

/-- **What is read from the text of some pairs depends on the pairs alone**, whatever the dialect: the configuration that
they make, or a fault if a key comes twice. -/
theorem configuration_text (hsettings : ∀ p ∈ settings, IsPair p) (hlisted : ∀ p ∈ listed, IsPair p)
    (source : Option Text) :
    if AreApart settings ∧ AreApart listed then
      d.configuration (w.text settings filesSection listed) source = ofPairs settings listed source
    else ∃ e, d.configuration (w.text settings filesSection listed) source = .error (.malformed e) := by
  have hsection : Toml.IsBareName filesSection := by decide +kernel
  have hread := w.readDocument_text hsettings hsection hlisted
  split
  · next hapart =>
      rw [if_pos hapart] at hread
      have hsetting := funext (w.setting?_document hsettings listed)
      rw [Dialect.configuration, Dialect.document, hread]
      show (Configuration.fileMap ((w.document settings filesSection listed).sectionPairs filesSection) >>= _) = _
      rw [w.sectionPairs_document hlisted, hsetting]
      rfl
  · next htwice =>
      rw [if_neg htwice] at hread
      obtain ⟨e, he⟩ := hread
      refine ⟨e, ?_⟩
      rw [Dialect.configuration, Dialect.document, he]
      rfl

end Dialect.Writer

/-- The readers of both formats start from the text that a content holds. -/
theorem configuration_of_decode {t : Text} (h : decode (some (.text t)) = .ok (some t)) (source : Option Text) :
    Format.ini.configuration (some (.text t)) source = Ini.dialect.configuration t source
      ∧ Format.toml.configuration (some (.text t)) source = Toml.dialect.configuration t source := by
  unfold Format.configuration
  dsimp only
  rw [h]
  exact ⟨rfl, rfl⟩

/-! ## Configuration files -/

/-- What a configuration file says. -/
structure Setup where
  defaultFile : Text
  defaultLocale : Option Text
  mode : Option Text
  /-- Files by locale. -/
  files : List (Text × Text)

namespace Setup

/-- The settings of a file, each under its name. -/
def settings (s : Setup) : List (Text × Text) :=
  (Configuration.defaultFileSetting, s.defaultFile)
    :: (s.defaultLocale.toList.map (Prod.mk Configuration.defaultLocaleSetting)
      ++ s.mode.toList.map (Prod.mk Configuration.modeSetting))

/-- The text of a configuration file. -/
def text (s : Setup) (w : d.Writer) : Text := w.text s.settings filesSection s.files

/-- **`s.IsWritable`**: the names are stars or bare keys, and each value can end a line. -/
structure IsWritable (s : Setup) : Prop where
  defaultFile : IsLineValue s.defaultFile
  defaultLocale : ∀ v ∈ s.defaultLocale, IsLineValue v
  mode : ∀ v ∈ s.mode, IsLineValue v
  files : ∀ p ∈ s.files, IsPair p

variable {s : Setup}

instance : DecidablePred IsWritable := fun s =>
  decidable_of_iff (IsLineValue s.defaultFile ∧ (∀ v ∈ s.defaultLocale, IsLineValue v)
      ∧ (∀ v ∈ s.mode, IsLineValue v) ∧ ∀ p ∈ s.files, IsPair p)
    ⟨fun h => ⟨h.1, h.2.1, h.2.2.1, h.2.2.2⟩, fun h => ⟨h.defaultFile, h.defaultLocale, h.mode, h.files⟩⟩

/-- The names of settings are bare keys. -/
theorem isKey_setting : ∀ name ∈ [Configuration.defaultFileSetting, Configuration.defaultLocaleSetting,
    Configuration.modeSetting], IsKey name := by decide +kernel

theorem IsWritable.settings (h : s.IsWritable) : ∀ p ∈ s.settings, IsPair p := by
  intro p hp
  rcases List.mem_cons.mp hp with rfl | hp
  · exact ⟨isKey_setting _ (by simp), h.defaultFile⟩
  rcases List.mem_append.mp hp with hp | hp
  · obtain ⟨v, hv, rfl⟩ := List.mem_map.mp hp
    exact ⟨isKey_setting _ (by simp), h.defaultLocale v (Option.mem_toList.mp hv)⟩
  · obtain ⟨v, hv, rfl⟩ := List.mem_map.mp hp
    exact ⟨isKey_setting _ (by simp), h.mode v (Option.mem_toList.mp hv)⟩

/-- No setting is given twice. -/
theorem areApart_settings (s : Setup) : AreApart s.settings := by
  have hnames : (([Configuration.defaultFileSetting, Configuration.defaultLocaleSetting,
      Configuration.modeSetting] : List Text).map Text.fold).Nodup := by decide +kernel
  refine hnames.sublist ?_
  have hkeys : s.settings.map (fun p => p.1.fold) = (s.settings.map Prod.fst).map Text.fold := by
    rw [List.map_map]
    rfl
  rw [hkeys]
  refine List.Sublist.map Text.fold (.cons_cons _ ?_)
  rw [List.map_append]
  refine (List.Sublist.append ?_ ?_ : List.Sublist _ ([Configuration.defaultLocaleSetting] ++ [Configuration.modeSetting]))
  · cases s.defaultLocale with
    | none => exact List.nil_sublist _
    | some v => exact List.Sublist.refl _
  · cases s.mode with
    | none => exact List.nil_sublist _
    | some v => exact List.Sublist.refl _

/-- The text of a file does not start with a byte order mark. -/
theorem decode_text (s : Setup) (w : d.Writer) : decode (some (.text (s.text w))) = .ok (some (s.text w)) := by
  obtain ⟨t, ht⟩ : ∃ t, s.text w = CodePoint.ofChar 'd' :: t := ⟨_, rfl⟩
  rw [ht]
  rfl

/-- **What is read from a configuration file depends on what it says alone**, whatever the dialect: the configuration of
its settings and files, or a fault if a name is listed twice. -/
theorem configuration_of_setup (h : s.IsWritable) (w : d.Writer) (source : Option Text) :
    if AreApart s.files then d.configuration (s.text w) source = ofPairs s.settings s.files source
    else ∃ e, d.configuration (s.text w) source = .error (.malformed e) := by
  have hread := w.configuration_text h.settings h.files source
  simp only [s.areApart_settings, true_and] at hread
  exact hread

/-! ## What the files of both formats are read to -/

/-- **`s.Makes source c`**: the configuration that a file makes is `c`. No name and no locale is listed twice, the file
names a default file, its default locale and its mode are known, and the configuration says what the file says. -/
structure Makes (s : Setup) (source : Option Text) (c : Configuration) : Prop where
  apart : AreApart s.files
  keysApart : (s.files.map fun p => Configuration.keyOf p.1).Nodup
  named : s.defaultFile ≠ []
  known : ∀ name ∈ s.defaultLocale, name = [] ∨ Locale.isKnown name = true
  mode : Mode.ofSetting s.mode = .ok c.mode
  eq_made : c =
    { defaultFile := s.defaultFile
      defaultLocale := s.defaultLocale.filter fun name => !name.isEmpty
      files := s.files.map fun p => (Configuration.keyOf p.1, p.2)
      source := source
      directory := none
      mode := c.mode }

/-- The settings of a file are found by their names. -/
theorem settingIn?_settings (s : Setup) :
    settingIn? s.settings Configuration.defaultFileSetting = some s.defaultFile
      ∧ settingIn? s.settings Configuration.defaultLocaleSetting = s.defaultLocale
      ∧ settingIn? s.settings Configuration.modeSetting = s.mode := by
  have hlower : ∀ name ∈ [Configuration.defaultFileSetting, Configuration.defaultLocaleSetting,
      Configuration.modeSetting], name.lower = name := by decide +kernel
  have hfile := hlower Configuration.defaultFileSetting (by simp)
  have hlocale := hlower Configuration.defaultLocaleSetting (by simp)
  have hmode := hlower Configuration.modeSetting (by simp)
  have hne : Configuration.defaultFileSetting ≠ Configuration.defaultLocaleSetting
      ∧ Configuration.defaultFileSetting ≠ Configuration.modeSetting
      ∧ Configuration.defaultLocaleSetting ≠ Configuration.modeSetting := by decide
  obtain ⟨hfl, hfm, hlm⟩ := hne
  unfold settingIn? settings
  cases s.defaultLocale <;> cases s.mode <;>
    simp [hfile, hlocale, hmode, hfl, hfm, hlm, hfl.symm, hfm.symm, hlm.symm]

/-- What is made of the settings of a file. -/
theorem ofSettings_eq (h : s.IsWritable) (files : List (Text × Text)) (source : Option Text) :
    Configuration.ofSettings (settingIn? s.settings) files source = Mode.ofSetting s.mode >>= fun mode =>
      Configuration.validate
        { defaultFile := s.defaultFile
          defaultLocale := s.defaultLocale.filter fun name => !name.isEmpty
          files := files
          source := source
          directory := none
          mode := mode } := by
  obtain ⟨hfile, hlocale, hmode⟩ := s.settingIn?_settings
  have hname : (s.defaultLocale.getD []).strip = s.defaultLocale.getD [] := by
    cases hl : s.defaultLocale with
    | none => rfl
    | some name => exact (h.defaultLocale name hl).trimmed
  have hkept : (if (s.defaultLocale.getD []).isEmpty then none else some (s.defaultLocale.getD []))
      = s.defaultLocale.filter fun name => !name.isEmpty := by
    cases s.defaultLocale with
    | none => rfl
    | some name => cases name <;> rfl
  rw [Configuration.ofSettings, hfile, hlocale, hmode, hname, hkept, Option.getD_some, h.defaultFile.trimmed]

/-- What is made of the settings and the files that a file lists. -/
theorem ofPairs_ok_iff (h : s.IsWritable) (hapart : AreApart s.files) (source : Option Text) (c : Configuration) :
    ofPairs s.settings s.files source = .ok c ↔ s.Makes source c := by
  have hfiles : s.files.map (fun p => (Configuration.keyOf p.1, p.2.strip))
      = s.files.map fun p => (Configuration.keyOf p.1, p.2) :=
    List.map_congr_left fun p hp => by rw [(h.files p hp).value.trimmed]
  constructor
  · intro hmade
    obtain ⟨files, hlisted, hmade⟩ := exists_of_bind hmade
    obtain ⟨hkeys, rfl⟩ := Configuration.fileMap_ok_iff.mp hlisted
    rw [ofSettings_eq h, hfiles] at hmade
    obtain ⟨mode, hread, hvalid⟩ := exists_of_bind hmade
    obtain ⟨rfl, hnamed, hknown⟩ := Configuration.validate_ok_iff.mp hvalid
    refine ⟨hapart, hkeys, hnamed, fun name hmem => ?_, hread, rfl⟩
    by_cases hempty : name = []
    · exact .inl hempty
    · exact hknown name (Option.mem_filter_iff.mpr ⟨hmem, by simpa using hempty⟩)
  · intro hmakes
    rw [ofPairs, Configuration.fileMap_ok_iff.mpr ⟨hmakes.keysApart, rfl⟩]
    show Configuration.ofSettings _ _ _ = _
    rw [ofSettings_eq h, hfiles, hmakes.mode]
    refine Configuration.validate_ok_iff.mpr ⟨hmakes.eq_made, hmakes.named, fun name hmem => ?_⟩
    exact hmakes.known name (Option.mem_filter_iff.mp hmem).1

/-- **What is read from a configuration file is the configuration that it makes**, whatever the dialect. -/
theorem configuration_ok_iff (h : s.IsWritable) (w : d.Writer) (source : Option Text) (c : Configuration) :
    d.configuration (s.text w) source = .ok c ↔ s.Makes source c := by
  have hread := configuration_of_setup h w source
  by_cases hapart : AreApart s.files
  · rw [if_pos hapart] at hread
    rw [hread]
    exact ofPairs_ok_iff h hapart source c
  · rw [if_neg hapart] at hread
    obtain ⟨e, he⟩ := hread
    rw [he]
    exact iff_of_false nofun fun hmakes => hapart hmakes.apart

/-- **A file that makes no configuration is refused** because of what it says. -/
theorem configuration_refused (h : s.IsWritable) (w : d.Writer) {source : Option Text} (hnone : ¬∃ c, s.Makes source c) :
    ∃ e, d.configuration (s.text w) source = .error e ∧ e.IsOfContent := by
  cases hread : d.configuration (s.text w) source with
  | ok c => exact absurd ⟨c, (configuration_ok_iff h w source c).mp hread⟩ hnone
  | error e =>
      refine ⟨e, rfl, ?_⟩
      have hsetup := configuration_of_setup h w source
      rw [hread] at hsetup
      split at hsetup
      · exact Configuration.ofPairs_fails s.settings s.files source e hsetup.symm
      · obtain ⟨e', he⟩ := hsetup
        rw [Except.error.inj he]
        trivial

/-- **An ini file and a toml file that say the same are read alike.** The configuration that they make is read from both;
if they make none, neither is read, because of what it says. -/
theorem ini_toml_configurations_agree (h : s.IsWritable) (source : Option Text) :
    (∃ c, s.Makes source c
        ∧ Format.ini.configuration (some (.text (s.text Ini.writer))) source = .ok c
        ∧ Format.toml.configuration (some (.text (s.text Toml.writer))) source = .ok c)
      ∨ ((¬∃ c, s.Makes source c)
        ∧ (∃ e, Format.ini.configuration (some (.text (s.text Ini.writer))) source = .error e ∧ e.IsOfContent)
        ∧ ∃ e, Format.toml.configuration (some (.text (s.text Toml.writer))) source = .error e ∧ e.IsOfContent) := by
  rw [(configuration_of_decode (s.decode_text Ini.writer) source).1,
    (configuration_of_decode (s.decode_text Toml.writer) source).2]
  by_cases hmakes : ∃ c, s.Makes source c
  · obtain ⟨c, hc⟩ := hmakes
    exact .inl ⟨c, hc, (configuration_ok_iff h Ini.writer source c).mpr hc,
      (configuration_ok_iff h Toml.writer source c).mpr hc⟩
  · exact .inr ⟨hmakes, configuration_refused h Ini.writer hmakes, configuration_refused h Toml.writer hmakes⟩

/-- The files of an application: the name of one is written with escapes in a toml file. -/
def shopFiles : Setup := ⟨"shop.ini", none, some "Arb", [("*", "en.ini"), ("de_AT", "at\\\"new\".ini")]⟩

/-- A file whose name holds a backslash and quotes is listed alike in both formats. -/
theorem ini_toml_configurations_agree_shopFiles : shopFiles.IsWritable
    ∧ shopFiles.text Ini.writer
      = "default_file=shop.ini\ntext_processing_mode=Arb\n[translations]\n*=en.ini\nde_AT=at\\\"new\".ini\n"
    ∧ shopFiles.text Toml.writer
      = Text.ofString "default_file=\"shop.ini\"\ntext_processing_mode=\"Arb\"\n[translations]\n*=\"en.ini\"\n"
        ++ Text.ofString "de_AT=\"at\\\\\\\"new\\\".ini\"\n"
    ∧ ∃ c, shopFiles.Makes none c
        ∧ Format.ini.configuration (some (.text (shopFiles.text Ini.writer))) none = .ok c
        ∧ Format.toml.configuration (some (.text (shopFiles.text Toml.writer))) none = .ok c := by
  have hwritable : shopFiles.IsWritable := by decide +kernel
  have hread : (Format.ini.configuration (some (.text (shopFiles.text Ini.writer))) none).toOption.isSome = true := by
    decide +kernel
  refine ⟨hwritable, by decide +kernel, by decide +kernel, ?_⟩
  refine (ini_toml_configurations_agree hwritable none).resolve_right ?_
  rintro ⟨-, ⟨e, he, -⟩, -⟩
  rw [he] at hread
  cases hread

end Setup

end Files

end Phrasebook
