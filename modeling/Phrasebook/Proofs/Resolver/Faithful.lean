import Phrasebook.Proofs.Files.Built
import Phrasebook.Proofs.Locale.Fallback
import Phrasebook.Proofs.Pairs
import Phrasebook.Proofs.Resolver.Memory
import Phrasebook.Proofs.Resolver.Reference

/-!
# Memories that are faithful to the files

A remembered catalog need not be the one in the file of its locale: entries that were found elsewhere
have been added to it, references have been spent, and it may be marked as having stood in for another
one. What stays true of it is that it says of a key what its file says, or what the key resolves to
(`Mirrors`). A memory of such catalogs is `Faithful`, and so is every memory that comes of it by what a
resolver does to memories.

Catalogs are remembered under the upper case of the names of their locales, and two spellings of a name may have the
same. So what is said here is said of locales that are told apart by their keys (`Locales`): those with plain names in
their normal spelling are (`Locales.spelled`), and so may be those that some calls come to (`Locales.ofCalls`).
Only the default catalog may be under another key than that of its locale, if its file declares one (`restKey`), and so
it may be taken for that of another locale. Of such a locale nothing is said here: the others are clear of it (`IsClear`).
-/

namespace Phrasebook.Resolver

open Phrasebook.Locale (IsSpelled)
open Phrasebook.Memory (keyOf)

/-! ## Locales -/

/-- **`r.Locales`**: locales that are told apart by the keys of their catalogs. The default one is among them, and so is
every one that stands in for one of them, for which none stands in. -/
structure Locales (r : Resolver) where
  Has : Text → Prop
  eq_of_key : ∀ {name other}, Has name → Has other → keyOf name = keyOf other → name = other
  hasDefault : Has r.defaultLocale
  hasBasic : ∀ {name basic}, Has name → r.isDefault name = false → r.basicOf name = some basic →
    Has basic ∧ Locale.basic? basic = none

/-- The locales with plain names in their normal spelling. -/
def Locales.spelled {r : Resolver} (hD : IsSpelled r.defaultLocale) : r.Locales where
  Has := IsSpelled
  eq_of_key := IsSpelled.eq_of_upper
  hasDefault := hD
  hasBasic hname _ hbasic := hname.basic (Option.filter_eq_some_iff.mp hbasic).1

variable (r : Resolver) (c : Configuration)

/-! ## What a memory may hold -/

/-- **`Answers r c locale key o`**: `o` is what the file of the locale has under the key, or else an entry
that the key resolves to. -/
def Answers (locale key : Text) (o : Outcome (Option Entry)) : Prop :=
  o = r.homeEntry c locale key ∨ ∃ e, o = .ok (some e) ∧ r.located c locale key = .ok (some e)

/-- **`Mirrors r c locale t`**: `t` may be remembered as the catalog of the locale. -/
structure Mirrors (locale : Text) (t : Catalog) : Prop where
  entries : ∀ key, r.Answers c locale key (r.usableIn t key)
  basic : t.isBasic = true → Locale.basic? locale = none

/-- The key of the default catalog. -/
def homeKey : Text := keyOf r.defaultLocale

/-- The key that the default catalog goes under. -/
def restKey : Text :=
  match r.defaultCatalog c with
  | .ok t => r.defaultKey t
  | .error _ => r.homeKey

/-- The key that the catalog of a locale is remembered under. -/
def seat (locale : Text) : Text := if r.isDefault locale then r.restKey c else keyOf locale

/-- **`IsClear r c locale`**: the default catalog is not taken for that of the locale. -/
def IsClear (locale : Text) : Prop := r.isDefault locale = false → keyOf locale ≠ r.restKey c

instance (locale : Text) : Decidable (r.IsClear c locale) :=
  inferInstanceAs (Decidable (r.isDefault locale = false → keyOf locale ≠ r.restKey c))

/-- **`Faithful r c N m`**: every catalog in the memory mirrors its file, if its locale is one of `N` and the default one
is not taken for it, and the default catalog is where it is looked for, or nowhere. -/
structure Faithful (N : r.Locales) (m : Memory) : Prop where
  nodup : (Pairs.keys m.catalogs).Nodup
  mirrors : ∀ {locale}, N.Has locale → r.IsClear c locale →
    ∀ {t}, m.at? (.under (r.seat c locale)) = some t → r.Mirrors c locale t
  place : m.defaultPlace = if Pairs.has (r.restKey c) m.catalogs then some (.under (r.restKey c)) else none

variable {r c} {N : r.Locales} {locale key : Text} {t : Catalog} {e : Entry} {m : Memory}

/-! ## Answers -/

theorem Answers.of_some (h : r.Answers c locale key (.ok (some e))) :
    r.located c locale key = .ok (some e) := by
  rcases h with hhome | ⟨f, hf, hlocated⟩
  · exact r.located_of_some c hhome.symm
  · obtain rfl := Option.some.inj (Except.ok.inj hf)
    exact hlocated

theorem Answers.of_none (h : r.Answers c locale key (.ok none)) : r.homeEntry c locale key = .ok none := by
  rcases h with hhome | ⟨f, hf, -⟩
  · exact hhome.symm
  · cases hf

theorem Answers.of_error {x : Failure} (h : r.Answers c locale key (.error x)) :
    r.located c locale key = .error x := by
  rcases h with hhome | ⟨f, hf, -⟩
  · exact r.located_of_error c hhome.symm
  · cases hf

/-! ## Catalogs -/

/-- A catalog as its file writes it mirrors the file. -/
theorem mirrors_home (h : r.homeCatalog c locale = .ok t) (hb : t.isBasic = false) :
    r.Mirrors c locale t := by
  refine ⟨fun key => .inl ?_, fun hbasic => ?_⟩
  · rw [homeEntry, h]
    rfl
  · rw [hb] at hbasic
    cases hbasic

/-- **What a key resolves to may be remembered under it.** -/
theorem Mirrors.add (h : r.Mirrors c locale t) (hl : r.located c locale key = .ok (some e))
    (he : e.text.isSome = true) : r.Mirrors c locale (t.add key e) := by
  refine ⟨fun other => ?_, h.basic⟩
  by_cases hkey : other.fold = key.fold
  · refine .inr ⟨e, r.usableIn_add hkey he t, ?_⟩
    rw [r.located_congr c hkey]
    exact hl
  · rw [r.usableIn_add_of_ne hkey]
    exact h.entries other

/-- A catalog that no other one stands in for may be marked. -/
theorem Mirrors.mark (h : r.Mirrors c locale t) (hb : Locale.basic? locale = none) :
    r.Mirrors c locale { t with isBasic := true } :=
  ⟨h.entries, fun _ => hb⟩

/-- A file declares no locale, unless it is an ARB file. -/
theorem undeclared_of_catalogOf (hf : r.format c ≠ .ok .arb) {includesDefault : Bool}
    (h : r.catalogOf c locale includesDefault = .ok (some t)) : Undeclared t := by
  obtain ⟨f, content, written, name, hformat, hcatalog, rfl⟩ := exists_of_catalogOf h
  have hne : f ≠ .arb := by
    rintro rfl
    exact hf hformat
  have hu := Files.Format.undeclared_catalog hne hcatalog
  exact ⟨hu.locale, hu.isBasic⟩

theorem isBasic_of_catalogOf {includesDefault : Bool}
    (h : r.catalogOf c locale includesDefault = .ok (some t)) : t.isBasic = false := by
  obtain ⟨f, content, written, name, -, hcatalog, rfl⟩ := exists_of_catalogOf h
  have hwritten : written.isBasic = false := Files.Format.isBasic_catalog hcatalog
  exact hwritten

/-- No file marks its catalog. -/
theorem isBasic_of_homeCatalog (h : r.homeCatalog c locale = .ok t) : t.isBasic = false := by
  unfold homeCatalog at h
  split at h
  · obtain ⟨file, hfile, rfl⟩ := exists_of_map h
    cases file with
    | none => rfl
    | some t => exact isBasic_of_catalogOf hfile
  · obtain ⟨file, hfile, rfl⟩ := exists_of_map h
    cases file with
    | none => rfl
    | some t => exact isBasic_of_catalogOf hfile

/-! ## Where the default catalog goes -/

theorem defaultKey_eq (h : Locale.normalize (t.locale.getD []) = []
    ∨ Locale.normalize (t.locale.getD []) = r.defaultLocale) : r.defaultKey t = r.homeKey := by
  unfold defaultKey homeKey
  rcases h with hnone | hdefault
  · rw [hnone]
    rfl
  · rw [hdefault]
    exact congrArg keyOf (ite_self _)

/-- **The default catalog belongs under the default locale**, whether its file is there or not. -/
theorem defaultKey_of_defaultCatalog (hf : r.format c ≠ .ok .arb) (hD : IsSpelled r.defaultLocale)
    (h : r.defaultCatalog c = .ok t) : r.defaultKey t = r.homeKey := by
  have hnone : Locale.normalize [] = [] := by decide
  obtain ⟨file, hfile, rfl⟩ := exists_of_map h
  apply defaultKey_eq
  cases file with
  | some t =>
      rw [Option.getD_some, (undeclared_of_catalogOf hf hfile).locale]
      exact .inl hnone
  | none =>
      rw [Option.getD_none, noDefault]
      split
      · exact .inl hnone
      · exact .inr hD.normal

theorem restKey_eq (h : r.defaultCatalog c = .ok t) : r.restKey c = r.defaultKey t := by
  rw [restKey, h]

theorem isDefault_iff : r.isDefault locale = true ↔ keyOf locale = r.homeKey := by
  rw [isDefault, decide_eq_true_iff]
  rfl

theorem isDefault_default : r.isDefault r.defaultLocale = true := isDefault_iff.mpr rfl

theorem isDefault_congr {other : Text} (h : keyOf other = keyOf locale) :
    r.isDefault other = r.isDefault locale := by
  rw [Bool.eq_iff_iff, isDefault_iff, isDefault_iff, h]

theorem seat_of_isDefault (hd : r.isDefault locale = true) : r.seat c locale = r.restKey c := if_pos hd

theorem seat_of_not_isDefault (hd : r.isDefault locale = false) : r.seat c locale = keyOf locale := by
  rw [seat, hd]
  rfl

theorem isClear_of_isDefault (hd : r.isDefault locale = true) : r.IsClear c locale := fun hnot => by
  rw [hd] at hnot
  cases hnot

/-- **`KeepsClear r c locale`**: a request for the locale comes to no catalog that the default one is taken for. -/
def KeepsClear (r : Resolver) (c : Configuration) (locale : Text) : Prop :=
  r.isDefault locale = false →
    keyOf locale ≠ r.restKey c ∧ ∀ basic ∈ r.basicOf locale, keyOf basic ≠ r.restKey c

instance (locale : Text) : Decidable (r.KeepsClear c locale) :=
  inferInstanceAs (Decidable (r.isDefault locale = false →
    keyOf locale ≠ r.restKey c ∧ ∀ basic ∈ r.basicOf locale, keyOf basic ≠ r.restKey c))

/-- **`IsOwn r c N name`**: a locale that is not the default one, and the catalog under its key is its own. -/
structure IsOwn (r : Resolver) (c : Configuration) (N : r.Locales) (name : Text) : Prop where
  has : N.Has name
  clear : r.IsClear c name
  other : r.isDefault name = false

/-- **Every locale is clear of a default catalog that declares no other locale.** -/
theorem isClear_of_format (hf : r.format c ≠ .ok .arb) (hD : IsSpelled r.defaultLocale) (locale : Text) :
    r.IsClear c locale := by
  have hrest : r.restKey c = r.homeKey := by
    unfold restKey
    split
    · next t h => exact defaultKey_of_defaultCatalog hf hD h
    · rfl
  intro hd heq
  rw [isDefault_iff.mpr (heq.trans hrest)] at hd
  cases hd

/-- The default locale stands in for no other one. -/
theorem isDefault_of_basicOf {basic : Text} (h : r.basicOf locale = some basic) : r.isDefault basic = false := by
  have hkept := (Option.filter_eq_some_iff.mp h).2
  simpa using (Bool.and_eq_true_iff.mp hkept).2

theorem keepsClear_of_format (hf : r.format c ≠ .ok .arb) (hD : IsSpelled r.defaultLocale) (locale : Text) :
    r.KeepsClear c locale :=
  fun hd => ⟨isClear_of_format hf hD locale hd, fun basic hbasic =>
    isClear_of_format hf hD basic (isDefault_of_basicOf hbasic)⟩

/-- **Two names with one seat are one name.** -/
theorem eq_of_seat {other : Text} (hL : N.Has locale) (hclear : r.IsClear c locale) (ho : N.Has other)
    (hoclear : r.IsClear c other) (h : r.seat c other = r.seat c locale) : other = locale := by
  by_cases hd : r.isDefault locale = true
  · by_cases hod : r.isDefault other = true
    · exact N.eq_of_key ho hL ((isDefault_iff.mp hod).trans (isDefault_iff.mp hd).symm)
    · have hod : r.isDefault other = false := Bool.eq_false_iff.mpr hod
      rw [seat_of_isDefault hd, seat_of_not_isDefault hod] at h
      exact absurd h (hoclear hod)
  · have hd : r.isDefault locale = false := Bool.eq_false_iff.mpr hd
    by_cases hod : r.isDefault other = true
    · rw [seat_of_isDefault hod, seat_of_not_isDefault hd] at h
      exact absurd h.symm (hclear hd)
    · rw [seat_of_not_isDefault (Bool.eq_false_iff.mpr hod), seat_of_not_isDefault hd] at h
      exact N.eq_of_key ho hL h

/-! ## What is done to memories -/

/-- The journal and the history have no part in it. -/
theorem Faithful.records (h : r.Faithful c N m) (j : List Event) (hs : List Happening) :
    r.Faithful c N { m with journal := j, history := hs } :=
  ⟨h.nodup, h.mirrors, h.place⟩

theorem faithful_empty : r.Faithful c N .empty := by
  refine ⟨List.nodup_nil, fun _ _ t ht => ?_, rfl⟩
  cases ht

/-- The catalog that is put in the memory for a locale is not taken for that of another one. -/
theorem Faithful.mirrors_put (h : r.Faithful c N m) (hL : N.Has locale) (hclear : r.IsClear c locale)
    (ht : r.Mirrors c locale t) {other : Text} (ho : N.Has other) (hoclear : r.IsClear c other) {u : Catalog}
    (hu : Pairs.get? (r.seat c other) (Pairs.put (r.seat c locale) t m.catalogs) = some u) :
    r.Mirrors c other u := by
  by_cases hkey : r.seat c other = r.seat c locale
  · obtain rfl := eq_of_seat hL hclear ho hoclear hkey
    rw [Pairs.get?_put_self] at hu
    obtain rfl := Option.some.inj hu
    exact ht
  · rw [Pairs.get?_put_of_ne hkey] at hu
    exact h.mirrors ho hoclear hu

/-- Another catalog of a locale, where the default catalog is neither put in its place nor taken out. -/
theorem Faithful.put (h : r.Faithful c N m) (hL : N.Has locale) (hclear : r.IsClear c locale)
    (ht : r.Mirrors c locale t) (hhas : Pairs.has (r.restKey c) (Pairs.put (r.seat c locale) t m.catalogs)
      = Pairs.has (r.restKey c) m.catalogs) :
    r.Faithful c N (m.put (.under (r.seat c locale)) t) := by
  refine ⟨Pairs.nodup_put h.nodup _ t, fun ho hoclear _ hu => h.mirrors_put hL hclear ht ho hoclear hu, ?_⟩
  · show m.defaultPlace = _
    rw [h.place]
    show _ = if Pairs.has (r.restKey c) (Pairs.put (r.seat c locale) t m.catalogs) = true then _ else _
    rw [hhas]

/-- A catalog that is loaded for a locale that is not the default one. -/
theorem Faithful.putNew (h : r.Faithful c N m) (hL : r.IsOwn c N locale) (ht : r.Mirrors c locale t) :
    r.Faithful c N (m.put (.under (keyOf locale)) t) := by
  have hput := h.put hL.has hL.clear ht
  rw [seat_of_not_isDefault hL.other] at hput
  exact hput (Pairs.has_put_of_ne (hL.clear hL.other).symm t m.catalogs)

/-- **A remembered catalog may be changed as long as it mirrors its file.** -/
theorem Faithful.update (h : r.Faithful c N m) (hL : N.Has locale) (hclear : r.IsClear c locale)
    {f : Catalog → Catalog} (hf : ∀ t, r.Mirrors c locale t → r.Mirrors c locale (f t)) :
    r.Faithful c N (m.update (.under (r.seat c locale)) f) := by
  unfold Memory.update
  cases hget : m.at? (.under (r.seat c locale)) with
  | none => exact h
  | some t =>
      refine h.put hL hclear (hf t (h.mirrors hL hclear hget)) (Pairs.has_put_of_has ?_ (f t))
      show (m.at? (.under (r.seat c locale))).isSome = true
      rw [hget]
      rfl

/-- **What a key resolves to may be settled under it.** -/
theorem Faithful.settle (h : r.Faithful c N m) (hL : N.Has locale) (hclear : r.IsClear c locale)
    (hl : r.located c locale key = .ok (some e)) (he : e.text.isSome = true) :
    r.Faithful c N (m.settle (.under (r.seat c locale)) key e) := by
  have hupdate := h.update hL hclear fun t ht => ht.add hl he
  unfold Memory.update at hupdate
  unfold Memory.settle
  cases hget : m.at? (.under (r.seat c locale)) with
  | none => exact h
  | some t =>
      rw [hget] at hupdate
      exact hupdate.records _ _

/-- The default catalog, where it was not remembered. -/
theorem Faithful.putDefault (h : r.Faithful c N m) (hnone : m.defaultPlace = none)
    (ht : r.Mirrors c r.defaultLocale t) :
    m.placeForDefault (r.restKey c) = .under (r.restKey c) ∧ r.Faithful c N (m.putDefault (r.restKey c) t) := by
  have hhas : Pairs.has (r.restKey c) m.catalogs = false := by
    have hplace := h.place
    rw [hnone] at hplace
    cases hh : Pairs.has (r.restKey c) m.catalogs with
    | false => rfl
    | true =>
        rw [hh] at hplace
        cases hplace
  have hunder : m.placeForDefault (r.restKey c) = .under (r.restKey c) := by
    rw [Memory.placeForDefault, hhas]
    rfl
  -- The place is free, so no catalog of another locale is replaced there.
  have hclear : r.IsClear c r.defaultLocale := isClear_of_isDefault isDefault_default
  refine ⟨hunder, ?_⟩
  unfold Memory.putDefault
  rw [hunder]
  refine ⟨Pairs.nodup_put h.nodup _ t, fun ho hoclear _ hu => h.mirrors_put N.hasDefault hclear ht ho hoclear ?_, ?_⟩
  · rw [seat_of_isDefault isDefault_default]
    exact hu
  · show _ = if Pairs.has (r.restKey c) (Pairs.put (r.restKey c) t m.catalogs) = true then _ else _
    rw [Pairs.has_put_self]
    rfl

/-- **A memory from which a catalog is dropped stays faithful.** -/
theorem Faithful.drop (h : r.Faithful c N m) (locale : Text) : r.Faithful c N (m.drop locale) := by
  refine ⟨Pairs.nodup_remove h.nodup _, fun {other} ho hoclear u hu => ?_, ?_⟩
  · rw [Memory.at?_drop m _ h.nodup] at hu
    split at hu
    · cases hu
    · exact h.mirrors ho hoclear hu
  · show (if Pairs.has (keyOf locale) m.catalogs ∧ m.defaultPlace = some (.under (keyOf locale)) then none
      else m.defaultPlace) = if Pairs.has (r.restKey c) (Pairs.remove (keyOf locale) m.catalogs) then _ else _
    rw [h.place]
    by_cases hkey : r.restKey c = keyOf locale
    · -- The default catalog is dropped, if it was there.
      rw [hkey, Pairs.has_remove_self h.nodup]
      cases Pairs.has (keyOf locale) m.catalogs with
      | true => exact if_pos ⟨rfl, rfl⟩
      | false => exact if_neg fun hboth => Bool.false_ne_true hboth.1
    · -- The default catalog stays, and its place with it.
      have hhas : Pairs.has (r.restKey c) (Pairs.remove (keyOf locale) m.catalogs)
          = Pairs.has (r.restKey c) m.catalogs := by
        rw [Pairs.has, Pairs.get?_remove_of_ne hkey, Pairs.has]
      rw [hhas, if_neg]
      rintro ⟨-, hplace⟩
      split at hplace
      · exact hkey (Place.under.inj (Option.some.inj hplace))
      · cases hplace

theorem faithful_dropAll (m : Memory) : r.Faithful c N m.dropAll := by
  refine ⟨List.nodup_nil, fun _ _ t ht => ?_, rfl⟩
  cases ht

end Phrasebook.Resolver
