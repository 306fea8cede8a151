import Phrasebook.Proofs.Resolver.Since

/-!
# What is forgotten is read again

A locale whose catalog is missing is answered from its files (`AnswersAnew`): they are asked for, and what they say
under the key is what comes of the request. Dropping a catalog makes it missing. Only one catalog may outlive
the call that is to forget it: that of the default locale, where its file declares another one and it is kept under
the name of that. `resolve_after_forgetting` says that of all turns, before and after.
-/

namespace Phrasebook.Resolver

open Phrasebook.Action (Meets)
open Phrasebook.Memory (keyOf)

variable {r : Resolver} {c : Configuration} {locale key name : Text} {asked : Option Text} {m m' : Memory}
  {place : Place} {t : Catalog} {e : Entry}

/-! ## Answers from the files -/

/-- The locale whose catalog a request comes to first. -/
def homeName (r : Resolver) (locale : Text) : Text := if r.isDefault locale then r.defaultLocale else locale

/-- **`AnswersAnew r c asked key m`**: in the memory `m`, a request begins with reading the catalog of its locale,
and what that has under the key is answered. -/
structure AnswersAnew (r : Resolver) (c : Configuration) (asked : Option Text) (key : Text) (m : Memory) : Prop where
  reads : r.Reads c (r.homeName (r.localeOf asked)) ((r.needed c (r.localeOf asked) key).on m).2
    ((r.resolve c asked key).on m).2
  unread : ∀ {x}, r.homeEntry c (r.localeOf asked) key = .error x → ((r.resolve c asked key).on m).1 = .error x
  hit : ∀ {e}, r.homeEntry c (r.localeOf asked) key = .ok (some e) →
    ((r.resolve c asked key).on m).1 = r.answerOf c (r.localeOf asked) key (some e)

theorem keyOf_homeName : keyOf (r.homeName locale) = keyOf locale := by
  unfold homeName
  split
  · next hd => exact (isDefault_iff.mp hd).symm
  · rfl

theorem isDefault_homeName : r.isDefault (r.homeName locale) = r.isDefault locale :=
  isDefault_congr keyOf_homeName

theorem comes_homeName : r.Comes c locale key m (r.homeName locale) m := by
  unfold homeName
  split
  · next hd => exact .home hd
  · next hd => exact .own (Bool.eq_false_iff.mpr hd)

theorem usable_on (hat : m.at? place = some t) : ((r.usable place key).on m).1 = r.usableIn t key := by
  have hmeets : Meets (fun m => m.at? place = some t ∧ True) (r.usable place key)
      fun o _ => o = r.usableIn t key ∧ True :=
    usable_meets (fun _ _ _ h => h) fun _ _ _ h => h
  exact (hmeets m ⟨hat, trivial⟩).1

/-- A catalog that is opened anew answers as its file does. -/
theorem lookup_anew (hnone : m.catalog? name = none) :
    ((r.lookup c name key).on m).1 = (do r.usableIn (← r.ownCatalog c name) key) := by
  have hcatalog := r.catalog_puts c name false m
  have hopen : (r.openCatalog c name).on m = (r.catalog c name false >>= fun t => do
      change (·.put (.under (keyOf name)) (t.getD (.ofLocale (some name))))
      record (.loaded name (.under (keyOf name)))).on m := by
    unfold openCatalog
    rw [Action.on_bind_ok (Action.on_get m), hnone]
    rfl
  unfold lookup ownCatalog
  cases hread : r.catalogOf c name false with
  | error x =>
      rw [hread] at hcatalog
      rw [Action.on_bind_error (hopen.trans (Action.on_bind_error hcatalog _))]
      rfl
  | ok file =>
      rw [hread] at hcatalog
      rw [Action.on_bind_ok (hopen.trans (Action.on_bind_ok hcatalog _))]
      refine usable_on ?_
      rw [Memory.at?_record, Memory.at?_put_self]

/-- So does the default catalog. -/
theorem openDefault_anew (hnone : m.defaultPlace = none) :
    ((r.openDefault c >>= fun place => r.usable place key).on m).1
      = (do r.usableIn (← r.defaultCatalog c) key) := by
  unfold openDefault defaultCatalog
  rw [Action.on_bind, Action.on_bind_ok (Action.on_get m), hnone]
  dsimp only
  rw [Action.on_bind, catalog_puts]
  cases r.catalogOf c r.defaultLocale true with
  | error x => rfl
  | ok file =>
      refine usable_on ?_
      rw [Memory.at?_record, Memory.at?_putDefault, if_pos rfl]

/-- **A search for a locale whose catalog is missing asks its files first**, and what they say of the key is what it
comes to. -/
theorem search_anew (c : Configuration) (key : Text) (hmissing : r.IsMissing m (r.homeName locale)) :
    ∃ (x : Action (Option Entry)) (f : Option Entry → Action (Option Entry)), r.search c locale key = x >>= f
      ∧ (x.on m).1 = r.homeEntry c locale key ∧ ∀ e, f (some e) = pure (some e) := by
  unfold homeEntry homeCatalog
  by_cases hd : r.isDefault locale = true
  · rw [homeName, if_pos hd, isMissing_default] at hmissing
    rw [search_of_isDefault hd, searchDefault, if_pos hd]
    exact ⟨r.openDefault c >>= fun place => r.usable place key, _, (bind_assoc _ _ _).symm,
      openDefault_anew hmissing, fun e => rfl⟩
  · have hnot : r.isDefault locale = false := Bool.eq_false_iff.mpr hd
    rw [homeName, if_neg hd, isMissing_of_isDefault hnot] at hmissing
    rw [search_of_not_isDefault hnot, searchLocale, if_neg hd]
    exact ⟨r.lookup c locale key, _, rfl, lookup_anew hmissing, fun e => rfl⟩

/-- **A locale whose catalog is missing is answered from its files.** -/
theorem answersAnew_of_missing
    (hneeded : r.askedOf c (r.hooks.valueNeeded.map fun ask => ask (r.localeOf asked) key) = .ok none)
    (hmissing : r.IsMissing m (r.homeName (r.localeOf asked))) : r.AnswersAnew c asked key m := by
  obtain ⟨j, hon⟩ := needed_on r c (r.localeOf asked) key m
  rw [hneeded] at hon
  have hnow : r.IsMissing { m with journal := j } (r.homeName (r.localeOf asked)) := hmissing
  obtain ⟨x, f, hsearch, hfirst, hf⟩ := search_anew c key hnow
  refine ⟨?_, fun hhome => ?_, fun {e} hhome => ?_⟩
  · rw [hon]
    exact Reaches.reads ⟨_, hon, comes_homeName⟩ hnow
  · rw [hhome] at hfirst
    rw [resolve_on hon, hsearch, bind_assoc, Action.on_bind_error (Prod.ext hfirst rfl)]
  · rw [hhome] at hfirst
    rw [resolve_on hon, hsearch, bind_assoc, Action.on_bind_ok (Prod.ext hfirst rfl), hf, pure_bind]
    obtain ⟨_, htold⟩ := r.quiet_found c (r.localeOf asked) key e (x.on { m with journal := j }).2
    exact congrArg Prod.fst htold

/-! ## What outlives a drop -/

/-- A request for the default locale reads no catalog where the default one is remembered. -/
theorem loads_nothing (c : Configuration) (key : Text) (hd : r.isDefault (r.localeOf asked) = true)
    (hplace : m.defaultPlace = some place) :
    ∃ new, ((r.resolve c asked key).on m).2.history = m.history ++ new ∧ new.countP Happening.isLoading = 0 := by
  rcases quiet_or_needed r c asked key m with ⟨o, j, hon⟩ | ⟨j, hon⟩
  · rw [hon]
    exact ⟨[], (List.append_nil _).symm, rfl⟩
  · have hopen : (r.openDefault c).on { m with journal := j } = (.ok place, { m with journal := j }) := by
      unfold openDefault
      rw [Action.on_bind_ok (Action.on_get _), hplace]
      rfl
    rw [resolve_on hon, search_of_isDefault hd, searchDefault, bind_assoc, Action.on_bind_ok hopen]
    have hrest := (r.usableDefault_begins key [] place).after fun found =>
      r.told_begins c (r.localeOf asked) key found
    obtain ⟨new, hnew, hcount, -⟩ := hrest { m with journal := j }
    exact ⟨new, hnew, Nat.le_zero.mp hcount⟩

/-- **What is answered anew is missing.** -/
theorem defaultPlace_of_answersAnew (h : r.AnswersAnew c asked key m) (hd : r.isDefault (r.localeOf asked) = true) :
    m.defaultPlace = none := by
  cases hplace : m.defaultPlace with
  | none => rfl
  | some place =>
      obtain ⟨new, hnew, hcount⟩ := loads_nothing c key hd hplace
      obtain ⟨j, hon⟩ := needed_on r c (r.localeOf asked) key m
      have hloads := h.reads.loads
      rw [hon, hnew, List.prefix_append_right_inj] at hloads
      exact absurd rfl (List.countP_eq_zero.mp hcount _ (hloads.subset (List.mem_singleton_self _)))

/-- **Dropping a catalog makes it missing**, but for the default one where it is kept elsewhere. -/
theorem isMissing_drop_iff (hm : r.IsKept m) (hname : keyOf name = keyOf locale) :
    r.IsMissing (m.drop name) (r.homeName locale)
      ↔ (r.isDefault locale = true → m.defaultPlace = none ∨ m.defaultPlace = some (.under r.homeKey)) := by
  unfold homeName
  by_cases hd : r.isDefault locale = true
  · have hkey : keyOf name = r.homeKey := hname.trans (isDefault_iff.mp hd)
    rw [if_pos hd, isMissing_default]
    show (if _ ∧ m.defaultPlace = some (.under (keyOf name)) then none else m.defaultPlace) = none ↔ _
    rw [hkey]
    by_cases hhome : m.defaultPlace = some (.under r.homeKey)
    · rw [if_pos ⟨hm.held.held hhome, hhome⟩]
      exact ⟨fun _ _ => .inr hhome, fun _ => rfl⟩
    · rw [if_neg fun hboth => hhome hboth.2]
      exact ⟨fun hnone _ => .inl hnone, fun h => (h hd).resolve_right hhome⟩
  · have hnot : r.isDefault locale = false := Bool.eq_false_iff.mpr hd
    rw [if_neg hd, isMissing_of_isDefault hnot, Memory.catalog?, Memory.at?_drop m _ hm.sound.nodup, hname,
      if_pos rfl]
    exact ⟨fun _ hdefault => absurd hdefault hd, fun _ => rfl⟩

/-- Where every default file that was read belongs under the default locale, the default catalog is there. -/
theorem defaultPlace_memoryOver {turns : List Turn} (h : ∀ turn ∈ turns, ∀ k, turn.Declares r k → k = r.homeKey) :
    (r.memoryOver turns).defaultPlace = none ∨ (r.memoryOver turns).defaultPlace = some (.under r.homeKey) := by
  obtain ⟨-, s, hsince⟩ := IsKept.since_turns (A := (· = r.homeKey))
    ⟨Memory.isSound_empty, isHeld_empty (r := r)⟩ h
  cases hplace : (r.memoryOver turns).defaultPlace with
  | none => exact .inl rfl
  | some place =>
      rcases hsince.default hplace with hempty | ⟨-, hgoes⟩
      · cases hempty
      · rcases hgoes with rfl | ⟨-, k, hk, hne, -⟩
        · exact .inr rfl
        · exact absurd hk hne

/-- **What is forgotten is read again.** Whatever the turns were, a locale that was dropped and was not loaded since is
answered from its files, whatever they have become, as long as the default files declare that locale exactly if it
is the default one. Right after the drop it is so unless the default catalog is dropped and was kept elsewhere. -/
theorem resolve_after_forgetting (r : Resolver) (turns rest : List Turn) (s : Source) (c : Configuration)
    {forgotten : Text} {asked : Option Text} (hname : keyOf (Locale.normalize forgotten) = keyOf (r.localeOf asked))
    {key : Text} (hneeded : (r.withSource s).askedOf c
      (r.hooks.valueNeeded.map fun ask => ask (r.localeOf asked) key) = .ok none) :
    let now := r.withSource s
    let locale := r.localeOf asked
    let held := r.memoryOver turns
    let dropped := ((forget forgotten).on held).2
    (∀ since, (rest.foldl r.memoryOf dropped).history = dropped.history ++ since →
      (∀ other place, .loaded other place ∈ since → keyOf other ≠ keyOf locale) →
      (∀ turn ∈ turns ++ rest, ∀ k, turn.Declares r k → (k = keyOf locale ↔ r.isDefault locale = true)) →
      now.AnswersAnew c asked key (rest.foldl r.memoryOf dropped))
    ∧ (now.AnswersAnew c asked key dropped
      ↔ (r.isDefault locale = true → held.defaultPlace = none ∨ held.defaultPlace = some (.under r.homeKey))) := by
  intro now locale held dropped
  have hheld : r.IsKept held := isKept_memoryOver r turns
  have hmissing := isMissing_drop_iff hheld hname
  refine ⟨fun since hhistory hloaded hdeclares => ?_, ?_⟩
  · have hdropped : r.IsKept dropped := ⟨hheld.sound.drop _, hheld.held.drop hheld.sound _⟩
    -- The default catalog is dropped only if it is under the default locale, and there it is if no file says
    -- otherwise.
    have hgone : r.IsMissing dropped (r.homeName locale) := by
      refine hmissing.mpr fun hd => defaultPlace_memoryOver fun turn hturn k hk => ?_
      rw [← isDefault_iff.mp hd]
      exact (hdeclares turn (List.mem_append_left _ hturn) k hk).mpr hd
    -- What happened since is on record, so a catalog that is there again was loaded, or the default one went there.
    obtain ⟨-, s', hsince⟩ := hdropped.since_turns (A := fun k => k = keyOf locale → r.isDefault locale = true)
      fun turn hturn k hk => (hdeclares turn (List.mem_append_right _ hturn) k hk).mp
    obtain rfl : s' = since := List.append_cancel_left (hsince.history.symm.trans hhistory)
    refine answersAnew_of_missing hneeded (hgone.since hsince (fun other place hmem => ?_) fun hA => ?_)
    · rw [keyOf_homeName]
      exact hloaded other place hmem
    · rw [isDefault_homeName]
      exact hA keyOf_homeName
  · refine ⟨fun hanew hd => ?_, fun h => answersAnew_of_missing hneeded (hmissing.mpr h)⟩
    refine hmissing.mp ?_ hd
    rw [homeName, if_pos hd, isMissing_default]
    exact defaultPlace_of_answersAnew hanew hd

/-! ## Turns in which notices change -/

/-- A turn in which the default catalog can be read belongs under the key of that. -/
theorem Turn.Declares.eq_of {turn : Turn} {k k' : Text} (h : turn.Declares r k)
    (hread : (((r.withSource turn.source).defaultCatalog turn.configuration).toOption.all
      fun t => r.defaultKey t = k') = true) : k = k' := by
  obtain ⟨t, ht, rfl⟩ := h
  rw [ht] at hread
  exact of_decide_eq_true hread

/-- The Albanian notice is changed, and then the Albanian catalog is dropped: the new one is read, though the English
one was asked for in between. -/
theorem resolve_after_forgetting_notices :
    let old := notices [("m.arb", noticeFile "en" "hello"), ("m_sq.arb", noticeFile "sq" "ditën")]
    let new := notices [("m.arb", noticeFile "en" "hello"), ("m_sq.arb", noticeFile "sq" "mirë")]
    let dropped := ((forget "SQ").on (old.memoryOver [⟨old.source, old.configuration, .resolve (some "sq") "k"⟩])).2
    let m := [⟨new.source, new.configuration, .resolve none "k"⟩].foldl old.memoryOf dropped
    new.AnswersAnew new.configuration (some "sq") "k" m
      ∧ textIn ((new.resolve new.configuration (some "sq") "k").on m).1 = some (Text.ofString "mirë") := by
  intro old new dropped m
  have hhistory : m.history = dropped.history ++ [.loading "en", .loaded "en" (.under "EN")] := by decide +kernel
  have hname : keyOf (Locale.normalize "SQ") = keyOf (old.localeOf (some "sq")) := by decide +kernel
  have hneeded : (old.withSource new.source).askedOf new.configuration
      (old.hooks.valueNeeded.map fun ask => ask (old.localeOf (some "sq")) "k") = .ok none := rfl
  have hanew := (resolve_after_forgetting old [⟨old.source, old.configuration, .resolve (some "sq") "k"⟩]
    [⟨new.source, new.configuration, .resolve none "k"⟩] new.source new.configuration hname hneeded).1 _ hhistory
    (fun other place hmem => by
      rcases List.mem_pair.mp hmem with h | h
      · cases h
      · obtain ⟨rfl, -⟩ := Happening.loaded.inj h
        decide +kernel)
    (fun turn hturn k hk => by
      have hkey : k = "EN" := by
        rcases List.mem_pair.mp hturn with rfl | rfl
        · exact hk.eq_of (by decide +kernel)
        · exact hk.eq_of (by decide +kernel)
      rw [hkey]
      decide +kernel)
  exact ⟨hanew, by decide +kernel⟩

/-- The default file is that of the English notices and declares the German locale. When the English ones are
dropped its catalog outlives them under the German name: nothing is asked, and the change is not seen. -/
theorem resolve_after_forgetting_declared :
    let old := notices [("m.arb", noticeFile "de" "old")]
    let new := notices [("m.arb", noticeFile "de" "new")]
    let dropped := ((forget "en").on (old.memoryOver [⟨old.source, old.configuration, .resolve none "k"⟩])).2
    let last := (new.resolve new.configuration none "k").on dropped
    last.2.journal = dropped.journal ∧ textIn last.1 = some (Text.ofString "old")
      ∧ textIn ((new.resolve new.configuration none "k").on .empty).1 = some (Text.ofString "new") := by
  decide +kernel

end Phrasebook.Resolver
