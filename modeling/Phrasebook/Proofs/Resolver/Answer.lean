import Phrasebook.Proofs.Resolver.Faithful

/-!
# Answers from a faithful memory

Each step of resolving a key, started in a faithful memory, has the outcome that it would have without
one and leaves a faithful memory behind, whether it comes through or fails. `resolve_gives` puts the steps
together: what a request comes to is `answer`, in which no memory occurs.
-/

namespace Phrasebook.Resolver

open Phrasebook.Action (Meets)
open Phrasebook.Locale (IsSpelled)
open Phrasebook.Memory (keyOf)

variable {r : Resolver} {c : Configuration} {N : r.Locales} {locale key : Text} {t : Catalog} {e : Entry}

/-! ## Entries at a place -/

/-- The text of the file that an entry refers to is remembered as that of the entry. -/
theorem spent_meets {I : Memory → Prop} {place : Place} {file : Text} {origin : Option Text}
    (hrecords : ∀ m j h, I m → I { m with journal := j, history := h })
    (hadd : ∀ m text e', r.textOf file origin = .ok (some text) → e.resolveReference text = .ok e' →
      I m → I (m.settle place key e')) :
    Meets I (do
        record (.referring place key)
        match ← r.referredText file origin with
        | none => return none
        | some text =>
          record (.obtained place key)
          let e ← e.resolveReference text
          change (·.settle place key e)
          return some e)
      fun o m => o = (do
        match ← r.textOf file origin with
        | none => return none
        | some text => return some (← e.resolveReference text)) ∧ I m := by
  refine Meets.change_bind (fun m hm => hrecords m m.journal _ hm) ?_
  refine ((r.quiet_referredText file origin).meets hrecords).bind (fun found => ?_) ?_
  · cases found with
    | none =>
        refine Meets.pure fun m hm => ⟨?_, hm.2⟩
        rw [← hm.1]
        rfl
    | some text =>
        refine Meets.change_bind (R := fun m => .ok (some text) = r.textOf file origin ∧ I m)
          (fun m hm => ⟨hm.1, hrecords m m.journal _ hm.2⟩) ?_
        intro m hm
        rw [← hm.1]
        -- A locked entry refuses the text, and then nothing is settled.
        show _ = (e.resolveReference text >>= fun e' => pure (some e')) ∧ _
        cases hspent : e.resolveReference text with
        | error x =>
            rw [Action.on_bind_error (Action.on_lift (.error x) m)]
            exact ⟨rfl, hm.2⟩
        | ok e' =>
            rw [Action.on_bind_ok (Action.on_lift (.ok e') m), Action.on_bind_ok (Action.on_change _ m)]
            exact ⟨rfl, hadd m text e' hm.1.symm hspent hm.2⟩
  · intro x m hm
    rw [← hm.1]
    exact ⟨rfl, hm.2⟩

/-- **The entry at a place is the usable one of the catalog there.** What is kept when the records grow and
when a usable entry is added to that catalog is kept here. -/
theorem usable_meets {I : Memory → Prop} {place : Place}
    (hrecords : ∀ m j h, I m → I { m with journal := j, history := h })
    (hadd : ∀ m e, r.usableIn t key = .ok (some e) → I m → I (m.settle place key e)) :
    Meets (fun m => m.at? place = some t ∧ I m) (r.usable place key)
      fun o m => o = r.usableIn t key ∧ I m := by
  refine Meets.get fun m hm => ?_
  rw [hm.1]
  dsimp only
  cases hget : t.get? key with
  | none =>
      rw [usableIn_of_none hget]
      exact ⟨rfl, hm.2⟩
  | some e =>
      dsimp only
      by_cases htext : e.text.isSome = true
      · rw [if_pos htext, usableIn_of_text hget htext]
        exact ⟨rfl, hm.2⟩
      · rw [if_neg htext]
        cases href : e.reference with
        | none =>
            rw [usableIn_of_no_reference hget htext href]
            exact ⟨rfl, hm.2⟩
        | some file =>
            have hspent := usableIn_of_reference (r := r) hget htext href
            rw [hspent]
            refine spent_meets hrecords (fun m' text e' hfound hresolved => hadd m' e' ?_) m hm.2
            rw [hspent, hfound]
            show (e.resolveReference text >>= fun e' => pure (some e')) = _
            rw [hresolved]
            rfl

/-- A remembered catalog answers for its locale, and is remembered on. -/
theorem usable_answers (hL : N.Has locale) (hclear : r.IsClear c locale) :
    Meets (fun m => r.Faithful c N m ∧ (m.at? (.under (r.seat c locale))).isSome = true)
      (r.usable (.under (r.seat c locale)) key)
      fun o m => r.Answers c locale key o ∧ r.Faithful c N m := by
  intro m ⟨hm, hsome⟩
  obtain ⟨t, ht⟩ := Option.isSome_iff_exists.mp hsome
  have hmirrors := hm.mirrors hL hclear ht
  have hmeets : Meets (fun m => m.at? (.under (r.seat c locale)) = some t ∧ r.Faithful c N m)
      (r.usable (.under (r.seat c locale)) key) fun o m => o = r.usableIn t key ∧ r.Faithful c N m := by
    refine usable_meets (fun m j hs h => h.records j hs) fun m e husable h => ?_
    -- What the catalog answers is what the key resolves to.
    have hanswers := hmirrors.entries key
    rw [husable] at hanswers
    exact h.settle hL hclear hanswers.of_some (text_of_usableIn husable)
  obtain ⟨ho, hm'⟩ := hmeets m ⟨ht, hm⟩
  rw [ho]
  exact ⟨hmirrors.entries key, hm'⟩

/-- So does the catalog of a locale that is not the default one, under its own key. -/
theorem IsOwn.usable_answers (hL : r.IsOwn c N locale) :
    Meets (fun m => r.Faithful c N m ∧ (m.catalog? locale).isSome = true)
      (r.usable (.under (keyOf locale)) key)
      fun o m => r.Answers c locale key o ∧ r.Faithful c N m := by
  have hanswers := @Resolver.usable_answers r c N locale key hL.has hL.clear
  rw [seat_of_not_isDefault hL.other] at hanswers
  exact hanswers

/-! ## Catalogs of locales -/

/-- **`Opened r c locale o m`**: the catalog of a locale is remembered, or the failure is that of reading
it. -/
def Opened (r : Resolver) (c : Configuration) (locale : Text) {α : Type} (o : Outcome α) (m : Memory) :
    Prop :=
  match o with
  | .ok _ => (m.at? (.under (r.seat c locale))).isSome = true
  | .error x => r.homeCatalog c locale = .error x

/-- The failure of reading the catalog of a locale answers for the locale. -/
theorem answers_of_unread {x : Failure} (h : r.homeCatalog c locale = .error x) :
    r.Answers c locale key (.error x) := by
  refine .inl ?_
  rw [homeEntry, h]
  rfl

theorem openCatalog_meets (hL : r.IsOwn c N locale) :
    Meets (r.Faithful c N) (r.openCatalog c locale) fun o m => r.Opened c locale o m ∧ r.Faithful c N m := by
  have hhome : r.homeCatalog c locale = r.ownCatalog c locale := by
    rw [homeCatalog, hL.other]
    rfl
  have hseat : r.seat c locale = keyOf locale := seat_of_not_isDefault hL.other
  refine Meets.get fun m hm => ?_
  by_cases hnone : (m.catalog? locale).isNone = true
  · -- What is read now is the catalog as its file writes it.
    rw [if_pos hnone]
    refine Meets.bind (Q := fun o m => r.Opened c locale o m ∧ r.Faithful c N m)
      ((r.adds_catalog c locale false).meets fun m j hs h => h.records j hs)
      (fun file => ?_) (fun x m' hm' => ?_) m hm
    · refine Meets.change fun m' hm' => ?_
      have hown : r.homeCatalog c locale = .ok (file.getD (.ofLocale (some locale))) := by
        rw [hhome, ownCatalog, ← hm'.1]
        rfl
      have hmirrors := mirrors_home hown (isBasic_of_homeCatalog hown)
      refine ⟨?_, (hm'.2.putNew hL hmirrors).records _ _⟩
      show Pairs.has (r.seat c locale) (Pairs.put (keyOf locale) _ _) = true
      rw [hseat]
      exact Pairs.has_put_self _ _ _
    · refine ⟨?_, hm'.2⟩
      show r.homeCatalog c locale = .error x
      rw [hhome, ownCatalog, ← hm'.1]
      rfl
  · rw [if_neg hnone]
    refine ⟨?_, hm⟩
    show (m.at? (.under (r.seat c locale))).isSome = true
    rw [hseat, ← Memory.catalog?, ← Option.not_isNone, Bool.eq_false_iff.mpr hnone]
    rfl

/-- **A lookup answers for its locale.** -/
theorem lookup_meets (hL : r.IsOwn c N locale) (key : Text) :
    Meets (r.Faithful c N) (r.lookup c locale key) fun o m =>
      r.Answers c locale key o ∧ r.Faithful c N m := by
  refine (openCatalog_meets hL).bind (fun _ => ?_) (fun x m hm => ?_)
  · refine hL.usable_answers.pre fun m hm => ⟨hm.2, ?_⟩
    have hopened := hm.1
    rw [Opened, seat_of_not_isDefault hL.other] at hopened
    exact hopened
  · exact ⟨answers_of_unread hm.1, hm.2⟩

/-- So does a lookup in the catalog of a locale that stands in for another one. -/
theorem lookupBasic_meets (hL : r.IsOwn c N locale) (hb : Locale.basic? locale = none) (key : Text) :
    Meets (r.Faithful c N) (r.lookupBasic c locale key) fun o m =>
      r.Answers c locale key o ∧ r.Faithful c N m := by
  refine (openCatalog_meets hL).bind (fun _ => ?_) (fun x m hm => ?_)
  · refine Meets.change_bind (fun m hm => ?_) hL.usable_answers
    have hseat := seat_of_not_isDefault (c := c) hL.other
    have hupdate := hm.2.update hL.has hL.clear fun t ht => ht.mark hb
    have hsome := hm.1
    rw [hseat] at hupdate
    rw [Opened, hseat] at hsome
    refine ⟨hupdate, ?_⟩
    show (Memory.at? _ (.under (keyOf locale))).isSome = true
    rw [Memory.at?_update, if_pos rfl, Option.isSome_map]
    exact hsome
  · exact ⟨answers_of_unread hm.1, hm.2⟩

/-! ## The default catalog -/

/-- What the default catalog answers is what a key resolves to in the default locale. -/
theorem Answers.eq_located {o : Outcome (Option Entry)} (h : r.Answers c r.defaultLocale key o) :
    o = r.located c r.defaultLocale key := by
  rcases o with x | found
  · exact h.of_error.symm
  · cases found with
    | some e => exact h.of_some.symm
    | none =>
        rw [r.located_of_none c h.of_none, standIns, isDefault_default]
        rfl

/-- **`OpenedDefault r c N o m`**: the default catalog is remembered where it belongs, or the failure is that
of reading it. -/
structure OpenedDefault (r : Resolver) (c : Configuration) (N : r.Locales) (o : Outcome Place) (m : Memory) : Prop where
  place : ∀ {place}, o = .ok place → place = .under (r.restKey c)
  opened : r.Opened c r.defaultLocale o m
  faithful : r.Faithful c N m

theorem openDefault_meets :
    Meets (r.Faithful c N) (r.openDefault c) (r.OpenedDefault c N) := by
  have hhome : r.homeCatalog c r.defaultLocale = r.defaultCatalog c := by
    rw [homeCatalog, isDefault_default]
    rfl
  have hseat : r.seat c r.defaultLocale = r.restKey c := seat_of_isDefault isDefault_default
  refine Meets.get fun m hm => ?_
  cases hplace : m.defaultPlace with
  | some place =>
      -- It is remembered, and the memory says truly where.
      have hfaithful := hm.place
      rw [hplace] at hfaithful
      split at hfaithful
      · next hhas =>
          obtain rfl := Option.some.inj hfaithful
          refine ⟨fun h => (Except.ok.inj h).symm, ?_, hm⟩
          show (m.at? (.under (r.seat c r.defaultLocale))).isSome = true
          rw [hseat]
          exact hhas
      · cases hfaithful
  | none =>
      -- It is read now. Nothing else is ever put where it belongs, so it need not be kept apart.
      dsimp only
      refine Meets.bind (Q := r.OpenedDefault c N) ((r.adds_catalog c r.defaultLocale true).meets
        (P := fun m => m.defaultPlace = none ∧ r.Faithful c N m) fun m j hs h => ⟨h.1, h.2.records j hs⟩)
        (fun file => ?_) (fun x m' hm' => ?_) m ⟨hplace, hm⟩
      · refine Meets.get fun m' hm' => ?_
        obtain ⟨hread, hnone, hfaithful⟩ := hm'
        have hdefault : r.defaultCatalog c = .ok (file.getD r.noDefault) := by
          rw [defaultCatalog, ← hread]
          rfl
        have hrest := restKey_eq hdefault
        rw [← hhome] at hdefault
        have hmirrors := mirrors_home hdefault (isBasic_of_homeCatalog hdefault)
        obtain ⟨hunder, hput⟩ := hfaithful.putDefault hnone hmirrors
        rw [← hrest, hunder, Action.on_bind_ok (Action.on_change _ m')]
        refine ⟨fun h => (Except.ok.inj h).symm, ?_, hput.records _ _⟩
        show ((m'.putDefault (r.restKey c) _).at? (.under (r.seat c r.defaultLocale))).isSome = true
        rw [hseat, Memory.putDefault, hunder]
        exact Pairs.has_put_self _ _ _
      · refine ⟨fun h => ?_, ?_, hm'.2.2⟩
        · cases h
        · show r.homeCatalog c r.defaultLocale = .error x
          rw [hhome, defaultCatalog, ← hm'.1]
          rfl

/-! ## Answers -/

/-- **`Gives r c N x o`**: in every faithful memory the action has the outcome `o`, and it leaves a faithful
memory behind. -/
def Gives (r : Resolver) (c : Configuration) (N : r.Locales) {α : Type} (x : Action α) (o : Outcome α) : Prop :=
  Meets (r.Faithful c N) x fun o' m => o' = o ∧ r.Faithful c N m

/-- What only reads files gives what it reads. -/
theorem gives_of_quiet {α : Type} {x : Action α} {o : Outcome α} (h : Action.Quiet x o) :
    r.Gives c N x o :=
  h.meets fun _ j hs hm => hm.records j hs

/-- **What a key resolves to is remembered.** -/
theorem remember_gives {tried : List Text} (he : e.text.isSome = true)
    (h : ∀ name ∈ tried, r.IsOwn c N name ∧ r.located c name key = .ok (some e)) :
    r.Gives c N (remember key e tried) (.ok ()) := by
  induction tried with
  | nil => exact Meets.pure fun m hm => ⟨rfl, hm⟩
  | cons name rest ih =>
      have hname := h name List.mem_cons_self
      refine Meets.change_bind (fun _ hm => ?_) (ih fun n hn => h n (List.mem_cons_of_mem name hn))
      rw [← seat_of_not_isDefault hname.1.other]
      exact hm.settle hname.1.has hname.1.clear hname.2 he

/-- A hit is remembered and answered. -/
theorem hit_gives {tried : List Text} (he : e.text.isSome = true)
    (h : ∀ name ∈ tried, r.IsOwn c N name ∧ r.located c name key = .ok (some e)) (locale : Text) :
    r.Gives c N (remember key e tried >>= fun _ => r.found c locale key e)
      (r.answerOf c locale key (some e)) := by
  refine (remember_gives he h).bind (fun _ => ?_) (fun _ _ hm => ?_)
  · exact (gives_of_quiet (r.quiet_found c locale key e)).pre fun _ hm => hm.2
  · cases hm.1

/-- **The default catalog decides for a locale that has nothing else**, and what it says may be remembered
for every locale of which that is true. -/
theorem fromDefault_gives {tried : List Text}
    (h : ∀ name ∈ tried, r.IsOwn c N name ∧ r.located c name key = r.located c r.defaultLocale key)
    (locale : Text) :
    r.Gives c N (r.fromDefault c locale key tried)
      (r.located c r.defaultLocale key >>= r.answerOf c locale key) := by
  refine openDefault_meets.bind (fun place => ?_) (fun _ _ hm => ?_)
  · intro m hm
    obtain rfl := hm.place rfl
    rw [← seat_of_isDefault (c := c) isDefault_default]
    refine Meets.bind (Q := fun o m =>
        o = (r.located c r.defaultLocale key >>= r.answerOf c locale key) ∧ r.Faithful c N m)
      (usable_answers N.hasDefault (isClear_of_isDefault isDefault_default)) (fun found => ?_) (fun x m' hm' => ?_) m
      ⟨hm.faithful, hm.opened⟩
    · intro m' hm'
      have hlocated := hm'.1.eq_located
      rw [← hlocated]
      cases found with
      | none => exact gives_of_quiet (r.quiet_asked c _ _) m' hm'.2
      | some e =>
          -- What the default catalog has is what the key resolves to in every locale that was tried, so all may
          -- remember it.
          have he := r.text_of_firstUsable hlocated.symm
          refine hit_gives he (fun name hname => ⟨(h name hname).1, ?_⟩) locale m' hm'.2
          rw [(h name hname).2, ← hlocated]
    · rw [← hm'.1.eq_located]
      exact ⟨rfl, hm'.2⟩
  · rw [← Answers.eq_located (answers_of_unread hm.opened)]
    exact ⟨rfl, hm.faithful⟩

/-! ## Requests -/

/-- A faithful memory knows which locale stands in for another one. -/
theorem basicFor_eq {m : Memory} (hm : r.Faithful c N m) (hL : r.IsOwn c N locale) :
    r.basicFor m locale = r.basicOf locale := by
  unfold basicFor basicOf
  split
  · next hbasic =>
      obtain ⟨t, ht, hmarked⟩ := (Option.any_eq_true _ _).mp hbasic
      rw [Memory.catalog?, ← seat_of_not_isDefault (c := c) hL.other] at ht
      rw [(hm.mirrors hL.has hL.clear ht).basic hmarked]
      rfl
  · rfl

theorem IsOwn.basicOf_spec (hL : r.IsOwn c N locale) {basic : Text} (h : r.basicOf locale = some basic) :
    N.Has basic ∧ r.isDefault basic = false ∧ Locale.basic? basic = none ∧ r.basicOf basic = none := by
  obtain ⟨hhas, hnone⟩ := N.hasBasic hL.has hL.other h
  refine ⟨hhas, isDefault_of_basicOf h, hnone, ?_⟩
  rw [basicOf, hnone]
  rfl

/-- The answer for a locale of which everything but the default catalog knows nothing. -/
theorem fromDefault_answers {tried : List Text} {name : Text}
    (hown : ∀ name ∈ tried, r.IsOwn c N name)
    (h : ∀ name ∈ tried, r.located c name key = r.firstUsable key [r.defaultCatalog c])
    (hname : r.located c name key = r.firstUsable key [r.defaultCatalog c]) (locale : Text) :
    r.Gives c N (r.fromDefault c locale key tried)
      (r.located c name key >>= r.answerOf c locale key) := by
  have hdefault := r.located_default c isDefault_default key
  rw [hname, ← hdefault]
  refine fromDefault_gives (fun n hn => ⟨hown n hn, ?_⟩) locale
  rw [h n hn, hdefault]

/-- The answer where another locale stands in for the locale. -/
theorem fromBasic_gives (hL : r.IsOwn c N locale) {basic : Text}
    (hbasic : r.basicOf locale = some basic) (hclear : r.IsClear c basic)
    (hlocated : r.located c locale key = r.located c basic key) :
    r.Gives c N (do
        match ← r.lookupBasic c basic key with
        | some e =>
          remember key e [locale]
          r.found c locale key e
        | none => r.fromDefault c locale key [locale, basic])
      (r.located c locale key >>= r.answerOf c locale key) := by
  obtain ⟨hhas, hdefault, hnone, hlast⟩ := hL.basicOf_spec hbasic
  have hB : r.IsOwn c N basic := ⟨hhas, hclear, hdefault⟩
  refine (lookupBasic_meets hB hnone key).bind (fun found => ?_) (fun x m hm => ?_)
  · intro m hm
    cases found with
    | some e =>
        have hsome : r.located c locale key = .ok (some e) := by rw [hlocated, hm.1.of_some]
        rw [hsome]
        refine hit_gives (r.text_of_firstUsable hsome) (fun name hname => ?_) locale m hm.2
        obtain rfl := List.mem_singleton.mp hname
        exact ⟨hL, hsome⟩
    | none =>
        -- Both catalogs lack the key, so both may remember what the default one says.
        have hstand := r.located_of_none c hm.1.of_none
        rw [r.standIns_of_basic_none c hdefault hlast] at hstand
        refine fromDefault_answers (fun name hname => ?_) (fun name hname => ?_)
          (hlocated.trans hstand) locale m hm.2
        · rcases List.mem_pair.mp hname with rfl | rfl
          · exact hL
          · exact hB
        · rcases List.mem_pair.mp hname with rfl | rfl
          · exact hlocated.trans hstand
          · exact hstand
  · rw [hlocated, hm.1.of_error]
    exact ⟨rfl, hm.2⟩

/-- **With a memory or without one, a locale that is not the default one gets the same answer.** -/
theorem fromLocale_gives (hL : r.IsOwn c N locale) (hclear : r.KeepsClear c locale) (key : Text) :
    r.Gives c N (r.fromLocale c locale key) (r.located c locale key >>= r.answerOf c locale key) := by
  refine (lookup_meets hL key).bind (fun found => ?_) (fun x m hm => ?_)
  · cases found with
    | some e =>
        intro m hm
        rw [hm.1.of_some]
        exact gives_of_quiet (r.quiet_found c locale key e) m hm.2
    | none =>
        -- What the memory knows of marks is what the names say, so the way on does not depend on it.
        refine Meets.get fun m hm => ?_
        have hlocated := r.located_of_none c hm.1.of_none
        rw [basicFor_eq hm.2 hL]
        cases hbasic : r.basicOf locale with
        | none =>
            rw [r.standIns_of_basic_none c hL.other hbasic] at hlocated
            refine fromDefault_answers (fun name hname => ?_) (fun name hname => ?_) hlocated locale
              m hm.2
            · exact List.mem_singleton.mp hname ▸ hL
            · exact List.mem_singleton.mp hname ▸ hlocated
        | some basic =>
            obtain ⟨-, hdefault, -, hlast⟩ := hL.basicOf_spec hbasic
            rw [r.standIns_of_basic c hL.other hbasic hdefault hlast key] at hlocated
            exact fromBasic_gives hL hbasic (fun _ => (hclear hL.other).2 basic hbasic) hlocated m hm.2
  · rw [hm.1.of_error]
    exact ⟨rfl, hm.2⟩

/-- **A request that keeps clear is answered as if nothing were remembered**, and what is remembered afterwards is
faithful again. -/
theorem clear_gives {locale : Option Text} (hL : N.Has (r.localeOf locale))
    (hclear : r.KeepsClear c (r.localeOf locale)) (key : Text) :
    r.Gives c N (r.resolve c locale key) (r.answer c (r.localeOf locale) key) := by
  have hneeded := r.quiet_asked c (.valueNeeded (r.localeOf locale) key)
    (r.hooks.valueNeeded.map fun ask => ask (r.localeOf locale) key)
  refine (gives_of_quiet hneeded).bind (fun supplied => ?_) (fun x m hm => ?_)
  · intro m hm
    rw [answer, ← hm.1]
    cases supplied with
    | some e => exact ⟨rfl, hm.2⟩
    | none =>
        dsimp only
        by_cases hd : r.isDefault (r.localeOf locale) = true
        · rw [if_pos hd]
          have hlocated := r.located_default c hd key
          exact fromDefault_answers (by simp) (by simp) hlocated _ m hm.2
        · rw [if_neg hd]
          have hnot : r.isDefault (r.localeOf locale) = false := Bool.eq_false_iff.mpr hd
          exact fromLocale_gives ⟨hL, fun _ => (hclear hnot).1, hnot⟩ hclear key m hm.2
  · rw [answer, ← hm.1]
    exact ⟨rfl, hm.2⟩

/-- **So is every request**, where no file declares a locale. -/
theorem resolve_gives (hf : r.format c ≠ .ok .arb) (hD : IsSpelled r.defaultLocale) {locale : Option Text}
    (hL : N.Has (r.localeOf locale)) (key : Text) :
    r.Gives c N (r.resolve c locale key) (r.answer c (r.localeOf locale) key) :=
  clear_gives hL (keepsClear_of_format hf hD _) key

end Phrasebook.Resolver
