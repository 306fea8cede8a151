import Phrasebook.Proofs.Resolver.Moves
import Phrasebook.Proofs.Resolver.Search

/-!
# A request is made of moves

Each step of a request, from any memory that is sound, comes to a number of moves, whether it comes through or
fails (`Goes`). Where a step says that a catalog has nothing under the key, it lacks a text there, and that is
what allows the request to settle in it what is found elsewhere.
-/

namespace Phrasebook.Resolver

open Phrasebook.Memory (keyOf)

variable {r : Resolver} {c : Configuration} {locale key name : Text} {found : Option Entry} {m : Memory}
  {place : Place} {t : Catalog} {e : Entry}

/-! ## Records -/

theorem moves_of_quiet {α : Type} {x : Action α} {o : Outcome α} (h : Action.Quiet x o) (m : Memory) :
    Moves r c locale key found m (x.on m).2 := by
  obtain ⟨j, hon⟩ := h m
  rw [hon, List.append_nil]
  exact .single (.asked m _)

/-- Reading a catalog. -/
theorem catalog_on (r : Resolver) (c : Configuration) (name : Text) (includesDefault : Bool) (m : Memory) :
    ∃ j, (r.catalog c name includesDefault).on m
      = (r.catalogOf c name includesDefault, { m.record (.loading name) with journal := j }) := by
  obtain ⟨j, hon⟩ := r.adds_catalog c name includesDefault m
  exact ⟨_, hon⟩

theorem moves_loading (m : Memory) (name : Text) (j : List Event) :
    Moves r c locale key found m { m.record (.loading name) with journal := j } :=
  .tail (.single (.loading m name)) (.asked _ j)

/-! ## Catalogs of locales -/

/-- **Opening a catalog makes moves**, and if it comes through the catalog is there. -/
theorem openCatalog_moves (key : Text) (found : Option Entry) (htried : IsTried locale name) (hd : r.isDefault name = false) (m : Memory) :
    Moves r c locale key found m ((r.openCatalog c name).on m).2
      ∧ (((r.openCatalog c name).on m).1 = .ok () →
        (((r.openCatalog c name).on m).2.catalog? name).isSome = true) := by
  unfold openCatalog
  rw [Action.on_bind_ok (Action.on_get m)]
  by_cases hnone : (m.catalog? name).isNone = true
  · rw [if_pos hnone]
    obtain ⟨j, hon⟩ := catalog_on r c name false m
    cases hread : r.catalogOf c name false with
    | error x =>
        rw [hread] at hon
        rw [Action.on_bind_error hon]
        refine ⟨moves_loading m name j, fun h => ?_⟩
        cases h
    | ok file =>
        rw [hread] at hon
        rw [Action.on_bind_ok hon, Action.on_bind_ok (Action.on_change _ _)]
        have hown : r.ownCatalog c name = .ok (file.getD (.ofLocale (some name))) := by
          rw [ownCatalog, hread]
          rfl
        -- Reading asks for files and changes no catalog, so the place is still free when the catalog is put there.
        have hfree : ({ m.record (.loading name) with journal := j } : Memory).catalog? name = none :=
          Option.isNone_iff_eq_none.mp hnone
        refine ⟨.tail (moves_loading m name j) (.opened htried hd hfree hown), fun _ => ?_⟩
        show (Memory.at? _ (.under (keyOf name))).isSome = true
        exact Pairs.has_put_self _ _ _
  · rw [if_neg hnone]
    refine ⟨.refl, fun _ => ?_⟩
    show (m.catalog? name).isSome = true
    rw [← Option.not_isNone, Bool.eq_false_iff.mpr hnone]
    rfl

/-- **Opening the default catalog makes moves**, and if it comes through the catalog is in its place. -/
theorem openDefault_moves (locale key : Text) (found : Option Entry) (m : Memory) :
    Moves r c locale key found m ((r.openDefault c).on m).2
      ∧ ∀ place, ((r.openDefault c).on m).1 = .ok place →
        ((r.openDefault c).on m).2.defaultPlace = some place := by
  unfold openDefault
  rw [Action.on_bind_ok (Action.on_get m)]
  cases hplace : m.defaultPlace with
  | some place =>
      refine ⟨.refl, fun other h => ?_⟩
      obtain rfl := Except.ok.inj h
      exact hplace
  | none =>
      dsimp only
      obtain ⟨j, hon⟩ := catalog_on r c r.defaultLocale true m
      cases hread : r.catalogOf c r.defaultLocale true with
      | error x =>
          rw [hread] at hon
          rw [Action.on_bind_error hon]
          refine ⟨moves_loading m _ j, fun place h => ?_⟩
          cases h
      | ok file =>
          rw [hread] at hon
          rw [Action.on_bind_ok hon, Action.on_bind_ok (Action.on_get _),
            Action.on_bind_ok (Action.on_change _ _)]
          have hdefault : r.defaultCatalog c = .ok (file.getD r.noDefault) := by
            rw [defaultCatalog, hread]
            rfl
          refine ⟨.tail (moves_loading m _ j) (.openedDefault hplace hdefault), fun place h => ?_⟩
          obtain rfl := Except.ok.inj h
          rfl

/-! ## Entries at a place -/

/-- **`Used r place key m o m'`**: what looking for an entry at a place comes to. -/
inductive Used (r : Resolver) (place : Place) (key : Text) (m : Memory) : Outcome (Option Entry) → Memory → Prop
  /-- There is nothing under the key, or an entry without a text. -/
  | nothing : (∀ t f, m.at? place = some t → t.get? key = some f → f.text = none) → Used r place key m (.ok none) m
  | text {t : Catalog} {e : Entry} : m.at? place = some t → t.get? key = some e → e.text.isSome = true →
      Used r place key m (.ok (some e)) m
  /-- The file of a reference is asked for, and has no text. -/
  | unread {t : Catalog} {e : Entry} {o : Outcome (Option Entry)} (j : List Event) : m.at? place = some t →
      t.get? key = some e → e.text = none → (∀ f, o ≠ .ok (some f)) →
      Used r place key m o { m.record (.referring place key) with journal := j }
  /-- The file of a reference has a text. -/
  | read {t : Catalog} {e f : Entry} {text : Text} (j : List Event) : m.at? place = some t →
      t.get? key = some e → e.text = none → e.resolveReference text = .ok f →
      Used r place key m (.ok (some f))
        (({ m.record (.referring place key) with journal := j }.record (.obtained place key)).settle place key f)

theorem resolveReference_of_isPlain (h : e.IsPlain) (text : Text) :
    e.resolveReference text = .ok { e with text := some text, reference := none } := by
  unfold Entry.resolveReference Entry.change
  rw [if_neg (by rw [h.unlocked]; exact Bool.false_ne_true)]

theorem usable_used (hm : m.IsSound) (place : Place) (key : Text) :
    Used r place key m ((r.usable place key).on m).1 ((r.usable place key).on m).2 := by
  unfold usable
  rw [Action.on_bind_ok (Action.on_get m)]
  cases hat : m.at? place with
  | none =>
      refine .nothing fun t f ht => ?_
      rw [hat] at ht
      cases ht
  | some t =>
      dsimp only
      cases hget : t.get? key with
      | none =>
          refine .nothing fun u f hu hf => ?_
          obtain rfl := Option.some.inj (hat.symm.trans hu)
          rw [hget] at hf
          cases hf
      | some e =>
          dsimp only
          by_cases htext : e.text.isSome = true
          · rw [if_pos htext]
            exact .text hat hget htext
          · rw [if_neg htext]
            have hnone : e.text = none := Option.not_isSome_iff_eq_none.mp htext
            cases href : e.reference with
            | none =>
                refine .nothing fun u f hu hf => ?_
                obtain rfl := Option.some.inj (hat.symm.trans hu)
                obtain rfl := Option.some.inj (hget.symm.trans hf)
                exact hnone
            | some file =>
                dsimp only
                obtain ⟨j, hon⟩ := r.quiet_referredText file t.origin (m.record (.referring place key))
                rw [List.append_nil] at hon
                rw [Action.on_bind_ok (Action.on_record _ m)]
                cases hread : r.textOf file t.origin with
                | error x =>
                    rw [hread] at hon
                    rw [Action.on_bind_error hon]
                    exact .unread _ hat hget hnone fun f h => by cases h
                | ok text =>
                    rw [hread] at hon
                    rw [Action.on_bind_ok hon]
                    cases text with
                    | none => exact .unread _ hat hget hnone fun f h => by cases h
                    | some text =>
                        -- A plain entry is open, so its reference can be spent.
                        have hplain : e.IsPlain := hm.plain hat _ e hget
                        have hspent := resolveReference_of_isPlain hplain text
                        dsimp only
                        rw [Action.on_bind_ok (Action.on_record _ _), hspent,
                          Action.on_bind_ok (Action.on_lift _ _), Action.on_bind_ok (Action.on_change _ _)]
                        exact .read _ hat hget hnone hspent

/-- What is found has a text and is plain. -/
theorem Used.spec {m' : Memory} (h : Used r place key m (.ok (some e)) m') (hm : m.IsSound) :
    e.text.isSome = true ∧ e.IsPlain := by
  generalize ho : Except.ok (some e) = o at h
  cases h with
  | nothing => cases ho
  | text hat hget htext =>
      cases ho
      exact ⟨htext, hm.plain hat _ _ hget⟩
  | unread _ _ _ _ hne => exact absurd ho.symm (hne e)
  | read _ hat hget _ hspent =>
      cases ho
      rw [resolveReference_of_isPlain (hm.plain hat _ _ hget)] at hspent
      obtain rfl := Except.ok.inj hspent
      exact ⟨rfl, (hm.plain hat _ _ hget).unlocked, .inr rfl⟩

/-- **Looking for an entry at a place makes moves.** -/
theorem Used.moves {o : Outcome (Option Entry)} {m' : Memory} (h : Used r place key m o m') (hm : m.IsSound)
    (htouched : IsTouched locale m place) (hfound : ∀ e, o = .ok (some e) → found = some e) :
    Moves r c locale key found m m' := by
  have hspec := h
  cases h with
  | nothing => exact .refl
  | text => exact .refl
  | unread j hat hget hnone =>
      exact .tail (.single (.referring hat hget hnone)) (.asked _ j)
  | @read t e f text j hat hget hnone hspent =>
      obtain ⟨htext, hplain⟩ := hspec.spec hm
      have hlacks : Lacks key found { m.record (.referring place key) with journal := j } place := by
        refine ⟨t, ?_, fun g hg => ?_⟩
        · rw [Memory.at?_journal, Memory.at?_record]
          exact hat
        · obtain rfl := Option.some.inj (hget.symm.trans hg)
          exact .inl hnone
      exact .tail (.tail (.single (.referring hat hget hnone)) (.asked _ j))
        (.obtained ⟨htouched, hlacks, hfound f rfl, htext, hplain⟩)

/-- A catalog that has nothing under the key lacks a text there. -/
theorem Used.lacks {m' : Memory} (h : Used r place key m (.ok none) m')
    (hsome : (m.at? place).isSome = true) : Lacks key found m' place := by
  obtain ⟨t, ht⟩ := Option.isSome_iff_exists.mp hsome
  generalize ho : Except.ok none = o at h
  cases h with
  | nothing hnone => exact ⟨t, ht, fun f hf => .inl (hnone t f ht hf)⟩
  | text => cases ho
  | unread j hat hget hnone =>
      refine ⟨_, (Memory.at?_journal _ place j).trans ((Memory.at?_record m place _).trans hat), fun f hf => ?_⟩
      obtain rfl := Option.some.inj (hget.symm.trans hf)
      exact .inl hnone
  | read => cases ho

/-! ## Searching -/

/-- **`Goes r c locale key o m m'`**: a search that has the outcome `o` has made moves, of a request that finds
what it has found, and that has a text. -/
structure Goes (r : Resolver) (c : Configuration) (locale key : Text) (o : Outcome (Option Entry))
    (m m' : Memory) : Prop where
  moves : ∀ {found}, (∀ e, o = .ok (some e) → found = some e) → Moves r c locale key found m m'
  spec : ∀ {e}, o = .ok (some e) → e.text.isSome = true ∧ e.IsPlain

variable {m' m'' : Memory} {o : Outcome (Option Entry)} {tried : List Text}

/-- Moves that do not depend on what is found, and then a search. -/
theorem Goes.after (hmoves : ∀ found, Moves r c locale key found m m') (h : Goes r c locale key o m' m'') :
    Goes r c locale key o m m'' :=
  ⟨fun hfound => (hmoves _).trans (h.moves hfound), h.spec⟩

theorem Goes.of_error {x : Failure} (hmoves : ∀ found, Moves r c locale key found m m') :
    Goes r c locale key (.error x) m m' :=
  ⟨fun _ => hmoves _, fun h => by cases h⟩

/-- A search that found nothing made moves all the same. -/
theorem Goes.moves_none (h : Goes r c locale key (.ok none) m m') (found : Option Entry) :
    Moves r c locale key found m m' :=
  h.moves fun _ hnone => by cases hnone

theorem Goes.moves_some (h : Goes r c locale key (.ok (some e)) m m') :
    Moves r c locale key (some e) m m' :=
  h.moves fun _ hf => Except.ok.inj hf

theorem Used.goes (h : Used r place key m o m') (hm : m.IsSound) (htouched : IsTouched locale m place) :
    Goes r c locale key o m m' := by
  refine ⟨h.moves hm htouched, fun ho => ?_⟩
  subst ho
  exact h.spec hm

/-- **Looking for an entry at a place where a catalog was put**; where none is found, the catalog lacks the key. -/
theorem usable_goes {x : Action Unit} (hm : m.IsSound) (htouched : ∀ m, IsTouched locale m place)
    (hmoves : ∀ found, Moves r c locale key found m (x.on m).2)
    (hsome : (x.on m).1 = .ok () → ((x.on m).2.at? place).isSome = true) :
    let y := x >>= fun _ => r.usable place key
    Goes r c locale key (y.on m).1 m (y.on m).2
      ∧ ((y.on m).1 = .ok none → ∀ found, Lacks key found (y.on m).2 place) := by
  intro y
  rw [Action.on_bind]
  revert hmoves hsome
  obtain ⟨o, m₁⟩ := x.on m
  intro hmoves hsome
  cases o with
  | error x => exact ⟨.of_error hmoves, fun h => by cases h⟩
  | ok _ =>
      have hsound := (hmoves none).sound hm
      have hused := usable_used (r := r) hsound place key
      refine ⟨.after hmoves (hused.goes hsound (htouched m₁)), ?_⟩
      intro hnone found
      rw [hnone] at hused
      exact hused.lacks (hsome rfl)

/-- **Looking a key up in the catalog of a locale.** -/
theorem lookup_goes (key : Text) (hm : m.IsSound) (htried : IsTried locale name) (hd : r.isDefault name = false) :
    Goes r c locale key ((r.lookup c name key).on m).1 m ((r.lookup c name key).on m).2
      ∧ (((r.lookup c name key).on m).1 = .ok none →
        ∀ found, Lacks key found ((r.lookup c name key).on m).2 (.under (keyOf name))) := by
  have hopen := fun found => openCatalog_moves (c := c) key found htried hd m
  exact usable_goes hm (fun _ => .inl ⟨name, htried, rfl⟩) (fun found => (hopen found).1) (hopen none).2

/-- So does looking it up in the catalog of a locale that stands in for another one. -/
theorem lookupBasic_goes (key : Text) (hm : m.IsSound) (htried : IsTried locale name)
    (hd : r.isDefault name = false) :
    Goes r c locale key ((r.lookupBasic c name key).on m).1 m ((r.lookupBasic c name key).on m).2
      ∧ (((r.lookupBasic c name key).on m).1 = .ok none →
        ∀ found, Lacks key found ((r.lookupBasic c name key).on m).2 (.under (keyOf name))) := by
  let mark : Action Unit := change (·.update (.under (keyOf name)) fun t => { t with isBasic := true })
  have hopen := fun found => openCatalog_moves (c := c) key found htried hd m
  have hmarked : (∀ found, Moves r c locale key found m ((r.openCatalog c name >>= fun _ => mark).on m).2)
      ∧ (((r.openCatalog c name >>= fun _ => mark).on m).1 = .ok () →
        (((r.openCatalog c name >>= fun _ => mark).on m).2.at? (.under (keyOf name))).isSome = true) := by
    rw [Action.on_bind]
    revert hopen
    obtain ⟨o, m₁⟩ := (r.openCatalog c name).on m
    intro hopen
    cases o with
    | error x => exact ⟨fun found => (hopen found).1, fun h => by cases h⟩
    | ok _ =>
        refine ⟨fun found => .tail (hopen found).1 (.marked m₁ name), fun _ => ?_⟩
        show ((m₁.update _ _).at? _).isSome = true
        rw [Memory.at?_update, if_pos rfl, Option.isSome_map]
        exact (hopen none).2 rfl
  -- Marking the catalog is part of opening it, as far as its entries go.
  have hgoes := usable_goes hm (fun _ => .inl ⟨name, htried, rfl⟩) hmarked.1 hmarked.2
  rw [bind_assoc] at hgoes
  exact hgoes

/-- **What was found is remembered** in the catalogs that lack it. -/
theorem remember_moves (hm : m.IsSound) (htext : e.text.isSome = true) (hplain : e.IsPlain)
    (htried : ∀ name ∈ tried, IsTried locale name)
    (hlacks : ∀ name ∈ tried, Lacks key (some e) m (.under (keyOf name))) :
    ∃ m', (remember key e tried).on m = (.ok (), m') ∧ Moves r c locale key (some e) m m' := by
  induction tried generalizing m with
  | nil => exact ⟨m, rfl, .refl⟩
  | cons name rest ih =>
      have hmove : Move r c locale key (some e) m (m.settle (.under (keyOf name)) key e) :=
        .settled ⟨.inl ⟨name, htried name List.mem_cons_self, rfl⟩, hlacks name List.mem_cons_self, rfl,
          htext, hplain⟩
      obtain ⟨m', hon, hmoves⟩ := ih (hmove.sound hm)
        (fun other hother => htried other (List.mem_cons_of_mem name hother))
        (fun other hother => (hlacks other (List.mem_cons_of_mem name hother)).moves (.single hmove) hm)
      refine ⟨m', ?_, .head hmove hmoves⟩
      rw [remember, Action.on_bind_ok (Action.on_change _ m)]
      exact hon

/-- A hit is remembered. -/
theorem Goes.hit (h : Goes r c locale key (.ok (some e)) m m') (hm : m.IsSound)
    (htried : ∀ name ∈ tried, IsTried locale name)
    (hlacks : ∀ name ∈ tried, Lacks key (some e) m' (.under (keyOf name))) :
    Goes r c locale key (((do remember key e tried; return some e) : Action (Option Entry)).on m').1 m
      (((do remember key e tried; return some e) : Action (Option Entry)).on m').2 := by
  have hmoves := h.moves_some
  obtain ⟨htext, hplain⟩ := h.spec rfl
  obtain ⟨m'', hon, hremembered⟩ := remember_moves (r := r) (c := c) (hmoves.sound hm)
    htext hplain htried hlacks
  rw [Action.on_bind_ok hon]
  refine ⟨fun {found} hfound => ?_, fun hf => h.spec hf⟩
  rw [hfound e rfl]
  exact hmoves.trans hremembered

/-- **The search in the default catalog**, after one in catalogs that lack the key. -/
theorem searchDefault_goes (hm : m.IsSound) (htried : ∀ name ∈ tried, IsTried locale name)
    (hlacks : ∀ found, ∀ name ∈ tried, Lacks key found m (.under (keyOf name))) :
    Goes r c locale key ((r.searchDefault c key tried).on m).1 m ((r.searchDefault c key tried).on m).2 := by
  unfold searchDefault
  have hopen := fun found => openDefault_moves (r := r) (c := c) locale key found m
  rw [Action.on_bind]
  revert hopen
  obtain ⟨o, m₁⟩ := (r.openDefault c).on m
  intro hopen
  cases o with
  | error x => exact .of_error fun found => (hopen found).1
  | ok place =>
      -- The catalog is there now, and its entry is looked at in the memory that loading it left.
      have hsound := Moves.sound (hopen none).1 hm
      have hgoes : Goes r c locale key ((r.usable place key).on m₁).1 m ((r.usable place key).on m₁).2 :=
        .after (fun found => (hopen found).1)
          ((usable_used hsound place key).goes hsound (.inr ((hopen none).2 place rfl)))
      dsimp only
      rw [Action.on_bind]
      revert hgoes
      obtain ⟨o, m₂⟩ := (r.usable place key).on m₁
      intro hgoes
      rcases o with x | found
      · exact ⟨hgoes.moves, fun h => by cases h⟩
      · cases found with
        | none => exact hgoes
        | some e =>
            refine hgoes.hit hm htried fun name hname => ?_
            exact (hlacks (some e) name hname).moves hgoes.moves_some hm

theorem basic_of_basicFor {basic : Text} (h : r.basicFor m locale = some basic) :
    Locale.basic? locale = some basic ∧ r.isDefault basic = false := by
  unfold basicFor at h
  split at h
  · cases h
  · obtain ⟨hbasic, hkept⟩ := Option.filter_eq_some_iff.mp h
    have hnot := (Bool.and_eq_true_iff.mp hkept).2
    exact ⟨hbasic, by simpa using hnot⟩

/-- The search where another locale stands in for the locale. -/
theorem searchBasic_goes {basic : Text} (hm : m.IsSound) (hbasic : Locale.basic? locale = some basic)
    (hd : r.isDefault basic = false) (hlacks : ∀ found, Lacks key found m (.under (keyOf locale))) :
    let x : Action (Option Entry) := do
      match ← r.lookupBasic c basic key with
      | some e =>
        remember key e [locale]
        return some e
      | none => r.searchDefault c key [locale, basic]
    Goes r c locale key (x.on m).1 m (x.on m).2 := by
  intro x
  have hlookup := lookupBasic_goes (c := c) key hm (.inr hbasic) hd
  rw [Action.on_bind]
  revert hlookup
  obtain ⟨o, m₁⟩ := (r.lookupBasic c basic key).on m
  rintro ⟨hgoes, hlacksBasic⟩
  rcases o with x | found
  · exact hgoes
  · cases found with
    | some e =>
        refine hgoes.hit hm (fun name hname => .inl (List.mem_singleton.mp hname)) fun name hname => ?_
        rw [List.mem_singleton.mp hname]
        exact (hlacks (some e)).moves hgoes.moves_some hm
    | none =>
        -- Both catalogs lack the key, so both may get what the default one has.
        refine .after hgoes.moves_none
          (searchDefault_goes ((hgoes.moves_none none).sound hm) (fun name hname => ?_) fun found name hname => ?_)
        · rcases List.mem_pair.mp hname with rfl | rfl
          · exact .inl rfl
          · exact .inr hbasic
        · rcases List.mem_pair.mp hname with rfl | rfl
          · exact (hlacks found).moves (hgoes.moves_none found) hm
          · exact hlacksBasic rfl found

/-- **The search for a locale that is not the default one.** -/
theorem searchLocale_goes (hm : m.IsSound) (hd : r.isDefault locale = false) :
    Goes r c locale key ((r.searchLocale c locale key).on m).1 m ((r.searchLocale c locale key).on m).2 := by
  unfold searchLocale
  have hlookup := lookup_goes (c := c) key hm (.inl rfl : IsTried locale locale) hd
  rw [Action.on_bind]
  revert hlookup
  obtain ⟨o, m₁⟩ := (r.lookup c locale key).on m
  rintro ⟨hgoes, hlacks⟩
  rcases o with x | found
  · exact hgoes
  · cases found with
    | some e => exact hgoes
    | none =>
        -- The locale itself lacks the key, and it still does when what is found elsewhere is put in its catalog.
        have hsound := (hgoes.moves_none none).sound hm
        have htried : ∀ name ∈ [locale], IsTried locale name := fun name hname =>
          .inl (List.mem_singleton.mp hname)
        dsimp only
        rw [Action.on_bind_ok (Action.on_get m₁)]
        cases hbasic : r.basicFor m₁ locale with
        | none =>
            refine .after hgoes.moves_none (searchDefault_goes hsound htried fun found name hname => ?_)
            exact List.mem_singleton.mp hname ▸ hlacks rfl found
        | some basic =>
            obtain ⟨hname, hd'⟩ := basic_of_basicFor hbasic
            exact .after hgoes.moves_none (searchBasic_goes hsound hname hd' (hlacks rfl))

/-- **A search makes moves.** -/
theorem search_goes (locale key : Text) (hm : m.IsSound) :
    Goes r c locale key ((r.search c locale key).on m).1 m ((r.search c locale key).on m).2 := by
  unfold search
  split
  · exact searchDefault_goes hm (fun name hname => by cases hname) fun _ name hname => by cases hname
  · next hd => exact searchLocale_goes hm (Bool.eq_false_iff.mpr hd)

/-! ## Requests -/

/-- **`foundBy r c m asked key`**: the entry that a request finds in the catalogs, before a hook replaces it. -/
def foundBy (r : Resolver) (c : Configuration) (m : Memory) (asked : Option Text) (key : Text) : Option Entry :=
  match (r.needed c (r.localeOf asked) key).on m with
  | (.ok none, m') => ((r.search c (r.localeOf asked) key).on m').1.toOption.join
  | _ => none

theorem quiet_told (locale key : Text) (found : Option Entry) :
    ∃ o, Action.Quiet (r.told c locale key found) o := by
  cases found with
  | none => exact ⟨_, r.quiet_asked c _ _⟩
  | some e => exact ⟨_, r.quiet_found c locale key e⟩

/-- **A request makes moves**, whether it comes through or fails. -/
theorem resolve_moves (hm : m.IsSound) (asked : Option Text) (key : Text) :
    Moves r c (r.localeOf asked) key (r.foundBy c m asked key) m ((r.resolve c asked key).on m).2 := by
  rw [resolve_eq]
  unfold foundBy
  have hneeded : ∀ found, Moves r c (r.localeOf asked) key found m
      ((r.needed c (r.localeOf asked) key).on m).2 :=
    fun found => moves_of_quiet (r.quiet_asked c _ _) m
  rw [Action.on_bind]
  revert hneeded
  obtain ⟨o, m₁⟩ := (r.needed c (r.localeOf asked) key).on m
  intro hneeded
  rcases o with x | supplied
  · exact hneeded none
  · cases supplied with
    | some e => exact hneeded none
    | none =>
        dsimp only
        have hgoes := search_goes (r := r) (c := c) (r.localeOf asked) key ((hneeded none).sound hm)
        rw [Action.on_bind]
        revert hgoes
        obtain ⟨o, m₂⟩ := (r.search c (r.localeOf asked) key).on m₁
        intro hgoes
        rcases o with x | found
        · exact (hneeded none).trans (hgoes.moves fun _ h => by cases h)
        · -- What the hooks say afterwards changes nothing but the journal.
          obtain ⟨o, htold⟩ := quiet_told (r := r) (c := c) (r.localeOf asked) key found
          have hmoves := hgoes.moves fun _ h => Except.ok.inj h
          exact ((hneeded found).trans hmoves).trans (moves_of_quiet htold m₂)

/-- **What is found is what the hooks are told of**, and the answer where they replace nothing. -/
theorem resolve_found (asked : Option Text) (key : Text) (h : r.foundBy c m asked key = some e) :
    ((r.resolve c asked key).on m).1 = r.answerOf c (r.localeOf asked) key (some e) := by
  rw [resolve_eq, Action.on_bind]
  unfold foundBy at h
  revert h
  obtain ⟨o, m₁⟩ := (r.needed c (r.localeOf asked) key).on m
  intro h
  rcases o with x | supplied
  · cases h
  · cases supplied with
    | some e => cases h
    | none =>
        dsimp only at h ⊢
        rw [Action.on_bind]
        revert h
        obtain ⟨o, m₂⟩ := (r.search c (r.localeOf asked) key).on m₁
        intro h
        rcases o with x | found
        · cases h
        · obtain rfl : found = some e := h
          obtain ⟨j, hon⟩ := r.quiet_found c (r.localeOf asked) key e m₂
          exact congrArg Prod.fst hon

/-- Expanding a text changes of the memory what resolving its key changes. -/
theorem expand_on (a : Arguments) (asked : Option Text) (key : Text) (m : Memory) :
    ((r.expand c asked a key).on m).2 = ((r.resolve c asked key).on m).2 := by
  unfold expand
  rw [Action.on_bind]
  obtain ⟨o, m'⟩ := (r.resolve c asked key).on m
  rcases o with x | found
  · rfl
  · dsimp only
    cases found.filter fun e => !e.isEmpty with
    | none => rfl
    | some e =>
        dsimp only
        rw [Action.on_bind, Action.on_lift]
        cases r.mode c <;> rfl

end Phrasebook.Resolver
