import Phrasebook.Proofs.Resolver.Forgetting

/-!
# Loads that fail

A request may read three catalogs, and may fail at each of them. What it has done until then is to load catalogs and
to mark one that stands in for another (`Loads`): a request that has found nothing yet has changed no entry. So
`failed_load_keeps_catalogs` says that what a failed load leaves behind are the catalogs that were there and those
that were loaded on the way, and that the one that failed is read again when a request comes to it.
-/

namespace Phrasebook

namespace Catalog

/-- **`t.Marked t'`**: `t'` is `t`, which may have stood in for another catalog since. -/
def Marked (t t' : Catalog) : Prop := t' = t ∨ t' = { t with isBasic := true }

variable {t t' t'' : Catalog}

theorem Marked.refl (t : Catalog) : t.Marked t := .inl rfl

theorem Marked.trans (h : t.Marked t') (h' : t'.Marked t'') : t.Marked t'' := by
  rcases h with rfl | rfl
  · exact h'
  · rcases h' with rfl | rfl
    · exact .inr rfl
    · exact .inr rfl

/-- A mark is no entry. -/
theorem Marked.entries (h : t.Marked t') : t'.entries = t.entries := by
  rcases h with rfl | rfl <;> rfl

end Catalog

namespace Resolver

open Phrasebook.Memory (keyOf)

variable {r : Resolver} {c : Configuration} {locale key name : Text} {asked : Option Text} {m m' m'' : Memory}
  {place : Place} {s s' : List Happening}

/-! ## What is done before anything is found -/

/-- **`Loads r c m s m'`**: on the way from `m` to `m'`, on which `s` happened, catalogs were loaded as their files
write them, and no entry has changed. -/
structure Loads (r : Resolver) (c : Configuration) (m : Memory) (s : List Happening) (m' : Memory) : Prop where
  history : m'.history = m.history ++ s
  kept : ∀ {place t}, m.at? place = some t → ∃ t', m'.at? place = some t' ∧ t.Marked t'
  read : ∀ {place t'}, m.at? place = none → m'.at? place = some t' →
    ∃ name t, .loaded name place ∈ s ∧ r.homeCatalog c name = .ok t ∧ t.Marked t'
  /-- No text is settled in an entry, that of another catalog or that of a file that it refers to. -/
  settles : ∀ place key, .settled place key ∉ s ∧ .obtained place key ∉ s

theorem Loads.trans (h : r.Loads c m s m') (h' : r.Loads c m' s' m'') : r.Loads c m (s ++ s') m'' := by
  refine ⟨?_, fun hat => ?_, fun {place t''} hnone hat => ?_, fun place key => ?_⟩
  · rw [h'.history, h.history, List.append_assoc]
  · obtain ⟨t', hat', hmarked⟩ := h.kept hat
    obtain ⟨t'', hat'', hmarked'⟩ := h'.kept hat'
    exact ⟨t'', hat'', hmarked.trans hmarked'⟩
  · cases hat' : m'.at? place with
    | none =>
        obtain ⟨name, t, hmem, hread, hmarked⟩ := h'.read hat' hat
        exact ⟨name, t, List.mem_append_right _ hmem, hread, hmarked⟩
    | some t' =>
        -- It was loaded on the first part of the way.
        obtain ⟨name, t, hmem, hread, hmarked⟩ := h.read hnone hat'
        obtain ⟨u, hu, hmarked'⟩ := h'.kept hat'
        obtain rfl := Option.some.inj (hat.symm.trans hu)
        exact ⟨name, t, List.mem_append_left _ hmem, hread, hmarked.trans hmarked'⟩
  · refine ⟨fun hmem => ?_, fun hmem => ?_⟩
    · rcases List.mem_append.mp hmem with hfirst | hsecond
      · exact (h.settles place key).1 hfirst
      · exact (h'.settles place key).1 hsecond
    · rcases List.mem_append.mp hmem with hfirst | hsecond
      · exact (h.settles place key).2 hfirst
      · exact (h'.settles place key).2 hsecond

/-- No catalog changes. -/
theorem loads_of_eq (hhistory : m'.history = m.history ++ s) (hat : ∀ p, m'.at? p = m.at? p)
    (hsettles : ∀ place key, .settled place key ∉ s ∧ .obtained place key ∉ s) : r.Loads c m s m' := by
  refine ⟨hhistory, fun {p t} h => ⟨t, (hat p).trans h, .refl t⟩, fun {p t} hnone h => ?_, hsettles⟩
  rw [hat, hnone] at h
  cases h

theorem loads_refl (m : Memory) : r.Loads c m [] m :=
  loads_of_eq (List.append_nil _).symm (fun _ => rfl) fun _ _ => ⟨List.not_mem_nil, List.not_mem_nil⟩

/-- Where one catalog is loaded for a place that was free. -/
theorem loads_of_loaded {t : Catalog} (hnone : m.at? place = none)
    (hhistory : m'.history = m.history ++ [.loaded name place])
    (hat : ∀ p, m'.at? p = if p = place then some t else m.at? p) (hread : r.homeCatalog c name = .ok t) :
    r.Loads c m [.loaded name place] m' := by
  refine ⟨hhistory, fun {p u} hu => ?_, fun {p u} hfree hu => ?_, fun p key => ?_⟩
  · have hne : p ≠ place := by
      rintro rfl
      rw [hnone] at hu
      cases hu
    exact ⟨u, (hat p).trans ((if_neg hne).trans hu), .refl u⟩
  · rw [hat] at hu
    split at hu
    · next heq =>
        obtain rfl := Option.some.inj hu
        exact ⟨name, t, heq ▸ List.mem_singleton_self _, hread, .refl t⟩
    · rw [hfree] at hu
      cases hu
  · refine ⟨fun hmem => ?_, fun hmem => ?_⟩
    · cases List.mem_singleton.mp hmem
    · cases List.mem_singleton.mp hmem

theorem loads_marked (m : Memory) (place : Place) :
    r.Loads c m [] (m.update place fun t => { t with isBasic := true }) := by
  refine ⟨?_, fun {p t} hat => ?_, fun {p t} hnone hat => ?_, fun _ _ => ⟨List.not_mem_nil, List.not_mem_nil⟩⟩
  · rw [Memory.history_update, List.append_nil]
  · rw [Memory.at?_update]
    split
    · next heq =>
        subst heq
        rw [hat]
        exact ⟨_, rfl, .inr rfl⟩
    · exact ⟨t, hat, .refl t⟩
  · have hsome := Memory.isSome_at?_update m place p fun t => { t with isBasic := true }
    rw [hat, hnone] at hsome
    cases hsome

/-- **A move of a request that finds nothing changes no entry.** -/
theorem Move.loads (hmove : Move r c locale key none m m') (hm : m.IsSound) : ∃ s, r.Loads c m s m' := by
  cases hmove with
  | asked j =>
      exact ⟨[], loads_of_eq (List.append_nil _).symm (fun p => Memory.at?_journal m p j)
        fun _ _ => ⟨List.not_mem_nil, List.not_mem_nil⟩⟩
  | loading name =>
      refine ⟨[.loading name], loads_of_eq rfl (fun p => Memory.at?_record m p _) fun p k => ?_⟩
      simp
  | @opened name t _ hd hnone hown =>
      refine ⟨_, loads_of_loaded (t := t) hnone (congrArg (· ++ [_]) (Memory.history_put m _ _)) (fun p => ?_) ?_⟩
      · rw [Memory.at?_record, Memory.at?_put]
      · rw [homeCatalog, hd]
        exact hown
  | @openedDefault t hnone hread =>
      refine ⟨_, loads_of_loaded (t := t) (hm.at?_placeForDefault hnone _)
        (congrArg (· ++ [_]) (Memory.history_putDefault m _ _)) (fun p => ?_) ?_⟩
      · rw [Memory.at?_record, Memory.at?_putDefault]
      · rw [homeCatalog, if_pos isDefault_default]
        exact hread
  | marked name => exact ⟨[], loads_marked m _⟩
  | @referring place t e =>
      refine ⟨[.referring place key], loads_of_eq rfl (fun p => Memory.at?_record m p _) fun p k => ?_⟩
      simp
  -- These moves are of requests that find something, and here nothing was found.
  | obtained htakes => cases htakes.found
  | settled htakes => cases htakes.found

/-- **A request that finds nothing changes no entry**, by induction on its moves. -/
theorem Moves.loads (hmoves : Moves r c locale key none m m') (hm : m.IsSound) : ∃ s, r.Loads c m s m' := by
  induction hmoves with
  | refl => exact ⟨[], loads_refl m⟩
  | tail hmoves hmove ih =>
      obtain ⟨s, hs⟩ := ih
      obtain ⟨s', hs'⟩ := hmove.loads (Moves.sound hmoves hm)
      exact ⟨_, hs.trans hs'⟩

/-! ## What is missing is read again -/

theorem isMissing_congr {other : Text} (hkey : keyOf other = keyOf name) :
    r.IsMissing m other ↔ r.IsMissing m name := by
  rw [IsMissing, IsMissing, isDefault_congr hkey, Memory.catalog?, Memory.catalog?, hkey]

/-- **`ReadAgain r name m`**: whatever the turns after the memory `m`, a request that comes to the catalog of a locale
reads it, unless it was loaded since, or a default file that declares the locale. -/
def ReadAgain (r : Resolver) (name : Text) (m : Memory) : Prop :=
  ∀ (rest : List Turn) (source : Source) (c : Configuration) (asked : Option Text) (key other : Text)
      (m' : Memory) (since : List Happening), keyOf other = keyOf name →
    (r.withSource source).Reaches c asked key (rest.foldl r.memoryOf m) other m' →
    m'.history = m.history ++ since →
    (∀ n place, .loaded n place ∈ since → keyOf n ≠ keyOf name) →
    (∀ turn ∈ rest ++ [⟨source, c, .resolve asked key⟩], turn.Declares r (keyOf name) → r.isDefault name = true) →
    (r.withSource source).Reads c other m' (((r.withSource source).resolve c asked key).on (rest.foldl r.memoryOf m)).2

/-- **What is missing is read again.** -/
theorem readAgain_of_missing (hkept : r.IsKept m) (hmissing : r.IsMissing m name) : r.ReadAgain name m := by
  intro rest source c asked key other m' since hkey hreaches hhistory hloaded hdeclares
  let A : Text → Prop := fun k => k = keyOf name → r.isDefault name = true
  obtain ⟨hrest, s, hsince⟩ := hkept.since_turns (A := A) fun turn hturn k hk heq =>
    hdeclares turn (List.mem_append_left _ hturn) (heq ▸ hk)
  -- The last request is on its way to the catalog, and may have loaded others.
  obtain ⟨s', hway⟩ := (hreaches.moves hrest.sound none).since (A := A) (isHeld_withSource.mpr hrest.held)
    fun t ht heq => hdeclares _ (List.mem_append_right _ (List.mem_singleton_self _)) ⟨t, ht, heq⟩
  have hall : r.Since A m (s ++ s') m' := hsince.trans hway.of_withSource
  obtain rfl : s ++ s' = since := List.append_cancel_left (hall.history.symm.trans hhistory)
  exact hreaches.reads ((isMissing_congr hkey).mpr (hmissing.since hall hloaded fun hA => hA rfl))

/-! ## What a failed load leaves behind -/

/-- **A load that fails leaves the catalogs as they were.** Whatever the turns were, a request whose history ends where
a load begins has failed with what was wrong there. The catalogs that were there have kept their entries, those
that are new were loaded on the way, no text was settled, and that which failed is missing. It is read again when a
request comes to it, unless it was loaded since, or a default file that declares its locale. -/
theorem failed_load_keeps_catalogs (r : Resolver) (turns : List Turn) (source : Source) (c : Configuration)
    {asked : Option Text} {key : Text} {call : Call} (hcall : call.Requests asked key) {before : List Happening}
    {name : Text} (hfails : (call.memory (r.withSource source) c (r.memoryOver turns)).history
      = (r.memoryOver turns).history ++ (before ++ [.loading name])) :
    let now := r.withSource source
    let m := r.memoryOver turns
    let m' := call.memory now c m
    (∃ x, now.catalogOf c name (r.isDefault name) = .error x ∧ ((now.resolve c asked key).on m).1 = .error x
      ∧ ∀ a, ((now.expand c asked a key).on m).1 = .error x)
    ∧ now.Loads c m (before ++ [.loading name]) m'
    ∧ m'.catalog? name = none ∧ (r.isDefault name = true → m'.defaultPlace = none)
    ∧ r.ReadAgain name m' := by
  intro now m m'
  have hkept : r.IsKept m := isKept_memoryOver r turns
  rw [hcall.memory_eq] at hfails
  -- A call whose record ends with the beginning of a load has come as far as that load and halted there.
  obtain ⟨m₁, x, m₂, hreaches, hunread, hon⟩ := halts_of_loading hkept.sound hfails
  obtain rfl : m₂ = m' := (congrArg Prod.snd hon).symm.trans hcall.memory_eq.symm
  have hmoves : Moves now c (r.localeOf asked) key none m m' := by
    rw [hunread.memory]
    exact (hreaches.moves hkept.sound none).trans (moves_loading m₁ name _)
  -- Nothing is put in the memory where reading fails, so the catalog is as missing as it was before.
  have hgone : r.IsMissing m' name := by
    rw [hunread.memory]
    exact hunread.missing
  have hkept' : r.IsKept m' :=
    ⟨hmoves.sound hkept.sound, isHeld_withSource.mp ((isHeld_withSource.mpr hkept.held).moves hmoves)⟩
  refine ⟨⟨x, hunread.failure, congrArg Prod.fst hon, fun a => ?_⟩, ?_, ?_, fun hd => ?_, ?_⟩
  · exact congrArg Prod.fst (Action.on_bind_error hon _)
  · obtain ⟨s, hs⟩ := hmoves.loads hkept.sound
    obtain rfl : s = before ++ [.loading name] := by
      rw [← hcall.memory_eq] at hfails
      exact List.append_cancel_left (hs.history.symm.trans hfails)
    exact hs
  · exact hgone.catalog? hkept'.held
  · rw [IsMissing, if_pos hd] at hgone
    exact hgone
  · exact readAgain_of_missing hkept' hgone

/-- The Albanian notices cannot be read. The English one is still there, and the Albanian ones are read once they can
be. -/
theorem failed_load_keeps_catalogs_notices :
    let r := notices [("m.arb", noticeFile "en" "hello")]
    let c := r.configuration
    let broken : Source := .ofFiles [("m.arb", noticeFile "en" "hello"), ("m_sq.arb", Utf8.encode "\x7b")]
    let mended : Source := .ofFiles [("m.arb", noticeFile "en" "hello"), ("m_sq.arb", noticeFile "sq" "ditën")]
    let m := r.memoryOver [⟨r.source, c, .resolve none "k"⟩]
    let m' := Call.memory (r.withSource broken) c m (.resolve (some "sq") "k")
    let again := ((r.withSource mended).resolve c (some "sq") "k").on m'
    m'.history = m.history ++ ([] ++ [.loading "sq"])
      ∧ (∃ t, m'.at? (.under "EN") = some t ∧ (t.get? "k").bind Entry.text = some (Text.ofString "hello"))
      ∧ m'.catalog? "sq" = none ∧ (r.withSource mended).Reads c "sq" m' again.2
      ∧ textIn again.1 = some (Text.ofString "ditën") := by
  intro r c broken mended m m' again
  have hfails : m'.history = m.history ++ ([] ++ [.loading "sq"]) := by decide +kernel
  have htext : textIn again.1 = some (Text.ofString "ditën") := by decide +kernel
  have hgreeting : ((m.at? (.under "EN")).bind fun t => (t.get? "k").bind Entry.text)
      = some (Text.ofString "hello") := by decide +kernel
  obtain ⟨-, hloads, hgone, -, hagain⟩ := failed_load_keeps_catalogs r [⟨r.source, c, .resolve none "k"⟩] broken c
    (.resolve : Call.Requests (some "sq") "k" _) hfails
  refine ⟨hfails, ?_, hgone, ?_, htext⟩
  · obtain ⟨t, ht, hk⟩ := Option.bind_eq_some_iff.mp hgreeting
    obtain ⟨t', ht', hmarked⟩ := hloads.kept ht
    refine ⟨t', ht', ?_⟩
    rw [Catalog.get?, hmarked.entries]
    exact hk
  · have hreached : (r.withSource mended).Reaches c (some "sq") "k" m' "sq" m' :=
      ⟨m', rfl, .own (by decide +kernel)⟩
    refine hagain [] mended c (some "sq") "k" "sq" m' [] rfl hreached (List.append_nil _).symm
      (fun _ _ hmem => absurd hmem List.not_mem_nil) fun turn hturn hdeclares => ?_
    rw [List.mem_singleton.mp hturn] at hdeclares
    have hkey : keyOf "sq" = "EN" := hdeclares.eq_of (by decide +kernel)
    exact absurd hkey (by decide +kernel)

/-- The German notices cannot be read, and the default file declares the German locale. Once it is read it is taken
for the German ones, and those are not read again. -/
theorem failed_load_declared :
    let r := notices [("m.arb", noticeFile "de" "hello"), ("m_de.arb", Utf8.encode "\x7b")]
    let c := r.configuration
    let failed := r.memoryOver [⟨r.source, c, .resolve (some "de") "k"⟩]
    let m := [⟨r.source, c, .resolve none "k"⟩].foldl r.memoryOf failed
    let last := (r.resolve c (some "de") "k").on m
    failed.history = [.loading "de"] ∧ last.2.journal = m.journal
      ∧ textIn last.1 = some (Text.ofString "hello")
      ∧ ((r.resolve c (some "de") "k").on .empty).1.isOk = false := by
  decide +kernel

end Resolver

end Phrasebook
