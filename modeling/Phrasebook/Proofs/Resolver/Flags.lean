import Phrasebook.Proofs.Resolver.Provenance

/-!
# Flags for placeholders

Every entry says whether its text has placeholders. Whatever makes an entry with a text looks that up in the text, in
the form in which it is stored: the readers of all formats (`entriesHave_isScanned`), and a resolver for what its
hooks supply (`flag_of_supplied`). All of them do so in the same mode (`mode_of_format`).

An entry that refers to a file has no text when it is made, and its flag says that there are no placeholders. Nobody
looks again when it gets the text of the file. So the flag of an answer is right exactly if this text has no
placeholders, where the answer comes of a reference, and always where it does not (`flag_isRight_iff`).
-/

namespace Phrasebook

/-- **`e.FlagFits mode`**: if the entry has a text, its flag says whether there are placeholders in it, or in its
stored form where that is kept. -/
def Entry.FlagFits (mode : Mode) (e : Entry) : Prop :=
  ∀ t, e.text = some t → Template.containsPlaceholders mode (e.escapedText.getD t) = .ok e.hasPlaceholders

/-- An entry as it is made of a value: its flag fits, and it is not set where the entry refers to a file. -/
structure Entry.IsScanned (mode : Mode) (e : Entry) : Prop where
  fits : e.FlagFits mode
  referring : e.reference.isSome = true → e.escapedText = none ∧ e.hasPlaceholders = false

/-- **The entries that readers make of values are looked through.** -/
theorem Files.entriesHave_isScanned (o : Options) (mode : Mode) :
    EntriesHave (Entry.IsScanned mode) o mode where
  made {key text escapedText e} h := by
    rcases makeEntry_cases h with ⟨file, rfl⟩ | ⟨stored, flag, hflag, rfl⟩
    · refine ⟨fun t ht => ?_, fun _ => ⟨rfl, rfl⟩⟩
      cases ht
    · refine ⟨fun t ht => hflag _ ?_, fun href => ?_⟩
      · have htext : text = some t := ht
        rw [htext]
        -- The stored form comes first, where there is one.
        cases stored <;> rfl
      · cases href
  blank key := by
    refine ⟨fun t ht => ?_, fun href => ?_⟩
    · cases ht
    · cases href
  amended {e f} he hf := by
    refine ⟨fun t ht => ?_, fun href => ?_⟩
    · rw [hf.escapedText, hf.hasPlaceholders]
      exact he.fits t (hf.text.symm.trans ht)
    · rw [hf.escapedText, hf.hasPlaceholders]
      rw [hf.reference] at href
      exact he.referring href

namespace Resolver

variable {r : Resolver} {c : Configuration} {sources : List Source} {e : Entry}

/-- **`r.FlagIsRight c e`**: the flag of an entry fits its text in the mode of the configuration. -/
def FlagIsRight (r : Resolver) (c : Configuration) (e : Entry) : Prop :=
  ∃ mode, r.mode c = .ok mode ∧ e.FlagFits mode

/-- **`r.LacksPlaceholders c t`**: in the mode of the configuration a text has no placeholders. -/
def LacksPlaceholders (r : Resolver) (c : Configuration) (t : Text) : Prop :=
  ∃ mode, r.mode c = .ok mode ∧ Template.containsPlaceholders mode t = .ok false

/-- **Files are read in the mode of the configuration.** -/
theorem mode_of_format {f : Files.Format} (h : r.format c = .ok f) :
    r.mode c = .ok ((r.givenMode c).getD f.defaultMode) := by
  unfold mode
  cases r.givenMode c with
  | some mode => rfl
  | none =>
      rw [h]
      rfl

/-- **What is written in a file was looked through.** -/
theorem isScanned_of_written {origin : Option Text} (h : r.IsWritten c sources origin e) :
    ∃ mode, r.mode c = .ok mode ∧ e.IsScanned mode := by
  obtain ⟨s, -, locale, includesDefault, t, k, hread, -, hget⟩ := h
  obtain ⟨f, content, written, name, hformat, hcatalog, rfl⟩ := exists_of_catalogOf hread
  have hformat' : r.format c = .ok f := hformat
  have hall := Files.Format.all_catalog (Files.entriesHave_isScanned _ _) hcatalog
  exact ⟨_, mode_of_format hformat', hall k e hget⟩

/-- **The flag of an entry that is made of the text of a hook is right.** -/
theorem flag_of_supplied (htexts : ∀ s, r.hooks.Supplies s → s.entry = none) (h : r.IsSupplied c e) :
    r.FlagIsRight c e := by
  obtain ⟨s, hs, hmade⟩ := h
  unfold substituted at hmade
  rw [htexts s hs] at hmade
  dsimp only at hmade
  split at hmade
  · cases hmade
  · next text htext =>
    obtain ⟨mode, hmode, hmade⟩ := exists_of_bind hmade
    obtain ⟨flag, hflag, hok⟩ := exists_of_bind hmade
    obtain rfl := Option.some.inj (Except.ok.inj hok)
    refine ⟨mode, hmode, fun t ht => ?_⟩
    obtain rfl := Option.some.inj ht
    exact hflag

/-- **An entry that has got its text from a file has the flag of an entry without a text.** -/
theorem flag_of_referred (h : r.IsReferred c sources e) :
    e.escapedText = none ∧ e.hasPlaceholders = false ∧ ∃ mode, r.mode c = .ok mode := by
  obtain ⟨origin, written, file, text, hwritten, -, href, -, rfl⟩ := h
  obtain ⟨mode, hmode, hscanned⟩ := isScanned_of_written hwritten
  obtain ⟨hescaped, hflag⟩ := hscanned.referring (by rw [href]; rfl)
  exact ⟨hescaped, hflag, mode, hmode⟩

/-- Its flag is right if there was nothing to find. -/
theorem flag_of_referred_iff (h : r.IsReferred c sources e) {t : Text} (ht : e.text = some t) :
    r.FlagIsRight c e ↔ r.LacksPlaceholders c t := by
  obtain ⟨hescaped, hflag, -⟩ := flag_of_referred h
  unfold FlagIsRight LacksPlaceholders Entry.FlagFits
  refine exists_congr fun mode => and_congr_right fun _ => ?_
  rw [hescaped, hflag]
  constructor
  · intro hfits
    exact hfits t ht
  · intro hlacks u hu
    obtain rfl := Option.some.inj (ht.symm.trans hu)
    exact hlacks

/-- **When the flag of an answer is right.** After any turns with one configuration, and whatever the files are then,
the flag of an entry with a text that a request answers fits this text in the mode of the configuration, or the stored
form of the text where that is kept, unless the entry has got the text through a reference to a file that has
placeholders. The hooks may supply texts, but no ready entries. -/
theorem flag_isRight_iff (r : Resolver) (c : Configuration) (htexts : ∀ s, r.hooks.Supplies s → s.entry = none)
    {turns : List Turn} (hturns : ∀ turn ∈ turns, turn.configuration = c) (s : Source) {asked : Option Text}
    {key : Text} {e : Entry} {t : Text}
    (hanswer : (((r.withSource s).resolve c asked key).on (r.memoryOver turns)).1 = .ok (some e))
    (ht : e.text = some t) :
    r.FlagIsRight c e ↔ (r.IsReferred c (s :: turns.map Turn.source) e → r.LacksPlaceholders c t) := by
  have hmemory : (r.memoryOver turns).IsTraced r c (s :: turns.map Turn.source) :=
    isTraced_memoryOver hturns fun turn hturn => List.mem_cons_of_mem s (List.mem_map_of_mem hturn)
  have hanswered := (resolve_keeps List.mem_cons_self asked key _ hmemory).2 _ hanswer e rfl
  constructor
  · intro hright hreferred
    exact (flag_of_referred_iff hreferred ht).mp hright
  · intro hlacks
    rcases hanswered with ⟨-, hstems⟩ | hsupplied
    · cases hstems with
      | written hwritten =>
          obtain ⟨mode, hmode, hscanned⟩ := isScanned_of_written hwritten
          exact ⟨mode, hmode, hscanned.fits⟩
      | referred hreferred => exact (flag_of_referred_iff hreferred ht).mpr (hlacks hreferred)
    · exact flag_of_supplied htexts hsupplied

/-- A resolver of a notice with a placeholder, and of one that is in another file. -/
def referrals : Resolver :=
  { notices [
      ("m.arb", Utf8.encode "\x7b\"own\": \"Hi \x7bn\x7d\", \"other\": \"@x.txt\"\x7d"),
      ("x.txt", Utf8.encode "Hello \x7bn\x7d")] with
    registry := .standard { Files.Options.standard with recognizeReferences := true } }

theorem no_supplies (s : Substitute) : ¬ referrals.hooks.Supplies s := by
  intro h
  cases h with
  | needed hask => cases hask
  | found hask => cases hask
  | notFound hask => cases hask

/-- The flag of the notice with a placeholder of its own is right, also after the other one was resolved. -/
theorem flag_isRight_own :
    let c := referrals.configuration
    let m := referrals.memoryOver [⟨referrals.source, c, .resolve none "other"⟩]
    ∃ e, ((referrals.resolve c none "own").on m).1 = .ok (some e)
      ∧ e.text = some (Text.ofString "Hi \x7bn\x7d") ∧ e.hasPlaceholders = true ∧ referrals.FlagIsRight c e := by
  intro c m
  have hfacts : ((referrals.resolve c none "own").on m).1.toOption.join.any
      (fun e => decide (e.text = some (Text.ofString "Hi \x7bn\x7d")) && e.hasPlaceholders) = true := by
    decide +kernel
  obtain ⟨e, hanswer, hshown⟩ := exists_of_any hfacts
  obtain ⟨htext, hflag⟩ := Bool.and_eq_true_iff.mp hshown
  have htext := of_decide_eq_true htext
  refine ⟨e, hanswer, htext, hflag, ?_⟩
  refine (flag_isRight_iff referrals c (fun s hs => absurd hs (no_supplies s)) (fun turn hturn => ?_)
    referrals.source hanswer htext).mpr fun hreferred => ?_
  · rw [List.mem_singleton.mp hturn]
  · rw [(flag_of_referred hreferred).2.1] at hflag
    cases hflag

/-- The flag of the other notice says that there are no placeholders, and its text has one. -/
theorem flag_not_isRight_other :
    let c := referrals.configuration
    (∀ s, referrals.hooks.Supplies s → s.entry = none)
      ∧ ∃ e, ((referrals.resolve c none "other").on .empty).1 = .ok (some e)
        ∧ e.text = some (Text.ofString "Hello \x7bn\x7d") ∧ ¬ referrals.FlagIsRight c e := by
  intro c
  refine ⟨fun s hs => absurd hs (no_supplies s), ?_⟩
  have hfacts : ((referrals.resolve c none "other").on .empty).1.toOption.join.any
      (fun e => decide (e.text = some (Text.ofString "Hello \x7bn\x7d")) && e.escapedText.isNone
        && decide (e.hasPlaceholders = false)) = true := by decide +kernel
  have hmode : (referrals.mode c).toOption.any (fun mode => decide
      ((Template.containsPlaceholders mode (Text.ofString "Hello \x7bn\x7d")).toOption = some true)) = true := by
    decide +kernel
  obtain ⟨e, hanswer, hshown⟩ := exists_of_any hfacts
  obtain ⟨hstored, hflag⟩ := Bool.and_eq_true_iff.mp hshown
  obtain ⟨htext, hescaped⟩ := Bool.and_eq_true_iff.mp hstored
  have htext := of_decide_eq_true htext
  refine ⟨e, hanswer, htext, ?_⟩
  rintro ⟨mode, hok, hfits⟩
  have hscan := hfits _ htext
  rw [Option.isNone_iff_eq_none.mp hescaped, of_decide_eq_true hflag] at hscan
  rw [hok] at hmode
  have hfound : (Template.containsPlaceholders mode (Text.ofString "Hello \x7bn\x7d")).toOption = some true :=
    of_decide_eq_true hmode
  dsimp only [Option.getD] at hscan
  rw [hscan] at hfound
  cases hfound

end Resolver

end Phrasebook
