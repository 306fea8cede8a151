import Phrasebook.Proofs.Resolver.Backfill

/-!
# Where entries come from

Every entry with a text that a resolver finds is written in one of the files that it read, or refers in one of them
to another file and has the text of that one (`Stems`). It does not matter how often the files changed in the
meantime, or how often an entry was taken over from the catalog of one locale into that of another.

The invariant is about the catalogs that are remembered (`Memory.IsTraced`). Entries without a text are not taken
over, so each of them is written in the file that its catalog comes from. That is what makes the reference of an entry
the same wherever the text of its file is asked for.
-/

namespace Phrasebook

namespace Action

variable {α β : Type} {P : Memory → Prop} {Q : α → Prop} {R : β → Prop} {x : Action α}

/-- **`Keeps P x Q`**: the action keeps a property of memories, whether it comes through or fails, and what it gives
if it comes through is as `Q` says. -/
abbrev Keeps (P : Memory → Prop) (x : Action α) (Q : α → Prop) : Prop :=
  Meets P x fun o m => P m ∧ ∀ a, o = .ok a → Q a

theorem Keeps.bind (hx : Keeps P x Q) {f : α → Action β} (hf : ∀ a, Q a → Keeps P (f a) R) :
    Keeps P (x >>= f) R := by
  refine Meets.bind hx (fun a m h => hf a (h.2 a rfl) m h.1) fun e m h => ⟨h.1, fun b hb => ?_⟩
  cases hb

theorem keeps_pure {a : α} (h : Q a) : Keeps P (pure a) Q := by
  intro m hm
  refine ⟨hm, fun b hb => ?_⟩
  obtain rfl := Except.ok.inj hb
  exact h

theorem keeps_get : Keeps P (get : Action Memory) P := by
  intro m hm
  refine ⟨hm, fun m' h => ?_⟩
  obtain rfl := Except.ok.inj h
  exact hm

theorem keeps_change {f : Memory → Memory} (h : ∀ m, P m → P (f m)) :
    Keeps P (Resolver.change f) fun _ => True :=
  fun m hm => ⟨h m hm, fun _ _ => trivial⟩

/-- What adds to the records only keeps what is not about them. -/
theorem Adds.keeps {hs : List Happening} {o : Outcome α} (hx : Adds x hs o)
    (hP : ∀ m j h, P m → P { m with journal := j, history := h }) : Keeps P x fun a => o = .ok a := by
  intro m hm
  obtain ⟨ho, hafter⟩ := hx.meets hP m hm
  exact ⟨hafter, fun a ha => ho.symm.trans ha⟩

end Action

/-! ## Origins -/

/-- **`h.Supplies s`**: a hook for values puts `s` in the place of some result. -/
inductive Hooks.Supplies (h : Hooks) (s : Substitute) : Prop
  | needed {ask : Text → Text → Option Substitute} {locale key : Text} :
      h.valueNeeded = some ask → ask locale key = some s → Supplies h s
  | found {ask : Text → Text → Entry → Option Substitute} {locale key : Text} {e : Entry} :
      h.valueFound = some ask → ask locale key e = some s → Supplies h s
  | notFound {ask : Text → Text → Option Substitute} {locale key : Text} :
      h.valueNotFound = some ask → ask locale key = some s → Supplies h s

namespace Resolver

section Origins

variable (r : Resolver) (c : Configuration) (sources : List Source)

/-- **`IsWritten r c sources origin e`**: one of the files that a resolver reads, as they are at some time, has the
entry. -/
def IsWritten (origin : Option Text) (e : Entry) : Prop :=
  ∃ s ∈ sources, ∃ locale includesDefault t k,
    (r.withSource s).catalogOf c locale includesDefault = .ok (some t) ∧ t.origin = origin
      ∧ Pairs.get? k t.entries = some e

/-- **`IsReferred r c sources e`**: the entry is one that refers to a file where it is written, and it has got the
text that this file has at some time. -/
def IsReferred (e : Entry) : Prop :=
  ∃ origin written file text, r.IsWritten c sources origin written ∧ written.text = none
    ∧ written.reference = some file
    ∧ (∃ s ∈ sources, (r.withSource s).textOf file origin = .ok (some text))
    ∧ e = { written with text := some text, reference := none }

/-- **`Stems r c sources e`**: where an entry with a text comes from. -/
inductive Stems (e : Entry) : Prop
  | written {origin : Option Text} : r.IsWritten c sources origin e → Stems e
  | referred : r.IsReferred c sources e → Stems e

/-- What is known of an entry in a catalog that comes from some file. -/
def IsTraced (origin : Option Text) (e : Entry) : Prop :=
  r.IsWritten c sources origin e ∨ e.text.isSome = true ∧ r.Stems c sources e

/-- What a search finds: an entry with a text, or nothing. -/
def Finds (found : Option Entry) : Prop := ∀ e, found = some e → e.text.isSome = true ∧ r.Stems c sources e

/-- **`IsSupplied r c e`**: the entry is made of what a hook supplies. -/
def IsSupplied (e : Entry) : Prop := ∃ s, r.hooks.Supplies s ∧ r.substituted c s = .ok (some e)

/-- What a request answers: what a search finds, or what a hook supplies. -/
def Answered (answer : Option Entry) : Prop :=
  ∀ e, answer = some e → e.text.isSome = true ∧ r.Stems c sources e ∨ r.IsSupplied c e

end Origins

end Resolver

/-- **`m.IsTraced r c sources`**: every entry that is remembered is written where its catalog comes from, or has a
text and comes from anywhere. -/
def Memory.IsTraced (m : Memory) (r : Resolver) (c : Configuration) (sources : List Source) : Prop :=
  ∀ place t, m.at? place = some t → t.All (r.IsTraced c sources t.origin)

namespace Resolver

variable {r : Resolver} {c : Configuration} {sources : List Source} {s : Source} {m : Memory} {place : Place}
  {t : Catalog} {e : Entry} {key name : Text}

open Phrasebook.Action (Keeps keeps_pure keeps_get keeps_change)
open Phrasebook.Memory (keyOf)

theorem IsTraced.stems {origin : Option Text} (h : r.IsTraced c sources origin e) : r.Stems c sources e := by
  rcases h with hwritten | ⟨-, hstems⟩
  · exact .written hwritten
  · exact hstems

/-! ## Memories -/

theorem isTraced_empty : Memory.empty.IsTraced r c sources := by
  intro place t h
  cases place <;> cases h

theorem isTraced_records {j : List Event} {h : List Happening} (hm : m.IsTraced r c sources) :
    ({ m with journal := j, history := h } : Memory).IsTraced r c sources := by
  intro place t ht
  have hbefore : m.at? place = some t := by cases place <;> exact ht
  exact hm place t hbefore

theorem isTraced_put (hm : m.IsTraced r c sources) (ht : t.All (r.IsTraced c sources t.origin)) :
    (m.put place t).IsTraced r c sources := by
  intro other u hu
  rw [Memory.at?_put] at hu
  split at hu
  · exact Option.some.inj hu ▸ ht
  · exact hm other u hu

theorem isTraced_putDefault (hm : m.IsTraced r c sources) (ht : t.All (r.IsTraced c sources t.origin)) :
    (m.putDefault key t).IsTraced r c sources := by
  intro other u hu
  rw [Memory.at?_putDefault] at hu
  split at hu
  · exact Option.some.inj hu ▸ ht
  · exact hm other u hu

/-- A mark is neither an origin nor an entry. -/
theorem isTraced_mark (hm : m.IsTraced r c sources) :
    (m.update place fun t => { t with isBasic := true }).IsTraced r c sources := by
  intro other u hu
  rw [Memory.at?_update] at hu
  split at hu
  · obtain ⟨t, ht, rfl⟩ := Option.map_eq_some_iff.mp hu
    exact hm place t ht
  · exact hm other u hu

/-- **What is settled has a text**, and so it may come from anywhere. -/
theorem isTraced_settle (hm : m.IsTraced r c sources) (htext : e.text.isSome = true)
    (he : r.Stems c sources e) : (m.settle place key e).IsTraced r c sources := by
  intro other u hu
  rw [Memory.at?_settle] at hu
  split at hu
  · obtain ⟨t, ht, rfl⟩ := Option.map_eq_some_iff.mp hu
    exact (hm place t ht).add (.inr ⟨htext, he⟩)
  · exact hm other u hu

/-! ## Steps of a search -/

section Steps

variable (hs : s ∈ sources)

theorem finds_none : r.Finds c sources none := by
  intro e h
  cases h

/-- What adds to the records only. -/
theorem keeps_of_adds {α : Type} {x : Action α} {happenings : List Happening} {o : Outcome α}
    (hx : Action.Adds x happenings o) : Keeps (·.IsTraced r c sources) x fun a => o = .ok a :=
  hx.keeps fun _ _ _ hm => isTraced_records hm

/-- A change after which the search goes on. -/
theorem keeps_after {f : Memory → Memory} (hf : ∀ m : Memory, m.IsTraced r c sources → (f m).IsTraced r c sources)
    {α : Type} {x : Action α} {Q : α → Prop} (hx : Keeps (·.IsTraced r c sources) x Q) :
    Keeps (·.IsTraced r c sources) (change f >>= fun _ => x) Q :=
  Keeps.bind (keeps_change hf) fun _ _ => hx

include hs

theorem isTraced_catalogOf {includesDefault : Bool}
    (h : (r.withSource s).catalogOf c name includesDefault = .ok (some t)) :
    t.All (r.IsTraced c sources t.origin) :=
  fun k _ he => .inl ⟨s, hs, name, includesDefault, t, k, h, rfl, he⟩

/-- A catalog that is read is traced, and so is one without entries that takes its place. -/
theorem isTraced_read {includesDefault : Bool} {file : Option Catalog} (locale : Option Text)
    (h : (r.withSource s).catalogOf c name includesDefault = .ok file) :
    (file.getD (.ofLocale locale)).All (r.IsTraced c sources (file.getD (.ofLocale locale)).origin) := by
  cases file with
  | none => exact all_ofLocale _ locale
  | some t => exact isTraced_catalogOf hs h

theorem openCatalog_keeps (name : Text) :
    Keeps (·.IsTraced r c sources) ((r.withSource s).openCatalog c name) fun _ => True := by
  refine keeps_get.bind fun m _ => ?_
  split
  · refine (keeps_of_adds ((r.withSource s).adds_catalog c name false)).bind fun file hfile => ?_
    refine keeps_after (fun m hm => isTraced_put hm (isTraced_read hs _ hfile)) ?_
    exact keeps_change fun m hm => isTraced_records hm
  · exact keeps_pure trivial

theorem openDefault_keeps : Keeps (·.IsTraced r c sources) ((r.withSource s).openDefault c) fun _ => True := by
  refine keeps_get.bind fun m _ => ?_
  cases m.defaultPlace with
  | some place => exact keeps_pure trivial
  | none =>
      refine (keeps_of_adds ((r.withSource s).adds_catalog c _ true)).bind fun file hfile => ?_
      refine keeps_get.bind fun m' _ => ?_
      refine keeps_after (fun m hm => isTraced_putDefault hm (isTraced_read hs _ hfile)) ?_
      exact keeps_after (fun m hm => isTraced_records hm) (keeps_pure trivial)

/-- **An entry whose reference is spent** has the text of the file that it referred to. -/
theorem isReferred_of_spent {origin : Option Text} {file text : Text} {f : Entry}
    (hwritten : r.IsWritten c sources origin e) (htext : ¬e.text.isSome = true) (href : e.reference = some file)
    (hread : (r.withSource s).textOf file origin = .ok (some text)) (hspent : e.resolveReference text = .ok f) :
    f.text.isSome = true ∧ r.IsReferred c sources f := by
  unfold Entry.resolveReference Entry.change at hspent
  split at hspent
  · cases hspent
  · obtain rfl := Except.ok.inj hspent
    exact ⟨rfl, origin, e, file, text, hwritten, Option.not_isSome_iff_eq_none.mp htext, href, ⟨s, hs, hread⟩, rfl⟩

/-- **What is found at a place stems from a file.** An entry without a text is written where its catalog comes from,
and the file that it refers to is looked for from there. -/
theorem usable_keeps (place : Place) (key : Text) :
    Keeps (·.IsTraced r c sources) ((r.withSource s).usable place key) (r.Finds c sources) := by
  refine keeps_get.bind fun m hm => ?_
  cases hat : m.at? place with
  | none => exact keeps_pure finds_none
  | some t =>
      dsimp only
      cases hget : t.get? key with
      | none => exact keeps_pure finds_none
      | some e =>
          dsimp only
          have htraced : r.IsTraced c sources t.origin e := hm place t hat _ e hget
          split
          · next htext =>
              refine keeps_pure fun f hf => ?_
              obtain rfl := Option.some.inj hf
              exact ⟨htext, htraced.stems⟩
          · next htext =>
              cases href : e.reference with
              | none => exact keeps_pure finds_none
              | some file =>
                  dsimp only
                  -- Only entries with a text are taken over from elsewhere.
                  have hwritten : r.IsWritten c sources t.origin e :=
                    htraced.resolve_right fun h => htext h.1
                  refine keeps_after (fun m hm => isTraced_records hm) ?_
                  refine (keeps_of_adds ((r.withSource s).quiet_referredText file t.origin)).bind
                    fun text hread => ?_
                  cases text with
                  | none => exact keeps_pure finds_none
                  | some text =>
                      dsimp only
                      refine keeps_after (fun m hm => isTraced_records hm) ?_
                      refine (keeps_of_adds (Action.quiet_lift _)).bind fun f hspent => ?_
                      obtain ⟨hsome, hreferred⟩ := isReferred_of_spent hs hwritten htext href hread hspent
                      refine keeps_after (fun m hm => isTraced_settle hm hsome (.referred hreferred)) ?_
                      refine keeps_pure fun g hg => ?_
                      obtain rfl := Option.some.inj hg
                      exact ⟨hsome, .referred hreferred⟩

omit hs in
/-- What is found may be remembered for any locales. -/
theorem hit_keeps (he : r.Finds c sources (some e)) (key : Text) (tried : List Text) :
    Keeps (·.IsTraced r c sources) (do remember key e tried; return some e) (r.Finds c sources) := by
  obtain ⟨htext, hstems⟩ := he e rfl
  have hremember : Keeps (·.IsTraced r c sources) (remember key e tried) fun _ => True := by
    induction tried with
    | nil => exact keeps_pure trivial
    | cons name rest ih =>
        exact keeps_after (fun m hm => isTraced_settle hm htext hstems) ih
  exact hremember.bind fun _ _ => keeps_pure he

theorem searchDefault_keeps (key : Text) (tried : List Text) :
    Keeps (·.IsTraced r c sources) ((r.withSource s).searchDefault c key tried) (r.Finds c sources) := by
  refine (openDefault_keeps hs).bind fun place _ => (usable_keeps hs place key).bind fun found hfound => ?_
  cases found with
  | none => exact keeps_pure finds_none
  | some e => exact hit_keeps hfound key tried

theorem searchLocale_keeps (locale key : Text) :
    Keeps (·.IsTraced r c sources) ((r.withSource s).searchLocale c locale key) (r.Finds c sources) := by
  have hlookup : Keeps (·.IsTraced r c sources) ((r.withSource s).lookup c locale key) (r.Finds c sources) :=
    (openCatalog_keeps hs locale).bind fun _ _ => usable_keeps hs _ key
  have hlookupBasic : ∀ basic, Keeps (·.IsTraced r c sources) ((r.withSource s).lookupBasic c basic key)
      (r.Finds c sources) := by
    intro basic
    refine (openCatalog_keeps hs basic).bind fun _ _ => ?_
    exact keeps_after (fun m hm => isTraced_mark hm) (usable_keeps hs _ key)
  refine hlookup.bind fun found hfound => ?_
  cases found with
  | some e => exact keeps_pure hfound
  | none =>
      refine keeps_get.bind fun m _ => ?_
      cases (r.withSource s).basicFor m locale with
      | none => exact searchDefault_keeps hs key _
      | some basic =>
          refine (hlookupBasic basic).bind fun found hfound => ?_
          cases found with
          | none => exact searchDefault_keeps hs key _
          | some e => exact hit_keeps hfound key _

/-- **What a search finds stems from a file.** -/
theorem search_keeps (locale key : Text) :
    Keeps (·.IsTraced r c sources) ((r.withSource s).search c locale key) (r.Finds c sources) := by
  unfold search
  split
  · exact searchDefault_keeps hs key _
  · exact searchLocale_keeps hs locale key

end Steps

/-! ## Answers -/

/-- What comes of a hook that may be absent is what one of its substitutes gives. -/
theorem supplied_of_asked {answer : Option (Option Substitute)}
    (hsupplies : ∀ s, answer = some (some s) → r.hooks.Supplies s)
    (h : r.askedOf c answer = .ok (some e)) : r.IsSupplied c e := by
  match answer, h with
  | none, h => cases h
  | some none, h => cases h
  | some (some s), h => exact ⟨s, hsupplies s rfl, h⟩

theorem told_keeps {found : Option Entry} (hfinds : r.Finds c sources found) (locale key : Text) :
    Keeps (·.IsTraced r c sources) ((r.withSource s).told c locale key found) (r.Answered c sources) := by
  cases found with
  | none =>
      intro m hm
      have hnot := keeps_of_adds ((r.withSource s).quiet_asked c (.valueNotFound locale key)
        (r.hooks.valueNotFound.map fun ask => ask locale key)) m hm
      refine ⟨hnot.1, fun answer hanswer e he => .inr ?_⟩
      subst he
      refine supplied_of_asked (fun s hs => ?_) (hnot.2 _ hanswer)
      obtain ⟨ask, hask, hsome⟩ := Option.map_eq_some_iff.mp hs
      exact .notFound hask hsome
  | some e =>
      intro m hm
      have htold := keeps_of_adds ((r.withSource s).quiet_found c locale key e) m hm
      refine ⟨htold.1, fun answer hanswer f hf => ?_⟩
      subst hf
      obtain ⟨replaced, hasked, hok⟩ := exists_of_bind (htold.2 _ hanswer)
      -- A hook may replace what was found, and then the answer is its own.
      cases replaced with
      | none =>
          obtain rfl := Option.some.inj (Except.ok.inj hok)
          exact .inl (hfinds e rfl)
      | some g =>
          obtain rfl := Option.some.inj (Except.ok.inj hok)
          refine .inr (supplied_of_asked (fun s hs => ?_) hasked)
          obtain ⟨ask, hask, hsome⟩ := Option.map_eq_some_iff.mp hs
          exact .found hask hsome

/-- **What a request answers stems from a file or from a hook.** -/
theorem resolve_keeps (hs : s ∈ sources) (asked : Option Text) (key : Text) :
    Keeps (·.IsTraced r c sources) ((r.withSource s).resolve c asked key) (r.Answered c sources) := by
  rw [resolve_eq]
  refine (keeps_of_adds ((r.withSource s).quiet_asked c _ _)).bind fun supplied hasked => ?_
  cases supplied with
  | some e =>
      refine keeps_pure fun f hf => .inr ?_
      obtain rfl := Option.some.inj hf
      refine supplied_of_asked (fun s hs => ?_) hasked
      obtain ⟨ask, hask, hsome⟩ := Option.map_eq_some_iff.mp hs
      exact .needed hask hsome
  | none => exact (search_keeps hs _ key).bind fun found hfinds => told_keeps hfinds _ key

/-! ## Turns -/

theorem isTraced_call (hs : s ∈ sources) (hm : m.IsTraced r c sources) (hsound : m.IsSound) (call : Call) :
    (call.memory (r.withSource s) c m).IsTraced r c sources := by
  cases call with
  | resolve asked key => exact (resolve_keeps hs asked key m hm).1
  | expand asked a key =>
      show (((r.withSource s).expand c asked a key).on m).2.IsTraced r c sources
      rw [expand_on]
      exact (resolve_keeps hs asked key m hm).1
  | drop locale =>
      intro place t ht
      change (m.drop (Locale.normalize locale)).at? place = some t at ht
      rw [Memory.at?_drop m place hsound.nodup] at ht
      split at ht
      · cases ht
      · exact hm place t ht
  | dropAll =>
      intro place t ht
      change m.dropAll.at? place = some t at ht
      rw [Memory.at?_dropAll] at ht
      cases ht

/-- **What a resolver remembers is traced**, whatever the turns were, if they had one configuration. -/
theorem isTraced_memoryOver {turns : List Turn} (hc : ∀ turn ∈ turns, turn.configuration = c)
    (hsources : ∀ turn ∈ turns, turn.source ∈ sources) : (r.memoryOver turns).IsTraced r c sources := by
  have hboth : (r.memoryOver turns).IsSound ∧ (r.memoryOver turns).IsTraced r c sources := by
    refine memoryOver_induction_of_mem (P := fun m => m.IsSound ∧ m.IsTraced r c sources)
      ⟨Memory.isSound_empty, isTraced_empty⟩ fun m turn hturn hm => ?_
    refine ⟨sound_call hm.1 _ _ turn.call, ?_⟩
    unfold memoryOf
    rw [hc turn hturn]
    exact isTraced_call (hsources turn hturn) hm.2 hm.1 turn.call
  exact hboth.2

end Resolver

end Phrasebook
