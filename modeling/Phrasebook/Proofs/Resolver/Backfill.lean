import Phrasebook.Proofs.Resolver.Steps
import Phrasebook.Proofs.Resolver.Transparency

/-!
# Requests only fill gaps

A resolver lives through turns: calls, each with a configuration of its own, between which the files may change
in any way. Whatever the turns were, a request leaves the catalogs that are there as they are, but for the key
that it is about: in the catalogs where it looked for the key the entry that it found may take the place of
nothing or of an entry without a text (`request_fills_gaps`). That holds of requests that fail as well.
-/

namespace Phrasebook.Resolver

/-- A call, with the files as they are then and the configuration of the call. -/
structure Turn where
  source : Source
  configuration : Configuration
  call : Call

/-- The resolver with other files. -/
def withSource (r : Resolver) (s : Source) : Resolver := { r with source := s }

/-- The memory after a turn, whether its call comes through or fails. -/
def memoryOf (r : Resolver) (m : Memory) (turn : Turn) : Memory :=
  turn.call.memory (r.withSource turn.source) turn.configuration m

/-- The memory of a new resolver after some turns. -/
def memoryOver (r : Resolver) (turns : List Turn) : Memory := turns.foldl r.memoryOf .empty

variable {r : Resolver} {c : Configuration} {m : Memory}

/-- **What holds of an empty memory and is kept by every turn that there is holds after the turns.** -/
theorem memoryOver_induction_of_mem {P : Memory → Prop} (hempty : P .empty) {turns : List Turn}
    (hturn : ∀ m, ∀ turn ∈ turns, P m → P (r.memoryOf m turn)) : P (r.memoryOver turns) := by
  have hrun : ∀ m, P m → P (turns.foldl r.memoryOf m) := by
    induction turns with
    | nil => exact fun m hm => hm
    | cons turn rest ih =>
        intro m hm
        exact ih (fun m t ht => hturn m t (List.mem_cons_of_mem turn ht)) _ (hturn m turn List.mem_cons_self hm)
  exact hrun .empty hempty

/-- What every turn keeps. -/
theorem memoryOver_induction {P : Memory → Prop} (hempty : P .empty)
    (hturn : ∀ m turn, P m → P (r.memoryOf m turn)) (turns : List Turn) : P (r.memoryOver turns) :=
  memoryOver_induction_of_mem hempty fun m turn _ => hturn m turn

/-- **A call keeps a memory sound.** -/
theorem sound_call (hm : m.IsSound) (r : Resolver) (c : Configuration) (call : Call) :
    (call.memory r c m).IsSound := by
  cases call with
  | resolve asked key => exact (resolve_moves hm asked key).sound hm
  | expand asked a key =>
      show ((r.expand c asked a key).on m).2.IsSound
      rw [expand_on]
      exact (resolve_moves hm asked key).sound hm
  | drop locale => exact hm.drop _
  | dropAll => exact Memory.isSound_dropAll m

theorem sound_memoryOver (r : Resolver) (turns : List Turn) : (r.memoryOver turns).IsSound :=
  memoryOver_induction Memory.isSound_empty (fun _ turn hm => sound_call hm _ _ turn.call) turns

/-- A call that asks for a key. -/
inductive Call.Requests (asked : Option Text) (key : Text) : Call → Prop
  | resolve : Requests asked key (.resolve asked key)
  | expand (a : Arguments) : Requests asked key (.expand asked a key)

theorem Call.Requests.memory_eq {asked : Option Text} {key : Text} {call : Call}
    (h : call.Requests asked key) : call.memory r c m = ((r.resolve c asked key).on m).2 := by
  cases h with
  | resolve => rfl
  | expand a => exact expand_on a asked key m

/-- **A request only fills gaps.** Catalogs that are there stay, those that are new were read, and the entry
under the key may become the one that was found; no entry has both a text and a file that it refers to; and
what was found is what the hooks are told of. -/
theorem request_fills_gaps (r : Resolver) (turns : List Turn) (s : Source) (c : Configuration)
    {asked : Option Text} {key : Text} {call : Call} (hcall : call.Requests asked key) :
    let now := r.withSource s
    let m := r.memoryOver turns
    let m' := call.memory now c m
    let locale := now.localeOf asked
    let found := now.foundBy c m asked key
    (∀ place, Grown now c locale key found m m' place)
      ∧ (∀ place t k e, m'.at? place = some t → Pairs.get? k t.entries = some e →
        e.text = none ∨ e.reference = none)
      ∧ ∀ e, found = some e →
        ((now.resolve c asked key).on m).1 = now.answerOf c locale key (some e) := by
  intro now m m' locale found
  have hm : m.IsSound := sound_memoryOver r turns
  have hmoves : Moves now c locale key found m m' := by
    show Moves now c locale key found m (call.memory now c m)
    rw [hcall.memory_eq]
    exact resolve_moves hm asked key
  refine ⟨fun place => hmoves.grown hm place, fun place t k e ht he => ?_, fun e he => ?_⟩
  · exact ((hmoves.sound hm).plain ht k e he).apart
  · exact resolve_found asked key he

/-- The Albanian catalog gets the greeting that only the default one has, and the farewell stays. -/
theorem request_fills_gaps_greetings :
    let m := greetings.memoryOver [⟨greetings.source, greetings.configuration, .resolve (some "sq") "bye"⟩]
    let m' := ((greetings.resolve greetings.configuration (some "sq") "hello").on m).2
    let found := greetings.foundBy greetings.configuration m (some "sq") "hello"
    let textAt (m : Memory) (key : Text) : Option Text :=
      ((m.at? (.under (Memory.keyOf "sq"))).bind (·.get? key)).bind Entry.text
    (∀ place, Grown greetings greetings.configuration (greetings.localeOf (some "sq")) "hello" found m m' place)
      ∧ found.bind Entry.text = some (Text.ofString "Hello")
      ∧ textAt m "hello" = none ∧ textAt m' "hello" = some (Text.ofString "Hello")
      ∧ textAt m "bye" = some (Text.ofString "Mirupafshim") ∧ textAt m' "bye" = textAt m "bye" := by
  intro m m' found textAt
  have hgrown := (request_fills_gaps greetings
    [⟨greetings.source, greetings.configuration, .resolve (some "sq") "bye"⟩] greetings.source
    greetings.configuration (.resolve : Call.Requests (some "sq") "hello" _)).1
  exact ⟨hgrown, by decide +kernel⟩

end Phrasebook.Resolver
