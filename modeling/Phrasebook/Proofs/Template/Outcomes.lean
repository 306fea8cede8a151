import Phrasebook.Proofs.Template.Reading
import Phrasebook.Proofs.Template.Unreadable

/-!
# What reading a template comes to

A text is read as a template, or is refused as malformed, or for a name that message format does not allow, or for
digits that write no number. The last of these is no rule of templates but a report of the conversion of digits.
`Meets` says without fuel where that happens: the reader goes through nodes, placeholders and cases as `Reading` has
it, and meets an alignment or an offset whose digits write nothing. This is exact (`read_eq_unreadable_iff`): one
direction by induction on the fuel, for nodes, placeholders and cases together, the other by induction on the way.
-/

namespace Phrasebook.Template

variable {x : Context} {mode : Mode} {s t u v w : Text} {kind : ChoiceKind} {argument : Text} {fuel : Nat}

/-! ## The way to digits that write nothing -/

/-- Which reader has a text before it. -/
inductive Place where
  | nodes
  /-- After the opening brace of a placeholder. -/
  | placeholder
  /-- After the head of a choice and its offset. -/
  | cases

/-- **`StartsCase t body`**: the text starts with a case label and the brace that opens its body. -/
def StartsCase (t body : Text) : Prop :=
  ∃ b word b', (∀ c ∈ b, c.isBlank = true) ∧ IsLabel word ∧ (∀ c ∈ b', c.isBlank = true) ∧
    t = b ++ (word ++ (b' ++ leftBrace :: body))

/-- **`Meets x place t`**: on its way through `t` the reader meets digits that write nothing. -/
inductive Meets : Context → Place → Text → Prop where
  | opening {x : Context} {t s u : Text} (hliteral : literal x t = (s, leftBrace :: u)) (h : Meets x .placeholder u) :
      Meets x .nodes t
  | afterPlaceholder {x : Context} {t s p v : Text} {n : Node} (hliteral : literal x t = (s, leftBrace :: (p ++ v)))
      (hp : TakesPlaceholder x p n) (h : Meets x .nodes v) : Meets x .nodes t
  | afterNumber {x : Context} {t s v : Text} (hliteral : literal x t = (s, numberSign :: v))
      (hplural : x.inPlural = true) (h : Meets x .nodes v) : Meets x .nodes t
  | alignment {x : Context} {t : Text} (h : HeadAlignsToNothing x.mode t) : Meets x .placeholder t
  | offset {x : Context} {kind : ChoiceKind} {argument t u : Text} (hhead : OpensChoice x.mode kind argument t u)
      (h : OffsetsByNothing kind u.stripStart) : Meets x .placeholder t
  | choice {x : Context} {kind : ChoiceKind} {argument t u v : Text} {m : Nat}
      (hhead : OpensChoice x.mode kind argument t u) (hoffset : Template.offset kind u.stripStart = .ok (m, v))
      (h : Meets (x.inside kind) .cases v) : Meets x .placeholder t
  | body {x : Context} {t body : Text} (hcase : StartsCase t body) (h : Meets x .nodes body) : Meets x .cases t
  | afterCase {x : Context} {t body v : Text} {ns : List Node} (hcase : StartsCase t body)
      (hbody : Reading x body ns (rightBrace :: v)) (h : Meets x .cases v) : Meets x .cases t

/-! ## Faults go through -/

theorem nodes_failed (h : nodes x (fuel + 1) t = .error .unreadableNumber) :
    (∃ s v, literal x t = (s, leftBrace :: v) ∧
      (placeholder x fuel (leftBrace :: v) v = .error .unreadableNumber ∨
        ∃ n w, placeholder x fuel (leftBrace :: v) v = .ok (n, w) ∧ nodes x fuel w = .error .unreadableNumber)) ∨
    (∃ s v, literal x t = (s, numberSign :: v) ∧ x.inPlural = true ∧
      nodes x fuel v = .error .unreadableNumber) := by
  have hends : EndsLiteral x (literal x t).2 := endsLiteral_literalFrom x 0 false t
  rw [nodes] at h
  generalize literal x t = taken at h hends ⊢
  obtain ⟨s, rest⟩ := taken
  cases rest with
  | nil => cases h
  | cons c v =>
      obtain ⟨hstops, -⟩ := hends c v rfl
      dsimp only at h
      split at h
      · split at h <;> cases h
      next hclose =>
      split at h
      · next hopen =>
        left
        rw [hopen] at h ⊢
        refine ⟨s, v, rfl, ?_⟩
        rcases failed_of_bind h with hn | ⟨⟨n, w⟩, hn, h⟩
        · exact .inl hn
        · rcases failed_of_bind h with hrest | ⟨_, -, hok⟩
          · exact .inr ⟨n, w, hn, hrest⟩
          · cases hok
      next hopen =>
      -- Literal text ends at nothing else but the sign for a number.
      right
      rw [Context.stops, decide_eq_false hopen, decide_eq_false hclose, Bool.false_or, Bool.false_or,
        Bool.and_eq_true, decide_eq_true_eq] at hstops
      obtain ⟨hplural, rfl⟩ := hstops
      rcases failed_of_bind h with hrest | ⟨_, -, hok⟩
      · exact ⟨s, v, rfl, hplural, hrest⟩
      · cases hok

theorem placeholder_failed (h : placeholder x (fuel + 1) (leftBrace :: t) t = .error .unreadableNumber) :
    HeadAlignsToNothing x.mode t ∨
    ∃ kind argument u, OpensChoice x.mode kind argument t u ∧ (OffsetsByNothing kind u.stripStart ∨
      ∃ m v, offset kind u.stripStart = .ok (m, v) ∧
        cases (x.inside kind) kind argument (leftBrace :: t).length fuel v = .error .unreadableNumber) := by
  rw [placeholder] at h
  rcases failed_of_bind h with hhead | ⟨⟨found, u⟩, hhead, h⟩
  · exact .inl (head_eq_unreadable_iff.mp hhead)
  cases found with
  | node n => cases h
  | cases kind argument =>
      right
      refine ⟨kind, argument, u, head_choice_iff.mp hhead, ?_⟩
      rcases failed_of_bind h with hoffset | ⟨⟨m, v⟩, hoffset, h⟩
      · exact .inl (offset_eq_unreadable_iff.mp hoffset)
      rcases failed_of_bind h with hcases | ⟨⟨cs, w⟩, -, h⟩
      · exact .inr ⟨m, v, hoffset, hcases⟩
      · dsimp only at h
        split at h <;> cases h

theorem cases_failed {start : Nat} (h : cases x kind argument start (fuel + 1) t = .error .unreadableNumber) :
    ∃ body, StartsCase t body ∧ (nodes x fuel body = .error .unreadableNumber ∨
      ∃ ns d v, nodes x fuel body = .ok (ns, d :: v) ∧
        cases x kind argument start fuel v = .error .unreadableNumber) := by
  obtain ⟨b, hb, ht⟩ := Text.eq_stripStart t
  rw [cases] at h
  split at h
  · cases h
  next c after hv =>
  rw [hv] at ht
  split at h
  · cases h
  rcases failed_of_bind h with hlabel | ⟨⟨word, body⟩, hlabel, h⟩
  · exact absurd hlabel label_ne
  obtain ⟨hword, b', hb', hstart⟩ := label_ok_iff.mp hlabel
  rw [hstart] at ht
  refine ⟨body, ⟨b, word, b', hb, hword, hb', ht⟩, ?_⟩
  rcases failed_of_bind h with hbody | ⟨⟨ns, rest⟩, hbody, h⟩
  · exact .inl hbody
  dsimp only at h
  split at h
  · cases h
  · next d v =>
    rcases failed_of_bind h with hmore | ⟨_, -, hok⟩
    · exact .inr ⟨ns, d, v, hbody, hmore⟩
    · cases hok

theorem nodes_eq_error (hliteral : literal x t = (s, leftBrace :: v)) {e : Fault}
    (h : placeholder x fuel (leftBrace :: v) v = .error e) : nodes x (fuel + 1) t = .error e := by
  rw [nodes]
  simp only [hliteral, CodePoint.ofChar_inj, Char.reduceEq, if_false, if_true, h]
  rfl

theorem nodes_eq_error_of_rest (hliteral : literal x t = (s, leftBrace :: v)) {n : Node} {e : Fault}
    (hn : placeholder x fuel (leftBrace :: v) v = .ok (n, w)) (h : nodes x fuel w = .error e) :
    nodes x (fuel + 1) t = .error e := by
  rw [nodes]
  simp only [hliteral, CodePoint.ofChar_inj, Char.reduceEq, if_false, if_true, hn, bind, Except.bind, h]

theorem nodes_eq_error_of_number (hliteral : literal x t = (s, numberSign :: v)) {e : Fault}
    (h : nodes x fuel v = .error e) : nodes x (fuel + 1) t = .error e := by
  rw [nodes]
  simp only [hliteral, CodePoint.ofChar_inj, Char.reduceEq, if_false, h]
  rfl

/-- After a case label the body is read, and then the cases after it. -/
theorem StartsCase.cases_eq (hcase : StartsCase t u) : ∃ word, ∀ {x : Context} {kind : ChoiceKind} {argument : Text}
    {start fuel : Nat}, cases x kind argument start (fuel + 1) t = (do
      let (inside, rest) ← nodes x fuel u
      match rest with
      | [] => .error (.malformed .unclosedOpening (u.length + 1))
      | _ :: rest =>
        let (more, rest) ← cases x kind argument start fuel rest
        return ((word, inside) :: more, rest)) := by
  obtain ⟨b, word, b', hb, hword, hb', rfl⟩ := hcase
  refine ⟨word, cases_step hword hb' ?_⟩
  rw [Text.stripStart_append hb, Text.stripStart_of_stops (hword.stops_blank _)]

/-! ## Lengths -/

theorem OpensChoice.length_lt (h : OpensChoice mode kind argument t u) : u.length < t.length := by
  obtain ⟨lead, word, -, -, rfl⟩ := h
  simp only [List.length_append, List.length_cons]
  omega

theorem StartsCase.length_lt (h : StartsCase t u) : u.length < t.length := by
  obtain ⟨b, word, b', -, -, -, rfl⟩ := h
  simp only [List.length_append, List.length_cons]
  omega

/-- No more is left after an offset than before it. -/
theorem length_offset {m : Nat} (h : offset kind u.stripStart = .ok (m, v)) : v.length ≤ u.length :=
  ((reaches_stripStart .none 0 u).trans (reaches_offset h 0)).length_le

/-! ## One direction -/

/-- With `fuel`, what nodes are refused for is met. -/
def NodesMeet (fuel : Nat) : Prop :=
  ∀ {x : Context} {t : Text}, nodes x fuel t = .error .unreadableNumber → 2 * t.length + 2 ≤ fuel →
    Meets x .nodes t

/-- With `fuel`, what a placeholder is refused for is met. -/
def PlaceholdersMeet (fuel : Nat) : Prop :=
  ∀ {x : Context} {t : Text}, placeholder x fuel (leftBrace :: t) t = .error .unreadableNumber →
    2 * t.length + 3 ≤ fuel → Meets x .placeholder t

/-- With `fuel`, what cases are refused for is met. -/
def CasesMeet (fuel : Nat) : Prop :=
  ∀ {x : Context} {kind : ChoiceKind} {argument t : Text} {start : Nat},
    cases x kind argument start fuel t = .error .unreadableNumber → x.inCase = true → 2 * t.length + 2 ≤ fuel →
    Meets x .cases t

/-- In nodes it is met in the placeholder after the literal text, or in what follows. -/
theorem nodesMeet_succ (hplaceholders : PlaceholdersMeet fuel) (hnodes : NodesMeet fuel) :
    NodesMeet (fuel + 1) := by
  intro x t h hfuel
  rcases nodes_failed h with ⟨s, v, hliteral, h⟩ | ⟨s, v, hliteral, hplural, h⟩
  · have hlen := Reading.length_literal hliteral
    rcases h with h | ⟨n, w, hn, h⟩
    · exact .opening hliteral (hplaceholders h (by omega))
    · obtain ⟨p, rfl, hp⟩ := (taken fuel).2.1 hn (by omega)
      have hw : w.length ≤ (p ++ w).length := (List.suffix_append p w).length_le
      exact .afterPlaceholder hliteral hp (hnodes h (by omega))
  · have hlen := Reading.length_literal hliteral
    exact .afterNumber hliteral hplural (hnodes h (by omega))

/-- In a placeholder it is met in the head, in the offset or in the cases. -/
theorem placeholdersMeet_succ (hcases : CasesMeet fuel) : PlaceholdersMeet (fuel + 1) := by
  intro x t h hfuel
  rcases placeholder_failed h with hhead | ⟨kind, argument, u, hhead, hoffset | ⟨m, v, hoffset, h⟩⟩
  · exact .alignment hhead
  · exact .offset hhead hoffset
  · have hlen := hhead.length_lt
    have hrest := length_offset hoffset
    exact .choice hhead hoffset (hcases h rfl (by omega))

/-- In cases it is met in the body of the first or after it. -/
theorem casesMeet_succ (hnodes : NodesMeet fuel) (hcases : CasesMeet fuel) : CasesMeet (fuel + 1) := by
  intro x kind argument t start h hin hfuel
  obtain ⟨body, hcase, h⟩ := cases_failed h
  have hlen := hcase.length_lt
  rcases h with h | ⟨ns, d, v, hbody, h⟩
  · exact .body hcase (hnodes h (by omega))
  · have hreading := (taken fuel).1 hbody (by omega)
    -- Nodes in a case end at nothing but the brace that closes it.
    obtain rfl : d = rightBrace := by
      rcases hreading.ends with hnil | ⟨-, _, hclose⟩
      · cases hnil
      · exact (List.cons.inj hclose).1
    obtain ⟨p, rfl, -⟩ := hreading.apart
    simp only [List.length_append, List.length_cons] at hlen
    exact .afterCase hcase hreading (hcases h hin (by omega))

/-- **What a text is refused for is met on the way through it**, with enough fuel. -/
theorem meets_of_failed (fuel : Nat) : NodesMeet fuel ∧ PlaceholdersMeet fuel ∧ CasesMeet fuel := by
  induction fuel with
  | zero =>
      refine ⟨fun _ hfuel => ?_, fun _ hfuel => ?_, fun _ _ hfuel => ?_⟩
      all_goals exact absurd hfuel (Nat.not_succ_le_zero _)
  | succ fuel ih =>
      obtain ⟨hnodes, hplaceholders, hcases⟩ := ih
      exact ⟨nodesMeet_succ hplaceholders hnodes, placeholdersMeet_succ hcases, casesMeet_succ hnodes hcases⟩

/-! ## The other direction -/

/-- A reader refuses a text for digits that write nothing, with fuel enough for the text. -/
def Refuses (x : Context) : Place → Text → Prop
  | .nodes, t => ∀ fuel, 2 * t.length + 2 ≤ fuel → nodes x fuel t = .error .unreadableNumber
  | .placeholder, t => ∀ fuel, 2 * t.length + 3 ≤ fuel →
    placeholder x fuel (leftBrace :: t) t = .error .unreadableNumber
  | .cases, t => ∀ kind argument start fuel, 2 * t.length + 2 ≤ fuel →
    cases x kind argument start fuel t = .error .unreadableNumber

/-- **What is met is refused**: each reader hands on the fault of the one that it calls. -/
theorem Meets.refuses {place : Place} (h : Meets x place t) : Refuses x place t := by
  -- The induction is on the way to the digits. One unit of fuel is spent at each reader on it, and the text gets
  -- shorter.
  induction h with
  | opening hliteral _ ih =>
      intro fuel hfuel
      obtain ⟨fuel, rfl⟩ : ∃ f, fuel = f + 1 := ⟨fuel - 1, by omega⟩
      have hlen := Reading.length_literal hliteral
      exact nodes_eq_error hliteral (ih fuel (by omega))
  | @afterPlaceholder x t s p v n hliteral hp _ ih =>
      intro fuel hfuel
      obtain ⟨fuel, rfl⟩ : ∃ f, fuel = f + 1 := ⟨fuel - 1, by omega⟩
      have hlen := Reading.length_literal hliteral
      have hv : v.length ≤ (p ++ v).length := (List.suffix_append p v).length_le
      exact nodes_eq_error_of_rest hliteral (hp v fuel (by omega)) (ih fuel (by omega))
  | afterNumber hliteral _ _ ih =>
      intro fuel hfuel
      obtain ⟨fuel, rfl⟩ : ∃ f, fuel = f + 1 := ⟨fuel - 1, by omega⟩
      have hlen := Reading.length_literal hliteral
      exact nodes_eq_error_of_number hliteral (ih fuel (by omega))
  | alignment h =>
      intro fuel hfuel
      obtain ⟨fuel, rfl⟩ : ∃ f, fuel = f + 1 := ⟨fuel - 1, by omega⟩
      rw [placeholder, head_eq_unreadable_iff.mpr h]
      rfl
  | offset hhead h =>
      intro fuel hfuel
      obtain ⟨fuel, rfl⟩ : ∃ f, fuel = f + 1 := ⟨fuel - 1, by omega⟩
      rw [placeholder, head_choice_iff.mpr hhead]
      simp only [bind, Except.bind, offset_eq_unreadable_iff.mpr h]
  | @choice x kind argument t u v m hhead hoffset _ ih =>
      intro fuel hfuel
      obtain ⟨fuel, rfl⟩ : ∃ f, fuel = f + 1 := ⟨fuel - 1, by omega⟩
      have hlen := hhead.length_lt
      have hrest := length_offset hoffset
      have hcases := ih kind argument (leftBrace :: t).length fuel (by omega)
      rw [Context.inside] at hcases
      rw [placeholder, head_choice_iff.mpr hhead]
      simp only [bind, Except.bind, hoffset, hcases]
  | body hcase _ ih =>
      intro kind argument start fuel hfuel
      obtain ⟨fuel, rfl⟩ : ∃ f, fuel = f + 1 := ⟨fuel - 1, by omega⟩
      have hlen := hcase.length_lt
      obtain ⟨word, hstep⟩ := hcase.cases_eq
      rw [hstep, ih fuel (by omega)]
      rfl
  | afterCase hcase hbody _ ih =>
      intro kind argument start fuel hfuel
      obtain ⟨fuel, rfl⟩ : ∃ f, fuel = f + 1 := ⟨fuel - 1, by omega⟩
      have hlen := hcase.length_lt
      obtain ⟨word, hstep⟩ := hcase.cases_eq
      rw [hstep, hbody.nodes (by omega)]
      obtain ⟨p, rfl, -⟩ := hbody.apart
      simp only [List.length_append, List.length_cons] at hlen
      simp only [bind, Except.bind, ih kind argument start fuel (by omega)]

/-- **A text is refused for digits that write nothing exactly if these are met on the way through it.** -/
theorem read_eq_unreadable_iff :
    read mode t = .error .unreadableNumber ↔
      mode.parsesPlaceholders = true ∧ Meets ⟨mode, false, false⟩ .nodes t := by
  unfold read
  constructor
  · intro h
    split at h
    · next hmode =>
      refine ⟨hmode, (meets_of_failed _).1 ?_ (Nat.le_refl _)⟩
      cases hread : nodes ⟨mode, false, false⟩ (2 * t.length + 2) t with
      | ok p =>
          rw [hread] at h
          cases h
      | error e =>
          rw [hread] at h
          exact congrArg Except.error (Except.error.inj h)
    · cases h
  · rintro ⟨hmode, h⟩
    rw [if_pos hmode, h.refuses _ (Nat.le_refl _)]
    rfl

/-! ## Where the digits stand -/

/-- **`HoldsNothing mode t`**: somewhere in the text stands an alignment after a comma, in composite format, or an
offset after its word, and its digits write nothing. -/
def HoldsNothing (mode : Mode) (t : Text) : Prop :=
  ∃ before after, t = before ++ after ∧
    ((∃ b c v, (∀ d ∈ b, d.isBlank = true) ∧ after = comma :: (b ++ c :: v) ∧ StartsNumber mode c ∧
        AlignsToNothing (c :: v)) ∨
      ∃ kind, OffsetsByNothing kind after)

theorem HoldsNothing.append (h : HoldsNothing mode u) (t : Text) : HoldsNothing mode (t ++ u) := by
  obtain ⟨before, after, rfl, hafter⟩ := h
  exact ⟨t ++ before, after, (List.append_assoc t before after).symm, hafter⟩

theorem HoldsNothing.of_suffix (h : HoldsNothing mode u) (hsuffix : u <:+ t) : HoldsNothing mode t := by
  obtain ⟨before, rfl⟩ := hsuffix
  exact h.append before

theorem OpensChoice.suffix (h : OpensChoice mode kind argument t u) : u <:+ t := by
  obtain ⟨lead, word, -, -, rfl⟩ := h
  exact ⟨lead ++ comma :: (word ++ [comma]), by simp⟩

theorem StartsCase.suffix (h : StartsCase t u) : u <:+ t := by
  obtain ⟨b, word, b', -, -, -, rfl⟩ := h
  exact ⟨b ++ (word ++ (b' ++ [leftBrace])), by simp⟩

theorem suffix_of_literal {c : CodePoint} (h : literal x t = (s, c :: v)) : v <:+ t := by
  have hsuffix := literalFrom_suffix x 0 false t
  rw [← literal, h] at hsuffix
  exact (List.suffix_cons c v).trans hsuffix

/-- What is met stands in the text. -/
theorem Meets.holdsNothing {place : Place} (h : Meets x place t) : HoldsNothing x.mode t := by
  induction h with
  | opening hliteral _ ih => exact ih.of_suffix (suffix_of_literal hliteral)
  | @afterPlaceholder x t s p v n hliteral _ _ ih => exact (ih.append p).of_suffix (suffix_of_literal hliteral)
  | afterNumber hliteral _ _ ih => exact ih.of_suffix (suffix_of_literal hliteral)
  | alignment h =>
      obtain ⟨argument, lead, b, c, v, -, hb, rfl, hc, hnothing⟩ := h
      exact ⟨lead, _, rfl, .inl ⟨b, c, v, hb, rfl, hc, hnothing⟩⟩
  | @offset x kind argument t u hhead h =>
      have hholds : HoldsNothing x.mode u.stripStart := ⟨[], _, rfl, .inr ⟨kind, h⟩⟩
      exact (hholds.of_suffix (List.dropWhile_suffix _)).of_suffix hhead.suffix
  | @choice x kind argument t u v m hhead hoffset _ ih =>
      have hrest : v <:+ u.stripStart := by
        rcases offset_cases hoffset with ⟨-, rfl, -⟩ | ⟨-, b, digits, -, -, -, -, ht, -⟩
        · exact List.suffix_rfl
        · rw [ht]
          exact ⟨offsetWord ++ (b ++ digits), by simp⟩
      exact ((ih.of_suffix hrest).of_suffix (List.dropWhile_suffix _)).of_suffix hhead.suffix
  | body hcase _ ih => exact ih.of_suffix hcase.suffix
  | @afterCase x t body v ns hcase hbody _ ih =>
      obtain ⟨p, rfl, -⟩ := hbody.apart
      exact ((ih.append [rightBrace]).append p).of_suffix hcase.suffix

/-! ## All outcomes -/

/-- **A text is read as a template, or is refused in one of three ways**: as malformed, for a name, or for an
alignment or an offset whose digits write nothing. The last is reported as it comes, exactly if the reader meets such
digits; then they stand in the text. -/
theorem parse_outcomes (mode : Mode) (t : Text) :
    ((∃ ns, parse mode t = .ok ns) ∨ (∃ e, parse mode t = .error (.malformedTemplate e)) ∨
      (∃ e, parse mode t = .error (.processing e)) ∨ parse mode t = .error (.obstacle .value)) ∧
    (parse mode t = .error (.obstacle .value) ↔
      mode.parsesPlaceholders = true ∧ Meets ⟨mode, false, false⟩ .nodes t) ∧
    (parse mode t = .error (.obstacle .value) → HoldsNothing mode t) := by
  have hread : parse mode t = .error (.obstacle .value) ↔ read mode t = .error .unreadableNumber := by
    unfold parse
    cases read mode t with
    | ok ns => exact iff_of_false (fun h => by cases h) (fun h => by cases h)
    | error f => cases f <;> simp [Except.mapError, Fault.inText]
  refine ⟨?_, hread.trans read_eq_unreadable_iff, fun h => ?_⟩
  · unfold parse
    cases read mode t with
    | ok ns => exact .inl ⟨ns, rfl⟩
    | error f =>
        cases f with
        | malformed p left => exact .inr (.inl ⟨_, rfl⟩)
        | invalidName name => exact .inr (.inr (.inl ⟨_, rfl⟩))
        | unreadableNumber => exact .inr (.inr (.inr rfl))
  · exact (read_eq_unreadable_iff.mp (hread.mp h)).2.holdsNothing

/-- **A minus sign alone is taken for an alignment**, and no rule of templates refuses it. -/
theorem parse_minus_alone : parse .composite "\x7b0,-\x7d" = .error (.obstacle .value) := by
  have hfault : (match parse .composite "\x7b0,-\x7d" with
      | .error (.obstacle .value) => true
      | _ => false) = true := by decide +kernel
  split at hfault
  · next h => exact h
  · cases hfault

end Phrasebook.Template
