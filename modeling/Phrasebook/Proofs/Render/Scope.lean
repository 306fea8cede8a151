import Phrasebook.Proofs.Outcome
import Phrasebook.Proofs.Render.Nodes
import Phrasebook.Proofs.Template.Scope

/-!
# What a number sign stands for

Rendering hands the number of a plural down to the number signs in its cases, through selections. Here the same is
said by the place of a sign alone: `sign` looks for the plural that the sign belongs to, takes its value anew and
shows it less the offset. Nothing is handed down (`nodesIn`), and for templates that were read both ways come to the
same (`number_signs_in_scope`), whatever is to be shown for a sign without a number: there is none.
-/

namespace Phrasebook.Render

open Template

/-! ## Rendering by place -/

/-- A number sign, by the choices around it: the value of the plural that it belongs to, less the offset, as a plain
number. `bare` is shown if there is no such plural, or no value for it. -/
def sign (s : Setting) (bare : Outcome Text) (around : List Enclosing) : Outcome Text :=
  match owner? around with
  | none => bare
  | some p => do
    match ← Failure.ofObstacle (s.value? p.argument) with
    | none => bare
    | some v =>
      let adjusted ← Failure.ofObstacle ((← v.toDecimal).minus p.offset)
      number s.culture .default (.decimal adjusted)

/-- The label of the case of a choice, unless its argument has no value. It is the same whatever number is handed
down. -/
def chosen? (s : Setting) (kind : ChoiceKind) (argument : Text) (offset : Nat) (labels : List Text) :
    Outcome (Option Text) :=
  (choose s kind argument offset labels none).map (Option.map Choice.label)

mutual

/-- A node rendered by its place. -/
def nodeIn (s : Setting) (bare : Outcome Text) (around : List Enclosing) : Template.Node → Outcome Text
  | .literal t => .ok t
  | .pluralValue => sign s bare around
  | .simple argument format alignment raw => simple s argument format alignment raw
  | .formatted kind argument style raw => formatted s kind argument style raw
  | .choice kind argument offset cases raw => do
    match ← chosen? s kind argument offset (cases.map Prod.fst) with
    | none => return s.missing raw
    | some label => caseBodyIn s bare (⟨kind, argument, offset⟩ :: around) label cases

/-- The first case with a label, rendered by its place. -/
def caseBodyIn (s : Setting) (bare : Outcome Text) (around : List Enclosing) (chosen : Text) :
    List (Text × List Template.Node) → Outcome Text
  | [] => .ok []
  | (label, body) :: rest =>
    if label = chosen then nodesIn s bare around body else caseBodyIn s bare around chosen rest

/-- Nodes in order, rendered by their place. -/
def nodesIn (s : Setting) (bare : Outcome Text) (around : List Enclosing) : List Template.Node → Outcome Text
  | [] => .ok []
  | n :: rest => do
    let t ← nodeIn s bare around n
    return t ++ (← nodesIn s bare around rest)

end

/-! ## What is handed down -/

variable {s : Setting} {around : List Enclosing} {handed : Option Decimal} {kind : ChoiceKind} {argument : Text}
  {offset : Nat} {labels : List Text}

/-- **`Carries s around handed`**: the number that is handed down is that of the plural that number signs belong to
here, if they belong to one. -/
def Carries (s : Setting) (around : List Enclosing) (handed : Option Decimal) : Prop :=
  ∀ p, owner? around = some p → ∃ v n d, s.value? p.argument = .ok (some v) ∧ v.toDecimal = .ok n ∧
    n.minus p.offset = .ok d ∧ handed = some d

theorem carries_nil (s : Setting) (handed : Option Decimal) : Carries s [] handed := by
  intro p hp
  cases hp

/-- A sign that has an owner shows the number that is handed down. -/
theorem Carries.sign_eq (h : Carries s around handed) (howned : IsOwned around) (bare : Outcome Text) :
    node s handed .pluralValue = sign s bare around := by
  obtain ⟨p, hp⟩ := Option.isSome_iff_exists.mp (isSome_owner?_iff.mpr howned)
  obtain ⟨v, n, d, hvalue, hnumber, hminus, rfl⟩ := h p hp
  simp only [node, sign, hp, hvalue, hnumber, hminus, Failure.ofObstacle, Except.mapError, bind, Except.bind]

/-! ## Choosing a case -/

theorem owner?_cons_select (argument : Text) (offset : Nat) (around : List Enclosing) :
    owner? (⟨.select, argument, offset⟩ :: around) = owner? around := List.find?_cons_of_neg (by simp)

theorem owner?_cons_plural (hkind : kind ≠ .select) (argument : Text) (offset : Nat) (around : List Enclosing) :
    owner? (⟨kind, argument, offset⟩ :: around) = some ⟨kind, argument, offset⟩ :=
  List.find?_cons_of_pos (by simpa using hkind)

/-- The case of a selection is up to the value alone, and the number is passed on. -/
theorem selectChoice_eq (argument : Text) (labels : List Text) (handed : Option Decimal) (v : Value) :
    selectChoice argument labels handed v
      = (selectChoice argument labels none v).map fun c => { c with number := handed } := by
  unfold selectChoice
  dsimp only
  split
  · rfl
  · split <;> rfl

/-- The number of a plural is its value less the offset. -/
theorem pluralChoice_number {v : Value} {c : Choice} (h : pluralChoice kind argument offset labels v = .ok c) :
    ∃ n d, v.toDecimal = .ok n ∧ n.minus offset = .ok d ∧ c.number = some d := by
  unfold pluralChoice at h
  split at h
  · cases h
  · cases h
  · next n hnumber =>
    obtain ⟨exact, -, h⟩ := exists_of_bind h
    obtain ⟨d, hminus, h⟩ := exists_of_bind h
    obtain ⟨isOne, -, h⟩ := exists_of_bind h
    dsimp only at h
    split at h
    · obtain rfl := Except.ok.inj h
      exact ⟨n, d, hnumber, ok_of_mapError hminus, rfl⟩
    · cases h

/-- A selection is chosen from by its value. -/
theorem choose_select {v : Value} (hvalue : s.value? argument = .ok (some v)) (offset : Nat) (labels : List Text)
    (handed : Option Decimal) :
    choose s .select argument offset labels handed = (selectChoice argument labels handed v).map some := by
  rw [choose, hvalue]
  show (selectChoice argument labels handed v >>= fun c => pure (some c)) = _
  cases selectChoice argument labels handed v <;> rfl

/-- A plural is chosen from by its value, whatever number is handed down to it. -/
theorem choose_plural {v : Value} (hkind : kind ≠ .select) (hvalue : s.value? argument = .ok (some v)) (offset : Nat)
    (labels : List Text) (handed : Option Decimal) :
    choose s kind argument offset labels handed = (pluralChoice kind argument offset labels v).map some := by
  rw [choose, hvalue]
  have hplural : ∀ x : Outcome Choice, (x >>= fun c => pure (some c)) = x.map some := fun x => by cases x <;> rfl
  cases kind with
  | select => exact absurd rfl hkind
  | plural => exact hplural _
  | ordinal => exact hplural _

theorem chosen?_eq (s : Setting) (kind : ChoiceKind) (argument : Text) (offset : Nat) (labels : List Text)
    (handed : Option Decimal) :
    chosen? s kind argument offset labels
      = (choose s kind argument offset labels handed).map (Option.map Choice.label) := by
  unfold chosen?
  cases hvalue : s.value? argument with
  | error e => rw [choose, choose, hvalue]; rfl
  | ok found =>
      cases found with
      | none => rw [choose, choose, hvalue]; rfl
      | some v =>
          by_cases hkind : kind = .select
          · rw [hkind, choose_select hvalue, choose_select hvalue, selectChoice_eq argument labels handed]
            cases selectChoice argument labels none v <;> rfl
          · rw [choose_plural hkind hvalue, choose_plural hkind hvalue]

/-- **What a choice hands down is the number of the plural that the signs in its cases belong to.** -/
theorem Carries.choose (h : Carries s around handed) {c : Choice}
    (hchoose : choose s kind argument offset labels handed = .ok (some c)) :
    Carries s (⟨kind, argument, offset⟩ :: around) c.number := by
  obtain ⟨v, hvalue⟩ : ∃ v, s.value? argument = .ok (some v) := by
    obtain ⟨found, hfound, hrest⟩ := exists_of_bind hchoose
    cases found with
    | none => cases hrest
    | some v => exact ⟨v, ok_of_mapError hfound⟩
  -- A select hands the number of the plural around it on, and a plural hands on its own.
  by_cases hkind : kind = .select
  · subst hkind
    rw [choose_select hvalue, selectChoice_eq] at hchoose
    obtain ⟨c', hchoice, hc⟩ := exists_of_map hchoose
    obtain ⟨c'', -, rfl⟩ := exists_of_map hchoice
    obtain rfl := Option.some.inj hc
    intro p hp
    rw [owner?_cons_select] at hp
    exact h p hp
  · rw [choose_plural hkind hvalue] at hchoose
    obtain ⟨c', hchoice, hc⟩ := exists_of_map hchoose
    obtain rfl := Option.some.inj hc
    obtain ⟨n, d, hnumber, hminus, hc⟩ := pluralChoice_number hchoice
    intro p hp
    rw [owner?_cons_plural hkind] at hp
    obtain rfl := Option.some.inj hp
    exact ⟨v, n, d, hvalue, hnumber, hminus, hc⟩

/-! ## Both ways come to the same -/

mutual

theorem node_eq_nodeIn (bare : Outcome Text) {around : List Enclosing} {handed : Option Decimal}
    (h : Carries s around handed) (n : Template.Node) (howned : ∀ a ∈ signsOfNode around n, IsOwned a) :
    node s handed n = nodeIn s bare around n := by
  cases n with
  | literal t => rw [node, nodeIn]
  | pluralValue =>
      rw [h.sign_eq (howned around (List.mem_singleton_self around)) bare, nodeIn]
  | simple argument format alignment raw => rw [node, nodeIn]
  | formatted kind argument style raw => rw [node, nodeIn]
  | choice kind argument offset cases raw =>
      rw [node, nodeIn, chosen?_eq s kind argument offset (cases.map Prod.fst) handed]
      cases hchoose : choose s kind argument offset (cases.map Prod.fst) handed with
      | error e => rfl
      | ok found =>
          cases found with
          | none => rfl
          | some c => exact caseBody_eq_caseBodyIn bare (h.choose hchoose) rfl cases howned

/-- The body of a case gets the number that the signs in it stand for. -/
theorem caseBody_eq_caseBodyIn (bare : Outcome Text) {around : List Enclosing} {handed : Option Decimal}
    (h : Carries s around handed) {c : Choice} (hc : c.number = handed) (cs : List (Text × List Template.Node))
    (howned : ∀ a ∈ signsOfCases around cs, IsOwned a) :
    caseBody s c cs = caseBodyIn s bare around c.label cs := by
  cases cs with
  | nil => rw [caseBody, caseBodyIn]
  | cons first rest =>
      obtain ⟨label, body⟩ := first
      rw [signsOfCases] at howned
      rw [caseBody, caseBodyIn, hc,
        nodes_eq_nodesIn bare h body fun a ha => howned a (List.mem_append_left _ ha),
        caseBody_eq_caseBodyIn bare h hc rest fun a ha => howned a (List.mem_append_right _ ha)]

/-- **Where every number sign has an owner, what is handed down is what their places tell.** -/
theorem nodes_eq_nodesIn (bare : Outcome Text) {around : List Enclosing} {handed : Option Decimal}
    (h : Carries s around handed) (ns : List Template.Node) (howned : ∀ a ∈ signs around ns, IsOwned a) :
    nodes s handed ns = nodesIn s bare around ns := by
  cases ns with
  | nil => rw [nodes, nodesIn]
  | cons n rest =>
      rw [signs] at howned
      rw [nodes, nodesIn, node_eq_nodeIn bare h n fun a ha => howned a (List.mem_append_left _ ha),
        nodes_eq_nodesIn bare h rest fun a ha => howned a (List.mem_append_right _ ha)]

end

/-! ## Whole texts -/

variable {mode : Mode} {t : Text} {ns : List Template.Node}

/-- **The scope of the number sign.** Every number sign of a template stands in a case of a plural or an ordinal, and
where one is rendered, in a text or in an entry, it shows the value of the innermost one less its offset; what is to
be shown for a sign without a number makes no difference. -/
theorem number_signs_in_scope (h : parse mode t = .ok ns) :
    (∀ around ∈ signs [] ns, ∃ e ∈ around, e.kind ≠ .select) ∧
    ∀ bare : Outcome Text,
      (∀ s : Setting, nodes s none ns = nodesIn s bare [] ns) ∧
      (mode.parsesPlaceholders = true → ∀ c a,
        text c a mode t = nodesIn ⟨c, a, mode, [], argumentNames ns⟩ bare [] ns ∧
        ∀ e, sourceText e = t →
          entry c a mode e = nodesIn ⟨c, a, mode, e.placeholders, argumentNames ns⟩ bare [] ns) := by
  have howned : ∀ around ∈ signs [] ns, IsOwned around := isOwned_of_read (ok_of_mapError h)
  refine ⟨howned, fun bare => ?_⟩
  have hnodes : ∀ s : Setting, nodes s none ns = nodesIn s bare [] ns := fun s =>
    nodes_eq_nodesIn bare (carries_nil s none) ns howned
  refine ⟨hnodes, fun hmode c a => ⟨?_, ?_⟩⟩
  · rw [text_eq_template hmode, template_of_parse c a [] h]
    exact hnodes _
  · rintro e rfl
    rw [entry_eq_template hmode, template_of_parse c a e.placeholders h]
    exact hnodes _

/-- Guests with one of them apart, a selection in their case and a plural in that. -/
def guestList : Text :=
  "\x7bn, plural, offset:1 other\x7b\x7bwho, select, host\x7b# with \x7bm, plural, one\x7b#\x7d other\x7b# more\x7d\x7d\x7d other\x7b#\x7d\x7d\x7d\x7d"

/-- Three guests, and five more. -/
def party : Arguments := .ordered [(.name "n", .int 3), (.name "who", .text "host"), (.name "m", .int 5)]

theorem number_signs_in_guestList :
    ∃ ns, parse .arb guestList = .ok ns ∧
      (signs [] ns).map owner? = [some ⟨.plural, "n", 1⟩, some ⟨.plural, "m", 0⟩, some ⟨.plural, "m", 0⟩,
        some ⟨.plural, "n", 1⟩] ∧
      (∀ around ∈ signs [] ns, ∃ e ∈ around, e.kind ≠ .select) ∧
      text (.ofConventions {} {} none) party .arb guestList = .ok "2 with 5 more" ∧
      ∀ bare : Outcome Text, text (.ofConventions {} {} none) party .arb guestList
        = nodesIn ⟨.ofConventions {} {} none, party, .arb, [], argumentNames ns⟩ bare [] ns := by
  have howners : (match Template.read .arb guestList with
      | .ok ns => decide ((signs [] ns).map owner? = [some ⟨.plural, "n", 1⟩, some ⟨.plural, "m", 0⟩,
          some ⟨.plural, "m", 0⟩, some ⟨.plural, "n", 1⟩])
      | .error _ => false) = true := by decide +kernel
  split at howners
  · next ns hread =>
      have hparse : parse .arb guestList = .ok ns := by rw [parse, hread]; rfl
      have htext : text (.ofConventions {} {} none) party .arb guestList = .ok "2 with 5 more" := ok_of_toOption (by decide +kernel)
      obtain ⟨howned, hplaces⟩ := number_signs_in_scope hparse
      exact ⟨ns, hparse, of_decide_eq_true howners, howned, htext, fun bare =>
        ((hplaces bare).2 rfl (.ofConventions {} {} none) party).1⟩
  · cases howners

end Phrasebook.Render
