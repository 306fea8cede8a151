import Phrasebook.Proofs.Outcome
import Phrasebook.Proofs.Render.Arguments
import Phrasebook.Proofs.Text.Fold

/-!
# Entries with declared placeholders

Where an entry declares placeholders, a simple placeholder of another name stays as it was written. This is said
of whole templates: rendering one comes to the same as rendering it with these placeholders made literal text
beforehand (`nodes_withhold`). What then is asked for is declared, or a number, or the argument of a formatted
placeholder or of a choice (`mem_noteNodes_withhold`).

The last two ask for their values whether these are declared or not. So two tables that agree on the declared names
and on numbers give the same result where formatted placeholders and choices keep to such names
(`entry_of_declared`), and need not do so elsewhere (`number_ignores_declarations`).
-/

namespace Phrasebook.Render

open Template

/-! ## What declarations let through -/

/-- **`Admits declarations name`**: a placeholder of this name is declared, without regard to case, or the name is a
number, which no declaration concerns. -/
def Admits (declarations : List Placeholder) (name : Text) : Prop :=
  name.isNumber = true ∨ ∃ p ∈ declarations, p.name.lower = name.lower

instance (declarations : List Placeholder) (name : Text) : Decidable (Admits declarations name) :=
  inferInstanceAs (Decidable (_ ∨ _))

mutual

/-- A node with every simple placeholder that the declarations do not admit made literal text. -/
def withholdNode (declarations : List Placeholder) : Node → Node
  | .literal t => .literal t
  | .pluralValue => .pluralValue
  | .simple argument format alignment raw =>
    if Admits declarations argument then .simple argument format alignment raw else .literal raw
  | .formatted kind argument style raw => .formatted kind argument style raw
  | .choice kind argument offset cases raw =>
    .choice kind argument offset (withholdCases declarations cases) raw

/-- A template with these placeholders made literal text, in the cases of choices too. -/
def withhold (declarations : List Placeholder) : List Node → List Node
  | [] => []
  | n :: rest => withholdNode declarations n :: withhold declarations rest

/-- Cases with these placeholders made literal text. -/
def withholdCases (declarations : List Placeholder) : List (Text × List Node) → List (Text × List Node)
  | [] => []
  | (label, body) :: rest => (label, withhold declarations body) :: withholdCases declarations rest

end

mutual

/-- The arguments of the formatted placeholders and the choices in a node. -/
def commandsOfNode : Node → List Text
  | .literal _ => []
  | .pluralValue => []
  | .simple _ _ _ _ => []
  | .formatted _ argument _ _ => [argument]
  | .choice _ argument _ cases _ => argument :: commandsOfCases cases

/-- The arguments of the formatted placeholders and the choices in a template, in the cases of choices too. -/
def commands : List Node → List Text
  | [] => []
  | n :: rest => commandsOfNode n ++ commands rest

/-- The arguments of the formatted placeholders and the choices in cases. -/
def commandsOfCases : List (Text × List Node) → List Text
  | [] => []
  | (_, body) :: rest => commands body ++ commandsOfCases rest

end

variable {s : Setting} {declarations : List Placeholder} {name : Text}

/-! ## Rendering what was withheld -/

/-- The labels of cases stay. -/
theorem map_fst_withholdCases (declarations : List Placeholder) (cs : List (Text × List Node)) :
    (withholdCases declarations cs).map Prod.fst = cs.map Prod.fst := by
  induction cs with
  | nil => rw [withholdCases]
  | cons c rest ih =>
      obtain ⟨label, body⟩ := c
      rw [withholdCases, List.map_cons, List.map_cons, ih]

/-- **A simple placeholder that is not admitted stays as it was written**, whatever there is for it. -/
theorem simple_of_not_admits (hmode : s.mode ≠ .composite) (hdeclared : s.declarations ≠ [])
    {argument : Text} (h : ¬ Admits s.declarations argument) (format : Option Text) (alignment : Option Int)
    (raw : Text) : simple s argument format alignment raw = .ok raw := by
  have hnumber : argument.isNumber = false := by
    rw [Bool.eq_false_iff]
    exact fun hnumber => h (.inl hnumber)
  have hfound : (s.declarations.find? fun p => decide (p.name.lower = argument.lower)) = none := by
    rw [List.find?_eq_none]
    intro p hp hname
    exact h (.inr ⟨p, hp, of_decide_eq_true hname⟩)
  have hsome : s.declarations.isEmpty = false := by
    rw [Bool.eq_false_iff]
    exact fun hempty => hdeclared (List.isEmpty_iff.mp hempty)
  rw [simple, if_neg hmode]
  show (if ((!s.declarations.isEmpty && !argument.isNumber)
    && (s.declarations.find? fun p => decide (p.name.lower = argument.lower)).isNone) = true then _ else _) = _
  rw [hnumber, hfound, hsome]
  rfl

mutual

theorem node_withholdNode (hmode : s.mode ≠ .composite) (hdeclared : s.declarations ≠ []) (number : Option Decimal)
    (n : Node) :
    node s number (withholdNode s.declarations n) = node s number n := by
  cases n with
  | literal t => rw [withholdNode]
  | pluralValue => rw [withholdNode]
  | simple argument format alignment raw =>
      rw [withholdNode]
      split
      · rfl
      · next h =>
        rw [node, node, simple_of_not_admits hmode hdeclared h]
  | formatted kind argument style raw => rw [withholdNode]
  | choice kind argument offset cases raw =>
      -- The case is chosen by the labels, and they are the same.
      have hbody := fun c => caseBody_withholdCases hmode hdeclared c cases
      simp only [withholdNode, node, map_fst_withholdCases, hbody]

theorem caseBody_withholdCases (hmode : s.mode ≠ .composite) (hdeclared : s.declarations ≠ []) (c : Choice)
    (cs : List (Text × List Node)) :
    caseBody s c (withholdCases s.declarations cs) = caseBody s c cs := by
  cases cs with
  | nil => rw [withholdCases]
  | cons first rest =>
      obtain ⟨label, body⟩ := first
      rw [withholdCases, caseBody, caseBody, nodes_withhold hmode hdeclared c.number body,
        caseBody_withholdCases hmode hdeclared c rest]

/-- **What is not admitted can be made literal text beforehand.** -/
theorem nodes_withhold (hmode : s.mode ≠ .composite) (hdeclared : s.declarations ≠ []) (number : Option Decimal)
    (ns : List Node) :
    nodes s number (withhold s.declarations ns) = nodes s number ns := by
  cases ns with
  | nil => rw [withhold]
  | cons n rest =>
      rw [withhold, nodes, nodes, node_withholdNode hmode hdeclared number n,
        nodes_withhold hmode hdeclared number rest]

end

/-! ## What is asked for in the end -/

mutual

theorem mem_noteNode_withholdNode {seen : List Text} (n : Node)
    (h : name ∈ noteNode seen (withholdNode declarations n)) :
    name ∈ seen ∨ Admits declarations name ∨ name ∈ commandsOfNode n := by
  cases n with
  | literal t => exact .inl h
  | pluralValue => exact .inl h
  | simple argument format alignment raw =>
      rw [withholdNode] at h
      split at h
      · next hadmits =>
        rcases mem_noteName.mp h with hseen | rfl
        · exact .inl hseen
        · exact .inr (.inl hadmits)
      · exact .inl h
  | formatted kind argument style raw =>
      rcases mem_noteName.mp h with hseen | rfl
      · exact .inl hseen
      · exact .inr (.inr (List.mem_singleton_self name))
  | choice kind argument offset cases raw =>
      rw [commandsOfNode, List.mem_cons]
      rcases mem_noteCases_withholdCases cases h with hnoted | hadmits | hcommand
      · rcases mem_noteName.mp hnoted with hseen | rfl
        · exact .inl hseen
        · exact .inr (.inr (.inl rfl))
      · exact .inr (.inl hadmits)
      · exact .inr (.inr (.inr hcommand))

theorem mem_noteCases_withholdCases {seen : List Text} (cs : List (Text × List Node))
    (h : name ∈ noteCases seen (withholdCases declarations cs)) :
    name ∈ seen ∨ Admits declarations name ∨ name ∈ commandsOfCases cs := by
  cases cs with
  | nil => exact .inl h
  | cons first rest =>
      obtain ⟨label, body⟩ := first
      rw [commandsOfCases, List.mem_append]
      rcases mem_noteCases_withholdCases rest h with hbody | hadmits | hcommand
      · rcases mem_noteNodes_withhold body hbody with hseen | hadmits | hcommand
        · exact .inl hseen
        · exact .inr (.inl hadmits)
        · exact .inr (.inr (.inl hcommand))
      · exact .inr (.inl hadmits)
      · exact .inr (.inr (.inr hcommand))

/-- **What a template asks for, apart from what was withheld**, is admitted or is the argument of a formatted
placeholder or a choice. -/
theorem mem_noteNodes_withhold {seen : List Text} (ns : List Node)
    (h : name ∈ noteNodes seen (withhold declarations ns)) :
    name ∈ seen ∨ Admits declarations name ∨ name ∈ commands ns := by
  cases ns with
  | nil => exact .inl h
  | cons n rest =>
      rw [commands, List.mem_append]
      rcases mem_noteNodes_withhold rest h with hnode | hadmits | hcommand
      · rcases mem_noteNode_withholdNode n hnode with hseen | hadmits | hcommand
        · exact .inl hseen
        · exact .inr (.inl hadmits)
        · exact .inr (.inr (.inl hcommand))
      · exact .inr (.inl hadmits)
      · exact .inr (.inr (.inr hcommand))

end

/-! ## Two tables -/

/-- A table answers by the name alone, so where two have the same under a name, settings with them do. -/
theorem value?_table_congr {c : Culture} {mode : Mode} {names : List Text} {pairs pairs' : List (ArgumentKey × Value)}
    (h : Arguments.inTable? name pairs = Arguments.inTable? name pairs') :
    Setting.value? ⟨c, .table pairs, mode, declarations, names⟩ name
      = Setting.value? ⟨c, .table pairs', mode, declarations, names⟩ name := by
  unfold Setting.value?
  simp only [Arguments.lookup?, h]

/-- **An entry with declared placeholders renders those**: placeholders that are not admitted are literal text, and
two tables with the same under every admitted name give the same result, if formatted placeholders and choices have
admitted names for their arguments. -/
theorem entry_of_declared {mode : Mode} {e : Entry} (hmode : mode.isArb = true) (hdeclared : e.placeholders ≠ []) :
    (∀ ns, parse mode (sourceText e) = .ok ns → ∀ c a, entry c a mode e
      = nodes ⟨c, a, mode, e.placeholders, argumentNames ns⟩ none (withhold e.placeholders ns)) ∧
    ((∀ ns, parse mode (sourceText e) = .ok ns → ∀ name ∈ commands ns, Admits e.placeholders name) →
      ∀ c pairs pairs', (∀ name, Admits e.placeholders name →
          Arguments.inTable? name pairs = Arguments.inTable? name pairs') →
        entry c (.table pairs) mode e = entry c (.table pairs') mode e) := by
  have hparses : mode.parsesPlaceholders = true := by
    cases mode <;> first | rfl | cases hmode
  have hcomposite : mode ≠ .composite := by
    rintro rfl
    cases hmode
  have hwithheld : ∀ ns, parse mode (sourceText e) = .ok ns → ∀ c a, entry c a mode e
      = nodes ⟨c, a, mode, e.placeholders, argumentNames ns⟩ none (withhold e.placeholders ns) := by
    intro ns hread c a
    rw [entry_eq_template hparses, template_of_parse c a e.placeholders hread]
    exact (nodes_withhold (s := ⟨c, a, mode, e.placeholders, argumentNames ns⟩) hcomposite hdeclared none ns).symm
  refine ⟨hwithheld, fun hcommands c pairs pairs' hsame => ?_⟩
  cases hread : parse mode (sourceText e) with
  | error f =>
      rw [entry_eq_template hparses, entry_eq_template hparses, template, template, hread]
      rfl
  | ok ns =>
      -- What is rendered is the same template with both tables, and it asks for admitted names only.
      rw [hwithheld ns hread, hwithheld ns hread]
      refine nodes_congr [] none (withhold e.placeholders ns) ⟨rfl, rfl, rfl, fun name hname => ?_⟩
      apply value?_table_congr
      apply hsame
      rcases mem_noteNodes_withhold ns hname with hseen | hadmits | hcommand
      · cases hseen
      · exact hadmits
      · exact hcommands ns hread name hcommand

/-- Seats, with a number and two simple placeholders; only two of the names are declared. -/
def declaredSeats : Entry :=
  { Entry.ofKey "seats" with
    text := some "\x7bn, number\x7d for \x7bguest\x7d \x7bnote\x7d"
    placeholders := [.named "n", .named "Guest"] }

theorem entry_of_declared_seats :
    declaredSeats.placeholders ≠ [] ∧
    (∀ ns, parse .arb (sourceText declaredSeats) = .ok ns →
      ∀ name ∈ commands ns, Admits declaredSeats.placeholders name) ∧
    entry (.ofConventions {} {} none) (.table (named [("guest", .text "Ada"), ("n", .int 5)])) .arb declaredSeats
      = .ok "5 for Ada \x7bnote\x7d" ∧
    ∀ pairs, (∀ name, Admits declaredSeats.placeholders name → Arguments.inTable? name
        (named [("guest", .text "Ada"), ("n", .int 5)]) = Arguments.inTable? name pairs) →
      entry (.ofConventions {} {} none) (.table (named [("guest", .text "Ada"), ("n", .int 5)])) .arb declaredSeats
        = entry (.ofConventions {} {} none) (.table pairs) .arb declaredSeats := by
  have hcommands : ∀ ns, parse .arb (sourceText declaredSeats) = .ok ns →
      ∀ name ∈ commands ns, Admits declaredSeats.placeholders name := by
    have hread : (match Template.read .arb (sourceText declaredSeats) with
        | .ok ns => decide (∀ name ∈ commands ns, Admits declaredSeats.placeholders name)
        | .error _ => false) = true := by decide +kernel
    intro ns hparse
    rw [ok_of_mapError hparse] at hread
    exact of_decide_eq_true hread
  have hdeclared : declaredSeats.placeholders ≠ [] := List.cons_ne_nil _ _
  exact ⟨hdeclared, hcommands, ok_of_toOption (by decide +kernel), fun pairs hsame =>
    (entry_of_declared rfl hdeclared).2 hcommands _ _ pairs hsame⟩

/-! ## Formatted placeholders ask for what is not declared -/

/-- No exception of the upper-case map comes to a capital N alone. -/
theorem upperExceptions_apart_n : ∀ e ∈ Unicode.upperExceptions, e.2 ≠ [0x4E] := by
  decide +kernel

/-- No run of the upper-case map moves a code point onto the capital N but that of the small letters. -/
theorem upperRuns_apart_n :
    ∀ r ∈ Unicode.upperRuns, r.last + r.shift < 0x4E ∨ 0x4E < r.first + r.shift ∨ r.shift = -32 := by
  decide +kernel

/-- Only two code points have the upper case of `n`. -/
theorem val_of_upper_n {x : CodePoint} (h : x.upper = [CodePoint.ofNat 0x4E]) : x.val = 0x6E ∨ x.val = 0x4E := by
  have hval : ∀ {n : Nat}, CodePoint.ofNat n = CodePoint.ofNat 0x4E → n = 0x4E := by
    intro n hn
    unfold CodePoint.ofNat at hn
    split at hn
    · exact congrArg CodePoint.val hn
    · exact absurd (congrArg CodePoint.val hn) (by decide)
  rcases CodePoint.upper_cases x with ⟨image, himage, hupper⟩ | ⟨r, hr, hfirst, hlast, hupper⟩ | hupper
  · rw [hupper, List.map_eq_singleton_iff] at h
    obtain ⟨n, rfl, hn⟩ := h
    rw [hval hn] at himage
    exact absurd rfl (upperExceptions_apart_n _ himage)
  · rw [hupper] at h
    have hnumber := hval (List.singleton_inj.mp h)
    have hapart := upperRuns_apart_n r hr
    omega
  · rw [hupper] at h
    exact .inr (congrArg CodePoint.val (List.singleton_inj.mp h))

/-- Two names only are `n` without regard to case. -/
theorem eq_n_of_fold (h : name.fold = Text.fold "n") : name = "n" ∨ name = "N" := by
  have hfold : Text.fold "n" = [CodePoint.ofNat 0x4E] := by decide +kernel
  rw [hfold] at h
  cases name with
  | nil => cases h
  | cons x rest =>
      have hsplit : x.upper ++ Text.fold rest = [CodePoint.ofNat 0x4E] := h
      rcases List.append_eq_singleton_iff.mp hsplit with ⟨hx, -⟩ | ⟨hx, hrest⟩
      · exact absurd hx (CodePoint.upper_ne_nil x)
      · rw [Text.fold_eq_nil.mp hrest]
        rcases val_of_upper_n hx with hval | hval
        · exact .inl (congrArg (List.cons · []) (CodePoint.eq_of_val hval))
        · exact .inr (congrArg (List.cons · []) (CodePoint.eq_of_val hval))

/-- The number of seats, where only another name is declared. -/
def undeclaredNumber : Entry :=
  { Entry.ofKey "seats" with text := some "\x7bn, number\x7d", placeholders := [.named "x"] }

/-- **A formatted placeholder does not look at the declarations**: two tables that are the same under every admitted
name come to two texts. -/
theorem number_ignores_declarations :
    undeclaredNumber.placeholders ≠ [] ∧
    (∀ name, Admits undeclaredNumber.placeholders name →
      Arguments.inTable? name (named [("n", .int 5)]) = Arguments.inTable? name []) ∧
    entry (.ofConventions {} {} none) (.table (named [("n", .int 5)])) .arb undeclaredNumber = .ok "5" ∧
    entry (.ofConventions {} {} none) (.table []) .arb undeclaredNumber = .ok "\x7bn, number\x7d" := by
  refine ⟨List.cons_ne_nil _ _, fun name hadmits => ?_, ok_of_toOption (by decide +kernel),
    ok_of_toOption (by decide +kernel)⟩
  have hfold : Text.fold "n" ≠ name.fold := by
    intro hfold
    rcases eq_n_of_fold hfold.symm with rfl | rfl
    · exact absurd hadmits (by decide +kernel)
    · exact absurd hadmits (by decide +kernel)
  have hname : Arguments.byName? name (named [("n", .int 5)]) = none := by
    show (([(ArgumentKey.name "n", Value.int 5)].reverse.find? fun p =>
      decide (p.1.toText.fold = name.fold)).map Prod.snd) = none
    simp [ArgumentKey.toText, hfold]
  rw [Arguments.inTable?, Arguments.inTable?, hname]
  rfl

end Phrasebook.Render
