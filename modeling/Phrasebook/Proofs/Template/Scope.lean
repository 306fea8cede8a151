import Phrasebook.Proofs.Template.Agreement

/-!
# The scope of the number sign

A number sign stands for the number of a plural, so every one that is read as such stands in a case of a plural or
an ordinal, if only further up: selections pass it on (`isOwned_of_read`). The reader carries no more than a flag;
what is shown is that the flag is up just where there is an owner, by induction on the fuel for nodes, placeholders
and cases.
-/

namespace Phrasebook.Template

/-- A choice, seen from within one of its cases. -/
structure Enclosing where
  kind : ChoiceKind
  argument : Text
  offset : Nat
deriving DecidableEq

/-- The plural or ordinal that a number sign belongs to: of the choices around it, innermost first, the first that is
no selection. -/
def owner? (around : List Enclosing) : Option Enclosing := around.find? fun e => e.kind ≠ .select

mutual

/-- The number signs in a node, each told by the choices around it, innermost first. `around` are those around the
node. -/
def signsOfNode (around : List Enclosing) : Node → List (List Enclosing)
  | .literal _ => []
  | .simple _ _ _ _ => []
  | .pluralValue => [around]
  | .formatted _ _ _ _ => []
  | .choice kind argument offset cases _ => signsOfCases (⟨kind, argument, offset⟩ :: around) cases

/-- The number signs in nodes. -/
def signs (around : List Enclosing) : List Node → List (List Enclosing)
  | [] => []
  | n :: rest => signsOfNode around n ++ signs around rest

/-- The number signs in cases. -/
def signsOfCases (around : List Enclosing) : List (Text × List Node) → List (List Enclosing)
  | [] => []
  | (_, body) :: rest => signs around body ++ signsOfCases around rest

end

/-- Among the choices around a number sign is a plural or an ordinal. -/
def IsOwned (around : List Enclosing) : Prop := ∃ e ∈ around, e.kind ≠ .select

variable {around : List Enclosing} {mode : Mode} {x : Context} {t u : Text} {n : Node} {ns : List Node}

theorem isSome_owner?_iff : (owner? around).isSome ↔ IsOwned around := by
  rw [owner?, List.find?_isSome]
  simp [IsOwned]

theorem signs_append (around : List Enclosing) (ns ms : List Node) :
    signs around (ns ++ ms) = signs around ns ++ signs around ms := by
  induction ns with
  | nil => rfl
  | cons n ns ih => rw [List.cons_append, signs, signs, ih, List.append_assoc]

theorem signs_literalNode (around : List Enclosing) (t : Text) : signs around (literalNode t) = [] := by
  unfold literalNode
  split <;> rfl

/-! ## Heads -/

theorem signs_afterKind {whole argument : Text} {k : FormatKind ⊕ ChoiceKind} {c : CodePoint}
    (h : afterKind whole argument k c t = .ok (.node n, u)) : signsOfNode around n = [] := by
  rcases afterKind_cases h with ⟨_, -, -, -, hn⟩ | ⟨_, _, -, -, -, hn⟩ | ⟨_, -, -, -, hn⟩
  all_goals cases hn
  all_goals rfl

theorem signs_afterName {whole argument : Text} {c : CodePoint}
    (h : afterName mode whole argument c t = .ok (.node n, u)) : signsOfNode around n = [] := by
  rcases afterName_cases h with ⟨-, -, hn⟩ | ⟨_, -, -, -, -, hn⟩ | ⟨-, h⟩
  · cases hn
    rfl
  · cases hn
    rfl
  rcases afterComma_cases h with ⟨_, _, _, _, _, -, -, -, -, hn⟩ | ⟨_, _, _, _, -, -, h⟩
  · cases hn
    rfl
  · exact signs_afterKind h

/-- **There are no number signs in a placeholder without cases.** -/
theorem signs_head {whole : Text} (h : head mode whole t = .ok (.node n, u)) : signsOfNode around n = [] := by
  rcases head_cases h with ⟨_, -, -, -, hn⟩ | ⟨_, _, _, _, -, -, h⟩
  · cases hn
    rfl
  · exact signs_afterName h

/-! ## One more unit of fuel -/

/-- Wherever number signs are read as such, there is an owner. -/
def Context.Fits (x : Context) (around : List Enclosing) : Prop := x.inPlural = true → IsOwned around

/-- A case keeps the owners from further up, and that of a plural is an owner itself. -/
theorem Context.Fits.inside (h : x.Fits around) (kind : ChoiceKind) (argument : Text) (offset : Nat) :
    (x.inside kind).Fits (⟨kind, argument, offset⟩ :: around) := by
  intro hplural
  by_cases hk : kind = .select
  · obtain ⟨e, he, hkind⟩ := h (by simpa [Context.inside, hk] using hplural)
    exact ⟨e, List.mem_cons_of_mem _ he, hkind⟩
  · exact ⟨_, List.mem_cons_self, hk⟩

/-- With `fuel`, the number signs among nodes are owned. -/
def NodesAreOwned (fuel : Nat) : Prop :=
  ∀ {x : Context} {t u : Text} {ns : List Node} {around : List Enclosing}, nodes x fuel t = .ok (ns, u) →
    x.Fits around → ∀ s ∈ signs around ns, IsOwned s

/-- With `fuel`, the number signs in a placeholder are owned. -/
def PlaceholdersAreOwned (fuel : Nat) : Prop :=
  ∀ {x : Context} {whole t u : Text} {n : Node} {around : List Enclosing},
    placeholder x fuel whole t = .ok (n, u) → x.Fits around → ∀ s ∈ signsOfNode around n, IsOwned s

/-- With `fuel`, the number signs in cases are owned. -/
def CasesAreOwned (fuel : Nat) : Prop :=
  ∀ {x : Context} {kind : ChoiceKind} {argument t u : Text} {start : Nat} {cs : List (Text × List Node)}
    {around : List Enclosing}, cases x kind argument start fuel t = .ok (cs, u) → x.Fits around →
    ∀ s ∈ signsOfCases around cs, IsOwned s

theorem nodesAreOwned_succ {fuel : Nat} (hplaceholders : PlaceholdersAreOwned fuel)
    (hnodes : NodesAreOwned fuel) : NodesAreOwned (fuel + 1) := by
  intro x t u ns around h hfits s hs
  rcases nodes_cases h with ⟨-, rfl, -⟩ | ⟨_, -, -, rfl, -⟩ | ⟨_, n, _, more, -, hread, hmore, rfl⟩ |
    ⟨_, more, -, hplural, hmore, rfl⟩
  · rw [signs_literalNode] at hs
    cases hs
  · rw [signs_literalNode] at hs
    cases hs
  · rw [signs_append, signs_literalNode, List.nil_append, signs, List.mem_append] at hs
    rcases hs with hs | hs
    · exact hplaceholders hread hfits s hs
    · exact hnodes hmore hfits s hs
  · rw [signs_append, signs_literalNode, List.nil_append, signs, List.mem_append] at hs
    rcases hs with hs | hs
    · -- The sign itself: it is read only where the flag is up.
      obtain rfl := List.mem_singleton.mp hs
      exact hfits hplural
    · exact hnodes hmore hfits s hs

theorem placeholdersAreOwned_succ {fuel : Nat} (hcases : CasesAreOwned fuel) :
    PlaceholdersAreOwned (fuel + 1) := by
  intro x whole t u n around h hfits s hs
  rcases placeholder_cases h with hread | ⟨kind, argument, _, m, _, cs, -, -, hcs, -, rfl⟩
  · rw [signs_head hread] at hs
    cases hs
  · exact hcases hcs (hfits.inside kind argument m) s hs

theorem casesAreOwned_succ {fuel : Nat} (hnodes : NodesAreOwned fuel) (hcases : CasesAreOwned fuel) :
    CasesAreOwned (fuel + 1) := by
  intro x kind argument t u start cs around h hfits s hs
  rcases cases_cases h with ⟨_, -, -, rfl⟩ | ⟨_, _, _, _, inside, _, _, more, -, -, -, -, hbody, hmore, rfl⟩
  · cases hs
  · rw [signsOfCases, List.mem_append] at hs
    rcases hs with hs | hs
    · exact hnodes hbody hfits s hs
    · exact hcases hmore hfits s hs

/-- **All number signs that are read have an owner**, whatever the fuel. -/
theorem owned (fuel : Nat) : NodesAreOwned fuel ∧ PlaceholdersAreOwned fuel ∧ CasesAreOwned fuel := by
  induction fuel with
  | zero =>
      refine ⟨fun h _ s hs => ?_, fun h => ?_, fun h => ?_⟩
      · cases h
        cases hs
      · cases h
      · cases h
  | succ fuel ih =>
      obtain ⟨hnodes, hplaceholders, hcases⟩ := ih
      exact ⟨nodesAreOwned_succ hplaceholders hnodes, placeholdersAreOwned_succ hcases,
        casesAreOwned_succ hnodes hcases⟩

/-! ## Whole templates -/

/-- **Every number sign of a template stands in a case of a plural or an ordinal.** -/
theorem isOwned_of_read (h : Template.read mode t = .ok ns) : ∀ s ∈ signs [] ns, IsOwned s := by
  by_cases hmode : mode.parsesPlaceholders = true
  · obtain ⟨u, hread⟩ := nodes_of_read hmode h
    -- Outside all cases the flag is down, so there is nothing to show for it.
    exact (owned _).1 hread fun hplural => nomatch hplural
  · rw [Template.read, if_neg hmode] at h
    cases h
    intro s hs
    rw [signs_literalNode] at hs
    cases hs

end Phrasebook.Template
