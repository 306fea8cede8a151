import Phrasebook.Proofs.Template.Passage

/-!
# Templates that the pass for placeholders accepts

Two readers go through every text. The one reads a template, the other only looks for placeholders, and
a text is of no use unless both accept it. They agree on literal text, on quotes in message format and
on the braces of placeholders and cases at any depth: `reach` by induction on the fuel of the reader,
for nodes, placeholders and cases together.

They do not agree on what the reader takes as it is. A brace or an apostrophe in a style, a format, a
label or a text with an at sign counts for the pass, and in composite format the brace that opens a
body makes a pair with the one that starts it. So the pass may refuse a template
(`scan_refuses_adjacentBraces`). It accepts one exactly if its braces match as they stand
(`scan_accepts_read_iff`), which is the case if these parts are plain.
-/

namespace Phrasebook.Template

variable {mode : Mode} {d : Nat} {t u : Text}

/-! ## Plain parts -/

/-- Nodes that are not written with an opening brace at the start. -/
def StartsApart : List Node → Prop
  | [] => True
  | .literal t :: _ => t.head? ≠ some leftBrace
  | .pluralValue :: _ => True
  | _ :: _ => False

instance : (ns : List Node) → Decidable (StartsApart ns)
  | [] => inferInstanceAs (Decidable True)
  | .literal t :: _ => inferInstanceAs (Decidable (t.head? ≠ some leftBrace))
  | .pluralValue :: _ => inferInstanceAs (Decidable True)
  | .simple _ _ _ _ :: _ => inferInstanceAs (Decidable False)
  | .formatted _ _ _ _ :: _ => inferInstanceAs (Decidable False)
  | .choice _ _ _ _ _ :: _ => inferInstanceAs (Decidable False)

mutual

/-- **`NodePlain mode n`**: the parts of the node that are taken as they are are plain for the pass. -/
def NodePlain (mode : Mode) : Node → Prop
  | .choice _ _ _ cases _ => CasesPlain mode cases
  | .literal _ => True
  | .pluralValue => True
  | .simple _ format _ _ => FormatPlain mode format
  | .formatted _ _ style _ => StylePlain mode style

/-- The nodes are plain. -/
def NodesPlain (mode : Mode) : List Node → Prop
  | [] => True
  | n :: rest => NodePlain mode n ∧ NodesPlain mode rest

/-- The cases are plain, and in composite format no body adds to the brace that opens it. -/
def CasesPlain (mode : Mode) : List (Text × List Node) → Prop
  | [] => True
  | (word, body) :: rest =>
    (∀ c ∈ word, IsPlain mode c) ∧ (mode = .composite → StartsApart body) ∧ NodesPlain mode body ∧
      CasesPlain mode rest

end

mutual

/-- Whether a node is plain. -/
def decideNodePlain (mode : Mode) : (n : Node) → Decidable (NodePlain mode n)
  | .choice _ _ _ cases _ => decideCasesPlain mode cases
  | .literal _ => inferInstanceAs (Decidable True)
  | .pluralValue => inferInstanceAs (Decidable True)
  | .simple _ format _ _ => inferInstanceAs (Decidable (FormatPlain mode format))
  | .formatted _ _ style _ => inferInstanceAs (Decidable (StylePlain mode style))

/-- Whether nodes are plain. -/
def decideNodesPlain (mode : Mode) : (ns : List Node) → Decidable (NodesPlain mode ns)
  | [] => inferInstanceAs (Decidable True)
  | n :: rest =>
    have := decideNodePlain mode n
    have := decideNodesPlain mode rest
    inferInstanceAs (Decidable (_ ∧ _))

/-- Whether cases are plain. -/
def decideCasesPlain (mode : Mode) : (cs : List (Text × List Node)) → Decidable (CasesPlain mode cs)
  | [] => inferInstanceAs (Decidable True)
  | (word, body) :: rest =>
    have := decideNodesPlain mode body
    have := decideCasesPlain mode rest
    inferInstanceAs (Decidable ((∀ c ∈ word, IsPlain mode c) ∧ (mode = .composite → StartsApart body) ∧
      _ ∧ _))

end

instance (mode : Mode) (ns : List Node) : Decidable (NodesPlain mode ns) := decideNodesPlain mode ns

/-- Wherever a brace and an at sign stand, what follows is plain up to the closing brace. -/
def AtsPlain (mode : Mode) (t : Text) : Prop := ∀ u, leftBrace :: u <:+ t → AtPlain mode u

theorem AtsPlain.suffix (h : AtsPlain mode t) (hu : u <:+ t) : AtsPlain mode u :=
  fun v hv => h v (hv.trans hu)

theorem atsPlain_of_not_mem (h : atSign ∉ t) : AtsPlain mode t := by
  intro u hu _ v hv
  have hmem : atSign ∈ leftBrace :: u := by rw [hv]; simp
  exact absurd (hu.subset hmem) h

theorem nodesPlain_append {ns ms : List Node} (h : NodesPlain mode (ns ++ ms)) : NodesPlain mode ms := by
  induction ns with
  | nil => exact h
  | cons n ns ih => exact ih h.2

theorem NodePlain.head {n : Node} (h : NodePlain mode n) : HeadPlain mode n := by
  cases n <;> first | exact h | trivial

/-! ## What the reader of nodes does -/

/-- **Literal text ends** at the end, at a closing brace in a case, at a placeholder or at the sign for
the number; nothing else is read. -/
theorem nodes_cases {x : Context} {fuel : Nat} {ns : List Node} (h : nodes x (fuel + 1) t = .ok (ns, u)) :
    ((literal x t).2 = [] ∧ ns = literalNode (literal x t).1 ∧ u = []) ∨
    (∃ v, (literal x t).2 = rightBrace :: v ∧ x.inCase = true ∧ ns = literalNode (literal x t).1 ∧
      u = rightBrace :: v) ∨
    (∃ v n w more, (literal x t).2 = leftBrace :: v ∧
      placeholder x fuel (leftBrace :: v) v = .ok (n, w) ∧ nodes x fuel w = .ok (more, u) ∧
      ns = literalNode (literal x t).1 ++ n :: more) ∨
    (∃ v more, (literal x t).2 = numberSign :: v ∧ x.inPlural = true ∧
      nodes x fuel v = .ok (more, u) ∧ ns = literalNode (literal x t).1 ++ .pluralValue :: more) := by
  have hends : EndsLiteral x (literal x t).2 := endsLiteral_literalFrom x 0 false t
  rw [nodes] at h
  generalize literal x t = taken at h hends ⊢
  obtain ⟨text, rest⟩ := taken
  -- Literal text stops before four things only, so the last case is what the other three leave.
  cases rest with
  | nil =>
      cases h
      exact .inl ⟨rfl, rfl, rfl⟩
  | cons c v =>
      obtain ⟨hstops, -⟩ := hends c v rfl
      dsimp only at h ⊢
      split at h
      · next hc =>
        split at h
        · next hcase =>
            cases h
            exact .inr (.inl ⟨v, by rw [hc], hcase, rfl, by rw [hc]⟩)
        · cases h
      next hright =>
      split at h
      · next hc =>
          obtain ⟨⟨n, w⟩, hread, h⟩ := exists_of_bind h
          obtain ⟨⟨more, w'⟩, hmore, hok⟩ := exists_of_bind h
          cases hok
          rw [hc] at hread ⊢
          exact .inr (.inr (.inl ⟨v, n, w, more, rfl, hread, hmore, rfl⟩))
      next hleft =>
      obtain ⟨⟨more, w⟩, hmore, hok⟩ := exists_of_bind h
      cases hok
      have hsign : x.inPlural = true ∧ c = numberSign := by
        simpa [Context.stops, hleft, hright] using hstops
      exact .inr (.inr (.inr ⟨v, more, by rw [hsign.2], hsign.1, hmore, rfl⟩))

/-- The brace of a placeholder is not doubled. -/
theorem single_of_ends {x : Context} (hends : EndsLiteral x (leftBrace :: t))
    (hmode : x.mode = .composite) : t.head? ≠ some leftBrace := by
  intro hhead
  rw [List.eq_cons_of_mem_head? hhead] at hends
  obtain ⟨-, hsingle⟩ := hends _ _ rfl
  simp [Context.isDoubled, hmode] at hsingle

/-! ## The start of a body -/

/-- A placeholder of composite format is never a literal. -/
theorem placeholder_starts {x : Context} {fuel : Nat} {whole : Text} {n : Node}
    (hmode : x.mode.isArb = false) (h : placeholder x fuel whole t = .ok (n, u)) (more : List Node) :
    ¬StartsApart (n :: more) := by
  have hat : x.mode.isArb = true → t.head? ≠ some atSign := by simp [hmode]
  obtain ⟨⟨argument, hargument⟩, -⟩ := placeholder_node hat h
  cases n with
  | literal t => cases hargument
  | pluralValue => cases hargument
  | _ => exact id

/-- **In composite format the tree tells how its text starts.** -/
theorem head_of_startsApart {x : Context} {fuel : Nat} {ns : List Node} (hmode : x.mode = .composite)
    (h : nodes x (fuel + 1) t = .ok (ns, u)) (hns : StartsApart ns) : t.head? ≠ some leftBrace := by
  intro hhead
  obtain ⟨t, rfl⟩ : ∃ v, t = leftBrace :: v := ⟨t.tail, List.eq_cons_of_mem_head? hhead⟩
  by_cases hdouble : t.head? = some leftBrace
  · -- The pair is a literal that starts with a brace.
    obtain ⟨t, rfl⟩ : ∃ v, t = leftBrace :: v := ⟨t.tail, List.eq_cons_of_mem_head? hdouble⟩
    have hfirst : ∀ more, ¬StartsApart (literalNode (literal x (leftBrace :: leftBrace :: t)).1 ++ more) := by
      intro more
      rw [literal, literalFrom_brace hmode (.inl rfl), literalNode_of_ne (by simp)]
      exact fun hstart => hstart rfl
    rcases nodes_cases h with ⟨-, rfl, -⟩ | ⟨_, -, -, rfl, -⟩ | ⟨_, n, _, more, -, -, -, rfl⟩ |
      ⟨_, more, -, -, -, rfl⟩
    · exact hfirst [] (by rwa [List.append_nil])
    · exact hfirst [] (by rwa [List.append_nil])
    · exact hfirst _ hns
    · exact hfirst _ hns
  · -- A single brace opens a placeholder, and no node but a literal is made of that.
    have hends : EndsLiteral x (leftBrace :: t) := by
      rintro c v ⟨⟩
      refine ⟨by simp [Context.stops], ?_⟩
      cases t with
      | nil => rfl
      | cons c t =>
          have hc : leftBrace ≠ c := by
            rintro rfl
            exact hdouble rfl
          simp [Context.isDoubled, hc]
    rw [nodes, literal, literalFrom_of_ends hends] at h
    obtain ⟨⟨n, v⟩, hread, h⟩ := exists_of_bind h
    obtain ⟨⟨more, w⟩, -, hok⟩ := exists_of_bind h
    cases hok
    exact placeholder_starts (by rw [hmode]; rfl) hread more hns

/-! ## One more unit of fuel -/

/-- With `fuel`, nodes are passed over up to where they end. -/
def NodesReach (fuel : Nat) : Prop :=
  ∀ {x : Context} {t u : Text} {d : Nat} {ns : List Node}, nodes x fuel t = .ok (ns, u) →
    NodesPlain x.mode ns → AtsPlain x.mode t → x.mode.parsesPlaceholders = true →
    x.inCase = decide (d ≠ 0) → 2 * t.length + 2 ≤ fuel →
    Reaches x.mode d t d u ∧ (u = [] ∨ x.inCase = true ∧ ∃ v, u = rightBrace :: v)

/-- With `fuel`, a placeholder is passed over with its closing brace. -/
def PlaceholdersReach (fuel : Nat) : Prop :=
  ∀ {x : Context} {whole t u : Text} {d : Nat} {n : Node}, placeholder x fuel whole t = .ok (n, u) →
    NodePlain x.mode n → AtPlain x.mode t → AtsPlain x.mode t → x.mode.parsesPlaceholders = true →
    2 * t.length + 3 ≤ fuel → Reaches x.mode (d + 1) t d u

/-- With `fuel`, cases are passed over with the brace that closes their choice. -/
def CasesReach (fuel : Nat) : Prop :=
  ∀ {x : Context} {kind : ChoiceKind} {argument t u : Text} {start d : Nat}
    {cs : List (Text × List Node)}, cases x kind argument start fuel t = .ok (cs, u) →
    CasesPlain x.mode cs → AtsPlain x.mode t → x.mode.parsesPlaceholders = true → x.inCase = true →
    2 * t.length + 2 ≤ fuel → Reaches x.mode (d + 1) t d u

/-- Nodes from their literal text, the placeholder after it, and the rest. -/
theorem nodesReach_succ {fuel : Nat} (hplaceholder : PlaceholdersReach fuel)
    (hnodes : NodesReach fuel) : NodesReach (fuel + 1) := by
  intro x t u d ns h hns hats hmode hin hfuel
  have hliteral := reaches_literal hin t
  have hends : EndsLiteral x (literal x t).2 := endsLiteral_literalFrom x 0 false t
  rcases nodes_cases h with ⟨hrest, -, rfl⟩ | ⟨v, hrest, hcase, -, rfl⟩ |
    ⟨v, n, w, more, hrest, hread, hmore, rfl⟩ | ⟨v, more, hrest, -, hmore, rfl⟩
  · rw [hrest] at hliteral
    exact ⟨hliteral, .inl rfl⟩
  · rw [hrest] at hliteral
    exact ⟨hliteral, .inr ⟨hcase, v, rfl⟩⟩
  · obtain ⟨hn, hmoreplain⟩ : NodePlain x.mode n ∧ NodesPlain x.mode more := nodesPlain_append hns
    rw [hrest] at hliteral hends
    have hopen : x.mode = .composite → v.head? ≠ some leftBrace := single_of_ends hends
    have hlen := hliteral.length_le
    rw [List.length_cons] at hlen
    -- The pass goes through the literal, the brace, the placeholder and the rest, one after the other.
    have hbrace : Reaches x.mode d t (d + 1) v := hliteral.trans (reaches_open hopen d)
    have hinner : Reaches x.mode (d + 1) v d w :=
      hplaceholder hread hn (hats v hliteral.1) (hats.suffix hbrace.1) hmode (by omega)
    have hwhole : Reaches x.mode d t d w := hbrace.trans hinner
    have hlen' := hinner.length_le
    obtain ⟨hreach, hend⟩ := hnodes hmore hmoreplain (hats.suffix hwhole.1) hmode hin (by omega)
    exact ⟨hwhole.trans hreach, hend⟩
  · obtain ⟨-, hmoreplain⟩ : NodePlain x.mode .pluralValue ∧ NodesPlain x.mode more :=
      nodesPlain_append hns
    rw [hrest] at hliteral
    have hsign : IsPlain x.mode numberSign := ⟨by decide, by decide, fun _ => by decide⟩
    have hlen := hliteral.length_le
    rw [List.length_cons] at hlen
    have hwhole : Reaches x.mode d t d v := hliteral.trans (reaches_cons hsign d v)
    obtain ⟨hreach, hend⟩ := hnodes hmore hmoreplain (hats.suffix hwhole.1) hmode hin (by omega)
    exact ⟨hwhole.trans hreach, hend⟩

/-- A placeholder from its head; only choices need more. -/
theorem placeholdersReach_succ {fuel : Nat} (hcases : CasesReach fuel) :
    PlaceholdersReach (fuel + 1) := by
  intro x whole t u d n h hn hat hats hmode hfuel
  rcases placeholder_cases h with hread | ⟨kind, argument, v, m, w, cs, hread, hoffset, hcs, -, rfl⟩
  · exact reaches_head hread hn.head hat hmode d
  · have hhead : Reaches x.mode (d + 1) t (d + 1) v := reaches_head hread trivial hat hmode d
    have hstart : Reaches x.mode (d + 1) t (d + 1) w :=
      hhead.trans ((reaches_stripStart x.mode (d + 1) v).trans (reaches_offset hoffset (d + 1)))
    have hlen := hstart.length_le
    exact hstart.trans
      (hcases (x := x.inside kind) hcs hn (hats.suffix hstart.1) hmode rfl (by omega))

/-- Cases from a label and the nodes after it. -/
theorem casesReach_succ {fuel : Nat} (hnodes : NodesReach fuel) (hcases : CasesReach fuel) :
    CasesReach (fuel + 1) := by
  intro x kind argument t u start d cs h hcs hats hmode hin hfuel
  rcases cases_cases h with ⟨b, hb, rfl, rfl⟩ |
    ⟨b, word, b', body, inside, c, w, more, hb, -, hb', rfl, hbody, hmore, rfl⟩
  · exact (reaches_blank hb (d + 1) _).trans (reaches_close d u)
  obtain ⟨hplain, hapart, hbodyplain, hmoreplain⟩ := hcs
  generalize ht : b ++ (word ++ (b' ++ leftBrace :: body)) = t at hats hfuel ⊢
  have hlabel : Reaches x.mode (d + 1) t (d + 1) (leftBrace :: body) := by
    rw [← ht]
    exact (reaches_blank hb (d + 1) _).trans
      ((reaches_run hplain (d + 1) _).trans (reaches_blank hb' (d + 1) _))
  have hlen := hlabel.length_le
  rw [List.length_cons] at hlen
  obtain ⟨fuel, rfl⟩ : ∃ f, fuel = f + 1 := ⟨fuel - 1, by omega⟩
  -- The brace of the body is not doubled, since the body does not start with another one.
  have hopen : x.mode = .composite → body.head? ≠ some leftBrace := fun hcomposite =>
    head_of_startsApart hcomposite hbody (hapart hcomposite)
  have hbrace : Reaches x.mode (d + 1) t (d + 1 + 1) body :=
    hlabel.trans (reaches_open hopen (d + 1))
  obtain ⟨hinside, hend⟩ := hnodes (d := d + 1 + 1) hbody hbodyplain (hats.suffix hbrace.1) hmode
    (by simpa using hin) (by omega)
  -- The reader takes whatever ends the body for its brace, but nodes end at nothing else.
  obtain ⟨v, hclose⟩ : ∃ v, _ :: w = rightBrace :: v := by
    rcases hend with hnil | ⟨-, hclose⟩
    · cases hnil
    · exact hclose
  rw [hclose] at hinside
  obtain ⟨-, rfl⟩ := List.cons.inj hclose
  have hcase : Reaches x.mode (d + 1) t (d + 1) w :=
    hbrace.trans (hinside.trans (reaches_close (d + 1) w))
  have hlen' := hinside.length_le
  rw [List.length_cons] at hlen'
  exact hcase.trans (hcases hmore hmoreplain (hats.suffix hcase.1) hmode hin (by omega))

/-- **Reader and pass go together**, with enough fuel for the reader. -/
theorem reach (fuel : Nat) : NodesReach fuel ∧ PlaceholdersReach fuel ∧ CasesReach fuel := by
  induction fuel with
  | zero =>
      refine ⟨fun _ _ _ _ _ hfuel => ?_, fun _ _ _ _ _ hfuel => ?_, fun _ _ _ _ _ hfuel => ?_⟩
      all_goals exact absurd hfuel (Nat.not_succ_le_zero _)
  | succ fuel ih =>
      obtain ⟨hnodes, hplaceholders, hcases⟩ := ih
      exact ⟨nodesReach_succ hplaceholders hnodes, placeholdersReach_succ hcases,
        casesReach_succ hnodes hcases⟩

/-! ## Whole templates -/

/-- A pass that has met a brace has found a placeholder, if it comes through. -/
theorem found_of_scan {skip : Nat} {s : ScanState} {b : Bool} (h : scanFrom mode skip s t = .ok b)
    (hs : s.found = true ∨ 0 < s.depth) : b = true := by
  induction t generalizing skip s with
  | nil =>
      rw [scanFrom.eq_def] at h
      simp only at h
      split at h
      · cases h
      · next hdepth =>
          cases h
          exact hs.resolve_right hdepth
  | cons c t ih =>
      cases skip with
      | succ skip => exact ih h hs
      | zero =>
          rw [scanFrom] at h
          split at h
          · exact ih h hs
          split at h
          · exact ih h hs
          split at h
          · exact ih h hs
          split at h
          · exact ih h (.inr (Nat.succ_pos s.depth))
          split at h
          · split at h
            · exact ih h (.inl rfl)
            · cases h
          · exact ih h hs

theorem nodes_of_read (hmode : mode.parsesPlaceholders = true) {ns : List Node}
    (hread : Template.read mode t = .ok ns) :
    ∃ u, nodes ⟨mode, false, false⟩ (2 * t.length + 2) t = .ok (ns, u) := by
  rw [Template.read, if_pos hmode] at hread
  cases hr : nodes ⟨mode, false, false⟩ (2 * t.length + 2) t with
  | error e =>
      rw [hr] at hread
      cases hread
  | ok taken =>
      rw [hr] at hread
      cases hread
      exact ⟨taken.2, rfl⟩

/-- **The first placeholder of a template is found**, if the pass comes through at all. -/
theorem found_of_read (hmode : mode.parsesPlaceholders = true) {ns : List Node}
    (hread : Template.read mode t = .ok ns) {b : Bool} (h : hasPlaceholders mode t = .ok b)
    (hns : isLiteral ns = false) : b = true := by
  rw [hasPlaceholders, if_pos hmode] at h
  obtain ⟨u, hnodes⟩ := nodes_of_read hmode hread
  set x : Context := ⟨mode, false, false⟩
  have hliteral : isLiteral (literalNode (literal x t).1) = true := by
    rw [literalNode]
    split <;> rfl
  rcases nodes_cases hnodes with ⟨-, rfl, -⟩ | ⟨_, -, hcase, -⟩ | ⟨v, n, w, more, hrest, -⟩ |
    ⟨_, _, -, hplural, -⟩
  · rw [hliteral] at hns
    cases hns
  · cases hcase
  · have hends : EndsLiteral x (leftBrace :: v) := hrest ▸ endsLiteral_literalFrom x 0 false t
    have hopen : mode = .composite → v.head? ≠ some leftBrace := single_of_ends hends
    obtain ⟨s, hs, hscan⟩ := (reaches_literal (d := 0) (x := x) rfl t).2 .start isAt_start
    rw [hrest] at hscan
    have hpass : scanFrom mode 0 (s.openBrace (v.length + 1)) v = .ok b := by
      rw [← scan_open hs.1 hopen, ← h]
      exact hscan.symm
    exact found_of_scan hpass (.inr (Nat.succ_pos s.depth))
  · cases hplural

/-- **A template with plain parts is accepted.** -/
theorem accepts_of_plain (hmode : mode.parsesPlaceholders = true) {ns : List Node}
    (hread : Template.read mode t = .ok ns) (hns : NodesPlain mode ns) (hats : AtsPlain mode t) :
    ∃ b, hasPlaceholders mode t = .ok b := by
  obtain ⟨u, hnodes⟩ := nodes_of_read hmode hread
  obtain ⟨hreach, hend⟩ := (reach _).1 (d := 0) hnodes hns hats hmode rfl (Nat.le_refl _)
  -- Outside all cases nodes end at the end of the text only.
  have hnil : u = [] := by
    rcases hend with hnil | ⟨hcase, -⟩
    · exact hnil
    · cases hcase
  subst hnil
  obtain ⟨s, hs, hscan⟩ := hreach.2 .start isAt_start
  have hdepth : ¬s.depth > 0 := by rw [hs.2]; exact Nat.lt_irrefl 0
  refine ⟨s.found, ?_⟩
  rw [hasPlaceholders, if_pos hmode, hscan, scanFrom, if_neg hdepth]

/-- **The pass for placeholders accepts a template exactly if its braces match as they stand**, and then
it finds its placeholders. They match if the parts of the template that are taken as they are are
plain. -/
theorem scan_accepts_read_iff (hmode : mode.parsesPlaceholders = true) {ns : List Node}
    (hread : Template.read mode t = .ok ns) :
    ((∃ b, hasPlaceholders mode t = .ok b ∧ (isLiteral ns = false → b = true)) ↔
      Matched mode false t) ∧
    (NodesPlain mode ns → AtsPlain mode t → Matched mode false t) := by
  constructor
  · rw [← hasPlaceholders_ok_iff hmode]
    constructor
    · rintro ⟨b, hscan, -⟩
      exact ⟨b, hscan⟩
    · rintro ⟨b, hscan⟩
      exact ⟨b, hscan, found_of_read hmode hread hscan⟩
  · intro hns hats
    exact (hasPlaceholders_ok_iff hmode t).mp (accepts_of_plain hmode hread hns hats)

/-- A plural with a select in a body, a brace in a quoted pattern and a quoted brace. -/
def plainParts : Text :=
  "\x7bn, plural, one\x7b\x7bd, date, 'd''\x7d'\x7d\x7d other\x7b# '\x7b'\x7bw, select, a\x7bb\x7d\x7d\x7d\x7d"

theorem scan_accepts_plainParts :
    ∃ ns, Mode.arb.parsesPlaceholders = true ∧ Template.read .arb plainParts = .ok ns ∧
      NodesPlain .arb ns ∧ AtsPlain .arb plainParts ∧
      ∃ b, hasPlaceholders .arb plainParts = .ok b ∧ (isLiteral ns = false → b = true) := by
  have hplain : (match Template.read .arb plainParts with
      | .ok ns => decide (NodesPlain .arb ns)
      | .error _ => false) = true := by decide +kernel
  have hats : AtsPlain .arb plainParts := atsPlain_of_not_mem (by decide)
  split at hplain
  · next ns hread =>
      have hns : NodesPlain .arb ns := of_decide_eq_true hplain
      obtain ⟨hiff, hmatched⟩ := scan_accepts_read_iff rfl hread
      exact ⟨ns, rfl, hread, hns, hats, hiff.mpr (hmatched hns hats)⟩
  · cases hplain

/-- A plural in composite format whose bodies are placeholders. -/
def adjacentBraces : Text := "\x7bn, plural, one\x7b\x7bx\x7d\x7d other\x7b\x7by\x7d\x7d\x7d"

theorem scan_refuses_adjacentBraces :
    (∃ ns, Template.read .composite adjacentBraces = .ok ns) ∧
      ¬∃ b, hasPlaceholders .composite adjacentBraces = .ok b := by
  have hread : (Template.read .composite adjacentBraces).isOk = true := by decide +kernel
  have hscan : (hasPlaceholders .composite adjacentBraces).isOk = false := by decide +kernel
  constructor
  · cases h : Template.read .composite adjacentBraces with
    | ok ns => exact ⟨ns, rfl⟩
    | error e =>
        rw [h] at hread
        cases hread
  · rintro ⟨b, h⟩
    rw [h] at hscan
    cases hscan

end Phrasebook.Template
