import Phrasebook.Proofs.Template.Agreement
import Phrasebook.Proofs.Template.Apart
import Phrasebook.Proofs.Template.RoundTrip

/-!
# What a template consists of

The reader of templates as a relation, without fuel: nodes are literal text and then nothing more, a
placeholder or the sign for a number, and more nodes after these. `Reading` is exact
(`read_ok_iff`), and it can be cut and put together where the reader, which looks ahead, cannot: a
placeholder is read the same whatever follows it (`TakesPlaceholder`), and so are nodes up to the brace
that closes their case (`Reading.apart`).

That these go together is shown once, by induction on the fuel, for nodes, placeholders and cases.
-/

namespace Phrasebook.Template

variable {x : Context} {mode : Mode} {s t u v : Text} {n : Node} {ns : List Node}

/-! ## Literal text -/

/-- A code point that the reader of literal text takes as it is makes no pair with the next one. -/
theorem not_isDoubled_of_taken {quoted : Bool} {c : CodePoint}
    (hquote : ¬(x.mode.isArb && decide (c = apostrophe)) = true) (htaken : (quoted || !x.stops c) = true)
    (t : Text) : x.isDoubled quoted c t = false := by
  cases t with
  | nil => rfl
  | cons d t =>
      obtain ⟨mode, inCase, inPlural⟩ := x
      cases mode <;> cases quoted <;> simp_all [Context.isDoubled, Context.stops, Mode.isArb]

/-- A quote makes no pair with what ends literal text. -/
theorem not_isDoubled_quote {quoted : Bool} {c : CodePoint}
    (hquote : (x.mode.isArb && decide (c = apostrophe)) = true) (ht : EndsLiteral x t) :
    x.isDoubled quoted c t = false := by
  cases t with
  | nil => rfl
  | cons d t =>
      have hd : d ≠ apostrophe := by
        rintro rfl
        exact ht.head_ne_apostrophe rfl
      rw [Bool.and_eq_true, decide_eq_true_eq] at hquote
      simp [Context.isDoubled, hquote.2, hd.symm]

/-- Whether two code points make a pair is up to these two. -/
theorem isDoubled_append {quoted : Bool} {c : CodePoint} (hv : v ≠ []) (w : Text) :
    x.isDoubled quoted c (v ++ w) = x.isDoubled quoted c v := by
  obtain ⟨d, v, rfl⟩ := List.exists_cons_of_ne_nil hv
  rfl

theorem endsLiteral_append {c : CodePoint} (hv : v ≠ []) (h : EndsLiteral x (c :: (v ++ u))) (w : Text) :
    EndsLiteral x (c :: (v ++ w)) := by
  rintro d t ⟨⟩
  obtain ⟨hstops, hsingle⟩ := h c _ rfl
  rw [isDoubled_append hv] at hsingle ⊢
  exact ⟨hstops, hsingle⟩

/-- **Literal text is read the same whatever it ends before.** -/
theorem literalFrom_apart {skip : Nat} {quoted : Bool} (h : literalFrom x skip quoted t = (s, u))
    (hu : u ≠ []) :
    ∃ v, skip ≤ v.length ∧ t = v ++ u ∧
      ∀ w, EndsLiteral x w → literalFrom x skip quoted (v ++ w) = (s, w) := by
  induction t generalizing skip quoted s with
  | nil =>
      cases skip <;> exact absurd (Prod.mk.inj h).2.symm hu
  | cons c t ih =>
      cases skip with
      | succ skip =>
          obtain ⟨v, hskip, rfl, hread⟩ := ih h
          exact ⟨c :: v, Nat.succ_le_succ hskip, rfl, hread⟩
      | zero =>
          rw [literalFrom] at h
          split at h
          · next hdoubled =>
              -- The second code point of a pair is part of what is read, so the pair is one before any end.
              obtain ⟨v, hskip, rfl, hread⟩ := ih (Prod.ext rfl (Prod.mk.inj h).2)
              have hv : v ≠ [] := List.ne_nil_of_length_pos hskip
              refine ⟨c :: v, Nat.zero_le _, rfl, fun w hw => ?_⟩
              rw [isDoubled_append hv] at hdoubled
              rw [List.cons_append, literalFrom, isDoubled_append hv, if_pos hdoubled, hread w hw]
              exact Prod.ext (Prod.mk.inj h).1 rfl
          next hdoubled =>
          split at h
          · next hquote =>
              obtain ⟨v, -, rfl, hread⟩ := ih (Prod.ext rfl (Prod.mk.inj h).2)
              refine ⟨c :: v, Nat.zero_le _, rfl, fun w hw => ?_⟩
              -- A quote may be the last code point that is read, and then the end must not make a pair of it.
              have hsingle : x.isDoubled quoted c (v ++ w) ≠ true := by
                by_cases hv : v = []
                · rw [hv, List.nil_append, not_isDoubled_quote hquote hw]
                  exact Bool.false_ne_true
                · rwa [isDoubled_append hv] at hdoubled ⊢
              rw [List.cons_append, literalFrom, if_neg hsingle, if_pos hquote, hread w hw]
              exact Prod.ext (Prod.mk.inj h).1 rfl
          next hquote =>
          split at h
          · next htaken =>
              obtain ⟨v, -, rfl, hread⟩ := ih (Prod.ext rfl (Prod.mk.inj h).2)
              refine ⟨c :: v, Nat.zero_le _, rfl, fun w hw => ?_⟩
              have hsingle := not_isDoubled_of_taken hquote htaken (v ++ w)
              rw [List.cons_append, literalFrom, if_neg (by simp [hsingle]), if_neg hquote, if_pos htaken,
                hread w hw]
              exact Prod.ext (Prod.mk.inj h).1 rfl
          · next htaken =>
              cases h
              rw [Bool.or_eq_true, not_or, Bool.not_eq_true] at htaken
              -- Nothing is read, and so it is before any other end.
              refine ⟨[], Nat.le_refl 0, rfl, fun w hw => ?_⟩
              rw [htaken.1, List.nil_append]
              exact literalFrom_of_ends hw

/-- Literal text is the piece before its end, whatever that is. -/
theorem literal_apart (h : literal x t = (s, u)) (hu : u ≠ []) :
    ∃ v, t = v ++ u ∧ ∀ w, EndsLiteral x w → literal x (v ++ w) = (s, w) := by
  obtain ⟨v, -, ht, hread⟩ := literalFrom_apart h hu
  exact ⟨v, ht, hread⟩

theorem endsLiteral_of_literal (h : literal x t = (s, u)) : EndsLiteral x u := by
  have hends := endsLiteral_literalFrom x 0 false t
  rwa [← literal, h] at hends

/-- **Literal text that is read to the end is the start of any longer one**, unless a quote is left open. -/
theorem literalFrom_append {skip : Nat} (hquote : x.mode.isArb = true → apostrophe ∉ t)
    (h : literalFrom x skip false t = (s, [])) (hskip : skip ≤ t.length) (w : Text) :
    literalFrom x skip false (t ++ w) = (s ++ (literal x w).1, (literal x w).2) := by
  induction t generalizing skip s with
  | nil =>
      obtain rfl : skip = 0 := Nat.le_zero.mp hskip
      cases h
      rfl
  | cons c t ih =>
      have hquote' : x.mode.isArb = true → apostrophe ∉ t := fun hm hmem =>
        hquote hm (List.mem_cons_of_mem c hmem)
      cases skip with
      | succ skip => exact ih hquote' h (Nat.le_of_succ_le_succ hskip)
      | zero =>
          -- Without quotes there are two cases left: a pair, which lies in the first text as a whole, and a single
          -- code point.
          have hnone : ¬(x.mode.isArb && decide (c = apostrophe)) = true := by
            intro hc
            rw [Bool.and_eq_true, decide_eq_true_eq] at hc
            exact hquote hc.1 (by simp [hc.2])
          rw [literalFrom] at h
          split at h
          · next hdoubled =>
              have ht : t ≠ [] := by
                rintro rfl
                cases hdoubled
              have hread := ih hquote' (Prod.ext rfl (Prod.mk.inj h).2) (List.length_pos_of_ne_nil ht)
              rw [List.cons_append, literalFrom, isDoubled_append ht, if_pos hdoubled, hread]
              exact Prod.ext (by rw [← (Prod.mk.inj h).1]; rfl) rfl
          split at h
          · next htaken =>
              have hread := ih hquote' (Prod.ext rfl (Prod.mk.inj h).2) (Nat.zero_le _)
              have hsingle := not_isDoubled_of_taken hnone htaken (t ++ w)
              rw [List.cons_append, literalFrom, if_neg (by simp [hsingle]), if_neg hnone, if_pos htaken,
                hread]
              exact Prod.ext (by rw [← (Prod.mk.inj h).1]; rfl) rfl
          · cases h

/-! ## Nodes -/

/-- **`TakesPlaceholder x v n`**: after its opening brace a placeholder is read as `n` from the piece `v`,
whatever follows, with fuel enough for all of it. -/
def TakesPlaceholder (x : Context) (v : Text) (n : Node) : Prop :=
  ∀ w fuel, 2 * (v ++ w).length + 3 ≤ fuel →
    placeholder x fuel (leftBrace :: (v ++ w)) (v ++ w) = .ok (n, w)

/-- **`TakesCases x v cs`**: cases are read from the piece `v`, whatever follows. -/
def TakesCases (x : Context) (v : Text) (cs : List (Text × List Node)) : Prop :=
  ∀ kind argument start w fuel, 2 * (v ++ w).length + 2 ≤ fuel →
    cases x kind argument start fuel (v ++ w) = .ok (cs, w)

/-- **`Reading x t ns u`**: the text `t` starts with the nodes `ns`, and `u` is left. -/
inductive Reading (x : Context) : Text → List Node → Text → Prop where
  | stop {t s u : Text} (hliteral : literal x t = (s, u))
      (hend : u = [] ∨ x.inCase = true ∧ ∃ v, u = rightBrace :: v) : Reading x t (literalNode s) u
  | placeholder {t s p v u : Text} {n : Node} {ns : List Node}
      (hliteral : literal x t = (s, leftBrace :: (p ++ v))) (hp : TakesPlaceholder x p n)
      (hrest : Reading x v ns u) : Reading x t (literalNode s ++ n :: ns) u
  | number {t s v u : Text} {ns : List Node} (hliteral : literal x t = (s, numberSign :: v))
      (hplural : x.inPlural = true) (hrest : Reading x v ns u) :
      Reading x t (literalNode s ++ .pluralValue :: ns) u

theorem TakesPlaceholder.ne_nil (h : TakesPlaceholder x v n) : v ≠ [] := by
  rintro rfl
  have hread := h [] 3 (Nat.le_refl _)
  rw [placeholder] at hread
  obtain ⟨⟨found, u⟩, hhead, -⟩ := exists_of_bind hread
  rcases head_cases hhead with ⟨_, -, -, ht, -⟩ | ⟨_, lead, c, u, -, ht, -⟩
  · cases ht
  · exact List.append_ne_nil_of_right_ne_nil lead (List.cons_ne_nil c u) ht.symm

namespace Reading

/-- Nodes end with the text, or before the brace that closes their case. -/
theorem ends (h : Reading x t ns u) : u = [] ∨ x.inCase = true ∧ ∃ v, u = rightBrace :: v := by
  induction h with
  | stop _ hend => exact hend
  | placeholder _ _ _ ih => exact ih
  | number _ _ _ ih => exact ih

theorem length_literal {c : CodePoint} (h : literal x t = (s, c :: v)) : v.length < t.length := by
  have hsuffix := literalFrom_suffix x 0 false t
  rw [← literal, h] at hsuffix
  exact hsuffix.length_le

/-- **What is a reading is read**, with fuel enough for the text. -/
theorem nodes (h : Reading x t ns u) {fuel : Nat} (hfuel : 2 * t.length + 2 ≤ fuel) :
    Template.nodes x fuel t = .ok (ns, u) := by
  induction h generalizing fuel with
  | stop hliteral hend =>
      obtain ⟨fuel, rfl⟩ : ∃ f, fuel = f + 1 := ⟨fuel - 1, by omega⟩
      rcases hend with rfl | ⟨hcase, v, rfl⟩
      · exact nodes_end hliteral
      · exact nodes_close hcase hliteral
  | @placeholder t s p v u n ns hliteral hp _ ih =>
      obtain ⟨fuel, rfl⟩ : ∃ f, fuel = f + 1 := ⟨fuel - 1, by omega⟩
      have hlen := length_literal hliteral
      have hv : v.length ≤ (p ++ v).length := (List.suffix_append p v).length_le
      exact nodes_open hliteral (hp v fuel (by omega)) (ih (by omega))
  | number hliteral _ _ ih =>
      obtain ⟨fuel, rfl⟩ : ∃ f, fuel = f + 1 := ⟨fuel - 1, by omega⟩
      have hlen := length_literal hliteral
      exact nodes_number hliteral (ih (by omega))

/-- **Nodes are read the same whatever follows the brace that closes their case.** -/
theorem apart (h : Reading x t ns (rightBrace :: u)) :
    ∃ v, t = v ++ rightBrace :: u ∧ ∀ w, Reading x (v ++ rightBrace :: w) ns (rightBrace :: w) := by
  generalize hr : rightBrace :: u = r at h
  induction h with
  | stop hliteral hend =>
      subst hr
      have hcase : x.inCase = true := (hend.resolve_left (List.cons_ne_nil _ _)).1
      obtain ⟨v, rfl, hread⟩ := literal_apart hliteral (List.cons_ne_nil _ _)
      refine ⟨v, rfl, fun w => ?_⟩
      exact .stop (hread _ (endsLiteral_rightBrace hcase w)) (.inr ⟨hcase, w, rfl⟩)
  | @placeholder _ _ p _ _ _ _ hliteral hp _ ih =>
      obtain ⟨v, rfl, hrest⟩ := ih hr
      -- The piece before the brace and what follows it are read apart, and put together before any other end.
      have hends := endsLiteral_of_literal hliteral
      obtain ⟨l, rfl, hread⟩ := literal_apart hliteral (List.cons_ne_nil _ _)
      refine ⟨l ++ leftBrace :: (p ++ v), by simp, fun w => ?_⟩
      have hread := hread _ (endsLiteral_append hp.ne_nil hends (v ++ rightBrace :: w))
      have hpiece := Reading.placeholder hread hp (hrest w)
      simpa using hpiece
  | number hliteral hplural _ ih =>
      obtain ⟨v, rfl, hrest⟩ := ih hr
      obtain ⟨l, rfl, hread⟩ := literal_apart hliteral (List.cons_ne_nil _ _)
      refine ⟨l ++ numberSign :: v, by simp, fun w => ?_⟩
      have hpiece := Reading.number (hread _ (endsLiteral_numberSign hplural _)) hplural (hrest w)
      simpa using hpiece

end Reading

/-! ## One more unit of fuel -/

/-- With `fuel`, what is read as nodes is a reading. -/
def NodesAreReadings (fuel : Nat) : Prop :=
  ∀ {x : Context} {t u : Text} {ns : List Node}, nodes x fuel t = .ok (ns, u) → 2 * t.length + 2 ≤ fuel →
    Reading x t ns u

/-- With `fuel`, what is read as a placeholder is taken whatever follows. -/
def PlaceholdersAreTaken (fuel : Nat) : Prop :=
  ∀ {x : Context} {t u : Text} {n : Node}, placeholder x fuel (leftBrace :: t) t = .ok (n, u) →
    2 * t.length + 3 ≤ fuel → ∃ v, t = v ++ u ∧ TakesPlaceholder x v n

/-- With `fuel`, what is read as cases is taken whatever follows. -/
def CasesAreTaken (fuel : Nat) : Prop :=
  ∀ {x : Context} {kind : ChoiceKind} {argument t u : Text} {start : Nat} {cs : List (Text × List Node)},
    cases x kind argument start fuel t = .ok (cs, u) → x.inCase = true → 2 * t.length + 2 ≤ fuel →
    ∃ v, t = v ++ u ∧ rightBrace ∈ v ∧ TakesCases x v cs

/-- Nodes from their literal text, the placeholder after it, and the rest. -/
theorem nodesAreReadings_succ {fuel : Nat} (hplaceholders : PlaceholdersAreTaken fuel)
    (hnodes : NodesAreReadings fuel) : NodesAreReadings (fuel + 1) := by
  intro x t u ns h hfuel
  have hliteral : literal x t = ((literal x t).1, (literal x t).2) := rfl
  rcases nodes_cases h with ⟨hrest, rfl, rfl⟩ | ⟨v, hrest, hcase, rfl, rfl⟩ |
    ⟨v, n, w, more, hrest, hread, hmore, rfl⟩ | ⟨v, more, hrest, hplural, hmore, rfl⟩
  · exact .stop (hrest ▸ hliteral) (.inl rfl)
  · exact .stop (hrest ▸ hliteral) (.inr ⟨hcase, v, rfl⟩)
  · rw [hrest] at hliteral
    have hlen := Reading.length_literal hliteral
    obtain ⟨p, rfl, hp⟩ := hplaceholders hread (by omega)
    have hw : w.length ≤ (p ++ w).length := (List.suffix_append p w).length_le
    exact .placeholder hliteral hp (hnodes hmore (by omega))
  · rw [hrest] at hliteral
    have hlen := Reading.length_literal hliteral
    exact .number hliteral hplural (hnodes hmore (by omega))

/-- A placeholder from its head; only choices need more. -/
theorem placeholdersAreTaken_succ {fuel : Nat} (hcases : CasesAreTaken fuel) :
    PlaceholdersAreTaken (fuel + 1) := by
  intro x t u n h hfuel
  rcases placeholder_cases h with hread | ⟨kind, argument, v, m, w, cs, hread, hoffset, hcs, hne, rfl⟩
  · obtain ⟨lead, rfl, hhead⟩ := head_apart [leftBrace] hread
    refine ⟨lead, rfl, fun w fuel hfuel => ?_⟩
    obtain ⟨fuel, rfl⟩ : ∃ f, fuel = f + 1 := ⟨fuel - 1, by omega⟩
    rw [placeholder, ← List.singleton_append, hhead]
    rfl
  · obtain ⟨lead, rfl, hhead⟩ := head_apart [leftBrace] hread
    -- The cases are no longer than what stands after the head, so there is fuel for them.
    have hreach : Reaches x.mode 0 v 0 w := (reaches_stripStart x.mode 0 v).trans (reaches_offset hoffset 0)
    have hlen := hreach.length_le
    simp only [List.length_append] at hfuel
    obtain ⟨piece, rfl, hbrace, htakes⟩ := hcases hcs rfl (by omega)
    obtain ⟨q, rfl, hpiece⟩ := offset_stripStart_apart hoffset hbrace
    have hsplit : ∀ w : Text, lead ++ (q ++ piece) ++ w = lead ++ (q ++ (piece ++ w)) := by simp
    have hraw : ∀ w : Text, readPart (leftBrace :: (lead ++ (q ++ (piece ++ w)))) w
        = leftBrace :: (lead ++ (q ++ piece)) := by
      intro w
      rw [← hsplit, ← List.cons_append, readPart_append]
    refine ⟨lead ++ (q ++ piece), (hsplit _).symm, fun w fuel hfuel => ?_⟩
    rw [hsplit] at hfuel ⊢
    obtain ⟨fuel, rfl⟩ : ∃ f, fuel = f + 1 := ⟨fuel - 1, by omega⟩
    simp only [List.length_append] at hfuel
    rw [hraw, ← hraw w]
    refine placeholder_choice (hhead _) (hpiece w) (htakes kind argument _ w fuel ?_) hne
    simp only [List.length_append]
    omega

/-- Cases from a label and the nodes after it. -/
theorem casesAreTaken_succ {fuel : Nat} (hnodes : NodesAreReadings fuel) (hcases : CasesAreTaken fuel) :
    CasesAreTaken (fuel + 1) := by
  intro x kind argument t u start cs h hin hfuel
  rcases cases_cases h with ⟨b, hb, rfl, rfl⟩ |
    ⟨b, word, b', body, inside, d, w, more, hb, hword, hb', rfl, hbody, hmore, rfl⟩
  · refine ⟨b ++ [rightBrace], by simp, by simp, fun kind argument start w fuel hfuel => ?_⟩
    obtain ⟨fuel, rfl⟩ : ∃ f, fuel = f + 1 := ⟨fuel - 1, by omega⟩
    apply cases_close
    rw [List.append_assoc, Text.stripStart_append hb]
    exact Text.stripStart_of_stops (Text.stops_cons.mpr (by decide))
  simp only [List.length_append, List.length_cons] at hfuel
  have hreading := hnodes hbody (by omega)
  -- The reader takes whatever ends the body for its brace, but nodes end at nothing else.
  obtain rfl : d = rightBrace := by
    rcases hreading.ends with hnil | ⟨-, _, hclose⟩
    · cases hnil
    · exact (List.cons.inj hclose).1
  obtain ⟨p, rfl, hpiece⟩ := hreading.apart
  simp only [List.length_append, List.length_cons] at hfuel
  obtain ⟨q, rfl, -, htakes⟩ := hcases hmore hin (by omega)
  refine ⟨b ++ (word ++ (b' ++ leftBrace :: (p ++ rightBrace :: q))), by simp, by simp,
    fun kind argument start w fuel hfuel => ?_⟩
  obtain ⟨fuel, rfl⟩ : ∃ f, fuel = f + 1 := ⟨fuel - 1, by omega⟩
  simp only [List.length_append, List.length_cons] at hfuel
  have hread : nodes x fuel (p ++ rightBrace :: (q ++ w)) = .ok (inside, rightBrace :: (q ++ w)) := by
    apply (hpiece (q ++ w)).nodes
    simp only [List.length_append, List.length_cons]
    omega
  refine cases_label hword hb' ?_ hread (htakes kind argument start w fuel ?_)
  · rw [List.append_assoc, Text.stripStart_append hb, List.append_assoc,
      Text.stripStart_of_stops (hword.stops_blank _)]
    simp
  · simp only [List.length_append]
    omega

/-- **Everything that is read is taken in the same way whatever follows**, with enough fuel. -/
theorem taken (fuel : Nat) :
    NodesAreReadings fuel ∧ PlaceholdersAreTaken fuel ∧ CasesAreTaken fuel := by
  induction fuel with
  | zero =>
      refine ⟨fun _ hfuel => ?_, fun _ hfuel => ?_, fun _ _ hfuel => ?_⟩
      all_goals exact absurd hfuel (Nat.not_succ_le_zero _)
  | succ fuel ih =>
      obtain ⟨hnodes, hplaceholders, hcases⟩ := ih
      exact ⟨nodesAreReadings_succ hplaceholders hnodes, placeholdersAreTaken_succ hcases,
        casesAreTaken_succ hnodes hcases⟩

/-! ## Whole templates -/

/-- **A text is read as a template exactly if it consists of literal text and placeholders that are taken
whatever follows them.** -/
theorem read_ok_iff (hmode : mode.parsesPlaceholders = true) :
    Template.read mode t = .ok ns ↔ Reading ⟨mode, false, false⟩ t ns [] := by
  constructor
  · intro h
    obtain ⟨u, hread⟩ := nodes_of_read hmode h
    have hreading := (taken _).1 hread (Nat.le_refl _)
    -- Outside all cases nodes end at the end of the text only.
    obtain rfl : u = [] := by
      rcases hreading.ends with hnil | ⟨hcase, -⟩
      · exact hnil
      · cases hcase
    exact hreading
  · intro h
    rw [Template.read, if_pos hmode, h.nodes (Nat.le_refl _)]
    rfl

theorem parse_ok_iff (hmode : mode.parsesPlaceholders = true) :
    parse mode t = .ok ns ↔ Reading ⟨mode, false, false⟩ t ns [] := by
  rw [← read_ok_iff hmode]
  constructor
  · exact ok_of_mapError
  · intro h
    rw [parse, h]
    rfl

/-- **Templates one after the other are a template**: the literal text at the end of the first is joined
to that at the start of the second, and all other nodes stay as they are. -/
theorem Reading.append {t' : Text} {ms : List Node} (h : Reading x t ns [])
    (hquote : x.mode.isArb = true → apostrophe ∉ t) (h' : Reading x t' ms u) :
    ∃ before s s' after, ns = before ++ literalNode s ∧ ms = literalNode s' ++ after ∧
      Reading x (t ++ t') (before ++ (literalNode (s ++ s') ++ after)) u := by
  generalize hr : ([] : Text) = r at h
  induction h with
  | @stop t s r hliteral _ =>
      subst hr
      -- The last text of the first template goes on into the second one, up to where the text there ends.
      have hread := literalFrom_append hquote hliteral (Nat.zero_le _) t'
      rw [← literal] at hread
      cases h' with
      | @stop _ s' u hliteral' hend =>
          rw [hliteral'] at hread
          refine ⟨[], s, s', [], rfl, (List.append_nil _).symm, ?_⟩
          rw [List.append_nil]
          exact .stop hread hend
      | @placeholder _ s' p v u n ms hliteral' hp hrest =>
          rw [hliteral'] at hread
          exact ⟨[], s, s', n :: ms, rfl, rfl, .placeholder hread hp hrest⟩
      | @number _ s' v u ms hliteral' hplural hrest =>
          rw [hliteral'] at hread
          exact ⟨[], s, s', .pluralValue :: ms, rfl, rfl, .number hread hplural hrest⟩
  | @placeholder t s p v r n ns hliteral hp _ ih =>
      have hends := endsLiteral_of_literal hliteral
      -- What was read before the placeholder does not depend on what the rest is followed by.
      obtain ⟨l, rfl, hread⟩ := literal_apart hliteral (List.cons_ne_nil _ _)
      obtain ⟨before, a, b, after, rfl, rfl, hrest⟩ :=
        ih (fun hm hmem => hquote hm (by simp [hmem])) hr
      have hread := hread _ (endsLiteral_append hp.ne_nil hends (v ++ t'))
      refine ⟨literalNode s ++ n :: before, a, b, after, by simp, rfl, ?_⟩
      have hpiece := Reading.placeholder hread hp hrest
      simpa using hpiece
  | @number t s v r ns hliteral hplural _ ih =>
      obtain ⟨l, rfl, hread⟩ := literal_apart hliteral (List.cons_ne_nil _ _)
      obtain ⟨before, a, b, after, rfl, rfl, hrest⟩ :=
        ih (fun hm hmem => hquote hm (by simp [hmem])) hr
      refine ⟨literalNode s ++ .pluralValue :: before, a, b, after, by simp, rfl, ?_⟩
      have hpiece := Reading.number (hread _ (endsLiteral_numberSign hplural (v ++ t'))) hplural hrest
      simpa using hpiece

/-- **A name between braces is a template of its own.** -/
theorem parse_braced (hmode : mode.parsesPlaceholders = true) {argument : Text}
    (ha : IsArgument mode argument) :
    parse mode (braced argument) = .ok [.simple argument none none (braced argument)] := by
  rw [parse_ok_iff hmode]
  set x : Context := ⟨mode, false, false⟩
  have htakes : TakesPlaceholder x (argument ++ [rightBrace])
      (.simple argument none none (braced argument)) := by
    intro w fuel hfuel
    obtain ⟨fuel, rfl⟩ : ∃ f, fuel = f + 1 := ⟨fuel - 1, by omega⟩
    have hsplit : argument ++ [rightBrace] ++ w = argument ++ rightBrace :: w := by simp
    have hraw : readPart (leftBrace :: (argument ++ [rightBrace] ++ w)) w = braced argument :=
      readPart_append (braced argument) w
    rw [hsplit] at hraw ⊢
    rw [placeholder, head_close ha, ← hraw]
    rfl
  -- A name does not start with a brace, so the opening brace is not doubled.
  have hends : EndsLiteral x (braced argument) := by
    obtain ⟨c, argument, rfl⟩ := List.exists_cons_of_ne_nil ha.1
    have hc : leftBrace ≠ c := by
      rintro rfl
      exact absurd (ha.2.1 _ List.mem_cons_self) (by decide)
    rintro d t ⟨⟩
    exact ⟨by simp [Context.stops], by simp [Context.isDoubled, hc]⟩
  have hliteral : literal x (braced argument) = ([], leftBrace :: (argument ++ [rightBrace] ++ [])) := by
    rw [List.append_nil]
    exact literalFrom_of_ends hends
  exact .placeholder hliteral htakes (.stop rfl (.inl rfl))

end Phrasebook.Template
