import Phrasebook.Proofs.Template.Reading

/-!
# The nodes of a template tile its text

Where quotes have no meaning or there are none, a template is its literal texts and its placeholders as
they were written, one after the other, with nothing between them and nothing twice
(`Reading.written_eq`). A placeholder with an at sign is the exception: it is literal text without its
braces.
-/

namespace Phrasebook.Template

variable {x : Context} {mode : Mode} {s t u : Text} {ns ms : List Node}

/-- The texts that nodes stand for, one after the other. -/
def written (ns : List Node) : Text := ns.flatMap Node.written

theorem written_append (ns ms : List Node) : written (ns ++ ms) = written ns ++ written ms :=
  List.flatMap_append

theorem written_cons (n : Node) (ns : List Node) : written (n :: ns) = n.written ++ written ns :=
  List.flatMap_cons

theorem written_literalNode (t : Text) : written (literalNode t) = t := by
  unfold literalNode
  split
  · next h => rw [h]; rfl
  · exact List.append_nil t

/-- **`IsVerbatim mode t`**: literal text in `t` is read as it stands. -/
def IsVerbatim (mode : Mode) (t : Text) : Prop := mode = .arbNoEscaping ∨ mode = .arb ∧ apostrophe ∉ t

theorem IsVerbatim.of_suffix (h : IsVerbatim mode t) (hu : u <:+ t) : IsVerbatim mode u :=
  h.imp_right fun ⟨hmode, hmem⟩ => ⟨hmode, fun hu' => hmem (hu.subset hu')⟩

theorem literalFrom_verbatim {quoted : Bool} (hv : IsVerbatim x.mode t)
    (h : literalFrom x 0 quoted t = (s, u)) : t = s ++ u := by
  induction t generalizing quoted s with
  | nil => cases h; rfl
  | cons c t ih =>
      have ht : IsVerbatim x.mode t := hv.of_suffix (List.suffix_cons c t)
      have hsingle : ¬x.isDoubled quoted c t = true := by
        rcases hv with hm | ⟨hm, hmem⟩
        · cases t <;> simp [Context.isDoubled, hm]
        · have hc : c ≠ apostrophe := by
            rintro rfl
            exact hmem List.mem_cons_self
          simp [isDoubled_arb hm, hc]
      rw [literalFrom, if_neg hsingle] at h
      split at h
      · next hquote =>
          -- Without apostrophes only the mode that keeps its quotes is left.
          have hm : x.mode = .arbNoEscaping := by
            rcases hv with hm | ⟨-, hmem⟩
            · exact hm
            · rw [Bool.and_eq_true, decide_eq_true_eq] at hquote
              exact absurd (by simp [hquote.2]) hmem
          simp only [if_pos hm] at h
          obtain ⟨rfl, hu⟩ := Prod.mk.inj h
          rw [List.cons_append, ← ih ht (Prod.ext rfl hu)]
      split at h
      · obtain ⟨rfl, hu⟩ := Prod.mk.inj h
        rw [List.cons_append, ← ih ht (Prod.ext rfl hu)]
      · cases h
        rfl

/-- A placeholder without an at sign stands for the piece that it was read from. -/
theorem TakesPlaceholder.written {p : Text} {n : Node} (h : TakesPlaceholder x p n)
    (hat : p.head? ≠ some atSign) : n.written = leftBrace :: p := by
  have hread := h [] _ (Nat.le_refl _)
  rw [List.append_nil] at hread
  rw [(placeholder_node (fun _ => hat) hread).2]
  exact List.take_length

/-- **Literal texts and placeholders as they were written tile the text of a template.** -/
theorem Reading.written_eq (h : Reading x t ns u) (hv : IsVerbatim x.mode t)
    (hat : ¬[leftBrace, atSign] <:+: t) : Template.written ns ++ u = t := by
  induction h with
  | stop hliteral _ =>
      rw [written_literalNode]
      exact (literalFrom_verbatim hv hliteral).symm
  | @placeholder t s p v u n ns hliteral hp _ ih =>
      obtain rfl := literalFrom_verbatim hv hliteral
      have hsuffix : v <:+ s ++ leftBrace :: (p ++ v) := ⟨s ++ leftBrace :: p, by simp⟩
      have hp' : p.head? ≠ some atSign := by
        intro hhead
        rw [List.eq_cons_of_mem_head? hhead] at hat
        exact hat ⟨s, p.tail ++ v, by simp⟩
      have hrest := ih (hv.of_suffix hsuffix) (fun hmem => hat (hmem.trans hsuffix.isInfix))
      rw [written_append, written_literalNode, written_cons, hp.written hp']
      simp [hrest]
  | @number t s v u ns hliteral _ _ ih =>
      obtain rfl := literalFrom_verbatim hv hliteral
      have hsuffix : v <:+ s ++ numberSign :: v := ⟨s ++ [numberSign], by simp⟩
      have hrest := ih (hv.of_suffix hsuffix) (fun hmem => hat (hmem.trans hsuffix.isInfix))
      rw [written_append, written_literalNode, written_cons, Node.written]
      simp [hrest]

end Phrasebook.Template
