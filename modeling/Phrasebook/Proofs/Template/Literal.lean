import Phrasebook.Proofs.Template.Print

/-!
# Literal text, written and read

The reader of literal text undoes `printLiteral`, whatever follows, as long as what follows ends
literal text (`literal_print`). In message format the delicate case is a text that starts or ends with
apostrophes and needs quotes: the outer quote and the doubled apostrophes stand together, and the
reader pairs them off from the left. `quoteFrom_print` shows that an odd run of them still comes out
as these apostrophes with a quote somewhere among them.
-/

namespace Phrasebook.Template

variable {x : Context}

/-- **`EndsLiteral x t`**: literal text that is read outside quotes ends where `t` begins. -/
def EndsLiteral (x : Context) (t : Text) : Prop :=
  ∀ c u, t = c :: u → x.stops c = true ∧ x.isDoubled false c u = false

theorem literalNode_of_ne {t : Text} (h : t ≠ []) : literalNode t = [.literal t] := by
  rw [literalNode, if_neg h]

theorem escaped_nil : escaped [] = [] := rfl

theorem escaped_apostrophe (t : Text) : escaped (apostrophe :: t) = apostrophe :: apostrophe :: escaped t :=
  Text.doubled_cons_of_pos (by decide) t

theorem escaped_other {c : CodePoint} (hc : c ≠ apostrophe) (t : Text) :
    escaped (c :: t) = c :: escaped t :=
  Text.doubled_cons_of_neg (by simpa using hc) t

theorem stops_apostrophe : x.stops apostrophe = false := by
  simp [Context.stops, CodePoint.ofChar_inj]

theorem EndsLiteral.head_ne_apostrophe {t : Text} (h : EndsLiteral x t) : t.head? ≠ some apostrophe := by
  intro hq
  cases t with
  | nil => cases hq
  | cons c u =>
      obtain rfl := Option.some.inj hq
      have hs := (h _ u rfl).1
      rw [stops_apostrophe] at hs
      exact Bool.false_ne_true hs

/-- Nothing is read where literal text ends. -/
theorem literalFrom_of_ends {t : Text} (h : EndsLiteral x t) : literalFrom x 0 false t = ([], t) := by
  cases t with
  | nil => rfl
  | cons c u =>
      obtain ⟨hs, hd⟩ := h c u rfl
      have hc : c ≠ apostrophe := by
        rintro rfl
        rw [stops_apostrophe] at hs
        exact Bool.false_ne_true hs
      simp [literalFrom, hd, hc, hs]

/-! ## Message format -/

section Message

variable (hx : x.mode = .arb)
include hx

theorem isDoubled_arb (quoted : Bool) (c : CodePoint) (t : Text) :
    x.isDoubled quoted c t = (decide (c = apostrophe) && decide (t.head? = some apostrophe)) := by
  cases t with
  | nil => simp [Context.isDoubled]
  | cons d t =>
      by_cases hc : c = apostrophe
      · subst hc
        simp [Context.isDoubled, hx, eq_comm]
      · simp [Context.isDoubled, hx, hc]

/-- A doubled apostrophe is read as one, inside quotes and outside. -/
theorem literalFrom_pair (quoted : Bool) (t : Text) :
    literalFrom x 0 quoted (apostrophe :: apostrophe :: t)
      = (apostrophe :: (literalFrom x 0 quoted t).1, (literalFrom x 0 quoted t).2) := by
  have hd : x.isDoubled quoted apostrophe (apostrophe :: t) = true := by
    rw [isDoubled_arb hx]
    simp
  rw [literalFrom.eq_def]
  simp [hd, literalFrom]

/-- A lone apostrophe starts or ends quoted text. -/
theorem literalFrom_quote (quoted : Bool) {t : Text} (h : t.head? ≠ some apostrophe) :
    literalFrom x 0 quoted (apostrophe :: t) = literalFrom x 0 (!quoted) t := by
  have hd : x.isDoubled quoted apostrophe t = false := by
    rw [isDoubled_arb hx]
    simpa using h
  rw [literalFrom.eq_def]
  simp [hd, hx, Mode.isArb]

/-- Anything else is read as it is, inside quotes or where it has no meaning. -/
theorem literalFrom_other {quoted : Bool} {c : CodePoint} (hc : c ≠ apostrophe)
    (h : quoted = true ∨ x.stops c = false) (t : Text) :
    literalFrom x 0 quoted (c :: t)
      = (c :: (literalFrom x 0 quoted t).1, (literalFrom x 0 quoted t).2) := by
  have hread : (quoted || !x.stops c) = true := by
    rcases h with h | h <;> simp [h]
  have hd : x.isDoubled quoted c t = false := by
    rw [isDoubled_arb hx]
    simp [hc]
  rw [literalFrom.eq_def]
  simp [hd, hc, hread]

/-- Text without meaning is read up to where it ends. -/
theorem plainFrom_print {t rest : Text} (ht : ∀ c ∈ t, x.stops c = false)
    (h : EndsLiteral x rest) :
    literalFrom x 0 false (escaped t ++ rest) = (t, rest) := by
  induction t with
  | nil => exact literalFrom_of_ends h
  | cons c t ih =>
      have ih := ih fun d hd => ht d (List.mem_cons_of_mem c hd)
      by_cases hc : c = apostrophe
      · subst hc
        rw [escaped_apostrophe, List.cons_append, List.cons_append,
          literalFrom_pair hx, ih]
      · rw [escaped_other hc, List.cons_append,
          literalFrom_other hx hc (.inr (ht c (by simp))), ih]

/-- Quoted text is read up to its closing quote. -/
theorem quotedFrom_print (t : Text) {rest : Text} (h : EndsLiteral x rest) :
    literalFrom x 0 true (escaped t ++ apostrophe :: rest) = (t, rest) := by
  induction t with
  | nil =>
      rw [escaped_nil, List.nil_append, literalFrom_quote hx true h.head_ne_apostrophe]
      exact literalFrom_of_ends h
  | cons c t ih =>
      by_cases hc : c = apostrophe
      · subst hc
        rw [escaped_apostrophe, List.cons_append, List.cons_append,
          literalFrom_pair hx, ih]
      · rw [escaped_other hc, List.cons_append,
          literalFrom_other hx hc (.inl rfl), ih]

/-- The opening quote together with the text after it. The apostrophes at the start of the text are
moved before the quote, one pair at a time, until the quote stands before something else. -/
theorem quoteFrom_print {t rest : Text} (ht : t.any x.stops = true) (h : EndsLiteral x rest) :
    literalFrom x 0 false (apostrophe :: (escaped t ++ apostrophe :: rest)) = (t, rest) := by
  induction t with
  | nil => cases ht
  | cons c t ih =>
      by_cases hc : c = apostrophe
      · -- The quote pairs with the first of the two, and the second is the quote of what is left.
        subst hc
        have hmore : t.any x.stops = true := by
          simpa [stops_apostrophe] using ht
        rw [escaped_apostrophe, List.cons_append, List.cons_append,
          literalFrom_pair hx, ih hmore]
      · have hne : (c :: (escaped t ++ apostrophe :: rest)).head? ≠ some apostrophe := by
          simpa using hc
        rw [escaped_other hc, List.cons_append,
          literalFrom_quote hx false hne, Bool.not_false,
          literalFrom_other hx hc (.inl rfl), quotedFrom_print hx t h]

/-- **Literal text of message format is read back.** -/
theorem literal_print_arb (t : Text) {rest : Text} (h : EndsLiteral x rest) :
    literal x (printLiteral x t ++ rest) = (t, rest) := by
  have hmode : x.mode ≠ .composite := by simp [hx]
  rw [printLiteral, if_neg hmode, literal]
  split
  · next ht =>
      rw [quoted, List.cons_append, List.append_assoc, List.singleton_append]
      exact quoteFrom_print hx ht h
  · next ht =>
      refine plainFrom_print hx ?_ h
      simpa using ht

end Message

/-! ## Composite format -/

section Composite

variable (hx : x.mode = .composite)
include hx

/-- A doubled brace is read as one, unless it closes a case. -/
theorem literalFrom_brace {c : CodePoint} (hc : c = leftBrace ∨ c = rightBrace ∧ x.inCase = false)
    (t : Text) :
    literalFrom x 0 false (c :: c :: t) = (c :: (literalFrom x 0 false t).1, (literalFrom x 0 false t).2) := by
  have hd : x.isDoubled false c (c :: t) = true := by
    rcases hc with rfl | ⟨rfl, hcase⟩
    · simp [Context.isDoubled, hx]
    · simp [Context.isDoubled, hx, hcase]
  rw [literalFrom.eq_def]
  simp [hd, literalFrom]

/-- Anything without a meaning is read as it is. -/
theorem literalFrom_plain {c : CodePoint} (hc : x.stops c = false) (t : Text) :
    literalFrom x 0 false (c :: t) = (c :: (literalFrom x 0 false t).1, (literalFrom x 0 false t).2) := by
  have hbraces : c ≠ leftBrace ∧ c ≠ rightBrace := by
    simp only [Context.stops, Bool.or_eq_false_iff, decide_eq_false_iff_not] at hc
    exact ⟨hc.1.1, hc.1.2⟩
  have hd : x.isDoubled false c t = false := by
    cases t with
    | nil => rfl
    | cons d t => simp [Context.isDoubled, hx, hbraces.1, hbraces.2]
  rw [literalFrom.eq_def]
  simp [hd, hx, Mode.isArb, hc]

/-- **Literal text of composite format is read back**, as far as that format can write it. -/
theorem literal_print_composite {t rest : Text}
    (hcase : x.inCase = true → rightBrace ∉ t) (hplural : x.inPlural = true → numberSign ∉ t)
    (h : EndsLiteral x rest) : literal x (printLiteral x t ++ rest) = (t, rest) := by
  rw [printLiteral, if_pos hx, literal]
  induction t with
  | nil => exact literalFrom_of_ends h
  | cons c t ih =>
      have ih := ih (fun hi hm => hcase hi (List.mem_cons_of_mem c hm))
        (fun hi hm => hplural hi (List.mem_cons_of_mem c hm))
      by_cases hc : c = leftBrace ∨ c = rightBrace
      · have hbrace : c = leftBrace ∨ c = rightBrace ∧ x.inCase = false := by
          refine hc.imp_right fun hr => ⟨hr, ?_⟩
          by_contra hi
          exact hcase (by simpa using hi) (by simp [hr])
        rw [Text.doubled_cons_of_pos (by simpa using hc), List.cons_append, List.cons_append,
          literalFrom_brace hx hbrace, ih]
      -- A brace is doubled, and anything else does not end literal text.
      · have hstops : x.stops c = false := by
          simp only [not_or] at hc
          simp only [Context.stops, Bool.or_eq_false_iff, decide_eq_false_iff_not,
            Bool.and_eq_false_iff]
          refine ⟨⟨hc.1, hc.2⟩, ?_⟩
          by_cases hi : x.inPlural = true
          · refine .inr fun hs => hplural hi ?_
            rw [hs]
            exact List.mem_cons_self
          · exact .inl (by simpa using hi)
        rw [Text.doubled_cons_of_neg (by simpa using hc), List.cons_append,
          literalFrom_plain hx hstops, ih]

end Composite

/-- The formats that can write every template tree. -/
def IsWritten (mode : Mode) : Prop := mode = .arb ∨ mode = .composite

/-- **Literal text is read back** in both formats, the empty text included. -/
theorem literal_print (hx : IsWritten x.mode) {t : Text} (ht : t ≠ [] → LiteralFits x t) {rest : Text}
    (h : EndsLiteral x rest) : literal x (printLiteral x t ++ rest) = (t, rest) := by
  rcases hx with hx | hx
  · exact literal_print_arb hx t h
  · cases t with
    | nil => exact literal_print_composite hx (by simp) (by simp) h
    | cons c t =>
        obtain ⟨_, hfits⟩ := ht (by simp)
        exact literal_print_composite hx (hfits hx).1 (hfits hx).2 h

end Phrasebook.Template
