import Phrasebook.Proofs.Template.RoundTrip

/-!
# Composite format, written and read

In composite format a run of braces may hold doubled braces of literal text, the braces around placeholders
and those around cases, and a closing brace means something else within a case. The tree is read back all the
same (`parse_print_composite`): a literal ends where its next neighbour begins, and no neighbour begins with a
doubled brace.

Numbers are read with a limit to their digits. Here that concerns alignments as well as offsets, and a wider
alignment is refused (`parse_print_wide`).
-/

namespace Phrasebook.Template

/-- **Composite format: a template tree is read back from its text**, but for how its nodes are written, if its
alignments and offsets have few enough digits for the reader of numbers. -/
theorem parse_print_composite {ns : List Node} (hns : NodesFit ⟨.composite, false, false⟩ ns)
    (hshort : ∀ n ∈ nodesNumbers ns, n < 10 ^ Count.digitLimit) :
    ∃ ns', parse .composite (print .composite ns) = .ok ns' ∧ bareNodes ns' = bareNodes ns :=
  parse_print_of_written (.inr rfl) hns hshort

/-- Prices in a column, with braces around the placeholder, and a select within a plural whose case starts and
ends with a placeholder. -/
def prices : List Node :=
  [.literal "\x7b", .simple "0" (some "N2\x7b") (some (-8)) [], .literal "\x7d\x7d", .simple "_x" none none [],
    .choice .plural "count" 1
      [("=0", [.literal "\x7bnone"]),
        ("other", [.choice .select "who" 0 [("me", [.simple "0" (some "") none []]),
          ("other", [.pluralValue, .literal "\x7b", .formatted .date "day" (.pattern "d ''of'' MMMM") []])] []])] []]

theorem parse_print_prices :
    NodesFit ⟨.composite, false, false⟩ prices ∧ (∀ n ∈ nodesNumbers prices, n < 10 ^ Count.digitLimit) ∧
      ∃ ns, parse .composite (print .composite prices) = .ok ns ∧ bareNodes ns = bareNodes prices := by
  have hstyle : StyleFits (.pattern "d ''of'' MMMM") := ⟨"d 'of' MMMM", by decide⟩
  have hfits : NodesFit ⟨.composite, false, false⟩ prices := by
    simp only [prices, NodesFit, NodeFits, CasesFit, hstyle, Node.isLiteral, Bool.false_eq_true, false_implies,
      and_true]
    decide +kernel
  have hnumbers : ∀ n ∈ nodesNumbers prices, n < 10 ^ Count.digitLimit := by
    intro n hn
    have hle : n < 10 ^ 1 := by
      simp [prices, nodesNumbers, nodeNumbers, casesNumbers] at hn
      omega
    exact Nat.lt_of_lt_of_le hle (Nat.pow_le_pow_right (by decide) (by decide))
  exact ⟨hfits, hnumbers, parse_print_composite hfits hnumbers⟩

/-! ## Wide alignments -/

/-- **A wider alignment is written, but not read back.** -/
theorem parse_print_wide {argument : Text} {format : Option Text} {width : Int} {raw : Text}
    (hfit : NodesFit ⟨.composite, false, false⟩ [.simple argument format (some width) raw])
    (hwidth : 10 ^ Count.digitLimit ≤ width.natAbs) :
    parse .composite (print .composite [.simple argument format (some width) raw])
      = .error (.obstacle .value) := by
  obtain ⟨⟨hargument, -⟩, -⟩ := id hfit
  have hends := endsLiteral_nodes hfit (by rintro m ⟨⟩; rfl) rfl
  rw [List.append_nil, ← print] at hends
  set x : Context := ⟨.composite, false, false⟩
  have hsplit : print .composite [.simple argument format (some width) raw] = leftBrace :: (argument
      ++ comma :: (Text.ofInt width ++ (printFormat format ++ [rightBrace]))) := by
    simp [print, printNodes, printNode, braced, printTail]
  rw [hsplit] at hends ⊢
  set t := argument ++ comma :: (Text.ofInt width ++ (printFormat format ++ [rightBrace]))
  -- The number of columns has too many digits to be read, and nothing before it is at fault.
  have hplaceholder : ∀ fuel, placeholder x (fuel + 1) (leftBrace :: t) t = .error .unreadableNumber := by
    intro fuel
    have hhead : head x.mode (leftBrace :: t) t = .error .unreadableNumber := by
      show head .composite _ (argument ++ comma :: _) = _
      rw [head_comma hargument, afterComma_ofInt,
        alignment_ofInt_error hwidth (digits_stop_format format [])]
      rfl
    rw [placeholder, hhead]
    rfl
  have hparses : Mode.composite.parsesPlaceholders = true := rfl
  rw [parse, Template.read, if_pos hparses, nodes_error hends (hplaceholder _)]
  rfl

/-- A column with the narrowest alignment that is too wide. -/
def wideColumn : List Node := [.simple "0" none (some ((10 ^ Count.digitLimit : Nat) : Int)) []]

theorem parse_print_wideColumn :
    (NodesFit ⟨.composite, false, false⟩ wideColumn ∧
      ¬∃ ns, parse .composite (print .composite wideColumn) = .ok ns ∧ bareNodes ns = bareNodes wideColumn) ∧
    NodesFit ⟨.composite, false, false⟩ longOffset ∧
      ¬∃ ns, parse .composite (print .composite longOffset) = .ok ns ∧ bareNodes ns = bareNodes longOffset := by
  have hcolumn : NodesFit ⟨.composite, false, false⟩ wideColumn := by
    have hargument : IsArgument .composite "0" := by decide
    refine ⟨⟨hargument, ?_, fun hne => absurd rfl hne⟩, ?_, trivial⟩
    · rintro f ⟨⟩
    · rintro ⟨⟩
  have hwide : 10 ^ Count.digitLimit ≤ ((10 ^ Count.digitLimit : Nat) : Int).natAbs :=
    Nat.le_of_eq (Int.natAbs_natCast _).symm
  have hoffset : NodesFit ⟨.composite, false, false⟩ longOffset := by
    simp only [longOffset, NodesFit, NodeFits, CasesFit, reduceCtorEq, false_implies]
    decide +kernel
  refine ⟨⟨hcolumn, ?_⟩, hoffset, ?_⟩
  · rintro ⟨ns, hread, -⟩
    rw [wideColumn, parse_print_wide hcolumn hwide] at hread
    cases hread
  · rintro ⟨ns, hread, -⟩
    rw [longOffset, parse_print_long_of_written (.inr rfl) hoffset (Nat.le_refl _)] at hread
    cases hread

end Phrasebook.Template
