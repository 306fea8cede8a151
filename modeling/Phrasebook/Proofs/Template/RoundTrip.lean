import Phrasebook.Proofs.Template.Head
import Phrasebook.Proofs.Template.Literal

/-!
# Templates, written and read

Reading undoes printing: `nodes_print` by induction on the fuel, for nodes, placeholders and cases
together. What carries it is that every reader is told what follows the text it should take. Nodes end
at the end of the text or, in a case, at its closing brace (`Closes`), and a literal ends where its next
neighbour begins (`endsLiteral_nodes`).
-/

namespace Phrasebook.Template

variable {x : Context}

/-- **`Closes x t`**: nodes that stand in `x` end where `t` begins. -/
def Closes (x : Context) (t : Text) : Prop :=
  if x.inCase = true then ∃ u, t = rightBrace :: u else t = []

/-- Numbers with few enough digits to be read back. -/
def AreShort (numbers : List Nat) : Prop := ∀ n ∈ numbers, n < 10 ^ Count.digitLimit

theorem AreShort.left {ns ms : List Nat} (h : AreShort (ns ++ ms)) : AreShort ns :=
  fun n hn => h n (List.mem_append_left ms hn)

theorem AreShort.right {ns ms : List Nat} (h : AreShort (ns ++ ms)) : AreShort ms :=
  fun n hn => h n (List.mem_append_right ns hn)

/-! ## The first literal -/

/-- Nodes that do not start with a literal. -/
def StartsOpen (ns : List Node) : Prop := ∀ n ∈ ns.head?, n.isLiteral = false

/-- The literal at the start of some nodes, empty if there is none, and the nodes after it. -/
def firstLiteral : List Node → Text × List Node
  | .literal t :: rest => (t, rest)
  | ns => ([], ns)

/-- **Nodes are a literal, perhaps empty, and nodes that do not start with one.** -/
theorem firstLiteral_spec {ns : List Node} (h : NodesFit x ns) :
    ns = literalNode (firstLiteral ns).1 ++ (firstLiteral ns).2 ∧
      printNodes x ns = printLiteral x (firstLiteral ns).1 ++ printNodes x (firstLiteral ns).2 ∧
      ((firstLiteral ns).1 ≠ [] → LiteralFits x (firstLiteral ns).1) ∧
      NodesFit x (firstLiteral ns).2 ∧ StartsOpen (firstLiteral ns).2 := by
  have hempty : printLiteral x [] = [] := by
    simp [printLiteral, escaped, Text.doubled_nil]
  cases ns with
  | nil => exact ⟨rfl, by simp [firstLiteral, hempty], fun ht => absurd rfl ht, h, fun m hm => by cases hm⟩
  | cons n rest =>
      obtain ⟨hn, hnext, hrest⟩ := h
      cases n with
      | literal t =>
          refine ⟨?_, rfl, fun _ => hn, hrest, hnext rfl⟩
          rw [firstLiteral, literalNode_of_ne hn.1]
          rfl
      | _ =>
          refine ⟨rfl, ?_, fun ht => absurd rfl ht, ⟨hn, hnext, hrest⟩, ?_⟩
          · simp [firstLiteral, hempty]
          · intro m hm
            obtain rfl := Option.some.inj hm
            rfl

/-! ## The brace that opens a placeholder -/

/-- A node other than text and the number sign stands between braces, and starts with its name. -/
theorem printNode_braced {n : Node} (hn : NodeFits x n) (hlit : n.isLiteral = false)
    (hplural : n ≠ .pluralValue) :
    ∃ c t, printNode x n = leftBrace :: c :: t ∧ isNamePoint c = true := by
  have hbraced : ∀ argument u, IsArgument x.mode argument →
      ∃ c t, braced (argument ++ u) = leftBrace :: c :: t ∧ isNamePoint c = true := by
    rintro argument u ⟨hne, hpoints, -⟩
    obtain ⟨c, t, rfl⟩ := List.exists_cons_of_ne_nil hne
    exact ⟨c, _, rfl, hpoints c (by simp)⟩
  -- The two that are not written with braces are ruled out; the others start with their argument.
  cases n with
  | literal t => cases hlit
  | pluralValue => exact absurd rfl hplural
  | simple argument format alignment raw => exact hbraced argument _ hn.1
  | formatted kind argument style raw => exact hbraced argument _ hn.1
  | choice kind argument offset cases raw => exact hbraced argument _ hn.1

theorem printNode_ne_nil {n : Node} (hn : NodeFits x n) (hlit : n.isLiteral = false) :
    printNode x n ≠ [] := by
  by_cases hplural : n = .pluralValue
  · subst hplural
    simp [printNode]
  · obtain ⟨c, t, hprint, -⟩ := printNode_braced hn hlit hplural
    rw [hprint]
    simp

theorem isDoubled_numberSign (t : Text) : x.isDoubled false numberSign t = false := by
  cases t with
  | nil => rfl
  | cons d t =>
      cases h : x.mode <;> simp [Context.isDoubled, h, CodePoint.ofChar_inj]

/-- In a case, closing braces are never paired. -/
theorem isDoubled_rightBrace (hcase : x.inCase = true) (t : Text) :
    x.isDoubled false rightBrace t = false := by
  cases t with
  | nil => rfl
  | cons d t =>
      cases h : x.mode <;> simp [Context.isDoubled, h, hcase, CodePoint.ofChar_inj]

/-- Literal text in a case ends before a closing brace. -/
theorem endsLiteral_rightBrace (hcase : x.inCase = true) (t : Text) : EndsLiteral x (rightBrace :: t) := by
  rintro c u ⟨⟩
  exact ⟨by simp [Context.stops], isDoubled_rightBrace hcase t⟩

/-- Literal text in a plural ends before a sign for the number. -/
theorem endsLiteral_numberSign (hplural : x.inPlural = true) (t : Text) :
    EndsLiteral x (numberSign :: t) := by
  rintro c u ⟨⟩
  exact ⟨by simp [Context.stops, hplural], isDoubled_numberSign t⟩

/-- **A literal ends where its next neighbour begins**, or where the nodes around it end. -/
theorem endsLiteral_nodes {ns : List Node} (hns : NodesFit x ns) (hopen : StartsOpen ns) {rest : Text}
    (hrest : Closes x rest) : EndsLiteral x (printNodes x ns ++ rest) := by
  cases ns with
  | nil =>
      by_cases hcase : x.inCase = true
      · rw [Closes, if_pos hcase] at hrest
        obtain ⟨v, rfl⟩ := hrest
        exact endsLiteral_rightBrace hcase v
      · rw [Closes, if_neg hcase] at hrest
        subst hrest
        rintro c u ⟨⟩
  | cons n more =>
      have hlit : n.isLiteral = false := hopen n rfl
      by_cases hplural : n = .pluralValue
      · subst hplural
        exact endsLiteral_numberSign hns.1 _
      · obtain ⟨d, t, hprint, hd⟩ := printNode_braced hns.1 hlit hplural
        rw [printNodes, hprint]
        rintro c u ⟨⟩
        have hbrace : leftBrace ≠ d := by
          rintro rfl
          exact absurd hd (by decide)
        refine ⟨by simp [Context.stops], ?_⟩
        simp [Context.isDoubled, hbrace]

/-! ## Steps of the readers -/

section Steps

variable {fuel : Nat} {s t u v w : Text} {n : Node} {ns : List Node}

/-- Nodes end with the text. -/
theorem nodes_end (h : literal x t = (s, [])) : nodes x (fuel + 1) t = .ok (literalNode s, []) := by
  rw [nodes]
  simp only [h]

/-- Nodes in a case end before its closing brace. -/
theorem nodes_close (hcase : x.inCase = true) (h : literal x t = (s, rightBrace :: u)) :
    nodes x (fuel + 1) t = .ok (literalNode s, rightBrace :: u) := by
  rw [nodes]
  simp only [h, hcase, if_true]

/-- Nodes go on after a placeholder. -/
theorem nodes_open (h : literal x t = (s, leftBrace :: v))
    (hn : placeholder x fuel (leftBrace :: v) v = .ok (n, w)) (hns : nodes x fuel w = .ok (ns, u)) :
    nodes x (fuel + 1) t = .ok (literalNode s ++ n :: ns, u) := by
  rw [nodes]
  simp only [h, CodePoint.ofChar_inj, Char.reduceEq, if_false, if_true, hn, bind, Except.bind, hns]
  rfl

/-- Nodes go on after the sign for the number. -/
theorem nodes_number (h : literal x t = (s, numberSign :: v)) (hns : nodes x fuel v = .ok (ns, u)) :
    nodes x (fuel + 1) t = .ok (literalNode s ++ .pluralValue :: ns, u) := by
  rw [nodes]
  simp only [h, CodePoint.ofChar_inj, Char.reduceEq, if_false, bind, Except.bind, hns]
  rfl

/-- A choice from its head, its offset and its cases. -/
theorem placeholder_choice {whole rest : Text} {kind : ChoiceKind} {argument : Text} {n : Nat}
    {cs : List (Text × List Node)} (hhead : head x.mode whole t = .ok (.cases kind argument, u))
    (hoffset : offset kind u.stripStart = .ok (n, v))
    (hcases : cases (x.inside kind) kind argument whole.length fuel v = .ok (cs, rest)) (hne : cs ≠ []) :
    placeholder x (fuel + 1) whole t
      = .ok (.choice kind argument n cs (readPart whole rest), rest) := by
  have hempty : cs.isEmpty = false := by simpa using hne
  rw [Context.inside] at hcases
  rw [placeholder, hhead]
  simp only [bind, Except.bind, hoffset, hcases, hempty, Bool.false_eq_true, if_false]
  rfl

/-- A label does not start with white space. -/
theorem IsLabel.stops_blank {word : Text} (h : IsLabel word) (t : Text) :
    Text.Stops CodePoint.isBlank (word ++ t) := by
  obtain ⟨c, word, rfl⟩ := List.exists_cons_of_ne_nil h.1
  apply Text.stops_cons.mpr
  have hc := h.2 c (by simp)
  simp only [isLabelPoint, Bool.not_eq_true', Bool.or_eq_false_iff] at hc
  exact hc.1.1

variable {kind : ChoiceKind} {argument : Text} {start : Nat}

/-- Cases end with the closing brace of their choice. -/
theorem cases_close (ht : t.stripStart = rightBrace :: u) :
    cases x kind argument start (fuel + 1) t = .ok ([], u) := by
  rw [cases]
  simp only [ht, if_true]

/-- A label opens its body, and more cases follow the brace that closes it. -/
theorem cases_step {word b body : Text} (hword : IsLabel word) (hb : ∀ c ∈ b, c.isBlank = true)
    (ht : t.stripStart = word ++ (b ++ leftBrace :: body)) :
    cases x kind argument start (fuel + 1) t = (do
      let (inside, rest) ← nodes x fuel body
      match rest with
      | [] => .error (.malformed .unclosedOpening (body.length + 1))
      | _ :: rest =>
        let (more, rest) ← cases x kind argument start fuel rest
        return ((word, inside) :: more, rest)) := by
  have hlabel := label_blank hword hb kind argument start body
  obtain ⟨c, word, rfl⟩ := List.exists_cons_of_ne_nil hword.1
  have hc : c ≠ rightBrace := by
    have hpoint := hword.2 c (by simp)
    simp only [isLabelPoint, Bool.not_eq_true', Bool.or_eq_false_iff, decide_eq_false_iff_not] at hpoint
    exact hpoint.2
  rw [List.cons_append] at ht hlabel
  rw [cases, ht]
  simp only [if_neg hc, hlabel]
  rfl

/-- Cases go on after a label and its body. -/
theorem cases_label {word b body : Text} {more : List (Text × List Node)} (hword : IsLabel word)
    (hb : ∀ c ∈ b, c.isBlank = true) (ht : t.stripStart = word ++ (b ++ leftBrace :: body))
    (hbody : nodes x fuel body = .ok (ns, rightBrace :: v))
    (hmore : cases x kind argument start fuel v = .ok (more, u)) :
    cases x kind argument start (fuel + 1) t = .ok ((word, ns) :: more, u) := by
  rw [cases_step hword hb ht, hbody]
  simp only [bind, Except.bind, hmore]
  rfl

end Steps

/-! ## One more unit of fuel -/

/-- With `fuel`, nodes are read back up to where they end. -/
def ReadsNodes (fuel : Nat) : Prop :=
  ∀ {x : Context} {ns : List Node} {rest : Text}, IsWritten x.mode → NodesFit x ns →
    AreShort (nodesNumbers ns) → (printNodes x ns).length < fuel → Closes x rest →
    ∃ ns', nodes x fuel (printNodes x ns ++ rest) = .ok (ns', rest) ∧ bareNodes ns' = bareNodes ns

/-- With `fuel`, a placeholder is read back after its opening brace. -/
def ReadsPlaceholders (fuel : Nat) : Prop :=
  ∀ {x : Context} {n : Node} {t : Text}, IsWritten x.mode → NodeFits x n → n.isLiteral = false →
    AreShort (nodeNumbers n) → (printNode x n).length ≤ fuel → printNode x n = leftBrace :: t →
    ∀ rest, ∃ n', placeholder x fuel (leftBrace :: (t ++ rest)) (t ++ rest) = .ok (n', rest) ∧
      bareNode n' = bareNode n

/-- With `fuel`, cases are read back with the brace that closes their choice, whatever white space
they start with. -/
def ReadsCases (fuel : Nat) : Prop :=
  ∀ {x : Context} {cs : List (Text × List Node)} {t rest : Text}, IsWritten x.mode → CasesFit x cs →
    x.inCase = true → AreShort (casesNumbers cs) → (printCases x cs).length < fuel →
    t.stripStart = Text.stripStart (printCases x cs ++ rightBrace :: rest) →
    ∀ kind argument start, ∃ cs', cases x kind argument start fuel t = .ok (cs', rest) ∧
      bareCases cs' = bareCases cs

theorem bareNodes_literal (t : Text) (ns : List Node) :
    bareNodes (literalNode t ++ ns) = literalNode t ++ bareNodes ns := by
  rw [bareNodes_append, literalNode]
  split <;> rfl

/-- Nodes from their first literal, the placeholder after it, and the rest. -/
theorem readsNodes_succ {fuel : Nat} (hplaceholder : ReadsPlaceholders fuel)
    (hnodes : ReadsNodes fuel) : ReadsNodes (fuel + 1) := by
  intro x ns rest hx hns hshort hlen hrest
  obtain ⟨hsplit, hprint, hlit, hmore, hopen⟩ := firstLiteral_spec hns
  -- From here on the nodes are a literal, perhaps empty, and more nodes that start with none.
  generalize (firstLiteral ns).1 = text at *
  generalize (firstLiteral ns).2 = more at *
  have hread : literal x (printLiteral x text ++ (printNodes x more ++ rest))
      = (text, printNodes x more ++ rest) :=
    literal_print hx hlit (endsLiteral_nodes hmore hopen hrest)
  rw [hprint, List.append_assoc]
  subst hsplit
  rw [hprint, List.length_append] at hlen
  cases more with
  | nil =>
      refine ⟨literalNode text, ?_, by rw [List.append_nil]⟩
      by_cases hcase : x.inCase = true
      · rw [Closes, if_pos hcase] at hrest
        obtain ⟨u, rfl⟩ := hrest
        exact nodes_close hcase hread
      · rw [Closes, if_neg hcase] at hrest
        subst hrest
        exact nodes_end hread
  | cons n more =>
      obtain ⟨hn, -, hmore⟩ := hmore
      have hshort : AreShort (nodeNumbers n ++ nodesNumbers more) := by
        rw [literalNode] at hshort
        split at hshort <;> exact hshort
      have hlitn : n.isLiteral = false := hopen n rfl
      have hpos : 0 < (printNode x n).length := List.length_pos_of_ne_nil (printNode_ne_nil hn hlitn)
      rw [printNodes, List.length_append] at hlen
      -- The first of them takes up some of the text, so what is left is shorter.
      obtain ⟨more', hmore', hbare⟩ :=
        hnodes hx hmore hshort.right (by omega) hrest
      by_cases hplural : n = .pluralValue
      · subst hplural
        refine ⟨literalNode text ++ .pluralValue :: more', nodes_number hread hmore', ?_⟩
        rw [bareNodes_literal, bareNodes_literal, bareNodes, bareNodes, hbare]
      · obtain ⟨c, t, ht, -⟩ := printNode_braced hn hlitn hplural
        obtain ⟨n', hn', hbaren⟩ :=
          hplaceholder hx hn hlitn hshort.left (by omega) ht (printNodes x more ++ rest)
        rw [printNodes, ht, List.append_assoc, List.cons_append] at hread
        rw [printNodes, ht, List.append_assoc, List.cons_append]
        refine ⟨literalNode text ++ n' :: more', nodes_open hread hn' hmore', ?_⟩
        rw [bareNodes_literal, bareNodes_literal, bareNodes, bareNodes, hbare, hbaren]

theorem digits_stop_cases (x : Context) (cs : List (Text × List Node)) (rest : Text) :
    Text.Stops CodePoint.isDigit (printCases x cs ++ rightBrace :: rest) := by
  cases cs with
  | nil => exact Text.stops_cons.mpr (by decide)
  | cons c cs => exact Text.stops_cons.mpr (by decide)

/-- A placeholder from its head; only choices need more. -/
theorem readsPlaceholders_succ {fuel : Nat} (hcases : ReadsCases fuel) :
    ReadsPlaceholders (fuel + 1) := by
  intro x n t hx hn hlit hshort hlen ht rest
  cases n with
  | literal t => cases hlit
  | pluralValue => exact absurd (List.cons.inj ht).1 (by decide)
  | simple argument format width raw =>
      obtain ⟨hargument, htail⟩ := hn
      obtain ⟨-, rfl⟩ := List.cons.inj ht
      have hnum : ∀ n ∈ width, n.natAbs < 10 ^ Count.digitLimit := by
        rintro n rfl
        exact hshort n.natAbs (by simp [nodeNumbers])
      have hsplit : argument ++ printTail format width ++ [rightBrace] ++ rest
          = argument ++ (printTail format width ++ rightBrace :: rest) := by simp
      rw [placeholder, hsplit, head_printTail hargument htail hnum]
      exact ⟨_, rfl, rfl⟩
  | formatted kind argument style raw =>
      obtain ⟨hargument, hstyle⟩ := hn
      obtain ⟨-, rfl⟩ := List.cons.inj ht
      rw [placeholder, List.append_assoc, List.singleton_append, head_formatted kind hargument hstyle]
      exact ⟨_, rfl, rfl⟩
  | choice kind argument offset cs raw =>
      obtain ⟨hargument, hne, hselect, hfit⟩ := hn
      obtain ⟨-, rfl⟩ := List.cons.inj ht
      have hnumber : offset < 10 ^ Count.digitLimit := hshort offset (by simp [nodeNumbers])
      have hnumbers : AreShort (casesNumbers cs) := fun n hn => hshort n (by simp [nodeNumbers, hn])
      obtain ⟨u, hoffset, hblank⟩ :=
        offset_printOffset hnumber hselect (digits_stop_cases (x.inside kind) cs rest)
      have hlen' : (printCases (x.inside kind) cs).length < fuel := by
        simp only [printNode, braced, listed, List.length_cons, List.length_append] at hlen
        omega
      obtain ⟨cs', hread, hbare⟩ :=
        hcases (x := x.inside kind) hx hfit rfl hnumbers hlen' hblank kind argument _
      -- A choice without cases is refused, but reading lost none.
      have hne' : cs' ≠ [] := by
        rintro rfl
        cases cs with
        | nil => exact hne rfl
        | cons c cs => simp [bareCases] at hbare
      have hsplit : listed argument (kind.word ++ comma ::
            (printOffset kind offset ++ printCases (x.inside kind) cs)) ++ [rightBrace] ++ rest
          = listed argument (kind.word ++ comma ::
            (printOffset kind offset ++ (printCases (x.inside kind) cs ++ rightBrace :: rest))) := by
        simp [listed]
      rw [hsplit]
      refine ⟨_, placeholder_choice (head_choice kind hargument _) hoffset hread hne', ?_⟩
      rw [bareNode, bareNode, hbare]

/-- Cases from a label and the nodes after it. -/
theorem readsCases_succ {fuel : Nat} (hnodes : ReadsNodes fuel) (hcases : ReadsCases fuel) :
    ReadsCases (fuel + 1) := by
  intro x cs t rest hx hcs hin hshort hlen ht kind argument start
  cases cs with
  | nil =>
      rw [printCases, List.nil_append, Text.stripStart_of_stops (Text.stops_cons.mpr (by decide))] at ht
      exact ⟨[], cases_close ht, rfl⟩
  | cons c more =>
      obtain ⟨word, body⟩ := c
      obtain ⟨hword, hbody, hmore⟩ := hcs
      rw [printCases, List.length_cons, List.length_append, List.length_append, braced,
        List.length_cons, List.length_append] at hlen
      obtain ⟨more', hreadmore, hbaremore⟩ := hcases (t := printCases x more ++ rightBrace :: rest) hx
        hmore hin hshort.right (by omega) rfl kind argument start
      have hcloses : Closes x (rightBrace :: (printCases x more ++ rightBrace :: rest)) := by
        rw [Closes, if_pos hin]
        exact ⟨_, rfl⟩
      obtain ⟨body', hreadbody, hbarebody⟩ := hnodes hx hbody hshort.left (by omega) hcloses
      -- The blank before the label is passed over, and no more.
      have hstart : t.stripStart = word ++ ([] ++ leftBrace :: (printNodes x body ++
          rightBrace :: (printCases x more ++ rightBrace :: rest))) := by
        rw [ht, printCases, List.cons_append, List.append_assoc, Text.stripStart_space (hword.stops_blank _)]
        simp [braced]
      refine ⟨(word, body') :: more',
        cases_label hword (List.forall_mem_nil _) hstart hreadbody hreadmore, ?_⟩
      rw [bareCases, bareCases, hbarebody, hbaremore]

/-- **Reading undoes printing**, with enough fuel and nothing in the way after the text. -/
theorem reads (fuel : Nat) : ReadsNodes fuel ∧ ReadsPlaceholders fuel ∧ ReadsCases fuel := by
  induction fuel with
  | zero =>
      -- Nothing is as short as that; even a placeholder has its opening brace.
      refine ⟨fun _ _ _ hlen => absurd hlen (Nat.not_lt_zero _), ?_,
        fun _ _ _ _ hlen => absurd hlen (Nat.not_lt_zero _)⟩
      intro x n t hx hn hlit hshort hlen ht
      rw [ht] at hlen
      exact absurd hlen (Nat.not_succ_le_zero _)
  | succ fuel ih =>
      obtain ⟨hnodes, hplaceholder, hcases⟩ := ih
      exact ⟨readsNodes_succ hplaceholder hnodes, readsPlaceholders_succ hcases,
        readsCases_succ hnodes hcases⟩

/-! ## Whole templates -/

/-- **Reading undoes printing**, in the formats that can write every tree. -/
theorem parse_print_of_written {mode : Mode} (hmode : IsWritten mode) {ns : List Node}
    (hns : NodesFit ⟨mode, false, false⟩ ns) (hshort : AreShort (nodesNumbers ns)) :
    ∃ ns', parse mode (print mode ns) = .ok ns' ∧ bareNodes ns' = bareNodes ns := by
  have hfuel : (print mode ns).length < 2 * (print mode ns).length + 2 := by omega
  obtain ⟨ns', hread, hbare⟩ := (reads _).1 hmode hns hshort hfuel rfl
  rw [List.append_nil, ← print] at hread
  have hparses : mode.parsesPlaceholders = true := by rcases hmode with rfl | rfl <;> rfl
  refine ⟨ns', ?_, hbare⟩
  rw [parse, Template.read, if_pos hparses, hread]
  rfl

/-- **Message format: a template tree is read back from its text**, but for how its nodes are written,
if its offsets have few enough digits for the reader of numbers. -/
theorem parse_print_message {ns : List Node} (hns : NodesFit ⟨.arb, false, false⟩ ns)
    (hshort : ∀ n ∈ nodesNumbers ns, n < 10 ^ Count.digitLimit) :
    ∃ ns', parse .arb (print .arb ns) = .ok ns' ∧ bareNodes ns' = bareNodes ns :=
  parse_print_of_written (.inl rfl) hns hshort

/-- Mails counted, with a select among the cases, quoted braces, and a number sign that is text. -/
def mails : List Node :=
  [.literal "\x7bit's\x7d", .choice .plural "count" 1
    [("=0", [.literal "'#'"]), ("other",
      [.choice .select "who" 0 [("me", [.pluralValue, .literal " # or ", .simple "x_1" none none []]),
        ("other", [.formatted .date "day" (.pattern "d ''of'' MMMM") []])] [], .literal "\x7d"])] []]

theorem parse_print_mails :
    NodesFit ⟨.arb, false, false⟩ mails ∧ (∀ n ∈ nodesNumbers mails, n < 10 ^ Count.digitLimit) ∧
      ∃ ns, parse .arb (print .arb mails) = .ok ns ∧ bareNodes ns = bareNodes mails := by
  have hstyle : StyleFits (.pattern "d ''of'' MMMM") := ⟨"d 'of' MMMM", by decide⟩
  have hfits : NodesFit ⟨.arb, false, false⟩ mails := by
    simp only [mails, NodesFit, NodeFits, CasesFit, hstyle]
    decide +kernel
  have hnumbers : ∀ n ∈ nodesNumbers mails, n < 10 ^ Count.digitLimit := by
    intro n hn
    have hle : n ≤ 1 := by
      simp [mails, nodesNumbers, nodeNumbers, casesNumbers] at hn
      omega
    exact Nat.lt_of_le_of_lt hle (Nat.one_lt_pow (by decide) (by decide))
  exact ⟨hfits, hnumbers, parse_print_message hfits hnumbers⟩

/-- A placeholder at the start that cannot be read is the fault of the nodes. -/
theorem nodes_error {fuel : Nat} {t : Text} {e : Fault} (hends : EndsLiteral x (leftBrace :: t))
    (h : placeholder x fuel (leftBrace :: t) t = .error e) :
    nodes x (fuel + 1) (leftBrace :: t) = .error e := by
  rw [nodes, literal, literalFrom_of_ends hends]
  simp only [CodePoint.ofChar_inj, Char.reduceEq, if_false, if_true, h]
  rfl

/-- **A plural with a longer offset is written, but not read back**, in either format. -/
theorem parse_print_long_of_written {mode : Mode} (hmode : IsWritten mode) {kind : ChoiceKind}
    {argument : Text} {n : Nat} {cs : List (Text × List Node)} {raw : Text}
    (hfit : NodesFit ⟨mode, false, false⟩ [.choice kind argument n cs raw])
    (hn : 10 ^ Count.digitLimit ≤ n) :
    parse mode (print mode [.choice kind argument n cs raw]) = .error (.obstacle .value) := by
  obtain ⟨⟨hargument, -, hselect, -⟩, -⟩ := id hfit
  -- A select has no offset, so it is a plural.
  have hk : kind ≠ .select := by
    intro hk
    rw [hselect hk] at hn
    exact absurd hn (Nat.not_le.mpr (Nat.pow_pos (by decide)))
  have hends := endsLiteral_nodes hfit (by rintro m ⟨⟩; rfl) rfl
  rw [List.append_nil, ← print] at hends
  set x : Context := ⟨mode, false, false⟩
  have hsplit : print mode [.choice kind argument n cs raw] = leftBrace :: listed argument
      (kind.word ++ comma :: (printOffset kind n ++ (printCases (x.inside kind) cs ++ [rightBrace]))) := by
    simp [print, printNodes, printNode, braced, listed, x]
  rw [hsplit] at hends ⊢
  set t := listed argument (kind.word ++ comma ::
    (printOffset kind n ++ (printCases (x.inside kind) cs ++ [rightBrace])))
  have hplaceholder : ∀ fuel, placeholder x (fuel + 1) (leftBrace :: t) t = .error .unreadableNumber := by
    intro fuel
    have hhead : head x.mode (leftBrace :: t) t = .ok (.cases kind argument,
        printOffset kind n ++ (printCases (x.inside kind) cs ++ [rightBrace])) :=
      head_choice kind hargument _
    have hoffset := offset_printOffset_error hk hn (digits_stop_cases (x.inside kind) cs [])
    rw [placeholder, hhead]
    simp only [bind, Except.bind, hoffset]
  have hparses : mode.parsesPlaceholders = true := by rcases hmode with rfl | rfl <;> rfl
  rw [parse, Template.read, if_pos hparses, nodes_error hends (hplaceholder _)]
  rfl

theorem parse_print_long {kind : ChoiceKind} {argument : Text} {n : Nat}
    {cs : List (Text × List Node)} {raw : Text}
    (hfit : NodesFit ⟨.arb, false, false⟩ [.choice kind argument n cs raw])
    (hn : 10 ^ Count.digitLimit ≤ n) :
    parse .arb (print .arb [.choice kind argument n cs raw]) = .error (.obstacle .value) :=
  parse_print_long_of_written (.inl rfl) hfit hn

/-- A plural with the shortest offset that is too long. -/
def longOffset : List Node :=
  [.choice .plural "n" (10 ^ Count.digitLimit) [("other", [.literal "x"])] []]

theorem parse_print_longOffset :
    NodesFit ⟨.arb, false, false⟩ longOffset ∧
      ¬∃ ns, parse .arb (print .arb longOffset) = .ok ns ∧ bareNodes ns = bareNodes longOffset := by
  have hfits : NodesFit ⟨.arb, false, false⟩ longOffset := by
    simp only [longOffset, NodesFit, NodeFits, CasesFit, reduceCtorEq, false_implies]
    decide +kernel
  refine ⟨hfits, ?_⟩
  rintro ⟨ns, hread, -⟩
  rw [longOffset, parse_print_long hfits (Nat.le_refl _)] at hread
  cases hread

end Phrasebook.Template
