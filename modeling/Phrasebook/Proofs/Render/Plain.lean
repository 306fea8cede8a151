import Phrasebook.Proofs.Render.Nodes
import Phrasebook.Proofs.Template.Agreement
import Phrasebook.Proofs.Template.Tiling
import Phrasebook.Proofs.Text.Numerals

/-!
# Texts that are rendered without values

A text in which the pass finds no placeholder is literal text, and that is what it is rendered as, whatever the
arguments are (`text_of_containsPlaceholders`). A text with placeholders and no arguments is rendered as it
stands, where quotes have no meaning or there are none (`text_none_eq_self`): each placeholder is shown as it was
written, and these pieces tile the text.

A name that is a number asks for a position, even where there is nothing at any position, and a number of
too many digits cannot be read. Such a name fails (`text_longName`).
-/

namespace Phrasebook.Render

open Template

variable {mode : Mode} {t : Text} {ns : List Node}

/-! ## No placeholders -/

/-- **Where the pass finds nothing, literal text goes on to the end.** -/
theorem literal_of_hasPlaceholders (hmode : mode.parsesPlaceholders = true)
    (h : hasPlaceholders mode t = .ok false) : (literal ⟨mode, false, false⟩ t).2 = [] := by
  set x : Context := ⟨mode, false, false⟩
  have hends : EndsLiteral x (literal x t).2 := endsLiteral_literalFrom x 0 false t
  obtain ⟨s, hs, hscan⟩ := (reaches_literal (d := 0) (x := x) rfl t).2 .start isAt_start
  rw [hasPlaceholders, if_pos hmode] at h
  have hscan : scanFrom mode 0 s (literal x t).2 = .ok false := hscan.symm.trans h
  cases hrest : (literal x t).2 with
  | nil => rfl
  | cons c u =>
      exfalso
      rw [hrest] at hends hscan
      have hc : c = leftBrace ∨ c = rightBrace := by
        have hstops := (hends c u rfl).1
        simpa [Context.stops, x] using hstops
      rcases hc with rfl | rfl
      · -- An opening brace would have been found, or would have been refused.
        rw [scan_open hs.1 (single_of_ends hends)] at hscan
        exact Bool.false_ne_true (found_of_scan hscan (.inr (Nat.succ_pos s.depth)))
      · have hsingle : mode = .composite → u.head? ≠ some rightBrace := by
          intro hcomposite hhead
          obtain ⟨-, hpair⟩ := hends _ _ rfl
          rw [List.eq_cons_of_mem_head? hhead] at hpair
          simp [Context.isDoubled, x, hcomposite] at hpair
        rw [scan_unmatched hs.1 hs.2 hsingle] at hscan
        cases hscan

/-- **A text without placeholders is one literal at most**, and it is rendered as that literal's text, whatever
the culture and the arguments are. -/
theorem text_of_containsPlaceholders (h : containsPlaceholders mode t = .ok false) :
    ∃ s, parse mode t = .ok (literalNode s) ∧
      (mode.parsesPlaceholders = true → ∀ c a, text c a mode t = .ok s) := by
  have hscan : hasPlaceholders mode t = .ok false := ok_of_mapError h
  by_cases hmode : mode.parsesPlaceholders = true
  · set x : Context := ⟨mode, false, false⟩
    have hliteral : literal x t = ((literal x t).1, []) :=
      Prod.ext rfl (literal_of_hasPlaceholders hmode hscan)
    have hparse : parse mode t = .ok (literalNode (literal x t).1) :=
      (parse_ok_iff hmode).mpr (.stop hliteral (.inl rfl))
    refine ⟨_, hparse, fun _ c a => ?_⟩
    rw [text_eq_template hmode, template_of_parse c a [] hparse, nodes_literalNode]
  · refine ⟨t, ?_, fun hparses => absurd hparses hmode⟩
    rw [parse, Template.read, if_neg hmode]
    rfl

/-- An apostrophe, and braces within quotes that are left open. -/
def openQuote : Text := "it''s '\x7bn\x7d, isn''t it?"

theorem text_of_openQuote :
    containsPlaceholders .arb openQuote = .ok false ∧ ∃ s, parse .arb openQuote = .ok (literalNode s) ∧
      (Mode.arb.parsesPlaceholders = true → ∀ c a, text c a .arb openQuote = .ok s) := by
  have hscan : containsPlaceholders .arb openQuote = .ok false := by rfl
  exact ⟨hscan, text_of_containsPlaceholders hscan⟩

/-! ## No arguments -/

/-- A node without a value is shown as it was written. -/
theorem node_written {s : Setting} (hmode : s.mode ≠ .composite) (hdeclared : s.declarations = []) {n : Node}
    (hvalue : ∀ argument ∈ n.argument?, s.value? argument = .ok none) : node s none n = .ok n.written := by
  have hmissing : ∀ raw, s.missing raw = raw := fun raw => if_neg hmode
  cases n with
  | literal t => rw [node]; rfl
  | pluralValue => rw [node]; rfl
  | simple argument format alignment raw =>
      rw [node, simple, if_neg hmode, hvalue argument rfl, hdeclared]
      rfl
  | formatted kind argument style raw =>
      rw [node, formatted, hvalue argument rfl]
      exact congrArg Except.ok (hmissing raw)
  | choice kind argument offset cases raw =>
      rw [node, choose, hvalue argument rfl]
      exact congrArg Except.ok (hmissing raw)

theorem nodes_written {s : Setting} (hmode : s.mode ≠ .composite) (hdeclared : s.declarations = [])
    (hvalue : ∀ n ∈ ns, ∀ argument ∈ n.argument?, s.value? argument = .ok none) :
    nodes s none ns = .ok (written ns) := by
  induction ns with
  | nil => rw [nodes]; rfl
  | cons n ns ih =>
      have hn := node_written hmode hdeclared (hvalue n List.mem_cons_self)
      have hns := ih fun m hm => hvalue m (List.mem_cons_of_mem n hm)
      rw [nodes, hn, hns, written_cons]
      rfl

/-- Without arguments there is no value, unless the name is a number that cannot be read. -/
theorem value?_none {s : Setting} (hnone : s.arguments = .none) {name : Text}
    (hname : name.isNumber = true → ∃ n, Count.ofDigits name = .ok n) : s.value? name = .ok none := by
  unfold Setting.value?
  split
  · next hnumber =>
      obtain ⟨n, hn⟩ := hname hnumber
      rw [hn, hnone]
      rfl
  · rw [hnone]
    rfl

/-- **Without arguments a text is rendered as it stands**, if the names of its placeholders that are numbers can
be read as numbers: the literal texts and the placeholders as they were written tile the text. Names within
cases are not looked up. -/
theorem text_none_eq_self (hmode : mode = .arbNoEscaping ∨ mode = .arb ∧ apostrophe ∉ t)
    (hat : ¬[leftBrace, atSign] <:+: t) (hread : parse mode t = .ok ns)
    (hascii : ∀ name ∈ argumentNames ns, name.isNumber = true → ∀ d ∈ name, d.isAsciiDigit = true)
    (hshort : ∀ n ∈ ns, ∀ name ∈ n.argument?, name.isNumber = true → name.length ≤ Count.digitLimit) :
    written ns = t ∧ ∀ c, text c .none mode t = .ok t := by
  have hparses : mode.parsesPlaceholders = true := by rcases hmode with rfl | ⟨rfl, -⟩ <;> rfl
  have hcomposite : mode ≠ .composite := by rcases hmode with rfl | ⟨rfl, -⟩ <;> decide
  have hwritten : written ns = t := by
    have htiles := ((parse_ok_iff hparses).mp hread).written_eq hmode hat
    rwa [List.append_nil] at htiles
  refine ⟨hwritten, fun c => ?_⟩
  rw [text_eq_template hparses, template_of_parse c .none [] hread, nodes_written hcomposite rfl, hwritten]
  intro n hn argument hargument
  apply value?_none rfl
  intro hnumber
  have hne : argument ≠ [] := by
    rintro rfl
    cases hnumber
  exact ⟨_, Count.ofDigits_of_ascii hne (hshort n hn argument hargument hnumber)
    (hascii argument (mem_argumentNames hn hargument) hnumber)⟩

/-- A plural with positions and dates in its cases, and white space where it may stand. -/
def drawnLots : Text :=
  "\x7b 0 \x7d of \x7bn ,plural, offset: 1 =0\x7bno \x7b1\x7d\x7d other \x7b# on \x7bd, date , long\x7d\x7d \x7d\x7bwho,select,other\x7b\x7d\x7d!"

theorem text_none_drawnLots :
    ∃ ns, (Mode.arb = .arbNoEscaping ∨ Mode.arb = .arb ∧ apostrophe ∉ drawnLots) ∧
      ¬[leftBrace, atSign] <:+: drawnLots ∧ parse .arb drawnLots = .ok ns ∧
      (∀ name ∈ argumentNames ns, name.isNumber = true → ∀ d ∈ name, d.isAsciiDigit = true) ∧
      (∀ n ∈ ns, ∀ name ∈ n.argument?, name.isNumber = true → name.length ≤ Count.digitLimit) ∧
      written ns = drawnLots ∧ ∀ c, text c .none .arb drawnLots = .ok drawnLots := by
  have hmode : Mode.arb = .arbNoEscaping ∨ Mode.arb = .arb ∧ apostrophe ∉ drawnLots := .inr ⟨rfl, by decide⟩
  have hat : ¬[leftBrace, atSign] <:+: drawnLots := by decide +kernel
  have hnames : (match Template.read .arb drawnLots with
      | .ok ns => decide ((∀ name ∈ argumentNames ns, name.isNumber = true → ∀ d ∈ name, d.isAsciiDigit = true) ∧
          ∀ n ∈ ns, ∀ name ∈ n.argument?, name.isNumber = true → name.length ≤ Count.digitLimit)
      | .error _ => false) = true := by decide +kernel
  split at hnames
  · next ns hread =>
      have hparse : parse .arb drawnLots = .ok ns := by rw [parse, hread]; rfl
      obtain ⟨hascii, hshort⟩ := of_decide_eq_true hnames
      exact ⟨ns, hmode, hat, hparse, hascii, hshort, text_none_eq_self hmode hat hparse hascii hshort⟩
  · cases hnames

/-- **A name that is a number of too many digits fails**, whatever the arguments are. -/
theorem text_of_longNumber (hmode : mode.parsesPlaceholders = true) {name : Text} (hname : IsArgument mode name)
    (hnumber : name.isNumber = true) (hlong : Count.digitLimit < name.length) (c : Culture) (a : Arguments) :
    text c a mode (braced name) = .error (.obstacle .value) := by
  have hvalue : ∀ s : Setting, s.value? name = .error .value := by
    intro s
    rw [Setting.value?, if_pos hnumber, Count.ofDigits_of_long hlong]
    rfl
  rw [text_eq_template hmode, template_of_parse c a [] (parse_braced hmode hname), nodes, node, simple, hvalue]
  split <;> rfl

/-- A number with one digit more than can be read. -/
def longNumber : Text := List.replicate (Count.digitLimit + 1) '1'

theorem text_none_longNumber :
    ((Mode.arb = .arbNoEscaping ∨ Mode.arb = .arb ∧ apostrophe ∉ braced longNumber) ∧
      ¬[leftBrace, atSign] <:+: braced longNumber ∧
      ∃ ns, parse .arb (braced longNumber) = .ok ns ∧
        ∀ name ∈ argumentNames ns, name.isNumber = true → ∀ d ∈ name, d.isAsciiDigit = true) ∧
    text (.ofName "en") .none .arb (braced longNumber) ≠ .ok (braced longNumber) := by
  have hone : ∀ d ∈ longNumber, d = '1' := fun _ => List.eq_of_mem_replicate
  have hmem : ∀ d ∈ braced longNumber, d = leftBrace ∨ d = '1' ∨ d = rightBrace := by
    intro d hd
    rcases List.mem_cons.mp hd with hd | hd
    · exact .inl hd
    rcases List.mem_append.mp hd with hd | hd
    · exact .inr (.inl (hone d hd))
    · exact .inr (.inr (List.mem_singleton.mp hd))
  have hquote : apostrophe ∉ braced longNumber := fun h => by
    rcases hmem _ h with h | h | h <;> exact absurd h (by decide)
  have hat : ¬[leftBrace, atSign] <:+: braced longNumber := fun h => by
    rcases hmem atSign (h.subset (by simp)) with h | h | h <;> exact absurd h (by decide)
  have hne : longNumber ≠ [] := List.cons_ne_nil _ _
  -- The digits are a name of message format, but too many for a number.
  have hnumber : longNumber.isNumber = true := by
    rw [Text.isNumber, Bool.and_eq_true, List.all_eq_true]
    exact ⟨by simpa using hne, fun d hd => by rw [hone d hd]; decide⟩
  have hname : IsArgument .arb longNumber := by
    refine ⟨hne, fun d hd => by rw [hone d hd]; decide, fun _ => ?_⟩
    unfold isMessageName
    rw [hnumber, Bool.true_or]
  have hlong : Count.digitLimit < longNumber.length := by
    rw [longNumber, List.length_replicate]
    exact Nat.lt_succ_self _
  refine ⟨⟨.inr ⟨rfl, hquote⟩, hat, _, parse_braced rfl hname, fun name hmem _ d hd => ?_⟩, ?_⟩
  · obtain rfl : name = longNumber := by simpa [argumentNames, noteNodes, noteNode, noteName] using hmem
    rw [hone d hd]
    decide
  · rw [text_of_longNumber rfl hname hnumber hlong]
    rintro ⟨⟩

end Phrasebook.Render
