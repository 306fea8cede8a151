import Phrasebook.Proofs.Template.Names
import Phrasebook.Render.Message

/-!
# What rendering depends on

Nodes are rendered one after the other (`nodes_append`), and with nothing of their setting but the culture,
the mode, the declared placeholders and the values for the names in them (`nodes_congr`). The second is by
recursion over the tree, along the names as they are noted: a case body is rendered with the values for
its own names, which are among those of the whole template.
-/

namespace Phrasebook.Render

open Template

/-- **Nodes are rendered one after the other.** -/
theorem nodes_append (s : Setting) (number : Option Decimal) (ns ms : List Node) :
    nodes s number (ns ++ ms) = (do
      let t ← nodes s number ns
      return t ++ (← nodes s number ms)) := by
  induction ns with
  | nil =>
      rw [List.nil_append, nodes]
      cases nodes s number ms <;> rfl
  | cons n ns ih =>
      rw [List.cons_append, nodes, nodes, ih]
      cases node s number n with
      | error e => rfl
      | ok t =>
          cases nodes s number ns with
          | error e => rfl
          | ok t' =>
              cases nodes s number ms with
              | error e => rfl
              | ok t'' => exact congrArg Except.ok (List.append_assoc t t' t'').symm

theorem nodes_literalNode (s : Setting) (number : Option Decimal) (t : Text) :
    nodes s number (literalNode t) = .ok t := by
  unfold literalNode
  split
  · next h => rw [h, nodes]
  · simp only [nodes, node, bind, Except.bind, pure, Except.pure, List.append_nil]

/-! ## Settings with the same values -/

/-- **`s.Agrees s' names`**: two settings differ in nothing but where values come from, and have the same
values for `names`. -/
structure Setting.Agrees (s s' : Setting) (names : List Text) : Prop where
  culture : s.culture = s'.culture
  mode : s.mode = s'.mode
  declarations : s.declarations = s'.declarations
  value : ∀ name ∈ names, s.value? name = s'.value? name

variable {s s' : Setting} {names : List Text}

theorem Setting.Agrees.mono {names' : List Text} (h : s.Agrees s' names') (hsub : ∀ name ∈ names, name ∈ names') :
    s.Agrees s' names :=
  ⟨h.culture, h.mode, h.declarations, fun name hname => h.value name (hsub name hname)⟩

theorem simple_congr (h : s.Agrees s' names) {argument : Text} (ha : argument ∈ names) (format : Option Text)
    (alignment : Option Int) (raw : Text) :
    simple s argument format alignment raw = simple s' argument format alignment raw := by
  simp only [simple, h.culture, h.mode, h.declarations, h.value argument ha]

theorem formatted_congr (h : s.Agrees s' names) {argument : Text} (ha : argument ∈ names) (kind : FormatKind)
    (style : Style) (raw : Text) :
    formatted s kind argument style raw = formatted s' kind argument style raw := by
  simp only [formatted, Setting.missing, h.culture, h.mode, h.value argument ha]

theorem choose_congr (h : s.Agrees s' names) {argument : Text} (ha : argument ∈ names) (kind : ChoiceKind)
    (offset : Nat) (labels : List Text) (number : Option Decimal) :
    choose s kind argument offset labels number = choose s' kind argument offset labels number := by
  simp only [choose, h.value argument ha]

mutual

theorem node_congr (seen : List Text) (number : Option Decimal) (n : Node)
    (h : s.Agrees s' (noteNode seen n)) : node s number n = node s' number n := by
  cases n with
  | literal t => rw [node, node]
  | pluralValue => cases number <;> simp only [node, h.culture]
  | simple argument format alignment raw =>
      rw [node, node, simple_congr h (mem_noteName.mpr (.inr rfl))]
  | formatted kind argument style raw =>
      rw [node, node, formatted_congr h (mem_noteName.mpr (.inr rfl))]
  | choice kind argument offset cases raw =>
      have hmem : argument ∈ noteNode seen (.choice kind argument offset cases raw) := mem_noteNode rfl
      have hbody := fun c => caseBody_congr (noteName seen argument) c cases h
      simp only [node, choose_congr h hmem, hbody, Setting.missing, h.mode]

theorem caseBody_congr (seen : List Text) (c : Choice) (cs : List (Text × List Node))
    (h : s.Agrees s' (noteCases seen cs)) : caseBody s c cs = caseBody s' c cs := by
  cases cs with
  | nil => rw [caseBody, caseBody]
  | cons first rest =>
      obtain ⟨word, body⟩ := first
      have hbody : s.Agrees s' (noteNodes seen body) := h.mono fun _ hname => mem_noteCases hname rest
      rw [caseBody, caseBody, nodes_congr seen c.number body hbody,
        caseBody_congr (noteNodes seen body) c rest h]

/-- **Rendering depends on the values for the names of the template and on nothing else.** -/
theorem nodes_congr (seen : List Text) (number : Option Decimal) (ns : List Node)
    (h : s.Agrees s' (noteNodes seen ns)) : nodes s number ns = nodes s' number ns := by
  cases ns with
  | nil => rw [nodes, nodes]
  | cons n rest =>
      have hn : s.Agrees s' (noteNode seen n) := h.mono fun _ hname => mem_noteNodes hname rest
      rw [nodes, nodes, node_congr seen number n hn, nodes_congr (noteNode seen n) number rest h]

end

/-! ## Whole texts -/

variable {mode : Mode} {t : Text} {ns : List Node}

/-- A text is rendered as the template that it is read as. -/
theorem template_of_parse (c : Culture) (a : Arguments) (declarations : List Placeholder)
    (h : parse mode t = .ok ns) :
    template c a mode declarations t = nodes ⟨c, a, mode, declarations, argumentNames ns⟩ none ns := by
  rw [template, h]
  rfl

/-- The empty text is the empty template. -/
theorem parse_nil (mode : Mode) : parse mode [] = .ok [] := by
  cases mode <;> rfl

theorem template_nil (c : Culture) (a : Arguments) (mode : Mode) (declarations : List Placeholder) :
    template c a mode declarations [] = .ok [] := by
  rw [template_of_parse c a declarations (parse_nil mode), nodes]

theorem text_eq_template (hmode : mode.parsesPlaceholders = true) (c : Culture) (a : Arguments) (t : Text) :
    text c a mode t = template c a mode [] t := by
  have htext : text c a mode t = if t.isEmpty then .ok [] else template c a mode [] t := by
    cases mode <;> first | rfl | cases hmode
  rw [htext]
  split
  · next hempty => rw [List.isEmpty_iff.mp hempty, template_nil]
  · rfl

theorem entry_eq_template (hmode : mode.parsesPlaceholders = true) (c : Culture) (a : Arguments) (e : Entry) :
    entry c a mode e = template c a mode e.placeholders (sourceText e) := by
  have hentry : entry c a mode e = if (sourceText e).isEmpty then .ok []
      else template c a mode e.placeholders (sourceText e) := by
    cases mode <;> first | rfl | cases hmode
  rw [hentry]
  split
  · next hempty => rw [List.isEmpty_iff.mp hempty, template_nil]
  · rfl

end Phrasebook.Render
