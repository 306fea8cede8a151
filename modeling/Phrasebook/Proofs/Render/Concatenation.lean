import Phrasebook.Proofs.Render.Nodes
import Phrasebook.Proofs.Template.Reading

/-!
# Texts put together

Two templates one after the other are a template, and where values do not depend on positions it is rendered as
the two are, one after the other (`text_append`). Nothing that ends the first text is read differently for what
the second begins with, except that an open quote would go on.
-/

namespace Phrasebook.Render

open Template

variable {mode : Mode} {t t' r r' : Text} {ns : List Node}

/-- **`IsUnordered a`**: no value is found by its position. -/
def IsUnordered (a : Arguments) : Prop := a = .none ∨ ∃ pairs, a = .table pairs

/-- Without positions, values do not depend on the names of the template. -/
theorem value?_of_unordered {a : Arguments} (h : IsUnordered a) (c : Culture) (mode : Mode)
    (declarations : List Placeholder) (names names' : List Text) (name : Text) :
    Setting.value? ⟨c, a, mode, declarations, names⟩ name
      = Setting.value? ⟨c, a, mode, declarations, names'⟩ name := by
  unfold Setting.value?
  split
  · rfl
  · rcases h with rfl | ⟨pairs, rfl⟩ <;> rfl

theorem agrees_of_unordered {a : Arguments} (h : IsUnordered a) (c : Culture) (mode : Mode)
    (declarations : List Placeholder) (names names' asked : List Text) :
    Setting.Agrees ⟨c, a, mode, declarations, names⟩ ⟨c, a, mode, declarations, names'⟩ asked :=
  ⟨rfl, rfl, rfl, fun name _ => value?_of_unordered h c mode declarations names names' name⟩

/-- A text that is rendered is a template. -/
theorem exists_of_text (hmode : mode.parsesPlaceholders = true) {c : Culture} {a : Arguments}
    (h : text c a mode t = .ok r) :
    ∃ ns, parse mode t = .ok ns ∧ nodes ⟨c, a, mode, [], argumentNames ns⟩ none ns = .ok r := by
  rw [text_eq_template hmode, template] at h
  exact exists_of_bind h

/-- Two runs of nodes that are rendered are rendered together, with the literals between them joined. -/
theorem nodes_joined {s : Setting} {number : Option Decimal} {before after : List Node} {u u' : Text}
    (h : nodes s number (before ++ literalNode u) = .ok r)
    (h' : nodes s number (literalNode u' ++ after) = .ok r') :
    nodes s number (before ++ (literalNode (u ++ u') ++ after)) = .ok (r ++ r') := by
  rw [nodes_append] at h h'
  obtain ⟨b, hbefore, h⟩ := exists_of_bind h
  obtain ⟨v, hv, hr⟩ := exists_of_bind h
  obtain ⟨v', hv', h'⟩ := exists_of_bind h'
  obtain ⟨d, hafter, hr'⟩ := exists_of_bind h'
  rw [nodes_literalNode] at hv hv'
  cases hv
  cases hv'
  cases hr
  cases hr'
  rw [nodes_append, nodes_append, hbefore, nodes_literalNode, hafter]
  show Except.ok (b ++ (u ++ u' ++ d)) = Except.ok (b ++ u ++ (u' ++ d))
  rw [List.append_assoc, List.append_assoc]

/-- **Rendering distributes over putting texts together**: what follows a template changes nothing in how it
is read, and without positions nothing in the values either. -/
theorem text_append (hmode : mode.parsesPlaceholders = true) (hquote : mode.isArb = true → apostrophe ∉ t) :
    ((∃ ns, parse mode t = .ok ns) → (∃ ns, parse mode t' = .ok ns) → ∃ ns, parse mode (t ++ t') = .ok ns) ∧
    ∀ c a, IsUnordered a → ∀ r r', text c a mode t = .ok r → text c a mode t' = .ok r' →
      text c a mode (t ++ t') = .ok (r ++ r') := by
  constructor
  · rintro ⟨ns, hparse⟩ ⟨ms, hparse'⟩
    rw [parse_ok_iff hmode] at hparse hparse'
    obtain ⟨before, s, s', after, -, -, hreading⟩ := hparse.append hquote hparse'
    exact ⟨_, (parse_ok_iff hmode).mpr hreading⟩
  · intro c a ha r r' htext htext'
    obtain ⟨ns, hparse, hns⟩ := exists_of_text hmode htext
    obtain ⟨ms, hparse', hms⟩ := exists_of_text hmode htext'
    rw [parse_ok_iff hmode] at hparse hparse'
    obtain ⟨before, s, s', after, rfl, rfl, hreading⟩ := hparse.append hquote hparse'
    rw [text_eq_template hmode, template_of_parse c a [] ((parse_ok_iff hmode).mpr hreading)]
    -- All three are rendered with the same values, though their names have different places.
    refine nodes_joined ?_ ?_
    · rw [← hns]
      exact nodes_congr [] none _ (agrees_of_unordered ha c mode [] _ _ _)
    · rw [← hms]
      exact nodes_congr [] none _ (agrees_of_unordered ha c mode [] _ _ _)

/-- A text that ends with a doubled brace. -/
def opened : Text := "\x7b\x7b\x7bname,-6\x7d|\x7d\x7d"

/-- A text that starts with one. -/
def closed : Text := "\x7d\x7d: \x7bn, plural, one\x7b# day\x7d other\x7b# days\x7d\x7d\x7bNAME\x7d"

/-- A table with a name and a number. -/
def visitor : Arguments := .table [(.name "Name", .text "Ada"), (.name "N", .int 2)]

theorem text_append_closed :
    Mode.composite.parsesPlaceholders = true ∧ (Mode.composite.isArb = true → apostrophe ∉ opened) ∧
      text (.ofConventions {} {} none) visitor .composite (opened ++ closed)
        = .ok ("\x7bAda   |\x7d" ++ "\x7d: 2 daysAda") := by
  have hopened : text (.ofConventions {} {} none) visitor .composite opened = .ok "\x7bAda   |\x7d" :=
    ok_of_toOption (by decide +kernel)
  have hclosed : text (.ofConventions {} {} none) visitor .composite closed = .ok "\x7d: 2 daysAda" :=
    ok_of_toOption (by decide +kernel)
  have hquote : Mode.composite.isArb = true → apostrophe ∉ opened := by decide
  have hmode : Mode.composite.parsesPlaceholders = true := rfl
  exact ⟨hmode, hquote, (text_append hmode hquote).2 _ _ (.inr ⟨_, rfl⟩) _ _ hopened hclosed⟩

end Phrasebook.Render
