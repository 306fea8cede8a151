import Mathlib.Data.List.Perm.Basic
import Phrasebook.Proofs.Render.Nodes

/-!
# Named and positional arguments

The same values can be given one after the other, or under the names of the template. A sequence answers by the
place of a name among the names, a table by the name without regard to case, and an ordered table by the name
first. Where no name is a number and no two names are one and the same without regard to case, all of them have
the same value for every name (`value?_sequence`, `value?_table`, `value?_ordered`), and so they come to the same
text or the same failure (`text_named_eq_sequence`).
-/

namespace Phrasebook.Render

open Template

variable {mode : Mode} {t name : Text} {ns : List Node} {v : Value} {vs : List Value}
  {pairs : List (Text × Value)} {s : Setting}

/-- Values under names, as a caller passes them. -/
def named (pairs : List (Text × Value)) : List (ArgumentKey × Value) := pairs.map fun (name, v) => (.name name, v)

/-- Names that differ even without regard to case. -/
def Distinct (names : List Text) : Prop := (names.map Text.fold).Nodup

theorem mem_named {k : ArgumentKey} : (k, v) ∈ named pairs ↔ ∃ name, k = .name name ∧ (name, v) ∈ pairs := by
  simp only [named, List.mem_map, Prod.mk.injEq, Prod.exists]
  constructor
  · rintro ⟨name, w, hmem, rfl, rfl⟩
    exact ⟨name, rfl, hmem⟩
  · rintro ⟨name, rfl, hmem⟩
    exact ⟨name, v, hmem, rfl, rfl⟩

/-- Among names that differ without regard to case, such a name has one value. -/
theorem value_unique (hdistinct : Distinct (pairs.map Prod.fst)) {name' : Text} {v' : Value}
    (hmem : (name, v) ∈ pairs) (hmem' : (name', v') ∈ pairs) (hfold : name'.fold = name.fold) : v' = v := by
  rw [Distinct, List.map_map] at hdistinct
  exact congrArg Prod.snd (List.inj_on_of_nodup_map hdistinct hmem' hmem hfold)

/-- **A value is found under its name**, if no other name is the same without regard to case. -/
theorem byName?_named (hdistinct : Distinct (pairs.map Prod.fst)) (hmem : (name, v) ∈ pairs) :
    Arguments.byName? name (named pairs) = some v := by
  show ((named pairs).reverse.find? fun p => decide (p.1.toText.fold = name.fold)).map Prod.snd = some v
  cases hfind : (named pairs).reverse.find? fun p => decide (p.1.toText.fold = name.fold) with
  | none =>
      have hnone := List.find?_eq_none.mp hfind (.name name, v)
        (List.mem_reverse.mpr (mem_named.mpr ⟨name, rfl, hmem⟩))
      exact absurd (decide_eq_true rfl) hnone
  | some found =>
      obtain ⟨k, v'⟩ := found
      obtain ⟨name', rfl, hmem'⟩ := mem_named.mp (List.mem_reverse.mp (List.mem_of_find?_eq_some hfind))
      have hhit := List.find?_some hfind
      exact congrArg some (value_unique hdistinct hmem hmem' (of_decide_eq_true hhit))

theorem inTable?_named (hdistinct : Distinct (pairs.map Prod.fst)) (hmem : (name, v) ∈ pairs) :
    Arguments.inTable? name (named pairs) = .ok (some v) := by
  rw [Arguments.inTable?, byName?_named hdistinct hmem]

/-! ## One value in three ways -/

/-- A name that is no number stands for its place among the names. -/
theorem value?_sequence (hnames : s.names.Nodup) (hargs : s.arguments = .sequence vs)
    (hnumber : name.isNumber = false) (hmem : (name, v) ∈ s.names.zip vs) : s.value? name = .ok (some v) := by
  obtain ⟨i, hi, hpair⟩ := List.mem_iff_getElem.mp hmem
  rw [List.length_zip, Nat.lt_min] at hi
  rw [List.getElem_zip, Prod.mk.injEq] at hpair
  have hplace : s.names.findIdx? (· = name) = some i := by
    rw [List.findIdx?_eq_some_iff_getElem]
    refine ⟨hi.1, decide_eq_true hpair.1, fun j hj hfirst => ?_⟩
    have heq : s.names[j] = s.names[i] := (of_decide_eq_true hfirst).trans hpair.1.symm
    exact absurd ((hnames.getElem_inj_iff).mp heq) (Nat.ne_of_lt hj)
  unfold Setting.value?
  rw [hnumber, hplace, hargs]
  show Except.ok (Arguments.atPosition? (i : Int) vs) = Except.ok (some v)
  rw [Arguments.atPosition?, if_neg (by omega), Int.toNat_natCast, List.getElem?_eq_getElem hi.2, hpair.2]

theorem value?_table (hdistinct : Distinct (pairs.map Prod.fst)) (hargs : s.arguments = .table (named pairs))
    (hnumber : name.isNumber = false) (hmem : (name, v) ∈ pairs) : s.value? name = .ok (some v) := by
  unfold Setting.value?
  rw [hnumber, hargs]
  exact inTable?_named hdistinct hmem

/-- An ordered table answers by position only if it has no answer by name. -/
theorem value?_ordered (hdistinct : Distinct (pairs.map Prod.fst)) (hargs : s.arguments = .ordered (named pairs))
    (hnumber : name.isNumber = false) (hmem : (name, v) ∈ pairs) : s.value? name = .ok (some v) := by
  unfold Setting.value?
  rw [hnumber, hargs]
  show (Arguments.inTable? name (named pairs) >>= _) = _
  rw [inTable?_named hdistinct hmem]
  rfl

/-! ## Whole texts -/

/-- Values under the names of a template, in any order, are its values by position. -/
theorem agrees_named (hnumber : ∀ name ∈ argumentNames ns, name.isNumber = false)
    (hdistinct : Distinct (argumentNames ns)) (hlen : vs.length = (argumentNames ns).length)
    (hpairs : pairs.Perm ((argumentNames ns).zip vs)) (c : Culture) (declarations : List Placeholder)
    {a : Arguments} (ha : a = .ordered (named pairs) ∨ a = .table (named pairs)) :
    Setting.Agrees ⟨c, a, mode, declarations, argumentNames ns⟩
      ⟨c, .sequence vs, mode, declarations, argumentNames ns⟩ (argumentNames ns) := by
  have hkeys : Distinct (pairs.map Prod.fst) := by
    have hperm : ((argumentNames ns).zip vs).map Prod.fst = argumentNames ns :=
      List.map_fst_zip (Nat.le_of_eq hlen.symm)
    have hsame := (hpairs.map Prod.fst).map Text.fold
    rw [hperm] at hsame
    exact hsame.nodup_iff.mpr hdistinct
  refine ⟨rfl, rfl, rfl, fun name hname => ?_⟩
  -- The name at a place is paired with the value at that place, which the sequence has for it as well.
  obtain ⟨i, hi, rfl⟩ := List.mem_iff_getElem.mp hname
  have hzip : i < ((argumentNames ns).zip vs).length := by
    rw [List.length_zip]
    omega
  have hmem : ((argumentNames ns)[i], vs[i]) ∈ (argumentNames ns).zip vs :=
    List.mem_iff_getElem.mpr ⟨i, hzip, List.getElem_zip⟩
  have hnum := hnumber _ hname
  have hplace := value?_sequence (s := ⟨c, .sequence vs, mode, declarations, argumentNames ns⟩)
    (nodup_argumentNames ns) rfl hnum hmem
  rw [hplace]
  rcases ha with rfl | rfl
  · exact value?_ordered hkeys rfl hnum (hpairs.mem_iff.mpr hmem)
  · exact value?_table hkeys rfl hnum (hpairs.mem_iff.mpr hmem)

/-- **Values by name and values by position come to the same**, in a text and in an entry: the same text or the
same failure, in whatever order the pairs stand. -/
theorem text_named_eq_sequence (hmode : mode.parsesPlaceholders = true) (hread : parse mode t = .ok ns)
    (hnumber : ∀ name ∈ argumentNames ns, name.isNumber = false) (hdistinct : Distinct (argumentNames ns))
    (hlen : vs.length = (argumentNames ns).length) (hpairs : pairs.Perm ((argumentNames ns).zip vs)) (c : Culture) :
    (text c (.ordered (named pairs)) mode t = text c (.sequence vs) mode t ∧
      text c (.table (named pairs)) mode t = text c (.sequence vs) mode t) ∧
    ∀ e, sourceText e = t →
      entry c (.ordered (named pairs)) mode e = entry c (.sequence vs) mode e ∧
        entry c (.table (named pairs)) mode e = entry c (.sequence vs) mode e := by
  have hsame : ∀ declarations a, (a = .ordered (named pairs) ∨ a = .table (named pairs)) →
      template c a mode declarations t = template c (.sequence vs) mode declarations t := by
    intro declarations a ha
    rw [template_of_parse c a declarations hread, template_of_parse c _ declarations hread]
    exact nodes_congr [] none ns (agrees_named hnumber hdistinct hlen hpairs c declarations ha)
  refine ⟨?_, ?_⟩
  · rw [text_eq_template hmode, text_eq_template hmode, text_eq_template hmode]
    exact ⟨hsame [] _ (.inl rfl), hsame [] _ (.inr rfl)⟩
  · rintro e rfl
    rw [entry_eq_template hmode, entry_eq_template hmode, entry_eq_template hmode]
    exact ⟨hsame _ _ (.inl rfl), hsame _ _ (.inr rfl)⟩

/-- Seats for guests, with names in the cases of a plural only. -/
def seats : Text :=
  "\x7bn, plural, one\x7ba seat for \x7bguest\x7d\x7d other\x7b# seats: \x7bguest\x7d, \x7bnext\x7d\x7d\x7d"

/-- Values for the seats under their names, in an order of their own. -/
def guests : List (Text × Value) := [("next", .text "Bo"), ("guest", .text "Ada"), ("n", .int 2)]

/-- The same values in the order in which the text asks for them. -/
def guestsInOrder : List Value := [.int 2, .text "Ada", .text "Bo"]

theorem text_named_seats :
    ∃ ns, Mode.arb.parsesPlaceholders = true ∧ parse .arb seats = .ok ns ∧
      (∀ name ∈ argumentNames ns, name.isNumber = false) ∧ Distinct (argumentNames ns) ∧
      guests.Perm ((argumentNames ns).zip guestsInOrder) ∧
      (text (Culture.ofName "en-US") (.ordered (named guests)) .arb seats
          = text (Culture.ofName "en-US") (.sequence guestsInOrder) .arb seats ∧
        text (Culture.ofName "en-US") (.table (named guests)) .arb seats
          = text (Culture.ofName "en-US") (.sequence guestsInOrder) .arb seats) := by
  have hnames : (match Template.read .arb seats with
      | .ok ns => decide (argumentNames ns = ["n", "guest", "next"])
      | .error _ => false) = true := by decide +kernel
  split at hnames
  · next ns hread =>
      have hparse : parse .arb seats = .ok ns := by rw [parse, hread]; rfl
      have hnames : argumentNames ns = ["n", "guest", "next"] := of_decide_eq_true hnames
      have hnumber : ∀ name ∈ argumentNames ns, name.isNumber = false := by rw [hnames]; decide +kernel
      have hdistinct : Distinct (argumentNames ns) := by rw [hnames, Distinct]; decide +kernel
      have hpairs : guests.Perm ((argumentNames ns).zip guestsInOrder) := by
        rw [hnames]
        exact (List.reverse_perm guests).symm
      have hsame := text_named_eq_sequence rfl hparse hnumber hdistinct (by rw [hnames]; rfl) hpairs
        (Culture.ofName "en-US")
      exact ⟨ns, rfl, hparse, hnumber, hdistinct, hpairs, hsame.1⟩
  · cases hnames

end Phrasebook.Render
