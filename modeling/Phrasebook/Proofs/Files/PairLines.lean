import Mathlib.Data.List.Nodup
import Phrasebook.Proofs.Files.IniDocument
import Phrasebook.Proofs.Files.TomlDocument
import Phrasebook.Proofs.Text.Fold

/-!
# Lines of pairs

Some documents can be written in every dialect: pairs of a key and a value, an equals sign between them and each pair on
a line of its own, some of them in a section. What differs is how a value is written. A dialect that has a way to write
values (`Dialect.Writer`) reads such a document to the same keys and values as any other does, or refuses it because a key
comes twice (`readDocument_text`).

Ini files have values as they are, and toml files have them as basic strings.
-/

namespace Phrasebook.Files

open Cursor (isBreak isInlineBlank)
open Ini (IsKey)
open Text (EndsLine Stops)

/-- What stands between a key and its value. -/
def equals : CodePoint := '='

/-- A value that a line can end with: no white space at its ends, and no line break. -/
structure IsLineValue (v : Text) : Prop where
  trimmed : v.strip = v
  inLine : ∀ c ∈ v, isBreak c = false

/-- A pair of a key and a value that can be written on a line. -/
structure IsPair (p : Text × Text) : Prop where
  key : IsKey p.1
  value : IsLineValue p.2

theorem isKey_iff {key : Text} : IsKey key ↔ Ini.keyOf? key = some (key, []) := by
  constructor
  · intro h
    have hread := Ini.keyOf?_complete h Text.stops_nil
    rwa [List.append_nil] at hread
  · intro h
    exact (Ini.keyOf?_sound h).1

instance : DecidablePred IsKey := fun _ => decidable_of_iff _ isKey_iff.symm

instance : DecidablePred IsLineValue := fun v =>
  decidable_of_iff (v.strip = v ∧ ∀ c ∈ v, isBreak c = false)
    ⟨fun h => ⟨h.1, h.2⟩, fun h => ⟨h.trimmed, h.inLine⟩⟩

instance : DecidablePred IsPair := fun p =>
  decidable_of_iff (IsKey p.1 ∧ IsLineValue p.2) ⟨fun h => ⟨h.1, h.2⟩, fun h => ⟨h.key, h.value⟩⟩

/-- No key comes twice, letter case aside. -/
def AreApart (pairs : List (Text × Text)) : Prop := (pairs.map fun p => p.1.fold).Nodup

instance : DecidablePred AreApart := fun pairs =>
  inferInstanceAs (Decidable (pairs.map fun p => p.1.fold).Nodup)

theorem IsLineValue.stops {v : Text} (h : IsLineValue v) : Stops isInlineBlank v := by
  intro c hc
  have hblank := (Text.strip_eq_self_iff.mp h.trimmed).1 c hc
  rw [Bool.eq_false_iff]
  intro hinline
  rw [isBlank_of_isInlineBlank hinline] at hblank
  cases hblank

theorem IsLineValue.stripEnd {v : Text} (h : IsLineValue v) : v.stripEnd = v := by
  have hend := (Text.strip_eq_self_iff.mp h.trimmed).2
  rw [Text.stripEnd, Text.stripStart_of_stops hend, List.reverse_reverse]

/-- What a key starts with. -/
theorem exists_first_of_isKey {key : Text} (h : IsKey key) :
    ∃ x t, key = x :: t ∧ (x = CodePoint.ofChar '*' ∨ startsKey x = true) := by
  cases h with
  | star => exact ⟨_, _, rfl, .inl rfl⟩
  | name hc _ => exact ⟨_, _, rfl, .inr hc⟩

theorem isKey_inLine {key : Text} (h : IsKey key) : ∀ x ∈ key, isBreak x = false := by
  intro x hx
  cases h with
  | star =>
      obtain rfl := List.mem_singleton.mp hx
      decide
  | name hc ht =>
      rcases List.mem_cons.mp hx with rfl | hx
      · exact continues_not_break _ (continues_of_starts hc)
      · exact continues_not_break _ (ht x hx)

/-! ## Ways to write values -/

/-- **A way to write the values of a dialect.** A pair is read back from its line: the key as it is, and the value as a
value that says the same. -/
structure Dialect.Writer (d : Dialect) where
  /-- How a value is written. -/
  write : Text → Text
  /-- What is read from that. -/
  written : Text → Written
  /-- What starts a key or a header starts no comment. -/
  comment_ne : ∀ x, (x = CodePoint.ofChar '*' ∨ startsKey x = true) ∨ x = CodePoint.ofChar '[' → d.comment ≠ x
  comment_inLine : isBreak d.comment = false
  separator : d.isSeparator equals = true
  readKey : ∀ {n : Nat} {key t u : Text} {c : Cursor}, IsKey key → Stands n (key ++ equals :: t) u c →
    ∃ c', d.readKey c = .ok ([key], c') ∧ Stands n (equals :: t) u c'
  inLine : ∀ {v : Text}, IsLineValue v → ∀ x ∈ write v, isBreak x = false
  stops : ∀ {v : Text}, IsLineValue v → Stops isInlineBlank (write v)
  readValue : ∀ {n : Nat} {v u : Text} {c : Cursor}, IsLineValue v → Stands n (write v) u c →
    ∃ c', d.readValue c = .ok (written v, c') ∧ Stands n [] u c'
  plain : ∀ {v : Text}, IsLineValue v → (written v).decoded.getD (written v).raw = v

namespace Dialect.Writer

variable {d : Dialect} (w : d.Writer)

/-- The line of a pair, with its break. -/
def line (p : Text × Text) : Text := p.1 ++ equals :: (w.write p.2 ++ [CodePoint.lineFeed])

/-- The lines of some pairs. -/
def lines (pairs : List (Text × Text)) : Text := pairs.flatMap w.line

/-- **The text of some pairs outside all sections and some in a section.** -/
def text (outside : List (Text × Text)) (sectionName : Text) (inside : List (Text × Text)) : Text :=
  w.lines outside
    ++ CodePoint.ofChar '[' :: (sectionName ++ CodePoint.ofChar ']' :: CodePoint.lineFeed :: w.lines inside)

/-- The item of a pair in a section. -/
def item (sectionName : Text) (p : Text × Text) : Item := ⟨sectionName, p.1, w.written p.2⟩

/-- The document of some pairs outside all sections and some in a section. -/
def document (outside : List (Text × Text)) (sectionName : Text) (inside : List (Text × Text)) : Document :=
  ⟨outside.map (w.item []) ++ inside.map (w.item sectionName), [sectionName]⟩

/-! ## Reading a line -/

variable {n fuel : Nat} {u : Text} {c : Cursor} {p : Text × Text} (sectionName : Text) (doc : Document)

/-- **A pair is read as its item**, unless its key has a value in the section. -/
theorem readItem_pair (hp : IsPair p) (h : Stands n (p.1 ++ equals :: w.write p.2) u c) :
    if (w.item sectionName p).identity ∈ doc.items.map Item.identity then
      ∃ e, d.readItem sectionName doc c = .error e
    else ∃ c', d.readItem sectionName doc c = .ok ({ doc with items := doc.items ++ [w.item sectionName p] }, c')
      ∧ c'.rest = u := by
  obtain ⟨c₁, hkey, hafter⟩ := w.readKey hp.key h
  have hgap : Stands n (equals :: w.write p.2) u c₁.skipInlineBlanks := hafter.skipWhile blank_not_break
  have hvalue : Stands n (w.write p.2) u c₁.skipInlineBlanks.next.skipInlineBlanks := by
    have hskipped := hgap.next.skipWhile blank_not_break
    rwa [Text.dropWhile_of_stops (w.stops hp.value)] at hskipped
  have hread := readItem_of_key sectionName doc hkey hgap.rest (by decide) w.separator
  show if (sectionName.fold, p.1.fold) ∈ doc.items.map Item.identity then _ else _
  by_cases hseen : (sectionName.fold, p.1.fold) ∈ doc.items.map Item.identity
  · rw [if_pos hseen] at hread ⊢
    exact ⟨_, hread⟩
  · rw [if_neg hseen] at hread ⊢
    obtain ⟨c₂, hwritten, hstop⟩ := w.readValue hp.value hvalue
    obtain ⟨c₃, hfinish, hu, -⟩ := hstop.finishLine d w.comment_inLine rfl
    refine ⟨c₃, hread.trans ?_, hu⟩
    rw [hwritten]
    show (d.finishLine c₂).map _ = _
    rw [hfinish]
    rfl

/-- A line break is passed over. -/
theorem readLines_break (h : c.rest = CodePoint.lineFeed :: u) :
    ∃ c', c'.rest = u ∧ ∀ fuel, d.readLines (fuel + 1) sectionName doc c = d.readLines fuel sectionName doc c' := by
  have hstay : c.skipInlineBlanks.rest = CodePoint.lineFeed :: u := by
    rw [Cursor.skipInlineBlanks, Cursor.skipWhile_rest, h]
    exact Text.dropWhile_of_stops (Text.stops_cons.mpr (by decide))
  refine ⟨c.skipInlineBlanks.skipLineBreak, ?_, fun fuel => ?_⟩
  · have hpair : ¬c.skipInlineBlanks.startsWith "\r\n" = true := by
      rw [Cursor.startsWith_pair, hstay]
      rintro ⟨t, ht⟩
      exact absurd (List.cons.inj ht).1 (by decide)
    rw [Cursor.skipLineBreak, if_neg hpair, hstay]
    dsimp only
    rw [if_pos Cursor.isBreak_lineFeed, Cursor.next_rest, hstay]
    rfl
  · have hend : c.skipInlineBlanks.atLineEnd = true := by
      rw [Cursor.atLineEnd, hstay]
      exact Cursor.isBreak_lineFeed
    rw [Dialect.readLines, if_neg (Cursor.not_atEnd_of_skipInlineBlanks hstay)]
    exact if_pos hend

/-- There are no blanks to be passed over before a line that starts with none. -/
theorem stands_skipInlineBlanks {x : CodePoint} {t : Text} (h : Stands n (x :: t) u c) (hx : isInlineBlank x = false) :
    Stands n (x :: t) u c.skipInlineBlanks := by
  have hskipped := h.skipWhile blank_not_break
  rwa [Text.dropWhile_of_stops (Text.stops_cons.mpr hx)] at hskipped

/-- **The line of a pair is read as its item, and the next line after it**, unless the key has a value in the section. -/
theorem readLines_pair (hp : IsPair p) (h : c.rest = w.line p ++ u) (fuel : Nat) :
    if (w.item sectionName p).identity ∈ doc.items.map Item.identity then
      ∃ e, d.readLines (fuel + 2) sectionName doc c = .error e
    else ∃ c', c'.rest = u ∧ d.readLines (fuel + 2) sectionName doc c
      = d.readLines fuel sectionName { doc with items := doc.items ++ [w.item sectionName p] } c' := by
  have hends : EndsLine (CodePoint.lineFeed :: u) := Text.stops_cons.mpr (by decide)
  have hstands : Stands c.line (p.1 ++ equals :: w.write p.2) (CodePoint.lineFeed :: u) c := by
    refine ⟨?_, rfl, fun x hx => ?_, hends⟩
    · rw [h, line]
      simp
    · rcases List.mem_append.mp hx with hx | hx
      · exact isKey_inLine hp.key x hx
      rcases List.mem_cons.mp hx with rfl | hx
      · decide
      · exact w.inLine hp.value x hx
  obtain ⟨x, t, hkey, hx⟩ := exists_first_of_isKey hp.key
  obtain ⟨hblank, -, hbracket⟩ := Ini.starts_apart hx
  rw [hkey, List.cons_append] at hstands
  have hline := stands_skipInlineBlanks hstands hblank
  -- The line starts neither a comment nor a header, so it is read as an item.
  have hread := readLines_cons sectionName doc hline.rest (hline.inLine x List.mem_cons_self)
    (w.comment_ne x (.inl hx)).symm (fuel + 1)
  rw [← List.cons_append, ← hkey] at hline
  have hitem := w.readItem_pair sectionName doc hp hline
  rw [hread, if_neg hbracket]
  split
  · next hseen =>
      rw [if_pos hseen] at hitem
      obtain ⟨e, he⟩ := hitem
      rw [he]
      exact ⟨e, rfl⟩
  · next hnew =>
      rw [if_neg hnew] at hitem
      obtain ⟨c₁, hok, hrest⟩ := hitem
      obtain ⟨c', hu, hbreak⟩ := readLines_break sectionName _ hrest
      refine ⟨c', hu, ?_⟩
      rw [hok]
      exact hbreak fuel

include w in
/-- **A header is read as its section, and the next line after it**, if the section was not there before. -/
theorem readLines_header {name : Text} (hname : Toml.IsBareName name) (hnew : name.fold ∉ doc.sections.map Text.fold)
    (h : c.rest = CodePoint.ofChar '[' :: (name ++ CodePoint.ofChar ']' :: CodePoint.lineFeed :: u)) (fuel : Nat) :
    ∃ c', c'.rest = u ∧ d.readLines (fuel + 2) sectionName doc c
      = d.readLines fuel name { doc with sections := doc.sections ++ [name] } c' := by
  have hends : EndsLine (CodePoint.lineFeed :: u) := Text.stops_cons.mpr (by decide)
  have hstands := hname.stands areBlanks_nil hends h
  have hline := stands_skipInlineBlanks hstands (by decide)
  have hread := readLines_cons sectionName doc hline.rest (by decide) (w.comment_ne _ (.inr rfl)).symm (fuel + 1)
  obtain ⟨c₁, hok, hrest⟩ := hname.readHeader w.comment_inLine areBlanks_nil hline hnew
  obtain ⟨c', hu, hbreak⟩ := readLines_break name _ hrest
  refine ⟨c', hu, ?_⟩
  rw [hread, if_pos rfl, hok]
  exact hbreak fuel

/-! ## Reading documents -/

/-- **The lines of pairs are read as their items**, one after the other, unless a key comes twice in the section. -/
theorem readLines_pairs {pairs : List (Text × Text)} (hpairs : ∀ p ∈ pairs, IsPair p)
    (hdoc : (doc.items.map Item.identity).Nodup) (h : c.rest = w.lines pairs ++ u) (hfuel : c.rest.length < fuel) :
    if ((doc.items ++ pairs.map (w.item sectionName)).map Item.identity).Nodup then
      ∃ c' fuel', c'.rest = u ∧ u.length < fuel' ∧ d.readLines fuel sectionName doc c
        = d.readLines fuel' sectionName { doc with items := doc.items ++ pairs.map (w.item sectionName) } c'
    else ∃ e, d.readLines fuel sectionName doc c = .error e := by
  induction pairs generalizing doc c fuel with
  | nil =>
      have hrest : c.rest = u := h
      rw [List.map_nil, List.append_nil, if_pos hdoc]
      exact ⟨c, fuel, hrest, hrest ▸ hfuel, rfl⟩
  | cons p pairs ih =>
      have hp := hpairs p List.mem_cons_self
      have hrest : c.rest = w.line p ++ (w.lines pairs ++ u) := by
        rw [h, lines, List.flatMap_cons, List.append_assoc]
        rfl
      -- A line takes a step for itself and one for its break.
      obtain ⟨fuel, rfl⟩ : ∃ k, fuel = k + 2 := by
        refine ⟨fuel - 2, ?_⟩
        rw [hrest, line] at hfuel
        simp only [List.length_append, List.length_cons, List.length_nil] at hfuel
        omega
      have hstep := w.readLines_pair sectionName doc hp hrest fuel
      rw [List.map_cons]
      by_cases hseen : (w.item sectionName p).identity ∈ doc.items.map Item.identity
      · rw [if_pos hseen] at hstep
        rw [if_neg]
        · exact hstep
        · intro hnodup
          rw [List.map_append, List.map_cons] at hnodup
          exact (List.nodup_append.mp hnodup).2.2 _ hseen _ List.mem_cons_self rfl
      · rw [if_neg hseen] at hstep
        obtain ⟨c₁, hrest₁, hread⟩ := hstep
        have hdoc₁ : ((doc.items ++ [w.item sectionName p]).map Item.identity).Nodup := by
          rw [List.map_append, List.map_singleton, ← List.concat_eq_append]
          exact hdoc.concat hseen
        have hfuel₁ : c₁.rest.length < fuel := by
          rw [hrest, List.length_append, ← hrest₁, line] at hfuel
          simp only [List.length_append, List.length_cons, List.length_nil] at hfuel
          omega
        have ih := ih { doc with items := doc.items ++ [w.item sectionName p] }
          (fun q hq => hpairs q (List.mem_cons_of_mem p hq)) hdoc₁ hrest₁ hfuel₁
        rw [hread]
        simpa only [List.append_assoc, List.singleton_append] using ih

/-- Items of one section are apart if their keys are. -/
theorem nodup_items_iff (pairs : List (Text × Text)) :
    ((pairs.map (w.item sectionName)).map Item.identity).Nodup ↔ AreApart pairs := by
  have hidentities : (pairs.map (w.item sectionName)).map Item.identity
      = (pairs.map fun p => p.1.fold).map (Prod.mk sectionName.fold) := by
    rw [List.map_map, List.map_map]
    rfl
  rw [hidentities, AreApart]
  exact List.nodup_map_iff fun _ _ h => (Prod.mk.inj h).2

/-- Items outside all sections are apart from those in a section. -/
theorem nodup_document_iff {sectionName : Text} (hsection : sectionName ≠ []) (outside inside : List (Text × Text)) :
    (((outside.map (w.item [])) ++ inside.map (w.item sectionName)).map Item.identity).Nodup
      ↔ AreApart outside ∧ AreApart inside := by
  have hdisjoint : ∀ a ∈ (outside.map (w.item [])).map Item.identity,
      ∀ b ∈ (inside.map (w.item sectionName)).map Item.identity, a ≠ b := by
    simp only [List.map_map, List.forall_mem_map]
    intro p _ q _ heq
    have hfold : Text.fold [] = sectionName.fold := (Prod.mk.inj heq).1
    exact hsection (Text.fold_eq_nil.mp hfold.symm)
  rw [List.map_append, List.nodup_append, w.nodup_items_iff, w.nodup_items_iff]
  exact ⟨fun h => ⟨h.1, h.2.1⟩, fun h => ⟨h.1, h.2, hdisjoint⟩⟩

/-- **Pairs are read back from their text**, unless a key comes twice outside the section or in it. -/
theorem readDocument_text {sectionName : Text} {outside inside : List (Text × Text)} (houtside : ∀ p ∈ outside, IsPair p)
    (hname : Toml.IsBareName sectionName) (hinside : ∀ p ∈ inside, IsPair p) :
    if AreApart outside ∧ AreApart inside then
      d.readDocument (w.text outside sectionName inside) = .ok (w.document outside sectionName inside)
    else ∃ e, d.readDocument (w.text outside sectionName inside) = .error e := by
  have hsection : sectionName ≠ [] := by
    rintro rfl
    exact (hname [] List.mem_cons_self).1 rfl
  have houter := w.readLines_pairs [] ⟨[], []⟩ (c := .start (w.text outside sectionName inside)) houtside
    List.nodup_nil rfl (Nat.lt_succ_self _)
  simp only [List.nil_append, w.nodup_items_iff] at houter
  by_cases hapart : AreApart outside
  · rw [if_pos hapart] at houter
    -- The fuel that is left exceeds what is left to read, and the lines to come take two steps each.
    obtain ⟨c₁, fuel, hrest, hfuel, hread⟩ := houter
    obtain ⟨fuel, rfl⟩ : ∃ k, fuel = k + 2 := by
      refine ⟨fuel - 2, ?_⟩
      simp only [List.length_append, List.length_cons] at hfuel
      omega
    obtain ⟨c₂, hrest₂, hheader⟩ := w.readLines_header [] ⟨outside.map (w.item []), []⟩ hname List.not_mem_nil
      hrest fuel
    have hfuel₂ : c₂.rest.length < fuel := by
      rw [hrest₂]
      simp only [List.length_append, List.length_cons] at hfuel
      omega
    have hinner := w.readLines_pairs sectionName ⟨outside.map (w.item []), [sectionName]⟩ hinside
      ((w.nodup_items_iff [] outside).mpr hapart) (hrest₂.trans (List.append_nil _).symm) hfuel₂
    -- The name of the section is not empty, so no key outside is one of a key in it.
    simp only [w.nodup_document_iff hsection] at hinner
    have hdocument : d.readDocument (w.text outside sectionName inside)
        = d.readLines fuel sectionName ⟨outside.map (w.item []), [sectionName]⟩ c₂ := hread.trans hheader
    rw [hdocument]
    by_cases hboth : AreApart outside ∧ AreApart inside
    · rw [if_pos hboth] at hinner ⊢
      obtain ⟨c₃, fuel₃, hrest₃, hfuel₃, hlast⟩ := hinner
      obtain ⟨fuel₃, rfl⟩ : ∃ k, fuel₃ = k + 1 := ⟨fuel₃ - 1, by omega⟩
      refine hlast.trans ?_
      have hend : c₃.atEnd = true := by rw [Cursor.atEnd, hrest₃]; rfl
      rw [Dialect.readLines, if_pos hend]
      rfl
    · rw [if_neg hboth] at hinner ⊢
      exact hinner
  · rw [if_neg hapart] at houter
    rw [if_neg fun h => hapart h.1]
    exact houter

end Dialect.Writer

variable {n : Nat} {key t u v : Text} {c : Cursor}

/-- An equals sign ends a key. -/
theorem stops_equals (t : Text) : Stops continuesKey (equals :: t) := Text.stops_cons.mpr (by decide +kernel)

/-! ## Values of ini files -/

/-- **In ini files a value is written as it is.** -/
def Ini.writer : Ini.dialect.Writer where
  write v := v
  written v := ⟨v, none⟩
  comment_ne x hx := by
    rcases hx with hx | rfl
    · exact (Ini.starts_apart hx).2.1.symm
    · decide
  comment_inLine := by decide
  separator := by decide
  readKey hkey h := Ini.readKey_ok h (Ini.keyOf?_complete hkey (stops_equals _))
  inLine h := h.inLine
  stops h := h.stops
  readValue h hstands := by
    obtain ⟨c', hread, hstop⟩ := Ini.readValue_ok hstands
    rw [h.stripEnd] at hread
    exact ⟨c', hread, hstop⟩
  plain _ := rfl

/-! ## Values of toml files -/

namespace Toml

/-- A key without quotes is read as it is. -/
theorem readSegment_isKey (hkey : IsKey key) (h : Stands n (key ++ equals :: t) u c) :
    ∃ c', readSegment true c = .ok (key, c') ∧ Stands n (equals :: t) u c' := by
  cases hkey with
  | star =>
      refine ⟨c.next, ?_, h.next⟩
      have hquote : c.isAt doubleQuote = false := (h.isAt_cons doubleQuote).trans (by decide)
      have hstar : c.isAt '*' = true := (h.isAt_cons _).trans (by decide)
      rw [readSegment, hquote, if_neg Bool.false_ne_true, hstar]
      rfl
  | @name x s hx hs =>
      have hall : ∀ y ∈ x :: s, continuesKey y = true := by
        intro y hy
        rcases List.mem_cons.mp hy with rfl | hy
        · exact continues_of_starts hx
        · exact hs y hy
      have hquote : x ≠ doubleQuote := by
        rintro rfl
        exact absurd hx (by decide +kernel)
      have hstar : x ≠ CodePoint.ofChar '*' := by
        rintro rfl
        exact absurd hx (by decide +kernel)
      -- The run of name characters ends at the equals sign.
      have hafter := h.skipWhile continues_not_break
      have htext := h.textTo continues_not_break
      rw [Text.dropWhile_run hall (stops_equals t)] at hafter
      rw [Text.takeWhile_run hall (stops_equals t)] at htext
      refine ⟨c.skipWhile continuesKey, ?_, hafter⟩
      rw [List.cons_append] at h
      rw [readSegment, h.isAt_cons, if_neg (by simpa using hquote), h.isAt_cons, if_neg (by simpa using hstar),
        h.head_cons, Option.any_some, if_pos hx]
      exact congrArg (fun s => Except.ok (s, _)) htext

theorem readKey_isKey (hkey : IsKey key) (h : Stands n (key ++ equals :: t) u c) :
    ∃ c', Toml.readKey c = .ok ([key], c') ∧ Stands n (equals :: t) u c' := by
  obtain ⟨c₁, hsegment, hstands⟩ := readSegment_isKey hkey h
  have hafter : Stands n (equals :: t) u c₁.skipInlineBlanks := hstands.skipWhile blank_not_break
  refine ⟨c₁.skipInlineBlanks, ?_, hafter⟩
  rw [Toml.readKey, readSegments, hsegment]
  show (if c₁.skipInlineBlanks.isAt Group.dot then _ else _) = _
  rw [hafter.isAt_cons, if_neg (by decide)]
  rfl

/-- **In toml files a value is written as a basic string.** -/
def writer : Toml.dialect.Writer where
  write v := Form.basic.write v
  written v := ⟨Form.basic.content v, some v⟩
  comment_ne x hx := by
    rcases hx with (rfl | hstarts) | rfl
    · decide
    · rintro rfl
      exact absurd hstarts (by decide +kernel)
    · decide
  comment_inLine := by decide
  separator := by decide
  readKey hkey h := readKey_isKey hkey h
  inLine {v} _ x hx := by
    rcases List.mem_append.mp hx with hx | hx
    · obtain rfl := List.mem_singleton.mp hx
      decide
    rcases List.mem_append.mp hx with hx | hx
    · exact escaped_inLine v x hx
    · obtain rfl := List.mem_singleton.mp hx
      decide
  stops _ := Text.stops_cons.mpr (by decide)
  readValue {n v u c} _ h := by
    have hread := readValue_write .basic trivial (head_ne_quote .basic areBlanks_nil h.ends) h.rest
    refine ⟨_, hread, Stands.advance ?_⟩
    rwa [List.append_nil]
  plain _ := rfl

end Toml

end Phrasebook.Files
