import Mathlib.Data.List.Nodup
import Phrasebook.Proofs.Files.Lines
import Phrasebook.Proofs.Files.TomlStrings

/-!
# Toml files as they are written

A toml file of tables writes each key between quotes, so that every text can be a key, and each value in one
of the four forms. `DocumentText` says which texts write some lines: blanks and line breaks may stand wherever
they are not part of a string. Such a text is read line by line, though a value may go on over several
lines of the text, and each line is followed as it says (`readLines_of_documentText`).

What comes of it is that the tables are read back: their names are the sections, and their keys and values
are the items, in order, if no name comes twice and no key twice in a table, letter case aside.
-/

namespace Phrasebook.Files.Toml

open Cursor (isBreak isInlineBlank)
open Text (EndsLine Stops escapedBy)

/-! ## Writing documents -/

/-- A name that is written without quotes: its parts, between full stops, are made of what keys are made of. -/
def IsBareName (name : Text) : Prop :=
  ∀ part ∈ Text.splitAll Group.dot name, part ≠ [] ∧ ∀ c ∈ part, continuesKey c = true

instance : DecidablePred IsBareName := fun name =>
  inferInstanceAs (Decidable (∀ part ∈ Text.splitAll Group.dot name,
    part ≠ [] ∧ ∀ c ∈ part, continuesKey c = true))

/-- A key, between quotes. -/
def writeKey (key : Text) : Text := doubleQuote :: (escapedBy lineEscape? key ++ [doubleQuote])

/-- A key with its value, and the form that the value is written in. -/
structure Assignment where
  key : Text
  form : Form
  value : Text
deriving DecidableEq

/-- A section with its keys. -/
structure Table where
  name : Text
  assignments : List Assignment
deriving DecidableEq

/-- The value as it is written, and decoded. -/
def Assignment.written (a : Assignment) : Written := ⟨a.form.content a.value, some a.value⟩

/-- The lines that a table is written in. -/
def Table.lines (table : Table) : List Line :=
  .header table.name :: table.assignments.map fun a => .item a.key a.written

/-- The items that a table holds. -/
def Table.items (table : Table) : List Item :=
  table.assignments.map fun a => ⟨table.name, a.key, a.written⟩

/-- **`LineText l w`**: `w` is a text of the line `l`, from its first code point to its last one. -/
inductive LineText : Line → Text → Prop
  | header {name : Text} :
      IsBareName name → LineText (.header name) (CodePoint.ofChar '[' :: (name ++ [CodePoint.ofChar ']']))
  | item {key gap space value : Text} {form : Form} :
      AreBlanks gap → AreBlanks space → form.Fits value →
      LineText (.item key ⟨form.content value, some value⟩)
        (writeKey key ++ (gap ++ CodePoint.ofChar '=' :: (space ++ form.write value)))

/-- **`DocumentText lines t`**: `t` is a text of the lines, each with its end, and with blanks and empty lines
around them. -/
inductive DocumentText : List Line → Text → Prop
  | nil : DocumentText [] []
  | gap {lines : List Line} {c : CodePoint} {t : Text} :
      isInlineBlank c = true ∨ isBreak c = true → DocumentText lines t → DocumentText lines (c :: t)
  | line {l : Line} {lines : List Line} {w tail u : Text} :
      LineText l w → AreBlanks tail → EndsLine u → DocumentText lines u →
      DocumentText (l :: lines) (w ++ (tail ++ u))

variable {c : Cursor} {l : Line} {ls : List Line} {w tail t u : Text}

/-- A line starts with a bracket or a quote. -/
theorem LineText.exists_cons (h : LineText l w) :
    ∃ x v, w = x :: v ∧ (x = CodePoint.ofChar '[' ∨ x = doubleQuote) := by
  cases h with
  | header _ => exact ⟨_, _, rfl, .inl rfl⟩
  | item _ _ _ => exact ⟨_, _, rfl, .inr rfl⟩

/-- What starts a line is no gap. -/
theorem LineText.not_gap (h : LineText l w) :
    ∃ x v, w = x :: v ∧ isInlineBlank x = false ∧ isBreak x = false := by
  obtain ⟨x, v, hw, rfl | rfl⟩ := h.exists_cons
  · exact ⟨_, v, hw, by decide, by decide⟩
  · exact ⟨_, v, hw, by decide, by decide⟩

/-- A gap can be left out. -/
theorem DocumentText.of_gap {x : CodePoint} (h : DocumentText ls (x :: t))
    (hx : isInlineBlank x = true ∨ isBreak x = true) : DocumentText ls t := by
  generalize ht : x :: t = v at h
  cases h with
  | nil => cases ht
  | gap _ h =>
      obtain ⟨rfl, rfl⟩ := List.cons.inj ht
      exact h
  | line hw _ _ _ =>
      obtain ⟨y, v, rfl, hblank, hbreak⟩ := hw.not_gap
      obtain rfl : x = y := (List.cons.inj ht).1
      rw [hblank, hbreak] at hx
      rcases hx with hx | hx <;> cases hx

theorem DocumentText.dropWhile (h : DocumentText ls t) : DocumentText ls (t.dropWhile isInlineBlank) := by
  induction t with
  | nil => exact h
  | cons x t ih =>
      by_cases hx : isInlineBlank x = true
      · rw [List.dropWhile_cons_of_pos hx]
        exact ih (h.of_gap (.inl hx))
      · rw [List.dropWhile_cons_of_neg hx]
        exact h

theorem DocumentText.eq_nil (h : DocumentText ls []) : ls = [] := by
  generalize ht : ([] : Text) = v at h
  cases h with
  | nil => rfl
  | gap _ _ => cases ht
  | line hw _ _ _ =>
      obtain ⟨x, v, rfl, -⟩ := hw.exists_cons
      cases ht

/-! ## Reading a header -/

theorem IsBareName.mem {name : Text} (h : IsBareName name) {x : CodePoint} (hx : x ∈ name) :
    continuesKey x = true ∨ x = Group.dot := by
  rw [← Text.join_splitAll Group.dot name] at hx
  rcases Text.mem_join hx with hdot | ⟨part, hpart, hx⟩
  · exact .inr (List.mem_singleton.mp hdot)
  · exact .inl ((h part hpart).2 x hx)

/-- There is nothing to be left out around the parts of a bare name. -/
theorem IsBareName.sectionParts_eq {name : Text} (h : IsBareName name) :
    sectionParts name = Text.splitAll Group.dot name := by
  have hparts : ∀ part ∈ Text.splitAll Group.dot name, part.strip = part := fun part hpart =>
    Text.strip_eq_self fun x hx => isBlank_of_continues ((h part hpart).2 x hx)
  exact (List.map_congr_left hparts).trans (List.map_id _)

theorem blanks_stand (hc : c.rest = tail ++ u) (htail : AreBlanks tail) (hu : EndsLine u) :
    Stands c.line tail u c :=
  ⟨hc, rfl, fun x hx => blank_not_break x (htail x hx), hu⟩

theorem IsBareName.inSectionName {name : Text} (h : IsBareName name) :
    ∀ x ∈ name, Dialect.inSectionName x = true := by
  intro x hx
  rcases h.mem hx with hcontinues | rfl
  · simp [Dialect.inSectionName, hcontinues]
  · decide +kernel

/-- A header stands in its line. -/
theorem IsBareName.stands {name : Text} (h : IsBareName name) (htail : AreBlanks tail) (hu : EndsLine u)
    (hc : c.rest = CodePoint.ofChar '[' :: (name ++ CodePoint.ofChar ']' :: (tail ++ u))) :
    Stands c.line (CodePoint.ofChar '[' :: (name ++ CodePoint.ofChar ']' :: tail)) u c := by
  refine ⟨?_, rfl, fun x hx => ?_, hu⟩
  · rw [hc, List.cons_append, List.append_assoc, List.cons_append]
  · rcases List.mem_cons.mp hx with rfl | hx
    · decide
    rcases List.mem_append.mp hx with hx | hx
    · exact name_not_break x (h.inSectionName x hx)
    rcases List.mem_cons.mp hx with rfl | hx
    · decide
    · exact blank_not_break x (htail x hx)

/-- **A header is read**, if its section was not there before, whatever starts a comment. -/
theorem IsBareName.readHeader {n : Nat} {doc : Document} {name : Text} (hname : IsBareName name) {d : Dialect}
    (hcomment : isBreak d.comment = false) (htail : AreBlanks tail)
    (h : Stands n (CodePoint.ofChar '[' :: (name ++ CodePoint.ofChar ']' :: tail)) u c)
    (hnew : name.fold ∉ doc.sections.map Text.fold) :
    ∃ c', d.readHeader doc c = .ok ((name, { doc with sections := doc.sections ++ [name] }), c') ∧ c'.rest = u := by
  have hjoin : Text.join [Group.dot] (sectionParts name) = name := by
    rw [hname.sectionParts_eq, Text.join_splitAll]
  have hparts : [] ∉ sectionParts name := by
    rw [hname.sectionParts_eq]
    exact fun hnil => (hname [] hnil).1 rfl
  have hread := h.readHeader d hcomment doc hname.inSectionName hparts htail
  rw [hjoin] at hread
  exact hread hnew

/-! ## Reading a key with its value -/

theorem skipInlineBlanks_rest {gap : Text} (hgap : AreBlanks gap) (hc : c.rest = gap ++ t)
    (ht : Stops isInlineBlank t) : c.skipInlineBlanks.rest = t := by
  rw [Cursor.skipInlineBlanks, Cursor.skipWhile_rest, hc, Text.dropWhile_run hgap ht]

/-- **A quoted key is read back**, whatever it holds. -/
theorem readSegment_writeKey {key : Text} (isFirst : Bool) (hc : c.rest = writeKey key ++ t) :
    ∃ c', readSegment isFirst c = .ok (key, c') ∧ c'.rest = t := by
  have hrest : c.rest = doubleQuote :: (escapedBy lineEscape? key ++ doubleQuote :: t) := by
    rw [hc, writeKey, List.cons_append, List.append_assoc, List.singleton_append]
  have hstart : c.next.rest = escapedBy lineEscape? key ++ doubleQuote :: t := by
    rw [Cursor.next_rest, hrest]
    rfl
  have hstop : (Cursor.advance (escapedBy lineEscape? key).length c.next).rest = doubleQuote :: t := by
    rw [Cursor.advance_rest, hstart, List.drop_left]
  have htext : c.next.textTo (Cursor.advance (escapedBy lineEscape? key).length c.next)
      = escapedBy lineEscape? key := by
    rw [Cursor.textTo_advance, hstart, List.take_left]
  refine ⟨(Cursor.advance (escapedBy lineEscape? key).length c.next).next, ?_, ?_⟩
  · rw [readSegment, Cursor.isAt_cons hrest, if_pos (by decide), readQuotedSegment, hstart,
      quotedLength_escaped, Cursor.isAt_cons hstop, if_pos (by decide), htext, Text.unescape_escapedBy isEscape_line]
  · rw [Cursor.next_rest, hstop]
    rfl

theorem readKey_writeKey {key gap : Text} (hgap : AreBlanks gap)
    (hc : c.rest = writeKey key ++ (gap ++ CodePoint.ofChar '=' :: t)) :
    ∃ c', Toml.readKey c = .ok ([key], c') ∧ c'.rest = CodePoint.ofChar '=' :: t := by
  obtain ⟨c₁, hsegment, hrest⟩ := readSegment_writeKey true hc
  have hafter : c₁.skipInlineBlanks.rest = CodePoint.ofChar '=' :: t :=
    skipInlineBlanks_rest hgap hrest (Text.stops_cons.mpr (by decide))
  refine ⟨c₁.skipInlineBlanks, ?_, hafter⟩
  rw [Toml.readKey, readSegments, hsegment]
  show (if c₁.skipInlineBlanks.isAt Group.dot then _ else _) = _
  rw [Cursor.isAt_cons hafter, if_neg (by decide)]
  rfl

/-- What a value is written as starts with its quote. -/
theorem write_cons (form : Form) (value : Text) :
    ∃ v, form.write value = form.quote :: v ∧ isBreak form.quote = false
      ∧ isInlineBlank form.quote = false := by
  cases form with
  | basic => exact ⟨_, rfl, by decide, by decide⟩
  | literal => exact ⟨_, rfl, by decide, by decide⟩
  | basicBlock => exact ⟨_, rfl, by decide, by decide⟩
  | literalBlock => exact ⟨_, rfl, by decide, by decide⟩

/-- What stands after a value up to the end of its line is no quote. -/
theorem head_ne_quote (form : Form) (htail : AreBlanks tail) (hu : EndsLine u) :
    (tail ++ u).head? ≠ some form.quote := by
  obtain ⟨-, -, hbreak, hblank⟩ := write_cons form []
  intro hhead
  cases tail with
  | nil =>
      have hends : (!isBreak form.quote) = false := hu _ hhead
      rw [hbreak] at hends
      cases hends
  | cons x tail =>
      obtain rfl : x = form.quote := Option.some.inj hhead
      rw [htail _ List.mem_cons_self] at hblank
      cases hblank

/-- **A key gets its value**, if it has none in its section. -/
theorem readItem_ok {doc : Document} {sectionName key gap space value : Text} {form : Form}
    (hgap : AreBlanks gap) (hspace : AreBlanks space) (hfits : form.Fits value) (htail : AreBlanks tail)
    (hu : EndsLine u)
    (hc : c.rest = writeKey key
      ++ (gap ++ CodePoint.ofChar '=' :: (space ++ (form.write value ++ (tail ++ u)))))
    (hnew : (sectionName.fold, key.fold) ∉ doc.items.map Item.identity) :
    ∃ c', dialect.readItem sectionName doc c
        = .ok ({ doc with items := doc.items ++ [⟨sectionName, key, form.content value, some value⟩] }, c')
      ∧ c'.rest = u := by
  obtain ⟨c₁, hkey, hrest⟩ := readKey_writeKey hgap hc
  obtain ⟨v, hwrite, hbreak, hblank⟩ := write_cons form value
  -- The blanks before the separator were passed over with the key.
  have hseparator : c₁.skipInlineBlanks.rest
      = CodePoint.ofChar '=' :: (space ++ (form.write value ++ (tail ++ u))) :=
    skipInlineBlanks_rest areBlanks_nil hrest (Text.stops_cons.mpr (by decide))
  have hvalue : c₁.skipInlineBlanks.next.skipInlineBlanks.rest = form.write value ++ (tail ++ u) := by
    refine skipInlineBlanks_rest hspace ?_ ?_
    · rw [Cursor.next_rest, hseparator]
      rfl
    · rw [hwrite, List.cons_append]
      exact Text.stops_cons.mpr hblank
  have hread := readValue_write form hfits (head_ne_quote form htail hu) hvalue
  have hafter : (Cursor.advance (form.write value).length
      c₁.skipInlineBlanks.next.skipInlineBlanks).rest = tail ++ u := by
    rw [Cursor.advance_rest, hvalue, List.drop_left]
  obtain ⟨c', hfinish, hend, -⟩ :=
    (blanks_stand hafter htail hu).finishLine dialect (by decide) (List.all_eq_true.mpr htail)
  refine ⟨c', ?_, hend⟩
  rw [Dialect.readItem_of_key sectionName doc hkey hseparator (by decide) (by decide), if_neg hnew]
  show (readValue c₁.skipInlineBlanks.next.skipInlineBlanks >>= _) = _
  rw [hread]
  show (dialect.finishLine _).map _ = _
  rw [hfinish]
  rfl

/-! ## Reading documents -/

/-- The document that some lines make. -/
def followAll? (sectionName : Text) (doc : Document) : List Line → Option Document
  | [] => some doc
  | l :: lines => (follow? sectionName doc l).bind fun (sectionName, doc) => followAll? sectionName doc lines

/-- **A line is read as what it says**, and its end is left. -/
theorem readLines_line {sectionName : Text} {doc : Document} {after : Text × Document} (h : LineText l w)
    (htail : AreBlanks tail) (hu : EndsLine u) (hc : c.skipInlineBlanks.rest = w ++ (tail ++ u))
    (hafter : follow? sectionName doc l = some after) :
    ∃ c', c'.rest = u ∧ ∀ fuel, dialect.readLines (fuel + 1) sectionName doc c
      = dialect.readLines fuel after.1 after.2 c' := by
  -- The reader of lines tells the two kinds apart by their first code point: a bracket or a quote.
  cases h with
  | @header name hname =>
      have hrest : c.skipInlineBlanks.rest
          = CodePoint.ofChar '[' :: (name ++ CodePoint.ofChar ']' :: (tail ++ u)) := by
        simpa using hc
      rw [follow?] at hafter
      split at hafter
      · cases hafter
      next hnew =>
      obtain rfl := Option.some.inj hafter
      have hstands := hname.stands htail hu hrest
      obtain ⟨c', hread, hend⟩ := hname.readHeader (d := dialect) (by decide) htail hstands hnew
      refine ⟨c', hend, fun fuel => ?_⟩
      rw [Dialect.readLines_cons sectionName doc hrest (by decide) (by decide), if_pos rfl, hread]
      rfl
  | @item key gap space value form hgap hspace hfits =>
      have hrest : c.skipInlineBlanks.rest = writeKey key
          ++ (gap ++ CodePoint.ofChar '=' :: (space ++ (form.write value ++ (tail ++ u)))) := by
        simpa using hc
      rw [follow?] at hafter
      split at hafter
      · cases hafter
      next hnew =>
      obtain rfl := Option.some.inj hafter
      obtain ⟨c', hread, hend⟩ := readItem_ok hgap hspace hfits htail hu hrest hnew
      have hquote : c.skipInlineBlanks.rest = doubleQuote :: _ := hrest.trans (List.cons_append ..)
      refine ⟨c', hend, fun fuel => ?_⟩
      rw [Dialect.readLines_cons sectionName doc hquote (by decide) (by decide), if_neg (by decide), hread]
      rfl

/-- Passing over a line break passes over gaps only. -/
theorem DocumentText.skipLineBreak (h : DocumentText ls c.rest) :
    DocumentText ls c.skipLineBreak.rest := by
  unfold Cursor.skipLineBreak
  split
  · next hpair =>
      obtain ⟨t, ht⟩ := Cursor.startsWith_pair.mp hpair
      rw [ht] at h
      rw [Cursor.advance_rest, ht]
      exact (h.of_gap (.inr Cursor.isBreak_carriageReturn)).of_gap (.inr Cursor.isBreak_lineFeed)
  · cases hrest : c.rest with
    | nil => rwa [hrest] at h ⊢
    | cons x t =>
        rw [hrest] at h
        dsimp only
        split
        · next hx =>
            rw [Cursor.next_rest, hrest]
            exact h.of_gap (.inr hx)
        · rwa [hrest]

/-- **Each line is followed as it says.** By induction on the fuel: every step takes a code point. -/
theorem readLines_of_documentText (fuel : Nat) {sectionName : Text} {doc final : Document}
    (h : DocumentText ls c.rest) (hfuel : c.rest.length < fuel)
    (hfinal : followAll? sectionName doc ls = some final) :
    dialect.readLines fuel sectionName doc c = .ok final := by
  induction fuel generalizing sectionName doc c ls with
  | zero => exact absurd hfuel (Nat.not_lt_zero _)
  | succ fuel ih =>
      by_cases hend : c.atEnd = true
      · rw [List.isEmpty_iff.mp hend] at h
        obtain rfl := h.eq_nil
        rw [Dialect.readLines, if_pos hend]
        exact congrArg Except.ok (Option.some.inj hfinal)
      have hskip : c.skipInlineBlanks.rest = c.rest.dropWhile isInlineBlank := Cursor.skipWhile_rest _ c
      have hblanks := h.dropWhile
      have hle := (List.dropWhile_suffix (l := c.rest) isInlineBlank).length_le
      rw [← hskip] at hblanks hle
      have hpos : 0 < c.rest.length := List.length_pos_iff.mpr fun hnil => hend (List.isEmpty_iff.mpr hnil)
      by_cases hline : c.skipInlineBlanks.atLineEnd = true
      · -- Nothing is left on the line.
        rw [Dialect.readLines, if_neg hend]
        dsimp only
        rw [if_pos hline]
        exact ih hblanks.skipLineBreak
          (Cursor.length_skipLineBreak_lt hline (by omega) (by omega)) hfinal
      · generalize ht : c.skipInlineBlanks.rest = t at hblanks
        cases hblanks with
        | nil => exact absurd (by rw [Cursor.atLineEnd, ht]) hline
        | @gap _ x _ hx _ =>
            have hstops := Text.stops_dropWhile isInlineBlank c.rest
            rw [← hskip, ht] at hstops
            have hblank : isInlineBlank x = false := Text.stops_cons.mp hstops
            rw [hblank] at hx
            have hbreak : isBreak x = true := hx.resolve_left Bool.false_ne_true
            exact absurd (by rw [Cursor.atLineEnd, ht]; exact hbreak) hline
        | line hw htail hu hrest =>
            rw [followAll?] at hfinal
            obtain ⟨after, hafter, hfinal⟩ := Option.bind_eq_some_iff.mp hfinal
            obtain ⟨c', hc', hread⟩ := readLines_line hw htail hu ht hafter
            obtain ⟨x, v, rfl, -⟩ := hw.exists_cons
            have hshort : c'.rest.length < fuel := by
              rw [ht, List.length_append, List.length_append, List.length_cons] at hle
              rw [hc']
              omega
            rw [← hc'] at hrest
            rw [hread]
            exact ih hrest hshort hfinal

/-! ## Tables -/

/-- A line can be written before the others. -/
theorem DocumentText.cons (hw : LineText l w) (h : DocumentText ls t) :
    DocumentText (l :: ls) (w ++ CodePoint.lineFeed :: t) := by
  have hends : EndsLine (CodePoint.lineFeed :: t) := Text.stops_cons.mpr (by decide)
  exact DocumentText.line hw areBlanks_nil hends (.gap (.inr Cursor.isBreak_lineFeed) h)

section Follow

variable {sectionName : Text} {doc : Document}

theorem followAll?_header {name : Text} (h : name.fold ∉ doc.sections.map Text.fold) (lines : List Line) :
    followAll? sectionName doc (.header name :: lines)
      = followAll? name { doc with sections := doc.sections ++ [name] } lines := by
  rw [followAll?, follow?, if_neg h]
  rfl

theorem followAll?_item {key : Text} (value : Written)
    (h : (sectionName.fold, key.fold) ∉ doc.items.map Item.identity) (lines : List Line) :
    followAll? sectionName doc (.item key value :: lines)
      = followAll? sectionName { doc with items := doc.items ++ [⟨sectionName, key, value⟩] } lines := by
  rw [followAll?, follow?, if_neg h]
  rfl

/-- The keys of a table are followed, if none comes twice. -/
theorem followAll?_assignments (sectionName : Text) (doc : Document) (assignments : List Assignment) (rest : List Line)
    (h : (doc.items.map Item.identity
      ++ assignments.map fun a => (sectionName.fold, a.key.fold)).Nodup) :
    followAll? sectionName doc ((assignments.map fun a => Line.item a.key a.written) ++ rest)
      = followAll? sectionName
          { doc with items := doc.items ++ assignments.map fun a => ⟨sectionName, a.key, a.written⟩ } rest := by
  induction assignments generalizing doc with
  | nil => simp
  | cons a assignments ih =>
      obtain ⟨-, -, hapart⟩ := List.nodup_append.mp h
      have hnew : (sectionName.fold, a.key.fold) ∉ doc.items.map Item.identity := fun hin =>
        hapart _ hin _ List.mem_cons_self rfl
      rw [List.map_cons, List.cons_append, followAll?_item _ hnew, ih]
      · simp
      · simpa [Item.identity] using h

/-- **Tables are followed to their document**, if no name comes twice and no key twice in a table. -/
theorem followAll?_tables (sectionName : Text) (doc : Document) (tables : List Table)
    (hsections : (doc.sections.map Text.fold ++ tables.map fun table => table.name.fold).Nodup)
    (hitems : (doc.items.map Item.identity ++ (tables.flatMap Table.items).map Item.identity).Nodup) :
    followAll? sectionName doc (tables.flatMap Table.lines)
      = some ⟨doc.items ++ tables.flatMap Table.items, doc.sections ++ tables.map Table.name⟩ := by
  induction tables generalizing sectionName doc with
  | nil => simp [followAll?]
  | cons table tables ih =>
      obtain ⟨-, -, hapart⟩ := List.nodup_append.mp hsections
      have hnew : table.name.fold ∉ doc.sections.map Text.fold := fun hin =>
        hapart _ hin _ List.mem_cons_self rfl
      have hidentity : table.items.map Item.identity
          = table.assignments.map fun a => (table.name.fold, a.key.fold) := by
        simp [Table.items, Item.identity]
      rw [List.flatMap_cons, List.map_append, ← List.append_assoc, hidentity] at hitems
      have htable := followAll?_assignments table.name
        { doc with sections := doc.sections ++ [table.name] } table.assignments
        (tables.flatMap Table.lines) (List.nodup_append.mp hitems).1
      rw [List.flatMap_cons, Table.lines, List.cons_append, followAll?_header hnew, htable, ih]
      · simp [Table.items]
      · simpa using hsections
      · simpa [Item.identity, Function.comp_def] using hitems

end Follow

/-- Items are apart if tables are, and the keys in each table. -/
theorem nodup_items {tables : List Table} (hnames : (tables.map fun table => table.name.fold).Nodup)
    (hkeys : ∀ table ∈ tables, (table.assignments.map fun a => a.key.fold).Nodup) :
    ((tables.flatMap Table.items).map Item.identity).Nodup := by
  rw [List.map_flatMap, List.nodup_flatMap]
  constructor
  · intro table htable
    have hpairs : (Table.items table).map Item.identity
        = (table.assignments.map fun a => a.key.fold).map fun key => (table.name.fold, key) := by
      simp [Table.items, Item.identity]
    rw [hpairs]
    exact (hkeys table htable).map fun _ _ h => (Prod.mk.inj h).2
  · refine (List.pairwise_map.mp hnames).imp fun {first second} hne => ?_
    -- What is in two tables has the names of both.
    intro x hfirst hsecond
    obtain ⟨i, hi, rfl⟩ := List.mem_map.mp hfirst
    obtain ⟨j, hj, heq⟩ := List.mem_map.mp hsecond
    obtain ⟨a, -, rfl⟩ := List.mem_map.mp hi
    obtain ⟨b, -, rfl⟩ := List.mem_map.mp hj
    exact hne (Prod.mk.inj heq).1.symm

/-- **Strings, keys and tables are read back as they were written.** Each form of a string gives the string
again, with the cursor right after it; and tables give their names, and their keys and values in order, if
the names are apart ignoring case and so are the keys in each table. -/
theorem written_read_back :
    (∀ (form : Form) (s u : Text) (c : Cursor), form.Fits s → EndsLine u → c.rest = form.write s ++ u →
        readValue c = .ok (⟨form.content s, some s⟩, Cursor.advance (form.write s).length c))
      ∧ ∀ (tables : List Table) (t : Text),
        (tables.map fun table => table.name.fold).Nodup →
        (∀ table ∈ tables, (table.assignments.map fun a => a.key.fold).Nodup) →
        DocumentText (tables.flatMap Table.lines) t →
        dialect.readDocument t = .ok ⟨tables.flatMap Table.items, tables.map Table.name⟩ := by
  constructor
  · intro form s u c hfits hu hc
    exact readValue_write form hfits (head_ne_quote form areBlanks_nil hu) hc
  · intro tables t hnames hkeys htext
    have hfinal := followAll?_tables [] ⟨[], []⟩ tables hnames (nodup_items hnames hkeys)
    exact readLines_of_documentText (t.length + 1) htext (Nat.lt_succ_self t.length) hfinal

/-- Quotes where they are easily taken for delimiters: in a key, in an empty key, and at the end of a
string over two lines. -/
theorem quotes_read_back :
    (Form.literalBlock.Fits "it''" ∧ EndsLine "\n" ∧
        readValue (.start "'''\nit'''''\n")
          = .ok (⟨"it''", some "it''"⟩, Cursor.advance 11 (.start "'''\nit'''''\n")))
      ∧ ∃ (tables : List Table) (t : Text),
        (tables.map fun table => table.name.fold).Nodup
          ∧ (∀ table ∈ tables, (table.assignments.map fun a => a.key.fold).Nodup)
          ∧ DocumentText (tables.flatMap Table.lines) t
          ∧ t = Text.ofString "[a.b]\n\"say \\\"hi\\\"\" = \"x\\ny\"\n\"\" = '''\nit'''''\n"
          ∧ dialect.readDocument t
            = .ok ⟨[⟨"a.b", "say \"hi\"", "x\\ny", some "x\ny"⟩, ⟨"a.b", "", "it''", some "it''"⟩], ["a.b"]⟩ := by
  have hfits : Form.literalBlock.Fits "it''" := by decide
  have hline : EndsLine "\n" := Text.stops_cons.mpr (by decide)
  refine ⟨⟨hfits, hline, written_read_back.1 .literalBlock _ _ _ hfits hline rfl⟩, ?_⟩
  let tables : List Table :=
    [⟨"a.b", [⟨"say \"hi\"", .basic, "x\ny"⟩, ⟨"", .literalBlock, "it''"⟩]⟩]
  have hnames : (tables.map fun table => table.name.fold).Nodup := by decide +kernel
  have hkeys : ∀ table ∈ tables, (table.assignments.map fun a => a.key.fold).Nodup := by decide +kernel
  have hspace : AreBlanks " " := by decide
  have hname : IsBareName "a.b" := by decide +kernel
  have hbasic : Form.basic.Fits "x\ny" := trivial
  have htext : DocumentText (tables.flatMap Table.lines)
      "[a.b]\n\"say \\\"hi\\\"\" = \"x\\ny\"\n\"\" = '''\nit'''''\n" :=
    .cons (.header hname) (.cons (.item hspace hspace hbasic) (.cons (.item hspace hspace hfits) .nil))
  exact ⟨tables, _, hnames, hkeys, htext, rfl, written_read_back.2 tables _ hnames hkeys htext⟩

/-- Tables whose names differ in letter case only are not read, though they can be written. -/
theorem names_apart_in_case_only :
    ¬∀ (tables : List Table) (t : Text),
      (tables.map Table.name).Nodup →
      (∀ table ∈ tables, (table.assignments.map fun a => a.key.fold).Nodup) →
      DocumentText (tables.flatMap Table.lines) t →
      dialect.readDocument t = .ok ⟨tables.flatMap Table.items, tables.map Table.name⟩ := by
  intro hread
  let tables : List Table := [⟨"a", [⟨"k", .basic, "v"⟩]⟩, ⟨"A", [⟨"j", .basic, "w"⟩]⟩]
  have hnames : (tables.map Table.name).Nodup := by decide
  have hkeys : ∀ table ∈ tables, (table.assignments.map fun a => a.key.fold).Nodup := by decide +kernel
  have hspace : AreBlanks " " := by decide
  have hsmall : IsBareName "a" := by decide +kernel
  have hcapital : IsBareName "A" := by decide +kernel
  have hv : Form.basic.Fits "v" := trivial
  have hw : Form.basic.Fits "w" := trivial
  have htext : DocumentText (tables.flatMap Table.lines) "[a]\n\"k\" = \"v\"\n[A]\n\"j\" = \"w\"\n" :=
    .cons (.header hsmall) (.cons (.item hspace hspace hv)
      (.cons (.header hcapital) (.cons (.item hspace hspace hw) .nil)))
  have hbroken : (dialect.readDocument "[a]\n\"k\" = \"v\"\n[A]\n\"j\" = \"w\"\n").toOption = none := by
    decide +kernel
  rw [hread tables _ hnames hkeys htext] at hbroken
  cases hbroken

end Phrasebook.Files.Toml
