import Mathlib.Data.List.Find
import Mathlib.Data.List.GetD
import Mathlib.Data.List.Nodup
import Phrasebook.Proofs.Files.Views

/-!
# The entries of a table

A table of comma-separated cells whose texts are taken as they stand. The captions divide the columns after the first
among descriptions, comments and locales (`Header.IsOf`), so that each column is in one of the three places
(`Header.IsOf.perm`). The rows below are refused unless they fit (`RowsFit`): a row may not have a blank key or that of
an earlier row, and not be shorter than the captions. Otherwise every row becomes one entry, in its place, made of the
cells under the captions and of no others (`Format.csv_catalog_of_rows`).

What is known of the loop over the rows comes from `rowsFitAfter_cons`, which tells what is asked of a row after the keys
that were seen before it.
-/

namespace Phrasebook

namespace Files

/-! ## Rows -/

namespace Row

/-- A cell without the blanks around it; empty where the row has none. -/
def cell (r : Row) (column : Nat) : Text := (r.cells.getD column []).strip

/-- The key of a row. -/
def key (r : Row) : Text := r.cell 0

/-- What a row says in a column, if there is such a column and anything in it. -/
def remark (r : Row) (column : Option Nat) : Option Text :=
  match column with
  | none => none
  | some i => if r.cell i = [] then none else some (r.cell i)

/-- The row without the cells from a column on. -/
def upTo (r : Row) (width : Nat) : Row := { r with cells := r.cells.take width }

variable {r : Row} {width column : Nat}

theorem getD_strip (r : Row) (column : Nat) : (r.cells.map Text.strip).getD column [] = r.cell column :=
  List.getD_map r.cells [] Text.strip

theorem key_eq (r : Row) : (r.cells.headD []).strip = r.key := by
  unfold key cell
  cases r.cells <;> rfl

theorem note_strip (r : Row) (column : Option Nat) :
    Table.note column (r.cells.map Text.strip) = r.remark column := by
  cases column with
  | none => rfl
  | some i =>
      unfold Table.note remark cell
      dsimp only
      rw [Option.bind_some, List.getElem?_map, List.getD_eq_getElem?_getD]
      cases r.cells[i]? with
      | none => rfl
      | some t =>
          rw [Option.map_some, Option.getD_some, filter_some_text]

theorem cell_upTo (h : column < width) : (r.upTo width).cell column = r.cell column := by
  unfold cell upTo
  dsimp only
  rw [List.getD_eq_getElem?_getD, List.getD_eq_getElem?_getD, List.getElem?_take_of_lt h]

theorem remark_upTo {described : Option Nat} (h : ∀ i ∈ described, i < width) :
    (r.upTo width).remark described = r.remark described := by
  cases described with
  | none => rfl
  | some i =>
      unfold remark
      dsimp only
      rw [cell_upTo (h i rfl)]

end Row

namespace Table

variable {o : Options} {first : Row} {h : Header}

/-! ## Captions -/

/-- The columns after the one with the keys. -/
def columns (first : Row) : List Nat := List.range' 1 (first.cells.length - 1)

/-- There are several columns after the first one, and one of them has no caption. -/
def LacksCaption (first : Row) : Prop := 2 < first.cells.length ∧ ∃ i ∈ columns first, first.cell i = []

instance (first : Row) : Decidable (LacksCaption first) := inferInstanceAs (Decidable (_ ∧ _))

/-- Whether a column has a caption, letter case aside. -/
def isCaptioned (first : Row) (caption : Text) (i : Nat) : Bool := (first.cell i).lower = caption.lower

/-- **`h.Sorts o first l`**: of the columns `l`, the first one that is captioned for descriptions has them, the first
other one that is captioned for comments has these, and all others have texts. -/
structure Header.Sorts (o : Options) (first : Row) (l : List Nat) (h : Header) : Prop where
  description : h.descriptionColumn = l.find? (isCaptioned first o.descriptionCaption)
  comments : h.commentsColumn
    = l.find? fun i => isCaptioned first o.commentsCaption i && decide (h.descriptionColumn ≠ some i)
  locales : h.localeColumns
    = l.filter fun i => decide (h.descriptionColumn ≠ some i) && decide (h.commentsColumn ≠ some i)

/-- **`h.IsOf o first`**: the header that a row of captions makes. -/
structure Header.IsOf (o : Options) (first : Row) (h : Header) : Prop where
  captions : h.captions = first.cells.map Text.strip
  sorts : h.Sorts o first (columns first)

theorem mem_columns {i : Nat} : i ∈ columns first ↔ 1 ≤ i ∧ i < first.cells.length := by
  rw [columns, List.mem_range'_1]
  omega

section Concat

variable {l : List Nat} {i : Nat} {p q : Nat → Bool}

/-- A new column is the first one of its kind if none is found before it. -/
theorem find?_concat_new (hl : l.find? p = none) (hp : p i = true) : (l ++ [i]).find? p = some i := by
  rw [List.find?_append, hl, Option.none_or, List.find?_singleton, if_pos hp]

/-- Otherwise the new column makes no difference to what is found. -/
theorem find?_concat_old (h : ¬(p i = true ∧ l.find? p = none)) : (l ++ [i]).find? p = l.find? p := by
  rw [List.find?_append]
  cases hl : l.find? p with
  | some j => rfl
  | none => rw [Option.none_or, List.find?_singleton, if_neg fun hp => h ⟨hp, hl⟩]

theorem filter_concat_old (hp : p i = false) (hpq : ∀ j ∈ l, p j = q j) : (l ++ [i]).filter p = l.filter q := by
  rw [List.filter_append, List.filter_cons_of_neg (by simp [hp]), List.filter_nil, List.append_nil]
  exact List.filter_congr hpq

end Concat

/-- One more column keeps the columns sorted. -/
theorem Header.Sorts.addColumn {l : List Nat} (hs : h.Sorts o first l) {i : Nat} (hi : i ∉ l) :
    (addColumn o h i (first.cell i)).Sorts o first (l ++ [i]) := by
  have hdescription : h.descriptionColumn ≠ some i := fun hmem =>
    hi (List.mem_of_find?_eq_some (hs.description.symm.trans hmem))
  have hcomments : h.commentsColumn ≠ some i := fun hmem =>
    hi (List.mem_of_find?_eq_some (hs.comments.symm.trans hmem))
  have hne : ∀ j ∈ l, some i ≠ some j := fun j hj heq => hi (Option.some.inj heq ▸ hj)
  unfold Table.addColumn
  dsimp only
  split
  · -- The column has descriptions. No column before it is captioned for them.
    next htaken =>
    obtain ⟨hcaption, hnone⟩ := htaken
    refine ⟨(find?_concat_new (hs.description.symm.trans hnone) (decide_eq_true hcaption)).symm, ?_, ?_⟩
    · dsimp only
      rw [find?_concat_old (by simp), hs.comments, hnone]
      exact List.find?_congr fun j hj => by simp [hne j hj]
    · dsimp only
      rw [hs.locales, hnone]
      exact (filter_concat_old (by simp) fun j hj => by simp [hne j hj]).symm
  · next hfree =>
    have hfound : h.descriptionColumn = (l ++ [i]).find? (isCaptioned first o.descriptionCaption) := by
      rw [find?_concat_old, ← hs.description]
      rw [← hs.description]
      exact fun hnew => hfree ⟨of_decide_eq_true hnew.1, hnew.2⟩
    split
    · -- The column has comments, and no column before it is captioned for them.
      next htaken =>
      obtain ⟨hcaption, hnone⟩ := htaken
      refine ⟨hfound, (find?_concat_new (hs.comments.symm.trans hnone) ?_).symm, ?_⟩
      · simp [isCaptioned, hcaption, hdescription]
      · dsimp only
        rw [hs.locales, hnone]
        exact (filter_concat_old (by simp) fun j hj => by simp [hne j hj]).symm
    · next hother =>
      refine ⟨hfound, ?_, ?_⟩
      · dsimp only
        rw [find?_concat_old, ← hs.comments]
        rw [← hs.comments, Bool.and_eq_true]
        exact fun hnew => hother ⟨of_decide_eq_true hnew.1.1, hnew.2⟩
      · dsimp only
        rw [List.filter_append, List.filter_cons_of_pos (by simp [hdescription, hcomments]), List.filter_nil,
          ← hs.locales]

/-- Columns one after the other keep the columns sorted. -/
theorem Header.Sorts.addColumns {n : Nat} (hs : h.Sorts o first (List.range' 1 n)) {captions : List Text}
    (hdrop : (first.cells.map Text.strip).drop (n + 1) = captions) :
    (Table.addColumns o (n + 1) captions h).Sorts o first (List.range' 1 (n + captions.length)) := by
  induction captions generalizing n h with
  | nil => exact hs
  | cons caption rest ih =>
      have hcaption : first.cell (n + 1) = caption := by
        rw [← Row.getD_strip, List.getD_eq_getElem?_getD, ← Nat.add_zero (n + 1), ← List.getElem?_drop, hdrop]
        rfl
      have hrest : (first.cells.map Text.strip).drop (n + 1 + 1) = rest := by
        rw [← List.drop_drop, hdrop, List.drop_succ_cons, List.drop_zero]
      have hnext : (Table.addColumn o h (n + 1) caption).Sorts o first (List.range' 1 (n + 1)) := by
        rw [List.range'_concat, ← hcaption]
        have hnew : 1 + 1 * n ∉ List.range' 1 n := by
          rw [List.mem_range'_1]
          omega
        rw [Nat.one_mul, Nat.add_comm 1 n] at hnew ⊢
        exact hs.addColumn hnew
      have hlength : n + (caption :: rest).length = n + 1 + rest.length := by
        rw [List.length_cons]
        omega
      rw [Table.addColumns, hlength]
      exact ih hnext hrest

theorem captions_addColumns (index : Nat) (captions : List Text) (h : Header) :
    (addColumns o index captions h).captions = h.captions := by
  induction captions generalizing index h with
  | nil => rfl
  | cons caption rest ih =>
      rw [addColumns, ih]
      unfold addColumn
      dsimp only
      split
      · rfl
      · split <;> rfl

theorem exists_blank_iff :
    (((first.cells.map Text.strip).drop 1).any fun c => c.isEmpty) = true ↔ ∃ i ∈ columns first, first.cell i = [] := by
  rw [List.any_eq_true]
  constructor
  · rintro ⟨caption, hmem, hblank⟩
    obtain ⟨j, hj⟩ := List.mem_iff_getElem?.mp hmem
    rw [List.getElem?_drop] at hj
    refine ⟨1 + j, mem_columns.mpr ⟨by omega, ?_⟩, ?_⟩
    · obtain ⟨hlength, -⟩ := List.getElem?_eq_some_iff.mp hj
      rwa [List.length_map] at hlength
    · rw [← Row.getD_strip, List.getD_eq_getElem?_getD, hj, Option.getD_some]
      exact List.isEmpty_iff.mp hblank
  · rintro ⟨i, hi, hblank⟩
    obtain ⟨hfirst, hlast⟩ := mem_columns.mp hi
    have hlength : i - 1 < ((first.cells.map Text.strip).drop 1).length := by
      rw [List.length_drop, List.length_map]
      omega
    refine ⟨_, List.getElem_mem hlength, ?_⟩
    rw [List.getElem_drop, List.isEmpty_iff, ← hblank, ← Row.getD_strip, List.getD_eq_getElem?_getD,
      List.getElem?_eq_getElem (by rw [List.length_map]; exact hlast), Option.getD_some]
    congr 1
    omega

/-- **Captions are read**, unless there are several columns after the first one and a caption is missing. -/
theorem readHeader_cases (o : Options) (first : Row) :
    (LacksCaption first ∧ ∃ message, readHeader o first = .error (fault first message))
      ∨ (¬LacksCaption first ∧ ∃ h, readHeader o first = .ok h ∧ h.IsOf o first) := by
  have hlacks : LacksCaption first ↔ ((first.cells.map Text.strip).length > 2 &&
      ((first.cells.map Text.strip).drop 1).any fun c => c.isEmpty) = true := by
    rw [Bool.and_eq_true, decide_eq_true_eq, List.length_map, exists_blank_iff]
    rfl
  unfold readHeader
  dsimp only
  split
  · next hfault => exact .inl ⟨hlacks.mpr hfault, _, rfl⟩
  · next hfine =>
    refine .inr ⟨fun h => hfine (hlacks.mp h), _, rfl, captions_addColumns .., ?_⟩
    have hstart : (⟨first.cells.map Text.strip, [], none, none⟩ : Header).Sorts o first (List.range' 1 0) :=
      ⟨rfl, rfl, rfl⟩
    have hsorts := hstart.addColumns rfl
    rw [List.length_drop, List.length_map, Nat.zero_add] at hsorts
    exact hsorts

namespace Header.IsOf

variable (hof : h.IsOf o first)
include hof

theorem mem_of_description {i : Nat} (hi : h.descriptionColumn = some i) : i ∈ columns first :=
  List.mem_of_find?_eq_some (hof.sorts.description.symm.trans hi)

theorem mem_of_comments {i : Nat} (hi : h.commentsColumn = some i) :
    i ∈ columns first ∧ h.descriptionColumn ≠ some i := by
  have hfind := hof.sorts.comments.symm.trans hi
  have hcaptioned := List.find?_some hfind
  rw [Bool.and_eq_true, decide_eq_true_eq] at hcaptioned
  exact ⟨List.mem_of_find?_eq_some hfind, hcaptioned.2⟩

theorem mem_locales {i : Nat} :
    i ∈ h.localeColumns ↔ i ∈ columns first ∧ h.descriptionColumn ≠ some i ∧ h.commentsColumn ≠ some i := by
  rw [hof.sorts.locales, List.mem_filter, Bool.and_eq_true, decide_eq_true_eq, decide_eq_true_eq]

theorem width : h.captions.length = first.cells.length := by
  rw [hof.captions, List.length_map]

/-- **Each column after the first has one place.** -/
theorem perm :
    (h.descriptionColumn.toList ++ h.commentsColumn.toList ++ h.localeColumns).Perm (columns first) := by
  have hnodup : (h.descriptionColumn.toList ++ h.commentsColumn.toList ++ h.localeColumns).Nodup := by
    refine List.nodup_append'.mpr ⟨List.nodup_append'.mpr ⟨?_, ?_, ?_⟩, ?_, ?_⟩
    · cases h.descriptionColumn <;> simp
    · cases h.commentsColumn <;> simp
    · intro i hdescription hcomments
      rw [Option.mem_toList] at hdescription hcomments
      exact (hof.mem_of_comments hcomments).2 hdescription
    · rw [hof.sorts.locales]
      exact List.Nodup.filter _ List.nodup_range'
    · intro i hnoted hlocale
      obtain ⟨-, hdescription, hcomments⟩ := hof.mem_locales.mp hlocale
      rcases List.mem_append.mp hnoted with hi | hi
      · exact hdescription (Option.mem_toList.mp hi)
      · exact hcomments (Option.mem_toList.mp hi)
  -- No column comes twice on either side, so it is enough that each is on both.
  refine (List.perm_ext_iff_of_nodup hnodup List.nodup_range').mpr fun i => ?_
  rw [List.mem_append, List.mem_append, Option.mem_toList, Option.mem_toList, hof.mem_locales]
  constructor
  · rintro ((hi | hi) | hi)
    · exact hof.mem_of_description hi
    · exact (hof.mem_of_comments hi).1
    · exact hi.1
  · intro hi
    by_cases hdescription : h.descriptionColumn = some i
    · exact .inl (.inl hdescription)
    · by_cases hcomments : h.commentsColumn = some i
      · exact .inl (.inr hcomments)
      · exact .inr ⟨hi, hdescription, hcomments⟩

/-- The texts of a locale are in a column after the first one. -/
theorem mem_of_column? {locale : Text} {column : Nat} (hcolumn : h.column? o locale = some column) :
    column ∈ columns first := by
  suffices hmem : column ∈ h.localeColumns from (hof.mem_locales.mp hmem).1
  unfold Header.column? at hcolumn
  split at hcolumn
  · exact List.mem_of_mem_head? hcolumn
  · dsimp only at hcolumn
    rcases Option.or_eq_some_iff.mp hcolumn with hnamed | ⟨-, hmatched⟩
    · rcases Option.or_eq_some_iff.mp hnamed with hname | ⟨-, hlanguage⟩
      · exact List.mem_of_find?_eq_some hname
      · exact List.mem_of_find?_eq_some hlanguage
    · obtain ⟨isOf, -, hfind⟩ := Option.bind_eq_some_iff.mp hmatched
      exact List.mem_of_find?_eq_some hfind

end Header.IsOf

/-! ## Rows below the captions -/

/-- **`RowsFit width rows`**: every row has a key, no two rows have the same key, letter case aside, and every row has
a cell for each caption. -/
structure RowsFit (width : Nat) (rows : List Row) : Prop where
  keyed : ∀ r ∈ rows, r.key ≠ []
  apart : (rows.map fun r => r.key.fold).Nodup
  filled : ∀ r ∈ rows, width ≤ r.cells.length

instance (width : Nat) (rows : List Row) : Decidable (RowsFit width rows) :=
  decidable_of_iff ((∀ r ∈ rows, r.key ≠ []) ∧ (rows.map fun r => r.key.fold).Nodup ∧ ∀ r ∈ rows, width ≤ r.cells.length)
    ⟨fun ⟨hk, ha, hf⟩ => ⟨hk, ha, hf⟩, fun hfit => ⟨hfit.keyed, hfit.apart, hfit.filled⟩⟩

/-- What is asked of a row after rows with the folded keys `seen`. -/
structure FitsAfter (width : Nat) (seen : List Text) (r : Row) : Prop where
  keyed : r.key ≠ []
  new : r.key.fold ∉ seen
  filled : width ≤ r.cells.length

/-- What is asked of rows after others with the folded keys `seen`. -/
structure RowsFitAfter (width : Nat) (seen : List Text) (rows : List Row) : Prop where
  fit : RowsFit width rows
  new : ∀ r ∈ rows, r.key.fold ∉ seen

variable {width : Nat} {seen : List Text} {r : Row} {rows : List Row}

theorem rowsFitAfter_nil : RowsFitAfter width seen [] :=
  ⟨⟨by simp, List.nodup_nil, by simp⟩, by simp⟩

theorem rowsFitAfter_cons :
    RowsFitAfter width seen (r :: rows) ↔ FitsAfter width seen r ∧ RowsFitAfter width (r.key.fold :: seen) rows := by
  constructor
  · rintro ⟨⟨hkeyed, hapart, hfilled⟩, hnew⟩
    obtain ⟨hkey, hrest⟩ := List.nodup_cons.mp hapart
    refine ⟨⟨hkeyed r List.mem_cons_self, hnew r List.mem_cons_self, hfilled r List.mem_cons_self⟩, ⟨?_, hrest, ?_⟩, ?_⟩
    · exact fun q hq => hkeyed q (List.mem_cons_of_mem r hq)
    · exact fun q hq => hfilled q (List.mem_cons_of_mem r hq)
    · intro q hq hseen
      rcases List.mem_cons.mp hseen with heq | hseen
      · exact hkey (List.mem_map.mpr ⟨q, hq, heq⟩)
      · exact hnew q (List.mem_cons_of_mem r hq) hseen
  · rintro ⟨⟨hkeyed, hnew, hfilled⟩, ⟨hfit, hrest⟩⟩
    refine ⟨⟨List.forall_mem_cons.mpr ⟨hkeyed, hfit.keyed⟩, List.nodup_cons.mpr ⟨?_, hfit.apart⟩,
      List.forall_mem_cons.mpr ⟨hfilled, hfit.filled⟩⟩, List.forall_mem_cons.mpr ⟨hnew, ?_⟩⟩
    · intro hmem
      obtain ⟨q, hq, heq⟩ := List.mem_map.mp hmem
      exact hrest q hq (heq ▸ List.mem_cons_self)
    · exact fun q hq hseen => hrest q hq (List.mem_cons_of_mem _ hseen)

theorem rowsFitAfter_nil_iff : RowsFitAfter width [] rows ↔ RowsFit width rows :=
  ⟨fun hfit => hfit.fit, fun hfit => ⟨hfit, fun _ _ => List.not_mem_nil⟩⟩

/-- **A row is read** if it fits after those before it. -/
theorem readRow_cases (h : Header) (seen : List Text) (r : Row) :
    (FitsAfter h.captions.length seen r ∧ readRow h seen r = .ok (r.key, r.cells.map Text.strip))
      ∨ (¬FitsAfter h.captions.length seen r ∧ ∃ message, readRow h seen r = .error (fault r message)) := by
  unfold readRow
  dsimp only
  rw [Row.key_eq]
  split
  · next hblank => exact .inr ⟨fun hfit => hfit.keyed (List.isEmpty_iff.mp hblank), _, rfl⟩
  · next hkeyed =>
    split
    · next hseen => exact .inr ⟨fun hfit => hfit.new hseen, _, rfl⟩
    · next hnew =>
      split
      · next hshort => exact .inr ⟨fun hfit => absurd hfit.filled (Nat.not_le.mpr hshort), _, rfl⟩
      · next hfilled =>
        exact .inl ⟨⟨fun hnil => hkeyed (List.isEmpty_iff.mpr hnil), hnew, Nat.le_of_not_lt hfilled⟩, rfl⟩

/-- The entry of a row. -/
def Header.entry (h : Header) (column : Nat) (r : Row) : Entry :=
  { Entry.ofKey r.key with
    text := some (r.cell column)
    description := r.remark h.descriptionColumn
    comments := r.remark h.commentsColumn }

section Plain

variable (ho : o.recognizeReferences = false) (hempty : o.emptyIsAbsent = false)
include ho hempty

theorem addEntry_plain (h : Header) (column : Nat) (c : Catalog) (r : Row) :
    addEntry o .none h column c r.key (r.cells.map Text.strip) = .ok (c.add r.key (h.entry column r)) := by
  have hplain : Plain o .none := ⟨ho, rfl⟩
  unfold addEntry
  dsimp only
  rw [hempty, if_neg (by simp), Row.getD_strip, Row.note_strip, Row.note_strip]
  show (Files.makeEntry o .none r.key (some (r.cell column)) none >>= _) = _
  rw [hplain.makeEntry_text]
  rfl

/-- **Rows that fit become entries**, each in its place. -/
theorem foldRows_fit {h : Header} (column : Nat) {c : Catalog} (hfit : RowsFitAfter h.captions.length seen rows)
    (hseen : ∀ k ∈ c.keys, k ∈ seen) :
    foldRows h (addEntry o .none h column) seen rows c
      = .ok { c with entries := c.entries ++ rows.map fun r => (r.key.fold, h.entry column r) } := by
  induction rows generalizing seen c with
  | nil =>
      rw [List.map_nil, List.append_nil]
      rfl
  | cons r rest ih =>
      obtain ⟨hrow, hrest⟩ := rowsFitAfter_cons.mp hfit
      obtain ⟨-, hread⟩ := (readRow_cases h seen r).resolve_right fun hno => hno.1 hrow
      have hadded := Catalog.add_new (fun hmem => hrow.new (hseen _ hmem)) (h.entry column r)
      have hkeys := Catalog.keys_add_seen hseen r.key (h.entry column r)
      rw [foldRows, hread]
      show (addEntry o .none h column c r.key (r.cells.map Text.strip) >>= _) = _
      rw [addEntry_plain ho hempty]
      show foldRows h (addEntry o .none h column) (r.key.fold :: seen) rest (c.add r.key (h.entry column r)) = _
      rw [ih hrest hkeys, hadded, List.append_assoc]
      rfl

/-- **Rows that do not fit are refused**, for the fault of one of them. -/
theorem foldRows_unfit {h : Header} (column : Nat) {c : Catalog}
    (hunfit : ¬RowsFitAfter h.captions.length seen rows) :
    ∃ r ∈ rows, ∃ message, foldRows h (addEntry o .none h column) seen rows c
      = .error (.malformed (fault r message)) := by
  induction rows generalizing seen c with
  | nil => exact absurd rowsFitAfter_nil hunfit
  | cons r rest ih =>
      rcases readRow_cases h seen r with ⟨hrow, hread⟩ | ⟨-, message, hread⟩
      · have hrest : ¬RowsFitAfter h.captions.length (r.key.fold :: seen) rest := fun hrest =>
          hunfit (rowsFitAfter_cons.mpr ⟨hrow, hrest⟩)
        obtain ⟨q, hq, message, hfold⟩ := ih (c := c.add r.key (h.entry column r)) hrest
        refine ⟨q, List.mem_cons_of_mem r hq, message, ?_⟩
        rw [foldRows, hread]
        show (addEntry o .none h column c r.key (r.cells.map Text.strip) >>= _) = _
        rw [addEntry_plain ho hempty]
        exact hfold
      · refine ⟨r, List.mem_cons_self, message, ?_⟩
        rw [foldRows, hread]
        rfl

end Plain

/-! ## Tables as a whole -/

variable {separator : CodePoint} {t : Text} (mode : Mode) {locale : Text}

theorem catalog_of_fault (locale : Text) (hrows : Row.read separator t = .ok (first :: rows)) {e : TextError}
    (hheader : readHeader o first = .error e) : catalog o mode separator locale t = .error (.malformed e) := by
  have htable : readTable o separator t = .error e := by
    unfold readTable
    rw [hrows]
    show (readHeader o first >>= _) = _
    rw [hheader]
    rfl
  unfold catalog
  rw [htable]
  rfl

theorem catalog_of_header (hrows : Row.read separator t = .ok (first :: rows)) (hheader : readHeader o first = .ok h)
    {column : Nat} (hcolumn : h.column? o locale = some column) :
    catalog o mode separator locale t = (foldRows h (addEntry o mode h column) [] rows (.ofLocale none)).map some := by
  have htable : readTable o separator t = .ok (some (h, rows)) := by
    unfold readTable
    rw [hrows]
    show (readHeader o first >>= _) = _
    rw [hheader]
    rfl
  unfold catalog
  rw [htable]
  show (match h.column? o locale with | none => _ | some column => _) = _
  rw [hcolumn]
  rfl

/-- The entry of a row is made of the cells under the captions. -/
theorem Header.IsOf.entry_upTo (hof : h.IsOf o first) {column : Nat} (hcolumn : column ∈ columns first) (r : Row) :
    h.entry column (r.upTo first.cells.length) = h.entry column r := by
  obtain ⟨hfirst, hlast⟩ := mem_columns.mp hcolumn
  have hdescription : ∀ i ∈ h.descriptionColumn, i < first.cells.length := fun i hi =>
    (mem_columns.mp (hof.mem_of_description hi)).2
  have hcomments : ∀ i ∈ h.commentsColumn, i < first.cells.length := fun i hi =>
    (mem_columns.mp (hof.mem_of_comments hi).1).2
  unfold Header.entry Row.key
  rw [Row.cell_upTo hlast, Row.cell_upTo (by omega), Row.remark_upTo hdescription, Row.remark_upTo hcomments]

section Plain

variable (ho : o.recognizeReferences = false) (hempty : o.emptyIsAbsent = false)
  (hrows : Row.read separator t = .ok (first :: rows)) (hheader : readHeader o first = .ok h) (hof : h.IsOf o first)
  {column : Nat} (hcolumn : h.column? o locale = some column)
include ho hempty hrows hheader hof hcolumn

theorem catalog_fit (hfit : RowsFit first.cells.length rows) :
    catalog o .none separator locale t = .ok (some { Catalog.ofLocale none with
      entries := rows.map fun r => (r.key.fold, h.entry column (r.upTo first.cells.length)) }) := by
  have hentries : (rows.map fun r => (r.key.fold, h.entry column (r.upTo first.cells.length)))
      = rows.map fun r => (r.key.fold, h.entry column r) :=
    List.map_congr_left fun r _ => by rw [hof.entry_upTo (hof.mem_of_column? hcolumn)]
  have hnone : ∀ k ∈ (Catalog.ofLocale none).keys, k ∈ ([] : List Text) := fun _ hk => hk
  rw [← hof.width, ← rowsFitAfter_nil_iff] at hfit
  rw [catalog_of_header .none hrows hheader hcolumn, foldRows_fit ho hempty column hfit hnone, hentries]
  rfl

theorem catalog_unfit (hunfit : ¬RowsFit first.cells.length rows) :
    ∃ e, catalog o .none separator locale t = .error (.malformed e) := by
  rw [← hof.width, ← rowsFitAfter_nil_iff] at hunfit
  obtain ⟨r, -, message, hfold⟩ := foldRows_unfit ho hempty column (c := .ofLocale none) hunfit
  refine ⟨fault r message, ?_⟩
  rw [catalog_of_header .none hrows hheader hcolumn, hfold]
  rfl

end Plain

end Table

/-- **The entries of a comma-separated table** whose texts are taken as they stand, for a locale that it has a column
for. The captions are refused exactly if there are several columns after the first one and a caption is missing; those
that are read put each column after the first in one of three places. The table is refused exactly if its captions are
or its rows do not fit. Otherwise there is one entry for each row, in order, under the folded key of the row; its text
is the cell in the column of the locale, and its description and comments are the cells in theirs, if these are there
and not empty. What stands in a row after the cells under the captions has no part in it. -/
theorem Format.csv_catalog_of_rows {o : Options} {content : Option Content} {locale t : Text} {given : Option Mode}
    {first : Row} {rows : List Row} (ho : o.recognizeReferences = false) (hempty : o.emptyIsAbsent = false)
    (hmode : given.getD Format.csv.defaultMode = .none) (ht : decodeNonempty content = .ok (some t))
    (hrows : Row.read Format.comma t = .ok (first :: rows))
    (hlocale : ∀ h, Table.readHeader o first = .ok h → (h.column? o locale).isSome) :
    ((∃ e, Table.readHeader o first = .error e) ↔ Table.LacksCaption first)
      ∧ (∀ h, Table.readHeader o first = .ok h → h.IsOf o first
        ∧ (h.descriptionColumn.toList ++ h.commentsColumn.toList ++ h.localeColumns).Perm (Table.columns first))
      ∧ ((∃ e, Format.csv.catalog o content locale given = .error (.malformed e))
        ↔ Table.LacksCaption first ∨ ¬Table.RowsFit first.cells.length rows)
      ∧ (¬Table.LacksCaption first → Table.RowsFit first.cells.length rows →
        ∃ h column, Table.readHeader o first = .ok h ∧ h.column? o locale = some column
          ∧ column ∈ Table.columns first
          ∧ Format.csv.catalog o content locale given
            = .ok (some { Catalog.ofLocale none with
                entries := rows.map fun r => (r.key.fold, h.entry column (r.upTo first.cells.length)) })) := by
  have hcatalog : Format.csv.catalog o content locale given = Table.catalog o .none Format.comma locale t := by
    rw [Format.catalog_of_text ht, hmode]
    rfl
  rw [hcatalog]
  -- Either the captions are refused, and the table with them, or the rows decide.
  rcases Table.readHeader_cases o first with ⟨hlacks, message, hheader⟩ | ⟨hlacks, h, hheader, hof⟩
  · have herror := Table.catalog_of_fault .none locale hrows hheader
    refine ⟨iff_of_true ⟨_, hheader⟩ hlacks, fun h hh => ?_, iff_of_true ⟨_, herror⟩ (.inl hlacks),
      fun hno => absurd hlacks hno⟩
    rw [hheader] at hh
    cases hh
  · obtain ⟨column, hcolumn⟩ := Option.isSome_iff_exists.mp (hlocale h hheader)
    have hfits := Table.catalog_fit ho hempty hrows hheader hof hcolumn
    refine ⟨iff_of_false ?_ hlacks, fun h' hh => ?_, ?_,
      fun _ hfit => ⟨h, column, hheader, hcolumn, hof.mem_of_column? hcolumn, hfits hfit⟩⟩
    · rintro ⟨e, he⟩
      rw [hheader] at he
      cases he
    · rw [hheader] at hh
      obtain rfl := Except.ok.inj hh
      exact ⟨hof, hof.perm⟩
    · rw [or_iff_right hlacks]
      constructor
      · rintro ⟨e, he⟩ hfit
        rw [hfits hfit] at he
        cases he
      · exact Table.catalog_unfit ho hempty hrows hheader hof hcolumn

/-- A table with a column for remarks of each kind, a row with a cell too many and one with empty cells. -/
def wordsTable : Text := "key,en,Comments,Description\na, Ant ,small,insect,six legs\nb,,,\n"

/-- The captions of the table. -/
def wordsCaptions : Row := ⟨["key", "en", "Comments", "Description"], 0, 1⟩

/-- The rows below the captions. -/
def wordsRows : List Row := [⟨["a", " Ant ", "small", "insect", "six legs"], 28, 2⟩, ⟨["b", "", "", ""], 58, 3⟩]

theorem csv_catalog_of_wordsTable :
    Row.read Format.comma wordsTable = .ok (wordsCaptions :: wordsRows)
      ∧ ¬Table.LacksCaption wordsCaptions ∧ Table.RowsFit wordsCaptions.cells.length wordsRows
      ∧ ∃ c, Format.csv.catalog .standard (some (.text wordsTable)) "en" none = .ok (some c)
        ∧ c.entries.map (fun e => (e.1, e.2.text, e.2.description, e.2.comments))
          = [(Text.ofString "A", some (Text.ofString "Ant"), some (Text.ofString "insect"), some (Text.ofString "small")),
            (Text.ofString "B", some [], none, none)] := by
  have hrows : Row.read Format.comma wordsTable = .ok (wordsCaptions :: wordsRows) := by decide +kernel
  have hlacks : ¬Table.LacksCaption wordsCaptions := by decide +kernel
  have hfit : Table.RowsFit wordsCaptions.cells.length wordsRows := by decide +kernel
  have hheader : Table.readHeader .standard wordsCaptions
      = .ok ⟨["key", "en", "Comments", "Description"], [1], some 3, some 2⟩ := by decide +kernel
  have hlocale : ∀ h, Table.readHeader .standard wordsCaptions = .ok h → (h.column? .standard "en").isSome := by
    intro h hh
    obtain rfl := Except.ok.inj (hheader.symm.trans hh)
    decide +kernel
  have htext : decodeNonempty (some (.text wordsTable)) = .ok (some wordsTable) :=
    decodeNonempty_text (by decide) (by decide)
  have hmode : (none : Option Mode).getD Format.csv.defaultMode = .none := rfl
  obtain ⟨-, -, -, hread⟩ := Format.csv_catalog_of_rows rfl rfl hmode htext hrows hlocale
  obtain ⟨h, column, hh, hcolumn, -, hcatalog⟩ := hread hlacks hfit
  obtain rfl := Except.ok.inj (hheader.symm.trans hh)
  obtain rfl : 1 = column := by
    have hone : Table.Header.column? .standard ⟨["key", "en", "Comments", "Description"], [1], some 3, some 2⟩ "en"
        = some 1 := by decide +kernel
    exact Option.some.inj (hone.symm.trans hcolumn)
  exact ⟨hrows, hlacks, hfit, _, hcatalog, by decide +kernel⟩

end Files

end Phrasebook
