import Phrasebook.Proofs.Rows
import Phrasebook.Proofs.Text.LineColumn

/-!
# Where the rows of a table are

A table is read cell by cell, with a count of the lines that is kept along the way: at line breaks between rows, within
quoted cells and at the ends of rows. `Leads separator u` says without counting that `u` is passed over: whole cells,
each with a separator or a line break after it. Where all carriage returns are paired, the count is right after every
such text, rows start on the lines that they are said to start on, and the one thing that can be wrong with a table, a
quoted cell that is not closed, is reported at the quote that opens it (`read_places`).
-/

namespace Phrasebook.Files.Row

open CodePoint (lineFeed carriageReturn)

variable {separator c : CodePoint} {t u w rest : Text}

/-! ## Cells -/

/-- The inside of a quoted part: no quote stands in it but twice. -/
abbrev inside (cell : Text) : Text := Text.doubled (fun c => c = quote) cell

theorem inside_quote (cell : Text) : inside (quote :: cell) = quote :: quote :: inside cell :=
  Text.doubled_cons_of_pos (by simp) cell

theorem inside_cons (hc : c ≠ quote) (cell : Text) : inside (c :: cell) = c :: inside cell :=
  Text.doubled_cons_of_neg (by simpa using hc) cell

/-- **`IsCell separator w`**: `w` is the whole text of a cell: a quoted part, perhaps, and then nothing that has a
meaning. -/
inductive IsCell (separator : CodePoint) : Text → Prop
  | plain {w : Text} (hw : ∀ c ∈ w, isPlain separator c = true) (hquote : w.head? ≠ some quote) :
      IsCell separator w
  | quoted (cell : Text) {w : Text} (hw : ∀ c ∈ w, isPlain separator c = true) (hquote : w.head? ≠ some quote) :
      IsCell separator (quoted cell ++ w)

/-- **`Leads separator u`**: `u` consists of whole cells, each with a separator or a line break after it. Between two
line breaks the cell is empty. -/
inductive Leads (separator : CodePoint) : Text → Prop
  | nil : Leads separator []
  | cons {w u : Text} {c : CodePoint} (hw : IsCell separator w) (hc : c = separator ∨ isBreak c = true)
      (hu : Leads separator u) : Leads separator (w ++ c :: u)

theorem isCell_nil (separator : CodePoint) : IsCell separator [] :=
  .plain (List.forall_mem_nil _) (by simp)

/-- No cell starts with a line break. -/
theorem IsCell.head_not_break (h : IsCell separator (c :: w)) : isBreak c = false := by
  generalize hv : c :: w = v at h
  cases h with
  | plain hplain _ =>
      have hc := hplain c (hv ▸ List.mem_cons_self)
      rw [isPlain, Bool.and_eq_true, Bool.not_eq_true'] at hc
      exact hc.1
  | quoted cell _ _ =>
      obtain rfl : c = quote := (List.cons.inj hv).1
      exact isBreak_quote

theorem Leads.break_cons (hc : isBreak c = true) (hu : Leads separator u) : Leads separator (c :: u) :=
  .cons (isCell_nil separator) (.inr hc) hu

theorem Leads.append (ht : Leads separator t) (hu : Leads separator u) : Leads separator (t ++ u) := by
  induction ht with
  | nil => exact hu
  | cons hw hc _ ih =>
      rw [List.append_assoc, List.cons_append]
      exact .cons hw hc ih

/-- A line break where a cell could start is an empty line or the end of an empty cell. -/
theorem Leads.of_break (hc : isBreak c = true) (h : Leads separator (c :: u)) : Leads separator u := by
  generalize ht : c :: u = t at h
  cases h with
  | nil => cases ht
  | @cons w u' d hw _ hu =>
      cases w with
      | nil => exact (List.cons.inj ht).2 ▸ hu
      | cons e w =>
          obtain rfl : c = e := (List.cons.inj ht).1
          rw [hw.head_not_break] at hc
          cases hc

/-- **A quoted part ends at its first single quote**, or it does not end. -/
theorem quotedFrom_cases (t : Text) :
    (∃ cell rest, quotedFrom 0 t = some (cell, rest) ∧ t = inside cell ++ quote :: rest ∧
      rest.head? ≠ some quote) ∨
    quotedFrom 0 t = none ∧ ∃ cell, t = inside cell := by
  -- A pair of quotes is taken at once, so the induction is on the length.
  induction hn : t.length using Nat.strong_induction_on generalizing t with
  | _ n ih =>
  subst hn
  cases t with
  | nil => exact .inr ⟨rfl, [], rfl⟩
  | cons c t =>
      by_cases hc : c = quote
      · subst hc
        by_cases hpair : t.head? = some quote
        · obtain ⟨t, rfl⟩ : ∃ v, t = quote :: v := ⟨t.tail, List.eq_cons_of_mem_head? hpair⟩
          rcases ih t.length (by simp only [List.length_cons]; omega) t rfl with
            ⟨cell, rest, hread, rfl, hrest⟩ | ⟨hread, cell, rfl⟩
          · refine .inl ⟨quote :: cell, rest, by simp [quotedFrom, hread], ?_, hrest⟩
            rw [inside_quote, List.cons_append, List.cons_append]
          · exact .inr ⟨by simp [quotedFrom, hread], quote :: cell, (inside_quote cell).symm⟩
        · exact .inl ⟨[], t, by simp [quotedFrom, hpair], rfl, hpair⟩
      · rcases ih t.length (Nat.lt_succ_self _) t rfl with ⟨cell, rest, hread, rfl, hrest⟩ | ⟨hread, cell, rfl⟩
        · refine .inl ⟨c :: cell, rest, by simp [quotedFrom, hc, hread], ?_, hrest⟩
          rw [inside_cons hc, List.cons_append]
        · exact .inr ⟨by simp [quotedFrom, hc, hread], c :: cell, (inside_cons hc cell).symm⟩

/-- What is inside a quoted part does not end it. -/
theorem quotedFrom_inside (cell : Text) : quotedFrom 0 (inside cell) = none := by
  induction cell with
  | nil => rfl
  | cons c cell ih =>
      by_cases hc : c = quote
      · rw [hc, inside_quote]
        simp [quotedFrom, ih]
      · rw [inside_cons hc]
        simp [quotedFrom, hc, ih]

/-- **A cell is read up to what ends it**, or its quoted part is not closed. -/
theorem readCell_cases (separator : CodePoint) (t : Text) :
    (∃ found w rest, readCell separator t = .ok (found, rest) ∧ t = w ++ rest ∧ IsCell separator w ∧
      Text.Stops (isPlain separator) rest) ∨
    readCell separator t = .error t ∧ ∃ cell, t = quote :: inside cell := by
  have hrun : ∀ t : Text, t.head? ≠ some quote → (t.takeWhile (isPlain separator)).head? ≠ some quote := by
    intro t ht hhead
    rw [List.head?_takeWhile, Option.filter_eq_some_iff] at hhead
    exact ht hhead.1
  by_cases hhead : t.head? = some quote
  -- After the closing quote the cell goes on as one without quotes.
  · obtain ⟨t, rfl⟩ : ∃ v, t = quote :: v := ⟨t.tail, List.eq_cons_of_mem_head? hhead⟩
    rcases quotedFrom_cases t with ⟨cell, rest, hread, rfl, hrest⟩ | ⟨hread, cell, rfl⟩
    · refine .inl ⟨cell ++ rest.takeWhile (isPlain separator), quoted cell ++ rest.takeWhile (isPlain separator),
        rest.dropWhile (isPlain separator), ?_, ?_, .quoted cell (fun _ => List.mem_takeWhile_imp) (hrun rest hrest),
        Text.stops_dropWhile _ rest⟩
      · rw [readCell, if_pos hhead, List.drop_one, List.tail_cons, hread]
        rfl
      · rw [List.append_assoc, List.takeWhile_append_dropWhile]
        simp [quoted, inside]
    · refine .inr ⟨?_, cell, rfl⟩
      rw [readCell, if_pos hhead, List.drop_one, List.tail_cons, hread]
  · refine .inl ⟨t.takeWhile (isPlain separator), t.takeWhile (isPlain separator), t.dropWhile (isPlain separator), ?_,
      List.takeWhile_append_dropWhile.symm, .plain (fun _ => List.mem_takeWhile_imp) (hrun t hhead),
      Text.stops_dropWhile _ t⟩
    rw [readCell, if_neg hhead]
    rfl

/-- A cell is read, whatever follows what ends it. -/
theorem readCell_isCell (hs : IsSeparator separator) (hw : IsCell separator w)
    (hrest : Text.Stops (isPlain separator) rest) : ∃ found, readCell separator (w ++ rest) = .ok (found, rest) := by
  have hquote := head_ne_quote hs hrest
  have hhead : ∀ v : Text, v.head? ≠ some quote → (v ++ rest).head? ≠ some quote := by
    intro v hv
    cases v with
    | nil => exact hquote
    | cons d v => simpa using hv
  cases hw with
  | plain hw hq =>
      refine ⟨w, ?_⟩
      rw [readCell, if_neg (hhead w hq), plainCell_append hw hrest]
  | @quoted cell v hw hq =>
      have hread := quotedFrom_doubled cell (hhead v hq)
      refine ⟨cell ++ v, ?_⟩
      simp [readCell, quoted, hread, plainCell_append hw hrest]

/-- What ends a cell is the separator or a line break. -/
theorem eq_separator_or_break (h : Text.Stops (isPlain separator) (c :: t)) : c = separator ∨ isBreak c = true := by
  have hplain := Text.stops_cons.mp h
  rw [isPlain, Bool.and_eq_false_iff, Bool.not_eq_false', decide_eq_false_iff_not, not_not] at hplain
  exact hplain.symm

/-! ## Rows -/

/-- **A row is read up to a line break or the end of the text**, or one of its cells is not closed. -/
theorem readCells_cases (separator : CodePoint) {fuel : Nat} {t : Text} (hfuel : t.length < fuel) :
    (∃ found w rest, readCells separator fuel t = .ok (found, rest) ∧ t = w ++ rest ∧ EndsRow rest ∧
      ∀ d, isBreak d = true → Leads separator (w ++ [d])) ∨
    ∃ u cell, readCells separator fuel t = .error (quote :: inside cell) ∧ t = u ++ quote :: inside cell ∧
      Leads separator u := by
  induction fuel generalizing t with
  | zero => exact absurd hfuel (Nat.not_lt_zero _)
  | succ fuel ih =>
      rw [readCells]
      -- What leads to the end of the row, or to the cell that is not closed, is put together cell by cell.
      rcases readCell_cases separator t with ⟨found, w, rest, hread, rfl, hw, hstops⟩ | ⟨hread, cell, rfl⟩
      · rw [hread]
        cases rest with
        | nil => exact .inl ⟨_, w, [], rfl, rfl, Text.stops_nil, fun d hd => .cons hw (.inr hd) .nil⟩
        | cons c after =>
            have hlen : after.length < fuel := by
              simp only [List.length_append, List.length_cons] at hfuel
              omega
            simp only [bind, Except.bind]
            by_cases hc : c = separator
            · rw [if_pos hc]
              rcases ih hlen with ⟨more, v, rest, hmore, rfl, hends, hleads⟩ | ⟨u, cell, hmore, rfl, hleads⟩
              · rw [hmore]
                refine .inl ⟨_, w ++ c :: v, rest, rfl, by simp, hends, fun d hd => ?_⟩
                rw [List.append_assoc, List.cons_append]
                exact .cons hw (.inl hc) (hleads d hd)
              · rw [hmore]
                exact .inr ⟨w ++ c :: u, cell, rfl, by simp, .cons hw (.inl hc) hleads⟩
            · rw [if_neg hc]
              have hbreak : isBreak c = true := (eq_separator_or_break hstops).resolve_left hc
              exact .inl ⟨_, w, c :: after, rfl, rfl, Text.stops_cons.mpr (by rw [hbreak]; rfl),
                fun d hd => .cons hw (.inr hd) .nil⟩
      · rw [hread]
        exact .inr ⟨[], cell, rfl, rfl, .nil⟩

/-! ## Lines -/

/-- After a carriage return stands the line feed that it is paired with. -/
theorem lineFeed_next (ht : (t ++ carriageReturn :: u).AreReturnsPaired) : u.head? = some lineFeed := by
  have hlt : t.length < (t ++ carriageReturn :: u).length := by
    rw [List.length_append, List.length_cons]
    omega
  have hnext := ht t.length hlt (by simp)
  simpa [List.getElem?_append_right, List.head?_eq_getElem?] using hnext

/-- A row ends with one line break, if all carriage returns are paired. -/
theorem afterBreak_cases (ht : (t ++ c :: u).AreReturnsPaired) (hc : isBreak c = true) :
    ∃ b, (b = [lineFeed] ∨ b = [carriageReturn, lineFeed]) ∧ c :: u = b ++ afterBreak (c :: u) := by
  rw [isBreak, Bool.or_eq_true, decide_eq_true_eq, decide_eq_true_eq] at hc
  rcases hc with rfl | rfl
  · obtain ⟨v, rfl⟩ : ∃ v, u = lineFeed :: v := ⟨u.tail, List.eq_cons_of_mem_head? (lineFeed_next ht)⟩
    exact ⟨_, .inr rfl, rfl⟩
  · refine ⟨_, .inl rfl, ?_⟩
    rw [afterBreak, if_neg (by rintro ⟨h, -⟩; exact absurd h (by decide))]
    rfl

/-- A row with the line break after it leads on. -/
theorem lineBreak_facts {b : Text} (hb : b = [lineFeed] ∨ b = [carriageReturn, lineFeed])
    (hw : ∀ d, isBreak d = true → Leads separator (w ++ [d])) :
    Leads separator (w ++ b) ∧ b.count lineFeed = 1 ∧ ∃ v, b = v ++ [lineFeed] := by
  rcases hb with rfl | rfl
  · exact ⟨hw _ isBreak_lineFeed, by simp, [], rfl⟩
  · refine ⟨?_, by decide, [carriageReturn], rfl⟩
    have hreturn := (hw _ isBreak_carriageReturn).append (Leads.nil.break_cons isBreak_lineFeed)
    rwa [List.append_assoc] at hreturn

/-- **`IsLineAfter before line`**: after `before` the reader is at the start of a line, or within a line break, and has
counted the lines. -/
structure IsLineAfter (before : Text) (line : Nat) : Prop where
  line_eq : line = before.count lineFeed + 1
  ends : EndsRow before.reverse

theorem IsLineAfter.concat {line : Nat} (hc : isBreak c = true) (h : line = (t ++ [c]).count lineFeed + 1) :
    IsLineAfter (t ++ [c]) line where
  line_eq := h
  ends := by
    rw [List.reverse_append]
    exact Text.stops_cons.mpr (by rw [hc]; rfl)

/-- What is no line break stands at the start of a line only after a line feed. -/
theorem IsLineAfter.stops {line : Nat} (h : IsLineAfter t line) (ht : (t ++ c :: u).AreReturnsPaired)
    (hc : isBreak c = false) : Text.Stops (· ≠ lineFeed) t.reverse := by
  intro d hd
  rw [decide_eq_false_iff_not, not_not]
  have hbreak : isBreak d = true := by simpa using h.ends d hd
  rw [isBreak, Bool.or_eq_true, decide_eq_true_eq, decide_eq_true_eq] at hbreak
  refine hbreak.resolve_left fun hreturn => ?_
  -- After a carriage return stands a line feed, and that is a line break.
  rw [List.head?_reverse] at hd
  obtain ⟨v, rfl⟩ := List.getLast?_eq_some_iff.mp hd
  subst hreturn
  rw [List.append_assoc, List.singleton_append] at ht
  obtain rfl : c = lineFeed := Option.some.inj (lineFeed_next ht)
  rw [isBreak_lineFeed] at hc
  cases hc

/-! ## Tables -/

/-- The fault of a quoted cell that opens at an offset and is not closed. -/
def unclosedAt (t : Text) (n : Nat) : TextError :=
  let (line, column) := t.lineColumn n
  { message := "Unclosed quoted cell at " ++ TextError.place line column
    start := n
    stop := t.length
    line := line
    column := column }

/-- **`IsUnclosed separator t n`**: at the offset `n` a quote opens a cell that is not closed up to the end. -/
def IsUnclosed (separator : CodePoint) (t : Text) (n : Nat) : Prop :=
  ∃ before cell, t = before ++ quote :: inside cell ∧ before.length = n ∧ Leads separator before

/-- **The fault is reported where the cell opens**: the lines up to its row have been counted, and those within the row
are counted for the report. -/
theorem unclosed_eq {line : Nat} (hline : line = t.count lineFeed + 1)
    (hstart : Text.Stops (· ≠ lineFeed) t.reverse) (u v : Text) :
    unclosed (t ++ (u ++ v)).length line (u ++ v) v = unclosedAt (t ++ (u ++ v)) (t ++ u).length := by
  have hplace := Text.lineColumn_append (t ++ u) v
  rw [List.append_assoc, Text.lastLine_append hstart, List.count_append] at hplace
  have hbefore : (u ++ v).take ((u ++ v).length - v.length) = u := by
    rw [List.length_append, Nat.add_sub_cancel, List.take_left]
  have hoffset : (t ++ (u ++ v)).length - v.length = (t ++ u).length := by
    simp only [List.length_append]
    omega
  have hlines : line + lineFeeds u = t.count lineFeed + u.count lineFeed + 1 := by
    rw [hline, lineFeeds]
    omega
  unfold unclosed unclosedAt
  simp only [hplace, hbefore, hoffset, hlines, Text.lastLine, List.length_reverse]

/-- A line break between rows is counted once. -/
theorem IsLineAfter.of_break {line : Nat} (h : IsLineAfter t line) (ht : (t ++ c :: u).AreReturnsPaired)
    (hc : isBreak c = true) :
    IsLineAfter (t ++ [c])
      (if (decide (c = carriageReturn) && decide (u.head? = some lineFeed)) = true then line else line + 1) := by
  refine .concat hc ?_
  rw [List.count_append, h.line_eq]
  rw [isBreak, Bool.or_eq_true, decide_eq_true_eq, decide_eq_true_eq] at hc
  rcases hc with rfl | rfl
  · rw [if_pos (by simp [lineFeed_next ht])]
    rfl
  · rw [if_neg (by simp [lineFeed, carriageReturn, CodePoint.ofChar_inj])]
    simp

/-- **A row stands with the line break after it**, if there is one, before what is read next. -/
theorem exists_rowText {line : Nat} (ht : (t ++ (w ++ rest)).AreReturnsPaired) (hne : w ++ rest ≠ [])
    (hends : EndsRow rest) (hw : ∀ d, isBreak d = true → Leads separator (w ++ [d]))
    (hline : line = t.count lineFeed + 1) :
    ∃ v, v ≠ [] ∧ w ++ rest = v ++ afterBreak rest ∧
      (afterBreak rest ≠ [] → Leads separator v ∧ IsLineAfter (t ++ v) (line + lineFeeds w + 1)) := by
  cases rest with
  | nil => exact ⟨w, by simpa using hne, rfl, fun h => absurd rfl h⟩
  | cons d rest =>
      rw [← List.append_assoc] at ht
      obtain ⟨b, hb, hafter⟩ := afterBreak_cases ht (by simpa using Text.stops_cons.mp hends)
      obtain ⟨hleads, hcount, v, rfl⟩ := lineBreak_facts hb hw
      refine ⟨w ++ (v ++ [lineFeed]), by simp, ?_, fun _ => ⟨hleads, ?_⟩⟩
      · rw [List.append_assoc w, ← hafter]
      · simp only [← List.append_assoc]
        refine .concat isBreak_lineFeed ?_
        rw [hline, lineFeeds, List.append_assoc, List.count_append, hcount, List.count_append]
        omega

/-- What is right of rows: each is further on than the one before it, and its line is that of its offset. -/
def ArePlaced (t : Text) (first : Nat) (rows : List Row) : Prop :=
  rows.Pairwise (fun r r' => r.offset < r'.offset) ∧
    ∀ r ∈ rows, first ≤ r.offset ∧ r.offset < t.length ∧ r.line = (t.take r.offset).count lineFeed + 1

theorem ArePlaced.mono {first later : Nat} {rows : List Row} (h : ArePlaced t later rows) (hle : first ≤ later) :
    ArePlaced t first rows :=
  ⟨h.1, fun r hr => ⟨hle.trans (h.2 r hr).1, (h.2 r hr).2⟩⟩

theorem ArePlaced.cons {r : Row} {later : Nat} {rows : List Row} (h : ArePlaced t later rows)
    (hlater : r.offset < later) (hle : r.offset < t.length)
    (hline : r.line = (t.take r.offset).count lineFeed + 1) : ArePlaced t r.offset (r :: rows) := by
  refine ⟨List.pairwise_cons.mpr ⟨fun r' hr' => hlater.trans_le (h.2 r' hr').1, h.1⟩, fun r' hr' => ?_⟩
  rcases List.mem_cons.mp hr' with rfl | hr'
  · exact ⟨Nat.le_refl _, hle, hline⟩
  · exact ⟨hlater.le.trans (h.2 r' hr').1, (h.2 r' hr').2⟩

/-! ## Steps of the reader -/

section Steps

variable {total fuel line : Nat} {opening : Text}

theorem readFrom_unclosed (hc : isBreak c = false)
    (hread : readCells separator (t.length + 2) (c :: t) = .error opening) :
    readFrom separator total (fuel + 1) line (c :: t) = .error (unclosed total line (c :: t) opening) := by
  rw [readFrom, if_neg (by simp [hc]), hread]

/-- After the cells of a row the reader goes on behind its line break. -/
theorem readFrom_ok {found : List Text} (hc : isBreak c = false)
    (hread : readCells separator (t.length + 2) (c :: t) = .ok (found, rest)) :
    readFrom separator total (fuel + 1) line (c :: t) =
      (readFrom separator total fuel (line + lineFeeds ((c :: t).take (t.length + 1 - rest.length)) + 1)
        (afterBreak rest)).map (⟨found, total - (t.length + 1), line⟩ :: ·) := by
  rw [readFrom, if_neg (by simp [hc]), hread]
  rfl

end Steps

/-! ## Tables -/

/-- **`ReadsOn separator whole before t r`**: after `before` the rest `t` of a text has been read with the result `r`:
rows that are in their places, or the fault of a cell that is not closed. -/
def ReadsOn (separator : CodePoint) (whole before t : Text) (r : Except TextError (List Row)) : Prop :=
  (∃ rows, r = .ok rows ∧ ArePlaced whole before.length rows) ∨
    ∃ u cell, r = .error (unclosedAt whole (before ++ u).length) ∧ t = u ++ quote :: inside cell ∧ Leads separator u

section Reading

variable {whole before : Text} {r : Except TextError (List Row)} {line : Nat}

/-- What leads on to the rest of a text may stand before it. -/
theorem ReadsOn.prepend (h : ReadsOn separator whole (before ++ w) t r) (hw : Leads separator w) :
    ReadsOn separator whole before (w ++ t) r := by
  rcases h with ⟨rows, rfl, hrows⟩ | ⟨u, cell, rfl, rfl, hu⟩
  · exact .inl ⟨rows, rfl, hrows.mono (by simp)⟩
  · exact .inr ⟨w ++ u, cell, by rw [List.append_assoc], (List.append_assoc w u _).symm, hw.append hu⟩

/-- A row is in its place before the rows that are read after it. -/
theorem ReadsOn.row {found : List Text} (h : ReadsOn separator whole (before ++ w) t r) (hne : w ≠ [])
    (hw : t ≠ [] → Leads separator w) (hlt : before.length < whole.length)
    (hline : line = (whole.take before.length).count lineFeed + 1) :
    ReadsOn separator whole before (w ++ t) (r.map (⟨found, before.length, line⟩ :: ·)) := by
  rcases h with ⟨rows, rfl, hrows⟩ | ⟨u, cell, rfl, rfl, hu⟩
  · have hlater : before.length < (before ++ w).length := by
      rw [List.length_append]
      exact Nat.lt_add_of_pos_right (List.length_pos_of_ne_nil hne)
    exact .inl ⟨_, rfl, ArePlaced.cons (r := ⟨found, before.length, line⟩) hrows hlater hlt hline⟩
  · exact .inr ⟨w ++ u, cell, by rw [List.append_assoc]; rfl, (List.append_assoc w u _).symm,
      (hw (by simp)).append hu⟩

/-- With `fuel` the rest of a text is read on, from any line. -/
def AllReadOn (separator : CodePoint) (whole : Text) (fuel : Nat) : Prop :=
  ∀ {before t : Text} {line : Nat}, whole = before ++ t → t.length < fuel → (t ≠ [] → IsLineAfter before line) →
    ReadsOn separator whole before t (readFrom separator whole.length fuel line t)

/-- A row is read on from its first code point, which is no line break. -/
theorem readsOn_row {fuel : Nat} (h : AllReadOn separator whole fuel) (hpaired : whole.AreReturnsPaired)
    (hwhole : whole = before ++ c :: t) (hfuel : t.length < fuel) (hc : isBreak c = false)
    (hline : IsLineAfter before line) :
    ReadsOn separator whole before (c :: t) (readFrom separator whole.length (fuel + 1) line (c :: t)) := by
  have hsplit := hpaired
  rw [hwhole] at hsplit
  have hcells : (c :: t).length < t.length + 2 := Nat.lt_succ_self _
  rcases readCells_cases separator hcells with
    ⟨found, w, rest, hread, ht, hends, hleads⟩ | ⟨u, cell, hread, ht, hleads⟩
  · have hoffset : whole.length - (t.length + 1) = before.length := by
      rw [hwhole, List.length_append, List.length_cons, Nat.add_sub_cancel]
    have hlt : before.length < whole.length := by
      rw [hwhole, List.length_append, List.length_cons]
      omega
    have hrow : line = (whole.take before.length).count lineFeed + 1 := by
      rw [hwhole, List.take_left]
      exact hline.line_eq
    have hwritten : (c :: t).take (t.length + 1 - rest.length) = w := by
      rw [← List.length_cons, ht, List.length_append, Nat.add_sub_cancel, List.take_left]
    rw [ht] at hsplit
    obtain ⟨v, hne, hv, hnext⟩ := exists_rowText hsplit (ht ▸ List.cons_ne_nil c t) hends hleads hline.line_eq
    rw [readFrom_ok hc hread, hwritten, hoffset, ht, hv]
    rw [hv] at ht
    generalize afterBreak rest = after at ht hnext ⊢
    have hlen : after.length < fuel := by
      have hsum := congrArg List.length ht
      have hpos := List.length_pos_of_ne_nil hne
      simp only [List.length_append, List.length_cons] at hsum
      omega
    -- After the last row there may be no line break, and then nothing is read any more.
    have hrest := h (by rw [hwhole, ht, List.append_assoc]) hlen fun hafter => (hnext hafter).2
    exact hrest.row hne (fun hafter => (hnext hafter).1) hlt hrow
  · refine .inr ⟨u, cell, ?_, ht, hleads⟩
    rw [readFrom_unclosed hc hread, ht, hwhole, ht]
    exact congrArg Except.error (unclosed_eq hline.line_eq (hline.stops hsplit hc) u _)

/-- **The rest of a text is read on**, with fuel enough for it. -/
theorem allReadOn (separator : CodePoint) (hpaired : whole.AreReturnsPaired) (fuel : Nat) :
    AllReadOn separator whole fuel := by
  induction fuel with
  | zero => exact fun _ hfuel _ => absurd hfuel (Nat.not_lt_zero _)
  | succ fuel ih =>
      intro before t line hwhole hfuel hline
      cases t with
      | nil => exact .inl ⟨[], rfl, .nil, List.forall_mem_nil _⟩
      | cons c t =>
          have hlen : t.length < fuel := Nat.lt_of_succ_lt_succ hfuel
          have hcount := hline (List.cons_ne_nil c t)
          by_cases hc : isBreak c = true
          · have hnext := hcount.of_break (hwhole ▸ hpaired) hc
            rw [readFrom, if_pos hc]
            exact (ih (by rw [hwhole]; simp) hlen fun _ => hnext).prepend (Leads.nil.break_cons hc)
          · exact readsOn_row ih hpaired hwhole hlen (Bool.not_eq_true _ ▸ hc) hcount

end Reading

/-! ## Cells that are not closed -/

section Unclosed

variable {cell : Text} {fuel : Nat}

/-- Where a cell is not closed, its row is refused, or the row ends before it and more leads to it. -/
theorem readCells_leads (hs : IsSeparator separator) (hu : Leads separator u)
    (hfuel : (u ++ quote :: inside cell).length < fuel) :
    readCells separator fuel (u ++ quote :: inside cell) = .error (quote :: inside cell) ∨
    ∃ found d v, readCells separator fuel (u ++ quote :: inside cell) = .ok (found, d :: (v ++ quote :: inside cell)) ∧
      Leads separator v ∧ v.length < u.length := by
  induction hu generalizing fuel with
  | nil =>
      obtain ⟨fuel, rfl⟩ : ∃ f, fuel = f + 1 := ⟨fuel - 1, by omega⟩
      left
      simp [readCells, readCell, quotedFrom_inside, bind, Except.bind]
  | @cons w v c hw hc hv ih =>
      obtain ⟨fuel, rfl⟩ : ∃ f, fuel = f + 1 := ⟨fuel - 1, by omega⟩
      have hstops : Text.Stops (isPlain separator) (c :: (v ++ quote :: inside cell)) := by
        apply Text.stops_cons.mpr
        rcases hc with rfl | hc
        · simp [isPlain]
        · simp [isPlain, hc]
      -- The cell before is read as it was, and what ends it tells whether the row goes on to the cell that is not
      -- closed.
      obtain ⟨first, hread⟩ := readCell_isCell hs hw hstops
      rw [List.append_assoc, List.cons_append] at hfuel ⊢
      rw [readCells, hread]
      simp only [bind, Except.bind]
      by_cases hseparator : c = separator
      · rw [if_pos hseparator]
        have hlen : (v ++ quote :: inside cell).length < fuel := by
          simp only [List.length_append, List.length_cons] at hfuel ⊢
          omega
        rcases ih hlen with herror | ⟨found, d, v', hok, hv', hlt⟩
        · exact .inl (by rw [herror])
        · refine .inr ⟨first :: found, d, v', by rw [hok]; rfl, hv', ?_⟩
          simp only [List.length_append, List.length_cons]
          omega
      · rw [if_neg hseparator]
        refine .inr ⟨[first], c, v, rfl, hv, ?_⟩
        simp only [List.length_append, List.length_cons]
        omega

/-- The line break that ends a row may take an empty line with it, but nothing of the cell. -/
theorem afterBreak_leads (d : CodePoint) (cell : Text) {v : Text} (hv : Leads separator v) :
    ∃ v', afterBreak (d :: (v ++ quote :: inside cell)) = v' ++ quote :: inside cell ∧ Leads separator v' ∧
      v'.length ≤ v.length := by
  rw [afterBreak]
  split
  · next hpair =>
    cases v with
    | nil => exact absurd (Option.some.inj hpair.2) (by decide)
    | cons c v =>
        obtain rfl : c = lineFeed := Option.some.inj hpair.2
        exact ⟨v, rfl, hv.of_break isBreak_lineFeed, Nat.le_succ _⟩
  · exact ⟨v, rfl, hv, Nat.le_refl _⟩

/-- **A table with a cell that is not closed is refused for that cell.** -/
theorem readFrom_leads (hs : IsSeparator separator) (total line : Nat) (hu : Leads separator u)
    (hfuel : (u ++ quote :: inside cell).length < fuel) :
    ∃ e, readFrom separator total fuel line (u ++ quote :: inside cell) = .error e ∧
      e.start = total - (quote :: inside cell).length := by
  induction fuel generalizing u line with
  | zero => exact absurd hfuel (Nat.not_lt_zero _)
  | succ fuel ih =>
      have hshorter : ∀ {v : Text}, v.length < u.length → (v ++ quote :: inside cell).length < fuel := by
        intro v hv
        simp only [List.length_append] at hfuel ⊢
        omega
      obtain ⟨c, t, ht⟩ : ∃ c t, u ++ quote :: inside cell = c :: t :=
        List.exists_cons_of_ne_nil (by simp)
      by_cases hc : isBreak c = true
      · cases u with
        | nil =>
            obtain rfl : quote = c := (List.cons.inj ht).1
            rw [isBreak_quote] at hc
            cases hc
        | cons d v =>
            obtain ⟨rfl, rfl⟩ := List.cons.inj ht
            obtain ⟨next, hstep⟩ := readFrom_break separator hc total fuel line (v ++ quote :: inside cell)
            rw [List.cons_append, hstep]
            exact ih _ (hu.of_break hc) (hshorter (Nat.lt_succ_self _))
      · rw [Bool.not_eq_true] at hc
        have hcells : (u ++ quote :: inside cell).length < t.length + 2 := by
          rw [ht]
          exact Nat.lt_succ_self _
        rcases readCells_leads hs hu hcells with hread | ⟨found, d, v, hread, hv, hlt⟩
        · rw [ht] at hread ⊢
          exact ⟨_, readFrom_unclosed hc hread, rfl⟩
        · -- The row has ended before the cell, and less leads from there to it.
          obtain ⟨v', hafter, hv', hle⟩ := afterBreak_leads d cell hv
          rw [ht] at hread ⊢
          rw [readFrom_ok hc hread, hafter]
          obtain ⟨e, hrest, hstart⟩ := ih _ hv' (hshorter (hle.trans_lt hlt))
          exact ⟨e, by rw [hrest]; rfl, hstart⟩

end Unclosed

/-- The whole of a table is read on from its first line. -/
theorem read_readsOn (separator : CodePoint) (ht : t.AreReturnsPaired) :
    ReadsOn separator t [] t (read separator t) :=
  allReadOn separator ht (t.length + 1) rfl (Nat.lt_succ_self _) fun _ => ⟨rfl, Text.stops_nil⟩

/-- **The places that a table gives are right**, where all carriage returns are paired. Every row is on the line of its
offset, and each is further on than the one before it. Nothing can be wrong with a table but a quoted cell that is not
closed; then the error is at the quote that opens the cell, on the line and the column of that quote, and reaches to the
end of the text. -/
theorem read_places (hs : IsSeparator separator) (ht : t.AreReturnsPaired) :
    (∀ rows, read separator t = .ok rows → rows.Pairwise (fun r r' => r.offset < r'.offset) ∧
      ∀ r ∈ rows, r.offset < t.length ∧ r.line = (t.take r.offset).count lineFeed + 1) ∧
    ∀ e, read separator t = .error e ↔ ∃ n, IsUnclosed separator t n ∧ e = unclosedAt t n := by
  have hread := read_readsOn separator ht
  refine ⟨fun rows hrows => ?_, fun e => ⟨fun he => ?_, ?_⟩⟩
  · rcases hread with ⟨rows', hok, hplaced⟩ | ⟨_, _, herror, -⟩
    · obtain rfl := Except.ok.inj (hok.symm.trans hrows)
      exact ⟨hplaced.1, fun r hr => (hplaced.2 r hr).2⟩
    · cases herror.symm.trans hrows
  · rcases hread with ⟨_, hok, -⟩ | ⟨u, cell, herror, hsplit, hleads⟩
    · cases hok.symm.trans he
    · exact ⟨u.length, ⟨u, cell, hsplit, rfl, hleads⟩, (Except.error.inj (herror.symm.trans he)).symm⟩
  · rintro ⟨n, ⟨u, cell, hsplit, rfl, hleads⟩, rfl⟩
    -- The table is refused for a cell, and the start of the error tells which.
    have hfuel : (u ++ quote :: inside cell).length < t.length + 1 := hsplit ▸ Nat.lt_succ_self t.length
    obtain ⟨e, herror, hstart⟩ := readFrom_leads hs t.length 1 hleads hfuel
    rw [← hsplit] at herror
    have hlength : t.length - (quote :: inside cell).length = u.length := by
      rw [hsplit, List.length_append, Nat.add_sub_cancel]
    rcases hread with ⟨_, hok, -⟩ | ⟨v, _, herror', -⟩
    · cases hok.symm.trans herror
    · obtain rfl := Except.error.inj (herror.symm.trans herror')
      have hplace : v.length = u.length := hstart.trans hlength
      rw [herror', List.nil_append, hplace]

/-- Line breaks between quotes count for the lines of the rows after them, and for a quoted cell that is not closed
after them in its row. -/
theorem read_places_quoted :
    IsSeparator Format.comma ∧
      (let t : Text := "a\r\n\n\"b\nc\"\r\nd"
      let rows : List Row := [⟨["a"], 0, 1⟩, ⟨["b\nc"], 4, 3⟩, ⟨["d"], 11, 5⟩]
      t.AreReturnsPaired ∧ read Format.comma t = .ok rows ∧ rows.Pairwise (fun r r' => r.offset < r'.offset) ∧
        ∀ r ∈ rows, r.offset < t.length ∧ r.line = (t.take r.offset).count lineFeed + 1) ∧
      let t : Text := "a\r\n\"b\nc\",\"d"
      t.AreReturnsPaired ∧ IsUnclosed Format.comma t 9 ∧ read Format.comma t = .error (unclosedAt t 9) := by
  have hs : IsSeparator Format.comma := ⟨by decide, by decide⟩
  refine ⟨hs, ?_, ?_⟩
  · have hpaired : Text.AreReturnsPaired "a\r\n\n\"b\nc\"\r\nd" := by decide
    have hread : read Format.comma "a\r\n\n\"b\nc\"\r\nd" =
        .ok [⟨["a"], 0, 1⟩, ⟨["b\nc"], 4, 3⟩, ⟨["d"], 11, 5⟩] := by decide
    exact ⟨hpaired, hread, (read_places hs hpaired).1 _ hread⟩
  · have hpaired : Text.AreReturnsPaired "a\r\n\"b\nc\",\"d" := by decide
    have hplain : ∀ d ∈ ("a" : Text), isPlain Format.comma d = true := by decide
    have hcell : IsUnclosed Format.comma "a\r\n\"b\nc\",\"d" 9 := by
      refine ⟨"a\r\n\"b\nc\",", "d", by decide, by decide, ?_⟩
      exact .cons (w := "a") (.plain hplain (by decide)) (.inr (by decide)) <|
        .break_cons (by decide) <|
        .cons (w := quoted "b\nc" ++ []) (.quoted _ (List.forall_mem_nil _) (by decide)) (.inl rfl) .nil
    exact ⟨hpaired, hcell, ((read_places hs hpaired).2 _).mpr ⟨9, hcell, rfl⟩⟩

end Phrasebook.Files.Row
