import Phrasebook.Files.Format
import Phrasebook.Proofs.Text.Runs

/-!
# Tables, written and read

`TableText separator rows t` says that `t` is one of the texts that write `rows`. A cell may be put
between quotes or, where nothing in it would be misread, stand as it is; a row ends with any of three
line breaks, and further line breaks may stand anywhere between rows. The relation leaves all of these
choices open, so that a statement about it holds of every writer of tables.

The main statement is `read_of_tableText`: the reader gives back the rows of every text that writes
them. The one place where writing is ambiguous is a carriage return that ends a row before a line feed
that was written as an empty line. The reader takes the two as one break, and `TableText.of_lineFeed`
says that this loses nothing.
-/

namespace Phrasebook.Files.Row

/-! ## Writing -/

/-- A cell between quotes; its own quotes are written twice. -/
def quoted (cell : Text) : Text := quote :: Text.doubled (fun c => c = quote) cell ++ [quote]

/-- **`CellText separator cell w`**: `w` writes `cell`, either between quotes or as it is. -/
inductive CellText (separator : CodePoint) : Text → Text → Prop
  | quoted (cell : Text) : CellText separator cell (quoted cell)
  | plain {cell : Text} :
      (∀ c ∈ cell, isPlain separator c = true) → cell.head? ≠ some quote →
      CellText separator cell cell

/-- **`CellsText separator cells w`**: `w` writes one or more cells with separators between them. -/
inductive CellsText (separator : CodePoint) : List Text → Text → Prop
  | last {cell w : Text} : CellText separator cell w → CellsText separator [cell] w
  | cons {cell w : Text} {cells : List Text} {rest : Text} :
      CellText separator cell w → CellsText separator cells rest →
      CellsText separator (cell :: cells) (w ++ separator :: rest)

/-- **`RowText separator cells w`**: `w` writes a row. Only a row that is one plain empty cell would
have no text at all, and so could not be told from an empty line. -/
def RowText (separator : CodePoint) (cells : List Text) (w : Text) : Prop :=
  CellsText separator cells w ∧ w ≠ []

/-- The line breaks: line feed, carriage return and line feed, carriage return. -/
def lineBreaks : List Text :=
  [[CodePoint.lineFeed], [CodePoint.carriageReturn, CodePoint.lineFeed], [CodePoint.carriageReturn]]

/-- **`TableText separator rows t`**: `t` writes `rows`, each but perhaps the last with a line break
after it, and any number of further line breaks before, between and after them. -/
inductive TableText (separator : CodePoint) : List (List Text) → Text → Prop
  | nil : TableText separator [] []
  | emptyLine {rows : List (List Text)} {b t : Text} :
      b ∈ lineBreaks → TableText separator rows t → TableText separator rows (b ++ t)
  | last {row : List Text} {w : Text} : RowText separator row w → TableText separator [row] w
  | row {row : List Text} {w b t : Text} {rows : List (List Text)} :
      RowText separator row w → b ∈ lineBreaks → TableText separator rows t →
      TableText separator (row :: rows) (w ++ (b ++ t))

/-- A code point that can separate cells: no line break and no quote. -/
def IsSeparator (separator : CodePoint) : Prop := isBreak separator = false ∧ separator ≠ quote

theorem isSeparator_of_mem {separator : CodePoint} (h : separator ∈ [Format.comma, Format.tab]) :
    IsSeparator separator := by
  rcases List.mem_pair.mp h with rfl | rfl <;> exact ⟨by decide, by decide⟩

/-! ## Cells -/

variable {separator : CodePoint}

theorem isBreak_quote : isBreak quote = false := by decide

theorem isBreak_lineFeed : isBreak CodePoint.lineFeed = true := by decide

theorem isBreak_carriageReturn : isBreak CodePoint.carriageReturn = true := by decide

/-- A cell may be followed by a separator. -/
theorem stops_separator (rest : Text) : Text.Stops (isPlain separator) (separator :: rest) :=
  Text.stops_cons.mpr (by simp [isPlain])

/-- What ends a cell is no quote. -/
theorem head_ne_quote (hs : IsSeparator separator) {rest : Text}
    (h : Text.Stops (isPlain separator) rest) : rest.head? ≠ some quote := by
  intro hq
  have hplain : isPlain separator quote = false := h quote hq
  simp only [isPlain, isBreak_quote, Bool.not_false, Bool.true_and, decide_eq_false_iff_not,
    not_not] at hplain
  exact hs.2 hplain.symm

/-- Reading the quoted part of a cell undoes the doubling. -/
theorem quotedFrom_doubled (cell : Text) {rest : Text} (h : rest.head? ≠ some quote) :
    quotedFrom 0 (Text.doubled (fun c => c = quote) cell ++ quote :: rest) = some (cell, rest) := by
  induction cell with
  | nil => simp [Text.doubled_nil, quotedFrom, h]
  | cons c cell ih =>
      by_cases hc : c = quote
      · rw [Text.doubled_cons_of_pos (by simpa using hc), hc]
        simp [quotedFrom, ih]
      · rw [Text.doubled_cons_of_neg (by simpa using hc)]
        simp [quotedFrom, hc, ih]

theorem plainCell_append {cell rest : Text} (hp : ∀ c ∈ cell, isPlain separator c = true)
    (h : Text.Stops (isPlain separator) rest) : plainCell separator (cell ++ rest) = (cell, rest) := by
  rw [plainCell, Text.takeWhile_run hp h, Text.dropWhile_run hp h]

/-- **A cell is read back**, whichever way it was written. -/
theorem readCell_cellText (hs : IsSeparator separator) {cell w rest : Text}
    (hw : CellText separator cell w) (h : Text.Stops (isPlain separator) rest) :
    readCell separator (w ++ rest) = .ok (cell, rest) := by
  have hq := head_ne_quote hs h
  cases hw with
  | quoted =>
      have hread := quotedFrom_doubled cell hq
      have hrest : plainCell separator ([] ++ rest) = ([], rest) :=
        plainCell_append (fun _ hc => absurd hc List.not_mem_nil) h
      rw [List.nil_append] at hrest
      simp [quoted, readCell, hread, hrest]
  | plain hp hh =>
      have hhead : (cell ++ rest).head? ≠ some quote := by
        cases cell with
        | nil => exact hq
        | cons c cell => simpa using hh
      simp only [readCell, if_neg hhead, plainCell_append hp h]

/-! ## Rows -/

/-- What may follow a row: nothing or a line break. -/
abbrev EndsRow (rest : Text) : Prop := Text.Stops (fun c => !isBreak c) rest

theorem EndsRow.stops {rest : Text} (h : EndsRow rest) : Text.Stops (isPlain separator) rest := by
  intro c hc
  have hb : (!isBreak c) = false := h c hc
  simp [isPlain, hb]

theorem endsRow_lineBreak {b t : Text} (hb : b ∈ lineBreaks) : EndsRow (b ++ t) := by
  simp only [lineBreaks, List.mem_cons, List.not_mem_nil, or_false] at hb
  rcases hb with rfl | rfl | rfl <;> exact Text.stops_cons.mpr (by decide)

/-- There is a separator between any two cells. -/
theorem CellsText.length_le {cells : List Text} {w : Text} (h : CellsText separator cells w) :
    cells.length ≤ w.length + 1 := by
  induction h with
  | last _ => simp
  | cons _ _ ih =>
      simp only [List.length_cons, List.length_append]
      omega

/-- A row does not start with a line break, since none of its cells is plain and has one. -/
theorem CellsText.head_not_break (hs : IsSeparator separator) {cells : List Text} {w : Text}
    (h : CellsText separator cells w) : ∀ c ∈ w.head?, isBreak c = false := by
  have hcell : ∀ {cell w : Text}, CellText separator cell w → ∀ c ∈ w.head?, isBreak c = false := by
    intro cell w hw c hc
    cases hw with
    | quoted =>
        obtain rfl := Option.some.inj hc
        exact isBreak_quote
    | plain hp _ =>
        have hplain := hp c (List.mem_of_mem_head? hc)
        simp only [isPlain, Bool.and_eq_true, Bool.not_eq_true'] at hplain
        exact hplain.1
  cases h with
  | last hw => exact hcell hw
  | @cons cell w cells rest hw _ =>
      intro c hc
      cases w with
      | nil =>
          obtain rfl := Option.some.inj hc
          exact hs.1
      | cons d w => exact hcell hw c hc

/-- **The cells of a row are read back**, with fuel for each of them. -/
theorem readCells_cellsText (hs : IsSeparator separator) {cells : List Text} {w : Text}
    (hw : CellsText separator cells w) {rest : Text} (h : EndsRow rest) :
    ∀ {fuel : Nat}, cells.length ≤ fuel → readCells separator fuel (w ++ rest) = .ok (cells, rest) := by
  induction hw with
  | @last cell w hcell =>
      intro fuel hf
      obtain ⟨fuel, rfl⟩ : ∃ n, fuel = n + 1 := ⟨fuel - 1, by simp at hf; omega⟩
      have hread := readCell_cellText hs hcell h.stops
      cases rest with
      | nil =>
          rw [List.append_nil] at hread ⊢
          simp [readCells, hread, pure, Except.pure, bind, Except.bind]
      | cons c rest =>
          -- What ends a row is a line break, and the separator is none.
          have hc : c ≠ separator := by
            rintro rfl
            have hb := Text.stops_cons.mp h
            rw [hs.1] at hb
            exact absurd hb (by decide)
          simp [readCells, hread, hc, pure, Except.pure, bind, Except.bind]
  | @cons cell w cells tail hcell _ ih =>
      intro fuel hf
      obtain ⟨fuel, rfl⟩ : ∃ n, fuel = n + 1 := ⟨fuel - 1, by simp at hf; omega⟩
      have hread : readCell separator (w ++ separator :: (tail ++ rest))
          = .ok (cell, separator :: (tail ++ rest)) :=
        readCell_cellText hs hcell (stops_separator _)
      have hmore : readCells separator fuel (tail ++ rest) = .ok (_, rest) := ih (by simpa using hf)
      rw [List.append_assoc, List.cons_append]
      simp [readCells, hread, hmore, pure, Except.pure, bind, Except.bind]

/-! ## Tables -/

/-- A line feed as an empty line. -/
theorem TableText.lineFeed {rows : List (List Text)} {t : Text} (h : TableText separator rows t) :
    TableText separator rows (CodePoint.lineFeed :: t) :=
  .emptyLine (b := [CodePoint.lineFeed]) (by simp [lineBreaks]) h

/-- A text that writes rows and starts with a line feed has an empty line there. -/
theorem TableText.of_lineFeed (hs : IsSeparator separator) {rows : List (List Text)} {t u : Text}
    (h : TableText separator rows t) (ht : t = CodePoint.lineFeed :: u) :
    TableText separator rows u := by
  -- No row starts with a line break, so the line feed is an empty line.
  have hrow : ∀ {row : List Text} {w v : Text}, RowText separator row w →
      w ++ v ≠ CodePoint.lineFeed :: u := by
    rintro row w v ⟨hw, hne⟩ he
    cases w with
    | nil => exact hne rfl
    | cons c w =>
        have hc : c = CodePoint.lineFeed := (List.cons.inj he).1
        have hb := hw.head_not_break hs c rfl
        rw [hc] at hb
        exact absurd hb (by decide)
  cases h with
  | nil => cases ht
  | emptyLine hb h =>
      simp only [lineBreaks, List.mem_cons, List.not_mem_nil, or_false] at hb
      rcases hb with rfl | rfl | rfl
      · exact (List.cons.inj ht).2 ▸ h
      · exact absurd (List.cons.inj ht).1 (by decide)
      · exact absurd (List.cons.inj ht).1 (by decide)
  | last hw =>
      have hne := hrow (v := []) hw
      rw [List.append_nil] at hne
      exact absurd ht hne
  | row hw _ _ => exact absurd ht (hrow hw)

/-- What is left after the line break that ends a row still writes the rows that follow. -/
theorem tableText_afterBreak (hs : IsSeparator separator) {rows : List (List Text)} {b t : Text}
    (hb : b ∈ lineBreaks) (h : TableText separator rows t) :
    TableText separator rows (afterBreak (b ++ t)) := by
  simp only [lineBreaks, List.mem_cons, List.not_mem_nil, or_false] at hb
  rcases hb with rfl | rfl | rfl
  · exact h
  · exact h
  · cases t with
    | nil => exact h
    | cons c t =>
        by_cases hc : c = CodePoint.lineFeed
        · subst hc
          exact h.of_lineFeed hs rfl
        · have hkeep : afterBreak ([CodePoint.carriageReturn] ++ c :: t) = c :: t := by
            simp [afterBreak, hc]
          rw [hkeep]
          exact h

theorem length_afterBreak_le (t : Text) : (afterBreak t).length ≤ t.length := by
  cases t with
  | nil => exact Nat.le_refl _
  | cons c t =>
      simp only [afterBreak, List.length_cons]
      split
      · rw [List.length_drop]; omega
      · omega

/-- An empty line costs one step for each of its code points and gives no row. -/
theorem readFrom_break (separator : CodePoint) {c : CodePoint} (hc : isBreak c = true)
    (total fuel line : Nat) (t : Text) :
    ∃ next, readFrom separator total (fuel + 1) line (c :: t)
      = readFrom separator total fuel next t := by
  simp only [readFrom, if_pos hc]
  exact ⟨_, rfl⟩

/-- A row costs one step, whatever follows it. -/
theorem readFrom_row (hs : IsSeparator separator) {row : List Text} {w rest : Text}
    (hw : RowText separator row w) (h : EndsRow rest) (total fuel line : Nat) :
    ∃ next offset, readFrom separator total (fuel + 1) line (w ++ rest)
      = (readFrom separator total fuel next (afterBreak rest)).map (⟨row, offset, line⟩ :: ·) := by
  obtain ⟨hcells, hne⟩ := hw
  obtain ⟨c, w', rfl⟩ := List.exists_cons_of_ne_nil hne
  have hc : isBreak c = false := hcells.head_not_break hs c rfl
  have hfuel : row.length ≤ (w' ++ rest).length + 2 := by
    have := hcells.length_le
    simp only [List.length_cons, List.length_append] at this ⊢
    omega
  have hread : readCells separator ((w' ++ rest).length + 2) (c :: (w' ++ rest)) = .ok (row, rest) :=
    readCells_cellsText hs hcells h hfuel
  rw [List.cons_append]
  simp only [readFrom, hc, Bool.false_eq_true, if_false, hread]
  exact ⟨_, _, rfl⟩

/-- The run over a whole text, by induction on its fuel: every step takes a code point. -/
theorem readFrom_tableText (hs : IsSeparator separator) (total : Nat) :
    ∀ (fuel line : Nat) {rows : List (List Text)} {t : Text}, TableText separator rows t →
      t.length < fuel →
      ∃ found, readFrom separator total fuel line t = .ok found ∧ found.map Row.cells = rows := by
  intro fuel
  induction fuel with
  | zero => intro line rows t _ hf; exact absurd hf (Nat.not_lt_zero _)
  | succ fuel ih =>
      intro line rows t h hf
      cases h with
      | nil => exact ⟨[], rfl, rfl⟩
      | @emptyLine _ b t hb h =>
          have hpos : 0 < fuel := by
            simp only [lineBreaks, List.mem_cons, List.not_mem_nil, or_false] at hb
            rcases hb with rfl | rfl | rfl <;> simp at hf <;> omega
          simp only [lineBreaks, List.mem_cons, List.not_mem_nil, or_false] at hb
          rcases hb with rfl | rfl | rfl
          · obtain ⟨next, hstep⟩ := readFrom_break separator isBreak_lineFeed total fuel line t
            rw [List.singleton_append, hstep]
            exact ih next h (by simpa using hf)
          · -- the two code points are two steps; the second is an empty line of its own
            obtain ⟨next, hstep⟩ := readFrom_break separator isBreak_carriageReturn total fuel line
              (CodePoint.lineFeed :: t)
            rw [show [CodePoint.carriageReturn, CodePoint.lineFeed] ++ t
              = CodePoint.carriageReturn :: CodePoint.lineFeed :: t from rfl, hstep]
            exact ih next h.lineFeed (by simpa using hf)
          · obtain ⟨next, hstep⟩ := readFrom_break separator isBreak_carriageReturn total fuel line t
            rw [List.singleton_append, hstep]
            exact ih next h (by simpa using hf)
      | @last row _ hw =>
          -- One more step is left, which finds the end of the text.
          obtain ⟨next, offset, hstep⟩ := readFrom_row hs hw Text.stops_nil total fuel line
          rw [List.append_nil] at hstep
          have hpos : ([] : Text).length < fuel := by
            have : 0 < t.length := List.length_pos_iff.mpr hw.2
            simp only [List.length_nil]
            omega
          obtain ⟨found, hfound, hmap⟩ := ih next TableText.nil hpos
          rw [hstep, show afterBreak [] = [] from rfl, hfound]
          exact ⟨⟨row, offset, line⟩ :: found, rfl, by simp [hmap]⟩
      | @row row w b t rows hw hb h =>
          -- What is left after the break may be shorter than `t`: a line feed after a carriage return is
          -- taken with it, though `t` has it as an empty line.
          obtain ⟨next, offset, hstep⟩ := readFrom_row hs hw (endsRow_lineBreak (t := t) hb)
            total fuel line
          have hlen : (afterBreak (b ++ t)).length < fuel := by
            have hle := length_afterBreak_le (b ++ t)
            have : 0 < w.length := List.length_pos_iff.mpr hw.2
            simp only [List.length_append] at hf hle ⊢
            omega
          obtain ⟨found, hfound, hmap⟩ := ih next (tableText_afterBreak hs hb h) hlen
          rw [hstep, hfound]
          exact ⟨⟨row, offset, line⟩ :: found, rfl, by simp [hmap]⟩

/-- **Reading undoes writing.** For both kinds of tables, every text that writes some rows is read, and
the rows that are read have exactly these cells. -/
theorem read_of_tableText {rows : List (List Text)} {t : Text}
    (hs : separator ∈ [Format.comma, Format.tab]) (h : TableText separator rows t) :
    ∃ found, Row.read separator t = .ok found ∧ found.map Row.cells = rows :=
  readFrom_tableText (isSeparator_of_mem hs) t.length (t.length + 1) 1 h (Nat.lt_succ_self _)

/-- A table in which nothing is plain sailing: an empty line first, a separator and a quote between
quotes, an empty last cell, a line break between quotes, and no break after the last row. -/
theorem read_quoted_table :
    Format.comma ∈ [Format.comma, Format.tab] ∧
      TableText Format.comma [["a,\"b", ""], ["x\ny"]] "\n\"a,\"\"b\",\r\n\"x\ny\"" ∧
      ∃ found, Row.read Format.comma "\n\"a,\"\"b\",\r\n\"x\ny\"" = .ok found ∧
        found.map Row.cells = ([["a,\"b", ""], ["x\ny"]] : List (List Text)) := by
  have hcomma : Format.comma ∈ [Format.comma, Format.tab] := by simp
  have hempty : CellText Format.comma "" "" := .plain (by intro c hc; cases hc) (by decide)
  have hfirst : RowText Format.comma ["a,\"b", ""] "\"a,\"\"b\"," :=
    ⟨.cons (.quoted "a,\"b") (.last hempty), by decide⟩
  have hsecond : RowText Format.comma ["x\ny"] "\"x\ny\"" := ⟨.last (.quoted "x\ny"), by decide⟩
  have hrows : TableText Format.comma [["a,\"b", ""], ["x\ny"]]
      "\"a,\"\"b\",\r\n\"x\ny\"" :=
    .row (b := ['\r', '\n']) hfirst (by decide) (.last hsecond)
  have htable : TableText Format.comma [["a,\"b", ""], ["x\ny"]]
      "\n\"a,\"\"b\",\r\n\"x\ny\"" :=
    .emptyLine (b := ['\n']) (by decide) hrows
  exact ⟨hcomma, htable, read_of_tableText hcomma htable⟩

end Phrasebook.Files.Row
