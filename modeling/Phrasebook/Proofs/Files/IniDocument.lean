import Phrasebook.Proofs.Files.IniLines

/-!
# Ini files line by line

An ini file can be read one line at a time. `readByLine` goes through the lines in order, keeps what they
say, and stops at the number of the first line that is no text of any line, or that repeats a section or a
key.

The reader itself knows no lines. It moves a cursor, looks for line ends in several places and passes over
three kinds of line breaks. `readDocument_by_line` says that it accepts the same texts with the same
document, and that its error names the same line. What carries the proof is that every part of the reader,
started in a line, either fails in that line or stops before the break that ends it (`Gives`).
-/

namespace Phrasebook.Files.Ini

open Cursor (isInlineBlank isBreak)
open Text (EndsLine Stops)

/-! ## Line by line -/

/-- The document that the lines from number `n` on make, or the number of the first line that cannot be
read. -/
def readByLine (n : Nat) (sectionName : Text) (doc : Document) : List Text → Except Nat Document
  | [] => .ok doc
  | w :: rest =>
    match (lineOf? w).bind (follow? sectionName doc) with
    | none => .error n
    | some (sectionName, doc) => readByLine (n + 1) sectionName doc rest

/-! ## Readers in a line -/

variable {α β : Type} {n : Nat} {u : Text} {c : Cursor} {sectionName : Text} {doc : Document}

/-- **`Gives n u x a`**: a reader in line `n` gives `a` and stops before `u` in that line; where there is
no `a` it fails in that line. -/
def Gives (n : Nat) (u : Text) (x : Except TextError (α × Cursor)) : Option α → Prop
  | some a => ∃ c, x = .ok (a, c) ∧ c.rest = u ∧ c.line = n
  | none => ∃ e, x = .error e ∧ e.line = n

/-- No comment may follow on a line. -/
theorem finishLine_eq (c : Cursor) :
    dialect.finishLine c
      = if c.skipInlineBlanks.atLineEnd then .ok c.skipInlineBlanks
        else .error (Dialect.unexpected c.skipInlineBlanks) := rfl

/-- What is left on a line and is no blank is not accepted. -/
theorem finishLine_error {t : Text} (h : Stands n t u c) (hall : ¬t.all isInlineBlank = true) :
    ∃ e, dialect.finishLine c = .error e ∧ e.line = n := by
  have hskipped : Stands n (t.dropWhile isInlineBlank) u c.skipInlineBlanks := h.skipWhile blank_not_break
  have hend := hskipped.atLineEnd
  rw [isEmpty_dropWhile] at hend
  refine ⟨Dialect.unexpected c.skipInlineBlanks, ?_, hskipped.line⟩
  rw [finishLine_eq, if_neg (by rw [hend]; exact hall)]

/-! ## Headers -/

/-- **A header begins its section**, unless the section was there before. -/
theorem readHeader_gives (sectionName : Text) (doc : Document) {t : Text} (h : Stands n (CodePoint.ofChar '[' :: t) u c) :
    Gives n u (dialect.readHeader doc c) ((headerOf? t).bind (follow? sectionName doc)) := by
  have hsection := readSection_gives h
  unfold headerOf?
  dsimp only at hsection ⊢
  cases hrest : t.dropWhile Dialect.inSectionName with
  | nil =>
      rw [hrest] at hsection
      obtain ⟨e, he, hline⟩ := hsection
      rw [Dialect.readHeader, he]
      exact ⟨e, rfl, hline⟩
  | cons d tail =>
      rw [hrest] at hsection
      dsimp only at hsection ⊢
      generalize hname : Text.join [Group.dot] (sectionParts (t.takeWhile Dialect.inSectionName)) = name
        at hsection ⊢
      split at hsection
      · next hclosed =>
          -- The name is closed. If there is a section of that name already, what follows it is not looked at.
          obtain ⟨c', hread, htail⟩ := hsection
          rw [Dialect.readHeader, hread]
          show Gives n u (if name.fold ∈ doc.sections.map Text.fold then _ else _) _
          by_cases hseen : name.fold ∈ doc.sections.map Text.fold
          · rw [if_pos hseen]
            split
            · rw [Option.bind_some, follow?, if_pos hseen]
              exact ⟨_, rfl, h.line⟩
            · exact ⟨_, rfl, h.line⟩
          · rw [if_neg hseen]
            by_cases hall : tail.all isInlineBlank = true
            · obtain ⟨after, hafter, hu, hline⟩ := htail.finishLine dialect (by decide) hall
              rw [hafter, if_pos ⟨hclosed.1, hclosed.2, hall⟩, Option.bind_some, follow?, if_neg hseen]
              exact ⟨after, rfl, hu, hline⟩
            · obtain ⟨e, he, hline⟩ := finishLine_error htail hall
              rw [he, if_neg fun hboth => hall hboth.2.2]
              exact ⟨e, rfl, hline⟩
      · next hopen =>
          -- There is no bracket after the name, or a part of the name is empty.
          obtain ⟨e, he, hline⟩ := hsection
          rw [Dialect.readHeader, he, if_neg fun hboth => hopen ⟨hboth.1, hboth.2.1⟩]
          exact ⟨e, rfl, hline⟩

/-! ## Keys and values -/

/-- What stands next after the end of a line starts no key. -/
theorem not_starts (h : Stands n [] u c) : c.rest.head?.any startsKey = false := by
  rw [h.rest, List.nil_append]
  cases u with
  | nil => rfl
  | cons x u =>
      have hx : isBreak x = true := by simpa using Text.stops_cons.mp h.ends
      rw [List.head?_cons, Option.any_some, Bool.eq_false_iff]
      intro hstarts
      rw [continues_not_break x (continues_of_starts hstarts)] at hx
      cases hx

theorem readKey_ok {t key rest : Text} (h : Stands n t u c) (hkey : keyOf? t = some (key, rest)) :
    ∃ c', Ini.readKey c = .ok ([key], c') ∧ Stands n rest u c' := by
  cases t with
  | nil => cases hkey
  | cons x t =>
      rw [Ini.readKey, h.isAt_cons, h.head_cons, Option.any_some]
      rw [keyOf?] at hkey
      split at hkey
      · next hstar =>
          obtain ⟨rfl, rfl⟩ := Prod.mk.inj (Option.some.inj hkey)
          rw [if_pos (decide_eq_true hstar)]
          exact ⟨c.next, rfl, h.next⟩
      · next hstar =>
          split at hkey
          · next hstarts =>
              obtain ⟨rfl, rfl⟩ := Prod.mk.inj (Option.some.inj hkey)
              refine ⟨c.skipWhile continuesKey, ?_, h.skipWhile continues_not_break⟩
              have htext := h.textTo continues_not_break
              rw [if_neg (by simpa using hstar), hstarts]
              show Except.ok ([c.textTo (c.skipWhile continuesKey)], c.skipWhile continuesKey) = _
              rw [htext]
          · cases hkey

theorem readKey_error {t : Text} (h : Stands n t u c) (hkey : keyOf? t = none) :
    ∃ e, Ini.readKey c = .error e ∧ e.line = n := by
  refine ⟨Dialect.unexpected c, ?_, h.line⟩
  cases t with
  | nil =>
      rw [Ini.readKey, h.isAt_nil (by decide), not_starts h]
      rfl
  | cons x t =>
      rw [keyOf?] at hkey
      split at hkey
      · cases hkey
      · next hstar =>
          split at hkey
          · cases hkey
          · next hstarts =>
              rw [Ini.readKey, h.isAt_cons, h.head_cons, Option.any_some, if_neg (by simpa using hstar),
                Bool.eq_false_iff.mpr hstarts]
              rfl

/-- The value is the rest of the line. -/
theorem readValue_ok {t : Text} (h : Stands n t u c) :
    ∃ c', Ini.readValue c = .ok (⟨t.stripEnd, none⟩, c') ∧ Stands n [] u c' := by
  have hline : ∀ x, (!isBreak x) = true → isBreak x = false := fun x hx => by simpa using hx
  have hall : ∀ x ∈ t, (!isBreak x) = true := fun x hx => by rw [h.inLine x hx]; rfl
  have hstop := h.skipWhile hline
  rw [List.dropWhile_eq_nil_iff.mpr hall] at hstop
  have hvalue : c.textTo c.toLineEnd = t := by
    rw [Cursor.toLineEnd, h.textTo hline]
    exact List.takeWhile_eq_self_iff.mpr hall
  refine ⟨c.toLineEnd, ?_, hstop⟩
  rw [Ini.readValue, hvalue]

/-- **A key gets its value**, unless it has one in its section. -/
theorem readItem_gives (sectionName : Text) (doc : Document) {t : Text} (h : Stands n t u c) :
    Gives n u (dialect.readItem sectionName doc c)
      (((itemOf? t).bind (follow? sectionName doc)).map Prod.snd) := by
  unfold itemOf? Dialect.readItem
  cases hkeyof : keyOf? t with
  | none =>
      obtain ⟨e, he, hline⟩ := readKey_error h hkeyof
      refine ⟨e, ?_, hline⟩
      show (Ini.readKey c >>= _) = _
      rw [he]
      rfl
  | some found =>
      obtain ⟨key, rest⟩ := found
      obtain ⟨c₁, hread, hrest⟩ := readKey_ok h hkeyof
      -- From here on, each step of the reader stands in the same line, with what the view of the line has left.
      have hgap : Stands n (rest.dropWhile isInlineBlank) u c₁.skipInlineBlanks :=
        hrest.skipWhile blank_not_break
      have hend := hgap.atLineEnd
      show Gives n u (Ini.readKey c >>= _) _
      rw [hread, Option.bind_some]
      show Gives n u (if _ then _ else _) _
      dsimp only
      rw [groupOf_single, hend]
      cases hsep : rest.dropWhile isInlineBlank with
      | nil => exact ⟨_, rfl, hgap.line⟩
      | cons d t =>
          rw [hsep] at hgap
          rw [hgap.head_cons, Option.any_some]
          dsimp only
          cases hd : dialect.isSeparator d with
          | false => exact ⟨_, rfl, hgap.line⟩
          | true =>
              have hvalue : Stands n (t.dropWhile isInlineBlank) u
                  c₁.skipInlineBlanks.next.skipInlineBlanks := hgap.next.skipWhile blank_not_break
              show Gives n u (if (sectionName.fold, key.fold) ∈ doc.items.map Item.identity then _ else _)
                (Option.map Prod.snd (follow? sectionName doc (.item key _)))
              rw [follow?]
              split
              · exact ⟨_, rfl, h.line⟩
              · obtain ⟨c₂, hwritten, hstop⟩ := readValue_ok hvalue
                -- The value takes the rest of the line, so that nothing is left behind it.
                obtain ⟨c₃, hfinish, hu, hline⟩ := hstop.finishLine dialect (by decide) rfl
                refine ⟨c₃, ?_, hu, hline⟩
                show (Ini.readValue _ >>= _) = _
                rw [hwritten]
                show (dialect.finishLine c₂ >>= _) = _
                rw [hfinish]
                rfl

/-- A line that starts with a key gives the key a value. -/
theorem item_of_itemOf? {t : Text} {l : Line} (h : itemOf? t = some l) :
    ∃ key value, l = .item key value := by
  obtain ⟨⟨key, rest⟩, -, hitem⟩ := Option.bind_eq_some_iff.mp h
  dsimp only at hitem
  split at hitem
  · cases hitem
  · split at hitem
    · exact ⟨key, _, (Option.some.inj hitem).symm⟩
    · cases hitem

/-! ## Documents -/

/-- A line break that a line ends with leads to the next line, and takes no line of its own. -/
theorem readByLine_lines (h : EndsLine u) :
    readByLine n sectionName doc (Text.lines u)
      = readByLine (n + 1) sectionName doc (Text.lines u).tail := by
  rw [Text.lines_of_endsLine h, readByLine]
  rfl

/-- What is done after a reader in a line is done with what it gives. -/
theorem mapError_of_gives {x : Except TextError (α × Cursor)} {a : Option α} (h : Gives n u x a)
    (f : α × Cursor → Except TextError β) (g : α → Except Nat β)
    (hf : ∀ a c, c.rest = u → c.line = n → (f (a, c)).mapError TextError.line = g a) :
    (x >>= f).mapError TextError.line = a.elim (.error n) g := by
  cases a with
  | none =>
      obtain ⟨e, rfl, hline⟩ := h
      exact congrArg Except.error hline
  | some a =>
      obtain ⟨c, rfl, hu, hline⟩ := h
      exact hf a c hu hline

/-- **`Agrees fuel`**: with a step for every code point, the reader does with the lines that are left what
is done with them one by one. -/
def Agrees (fuel : Nat) : Prop :=
  ∀ (sectionName : Text) (doc : Document) (c : Cursor), c.rest.length < fuel →
    (dialect.readLines fuel sectionName doc c).mapError TextError.line
      = readByLine c.line sectionName doc (Text.lines c.rest)

variable {fuel : Nat}

/-- After a line that is left with its break, the next line is read. -/
theorem Agrees.goOn (h : Agrees fuel) (hu : EndsLine u) (hfuel : u.length < fuel) (sectionName : Text)
    (doc : Document) (c : Cursor) (hrest : c.rest = u) (hline : c.line = n) :
    (dialect.readLines fuel sectionName doc c).mapError TextError.line
      = readByLine (n + 1) sectionName doc (Text.lines u).tail := by
  rw [h sectionName doc c (by rw [hrest]; exact hfuel), hrest, hline, readByLine_lines hu]

/-- After a line break the next line is read, and after the end of the text nothing. -/
theorem Agrees.afterBreak (h : Agrees fuel) (hc : Stands n [] u c) (hpos : 0 < fuel)
    (hfuel : u.length ≤ fuel) (sectionName : Text) (doc : Document) :
    (dialect.readLines fuel sectionName doc c.skipLineBreak).mapError TextError.line
      = readByLine (n + 1) sectionName doc (Text.lines u).tail := by
  cases u with
  | nil =>
      have hnil : c.rest = [] := hc.rest
      rw [Cursor.skipLineBreak_of_nil hnil]
      exact h.goOn hc.ends hpos sectionName doc c hnil hc.line
  | cons x u =>
      have hx : isBreak x = true := by simpa using Text.stops_cons.mp hc.ends
      obtain ⟨hshort, hbreak, hline⟩ := Cursor.lines_skipLineBreak hc.rest hx
      have hlines : Text.lines c.skipLineBreak.rest = (Text.lines (x :: u)).tail := by
        rw [← List.nil_append (x :: u), ← hc.rest, hbreak]
        rfl
      have hleft : c.skipLineBreak.rest.length < fuel := by
        rw [hc.rest, List.nil_append] at hshort
        omega
      rw [h sectionName doc _ hleft, hline, hc.line, hlines]

/-- **A line that says something is read as that**, and what is left of it is its break. -/
theorem Agrees.said {d : CodePoint} {t : Text} (h : Agrees fuel) (hc : Stands n (d :: t) u c)
    (hfuel : u.length < fuel) (sectionName : Text) (doc : Document) :
    (if c.isAt dialect.comment then dialect.readLines fuel sectionName doc c.toLineEnd
      else if c.isAt (CodePoint.ofChar '[') then do
        let ((name, doc), c) ← dialect.readHeader doc c
        dialect.readLines fuel name doc c
      else do
        let (doc, c) ← dialect.readItem sectionName doc c
        dialect.readLines fuel sectionName doc c).mapError TextError.line
      = ((if d = CodePoint.ofChar ';' then some .idle
          else if d = CodePoint.ofChar '[' then headerOf? t
          else itemOf? (d :: t)).bind (follow? sectionName doc)).elim (.error n)
        fun (sectionName, doc) => readByLine (n + 1) sectionName doc (Text.lines u).tail := by
  have hnext := h.goOn (n := n) hc.ends hfuel
  have hcommentAt : c.isAt dialect.comment = decide (d = CodePoint.ofChar ';') := hc.isAt_cons _
  rw [hcommentAt, hc.isAt_cons]
  by_cases hcomment : d = CodePoint.ofChar ';'
  · -- Nothing of the line is left after a comment.
    have hskip := hc.skipWhile (p := fun x => !isBreak x) fun x hx => by simpa using hx
    have hnil : (d :: t).dropWhile (fun x => !isBreak x) = [] :=
      List.dropWhile_eq_nil_iff.mpr fun x hx => by rw [hc.inLine x hx]; rfl
    rw [hnil] at hskip
    rw [if_pos hcomment, if_pos (decide_eq_true hcomment)]
    exact hnext sectionName doc c.toLineEnd hskip.rest hskip.line
  · rw [if_neg hcomment, if_neg (by simpa using hcomment)]
    by_cases hheader : d = CodePoint.ofChar '['
    · rw [if_pos hheader, if_pos (decide_eq_true hheader)]
      rw [hheader] at hc
      exact mapError_of_gives (readHeader_gives sectionName doc hc)
        (fun ((name, doc), c) => dialect.readLines fuel name doc c) _
        fun (name, doc) c => hnext name doc c
    · rw [if_neg hheader, if_neg (by simpa using hheader)]
      refine (mapError_of_gives (readItem_gives sectionName doc hc)
        (fun (doc, c) => dialect.readLines fuel sectionName doc c)
        (fun doc => readByLine (n + 1) sectionName doc (Text.lines u).tail)
        fun doc c => hnext sectionName doc c).trans ?_
      -- An item leaves its section as it is.
      cases hitem : itemOf? (d :: t) with
      | none => rfl
      | some l =>
          obtain ⟨key, value, rfl⟩ := item_of_itemOf? hitem
          rw [Option.bind_some, follow?]
          split <;> rfl

theorem Agrees.succ (h : Agrees fuel) : Agrees (fuel + 1) := by
  intro sectionName doc c hfuel
  obtain ⟨w, u, hrest, hw, hu⟩ := Text.exists_line c.rest
  have hline : Stands c.line w u c := ⟨hrest, rfl, hw, hu⟩
  have hskipped : Stands c.line (w.dropWhile isInlineBlank) u c.skipInlineBlanks :=
    hline.skipWhile blank_not_break
  have hlength : w.length + u.length < fuel + 1 := by
    rw [← List.length_append, ← hrest]
    exact hfuel
  rw [Dialect.readLines, hrest, Text.lines_append hw hu, readByLine]
  dsimp only
  -- Only at the end of the document is there neither a line nor what follows one.
  by_cases hend : c.atEnd = true
  · have hnil : w ++ u = [] := hrest ▸ List.isEmpty_iff.mp hend
    obtain ⟨rfl, rfl⟩ := List.append_eq_nil_iff.mp hnil
    rw [if_pos hend]
    rfl
  have hsome : 0 < w.length + u.length := by
    rw [← List.length_append, ← hrest, List.length_pos_iff]
    exact fun hnil => hend (List.isEmpty_iff.mpr hnil)
  rw [if_neg hend, hskipped.atLineEnd, lineOf?]
  cases hv : w.dropWhile isInlineBlank with
  | nil =>
      rw [hv] at hskipped
      exact h.afterBreak hskipped (by omega) (by omega) sectionName doc
  | cons d t =>
      rw [hv] at hskipped
      have hne : 0 < w.length := by
        have hle := (List.dropWhile_suffix (l := w) isInlineBlank).length_le
        rw [hv, List.length_cons] at hle
        omega
      refine (h.said hskipped (by omega) sectionName doc).trans ?_
      generalize Option.bind _ _ = followed
      cases followed <;> rfl

theorem agrees (fuel : Nat) : Agrees fuel := by
  induction fuel with
  | zero => exact fun _ _ _ h => absurd h (Nat.not_lt_zero _)
  | succ fuel ih => exact ih.succ

/-- **An ini file is read as its lines are.** A line says what the grammar of lines says it is a text of; the
document holds what the lines say, in order; and where a line is no text of any line, or repeats a section
or a key, the error is on that line. -/
theorem readDocument_by_line (t : Text) :
    (∀ w l, lineOf? w = some l ↔ LineText l w)
      ∧ (dialect.readDocument t).mapError TextError.line
        = readByLine 1 [] ⟨[], []⟩ (Text.lines t) :=
  ⟨fun _ _ => lineOf?_eq_some_iff, agrees (t.length + 1) [] ⟨[], []⟩ (.start t) (Nat.lt_succ_self t.length)⟩

end Phrasebook.Files.Ini
