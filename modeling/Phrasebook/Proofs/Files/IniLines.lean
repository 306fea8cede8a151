import Phrasebook.Files.Ini
import Phrasebook.Proofs.Files.Lines

/-!
# Lines of ini files

`LineText l w` is the grammar of lines: `w` is a text of the line `l`, which says nothing, begins a section
or gives a key its value. `lineOf?` reads a line by cutting it up, and `lineOf?_eq_some_iff` says that this
finds exactly what the grammar says. No text is a text of two lines, since the classes of code points that
follow each other in a line are apart.
-/

namespace Phrasebook.Files.Ini

open Cursor (isInlineBlank isBreak)
open Text (EndsLine Stops stops_dropWhile)

/-! ## The grammar of lines -/

/-- The star, or a name. -/
inductive IsKey : Text → Prop
  | star : IsKey "*"
  | name {c : CodePoint} {t : Text} :
      startsKey c = true → (∀ x ∈ t, continuesKey x = true) → IsKey (c :: t)

/-- **`LineText l w`**: `w` is a text of the line `l`. The value of a key starts with the first code point
that is no blank, and the white space at the end of the line does not belong to it. -/
inductive LineText : Line → Text → Prop
  | blank {lead : Text} : AreBlanks lead → LineText .idle lead
  | comment {lead t : Text} : AreBlanks lead → LineText .idle (lead ++ CodePoint.ofChar ';' :: t)
  | header {lead name tail : Text} :
      AreBlanks lead → (∀ c ∈ name, Dialect.inSectionName c = true) →
      (∀ part ∈ sectionParts name, part ≠ []) → AreBlanks tail →
      LineText (.header (Text.join [Group.dot] (sectionParts name)))
        (lead ++ CodePoint.ofChar '[' :: (name ++ CodePoint.ofChar ']' :: tail))
  | item {lead key gap space value : Text} {separator : CodePoint} :
      AreBlanks lead → IsKey key → AreBlanks gap → dialect.isSeparator separator = true →
      AreBlanks space → Stops isInlineBlank value →
      LineText (.item key ⟨value.stripEnd, none⟩) (lead ++ (key ++ (gap ++ separator :: (space ++ value))))

/-! ## Reading a line -/

/-- A key and what stands after it. -/
def keyOf? : Text → Option (Text × Text)
  | [] => none
  | c :: t =>
    if c = CodePoint.ofChar '*' then some ("*", t)
    else if startsKey c then
      some ((c :: t).takeWhile continuesKey, (c :: t).dropWhile continuesKey)
    else none

/-- What a line says that starts with a key. -/
def itemOf? (t : Text) : Option Line :=
  (keyOf? t).bind fun (key, t) =>
    match t.dropWhile isInlineBlank with
    | [] => none
    | c :: t =>
      if dialect.isSeparator c then some (.item key ⟨Text.stripEnd (t.dropWhile isInlineBlank), none⟩)
      else none

/-- What a line says that starts with a bracket, from after the bracket on. -/
def headerOf? (t : Text) : Option Line :=
  let parts := sectionParts (t.takeWhile Dialect.inSectionName)
  match t.dropWhile Dialect.inSectionName with
  | [] => none
  | c :: tail =>
    if c = CodePoint.ofChar ']' ∧ [] ∉ parts ∧ tail.all isInlineBlank then
      some (.header (Text.join [Group.dot] parts))
    else none

/-- What a line says, if it is the text of a line. -/
def lineOf? (w : Text) : Option Line :=
  match w.dropWhile isInlineBlank with
  | [] => some .idle
  | c :: t =>
    if c = CodePoint.ofChar ';' then some .idle
    else if c = CodePoint.ofChar '[' then headerOf? t
    else itemOf? (c :: t)

/-! ## Code points apart -/

/-- A key ends where a separator stands, and so do blanks. -/
theorem separator_apart {c : CodePoint} (h : dialect.isSeparator c = true) :
    continuesKey c = false ∧ isInlineBlank c = false := by
  have hc : c = CodePoint.ofChar '=' ∨ c = CodePoint.ofChar ':' := by simpa [dialect] using h
  rcases hc with rfl | rfl
  · exact ⟨by decide +kernel, by decide⟩
  · exact ⟨by decide +kernel, by decide⟩

/-- What a key starts with starts neither a comment nor a header, and is no blank. -/
theorem starts_apart {c : CodePoint} (h : c = CodePoint.ofChar '*' ∨ startsKey c = true) :
    isInlineBlank c = false ∧ c ≠ CodePoint.ofChar ';' ∧ c ≠ CodePoint.ofChar '[' := by
  rcases h with rfl | hstarts
  · exact ⟨by decide, by decide, by decide⟩
  · refine ⟨?_, ?_, ?_⟩
    · rw [Bool.eq_false_iff]
      intro hblank
      have hno := not_continues_of_blank hblank
      rw [continues_of_starts hstarts] at hno
      cases hno
    · rintro rfl
      exact absurd hstarts (by decide +kernel)
    · rintro rfl
      exact absurd hstarts (by decide +kernel)

theorem star_not_starts : startsKey (CodePoint.ofChar '*') = false := by decide +kernel

/-! ## Reading a line finds its text -/

theorem keyOf?_sound {t key rest : Text} (h : keyOf? t = some (key, rest)) :
    IsKey key ∧ t = key ++ rest := by
  cases t with
  | nil => cases h
  | cons c t =>
      rw [keyOf?] at h
      split at h
      · next hstar =>
          obtain ⟨rfl, rfl⟩ := Prod.mk.inj (Option.some.inj h)
          rw [hstar]
          exact ⟨.star, rfl⟩
      · split at h
        · next hstarts =>
            obtain ⟨rfl, rfl⟩ := Prod.mk.inj (Option.some.inj h)
            refine ⟨?_, List.takeWhile_append_dropWhile.symm⟩
            rw [List.takeWhile_cons_of_pos (continues_of_starts hstarts)]
            exact .name hstarts fun x hx => List.mem_takeWhile_imp hx
        · cases h

theorem keyOf?_complete {key rest : Text} (h : IsKey key) (hrest : Stops continuesKey rest) :
    keyOf? (key ++ rest) = some (key, rest) := by
  cases h with
  | star => rfl
  | @name c t hc ht =>
      have hne : c ≠ CodePoint.ofChar '*' := by
        rintro rfl
        rw [star_not_starts] at hc
        cases hc
      have hall : ∀ x ∈ c :: t, continuesKey x = true := by
        intro x hx
        rcases List.mem_cons.mp hx with rfl | hx
        · exact continues_of_starts hc
        · exact ht x hx
      rw [List.cons_append, keyOf?, if_neg hne, if_pos hc, ← List.cons_append,
        Text.takeWhile_run hall hrest, Text.dropWhile_run hall hrest]

theorem itemOf?_sound {t lead : Text} {l : Line} (hlead : AreBlanks lead) (h : itemOf? t = some l) :
    LineText l (lead ++ t) := by
  obtain ⟨⟨key, rest⟩, hkey, hitem⟩ := Option.bind_eq_some_iff.mp h
  obtain ⟨hiskey, rfl⟩ := keyOf?_sound hkey
  dsimp only at hitem
  cases hrest : rest.dropWhile isInlineBlank with
  | nil =>
      rw [hrest] at hitem
      cases hitem
  | cons c value =>
      rw [hrest] at hitem
      dsimp only at hitem
      split at hitem
      · next hseparator =>
          obtain rfl := Option.some.inj hitem
          -- The blanks on both sides of the separator are those that were passed over.
          have hgap : rest = rest.takeWhile isInlineBlank ++ c :: value := by
            rw [← hrest, List.takeWhile_append_dropWhile]
          have hspace : value = value.takeWhile isInlineBlank ++ value.dropWhile isInlineBlank :=
            List.takeWhile_append_dropWhile.symm
          have hline := LineText.item hlead hiskey (areBlanks_takeWhile rest) hseparator
            (areBlanks_takeWhile value) (stops_dropWhile isInlineBlank value)
          rw [← hspace, ← hgap] at hline
          exact hline
      · cases hitem

theorem itemOf?_complete {key gap space value : Text} {separator : CodePoint} (hkey : IsKey key)
    (hgap : AreBlanks gap) (hseparator : dialect.isSeparator separator = true) (hspace : AreBlanks space)
    (hvalue : Stops isInlineBlank value) :
    itemOf? (key ++ (gap ++ separator :: (space ++ value))) 
      = some (.item key ⟨value.stripEnd, none⟩) := by
  obtain ⟨hkeyends, hgapends⟩ := separator_apart hseparator
  have hends : Stops continuesKey (gap ++ separator :: (space ++ value)) := by
    cases gap with
    | nil => exact Text.stops_cons.mpr hkeyends
    | cons c gap => exact Text.stops_cons.mpr (not_continues_of_blank (hgap c List.mem_cons_self))
  rw [itemOf?, keyOf?_complete hkey hends, Option.bind_some]
  dsimp only
  rw [Text.dropWhile_run hgap (Text.stops_cons.mpr hgapends)]
  dsimp only
  rw [if_pos hseparator, Text.dropWhile_run hspace hvalue]

theorem headerOf?_sound {t lead : Text} {l : Line} (hlead : AreBlanks lead)
    (h : headerOf? t = some l) : LineText l (lead ++ CodePoint.ofChar '[' :: t) := by
  unfold headerOf? at h
  dsimp only at h
  cases hrest : t.dropWhile Dialect.inSectionName with
  | nil =>
      rw [hrest] at h
      cases h
  | cons c tail =>
      rw [hrest] at h
      dsimp only at h
      split at h
      · next hall =>
          obtain ⟨rfl, hparts, htail⟩ := hall
          obtain rfl := Option.some.inj h
          -- The name, its bracket and the blanks after it are all there is of the line.
          have hname : t = t.takeWhile Dialect.inSectionName ++ CodePoint.ofChar ']' :: tail := by
            rw [← hrest, List.takeWhile_append_dropWhile]
          have hblanks : AreBlanks tail := List.all_eq_true.mp htail
          have hline := LineText.header hlead
            (fun c hc => List.mem_takeWhile_imp hc : ∀ c ∈ t.takeWhile Dialect.inSectionName, _)
            (fun part hpart hnil => hparts (hnil ▸ hpart)) hblanks
          rw [← hname] at hline
          exact hline
      · cases h

theorem headerOf?_complete {name tail : Text} (hname : ∀ c ∈ name, Dialect.inSectionName c = true)
    (hparts : ∀ part ∈ sectionParts name, part ≠ []) (htail : AreBlanks tail) :
    headerOf? (name ++ CodePoint.ofChar ']' :: tail)
      = some (.header (Text.join [Group.dot] (sectionParts name))) := by
  have hends : Stops Dialect.inSectionName (CodePoint.ofChar ']' :: tail) :=
    Text.stops_cons.mpr (by decide +kernel)
  rw [headerOf?, Text.takeWhile_run hname hends, Text.dropWhile_run hname hends]
  dsimp only
  rw [if_pos]
  exact ⟨rfl, fun hmem => hparts [] hmem rfl, List.all_eq_true.mpr htail⟩

/-- **A line says what it is a text of**, and nothing if it is a text of no line. -/
theorem lineOf?_eq_some_iff {w : Text} {l : Line} : lineOf? w = some l ↔ LineText l w := by
  constructor
  · intro h
    have hsplit : w = w.takeWhile isInlineBlank ++ w.dropWhile isInlineBlank :=
      List.takeWhile_append_dropWhile.symm
    have hlead := areBlanks_takeWhile w
    unfold lineOf? at h
    cases hrest : w.dropWhile isInlineBlank with
    | nil =>
        rw [hrest] at h
        obtain rfl := Option.some.inj h
        rw [hsplit, hrest, List.append_nil]
        exact .blank hlead
    | cons c t =>
        rw [hrest] at h hsplit
        rw [hsplit]
        dsimp only at h
        split at h
        · next hc =>
            obtain rfl := Option.some.inj h
            rw [hc]
            exact .comment hlead
        · split at h
          · next hc =>
              rw [hc]
              exact headerOf?_sound hlead h
          · exact itemOf?_sound hlead h
  · intro h
    cases h with
    | blank hlead =>
        have hrest := Text.dropWhile_run hlead Text.stops_nil
        rw [List.append_nil] at hrest
        rw [lineOf?, hrest]
    | comment hlead =>
        rw [lineOf?, Text.dropWhile_run hlead (Text.stops_cons.mpr (by decide))]
        rfl
    | header hlead hname hparts htail =>
        rw [lineOf?, Text.dropWhile_run hlead (Text.stops_cons.mpr (by decide))]
        exact headerOf?_complete hname hparts htail
    | @item lead key gap space value separator hlead hkey hgap hseparator hspace hvalue =>
        have hitem := itemOf?_complete hkey hgap hseparator hspace hvalue
        -- The line starts like its key.
        cases key with
        | nil => cases hkey
        | cons c key =>
            have hc : c = CodePoint.ofChar '*' ∨ startsKey c = true := by
              cases hkey with
              | star => exact .inl rfl
              | name hc _ => exact .inr hc
            obtain ⟨hblank, hcomment, hheader⟩ := starts_apart hc
            rw [List.cons_append] at hitem ⊢
            rw [lineOf?, Text.dropWhile_run hlead (Text.stops_cons.mpr hblank)]
            dsimp only
            rw [if_neg hcomment, if_neg hheader, hitem]

end Phrasebook.Files.Ini
