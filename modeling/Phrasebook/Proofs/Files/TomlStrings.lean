import Phrasebook.Files.Toml
import Phrasebook.Proofs.Text.Escape
import Phrasebook.Proofs.Text.Lines

/-!
# Strings of toml files

A string can be written in four forms (`Form`), not each string in each form (`Form.Fits`). `readValue_write`
says that what was written is read back: the decoded value is the string, and the cursor stands right after
the closing delimiter.

For each of the four lexers the argument is the same. Up to the closing delimiter there are only code points
that the lexer passes over, one by one or as a pair of a backslash and what it protects.
-/

namespace Phrasebook.Files.Toml

open Cursor (isBreak isInlineBlank)
open Text (EndsLine Stops IsEscape escapedBy escapedBy_plain escapedBy_pair)

/-! ## Writing strings -/

/-- What stands after a backslash for a code point that a quoted string on one line cannot hold. -/
def lineEscape? (c : CodePoint) : Option CodePoint :=
  if c = backslash ∨ c = doubleQuote then some c
  else if c = CodePoint.lineFeed then some 'n'
  else if c = CodePoint.carriageReturn then some 'r'
  else none

/-- What stands after a backslash for a code point that a quoted string over several lines cannot hold. -/
def blockEscape? (c : CodePoint) : Option CodePoint :=
  if c = backslash ∨ c = doubleQuote then some c else none

/-- The ways to write a string. -/
inductive Form where
  /-- On one line, with escapes. -/
  | basic
  /-- On one line, as it is. -/
  | literal
  /-- Over several lines, with escapes. -/
  | basicBlock
  /-- Over several lines, as it is. -/
  | literalBlock
deriving DecidableEq

namespace Form

/-- The quote that the delimiters are made of. -/
def quote : Form → CodePoint
  | basic | basicBlock => doubleQuote
  | literal | literalBlock => singleQuote

/-- What stands after the string. -/
def closing (f : Form) : Text :=
  match f with
  | basic | literal => [f.quote]
  | basicBlock | literalBlock => [f.quote, f.quote, f.quote]

/-- What stands before the string. The line feed does not belong to the string. -/
def opening (f : Form) : Text :=
  match f with
  | basic | literal => f.closing
  | basicBlock | literalBlock => f.closing ++ [CodePoint.lineFeed]

/-- What stands between the delimiters. -/
def content (f : Form) (s : Text) : Text :=
  match f with
  | basic => escapedBy lineEscape? s
  | basicBlock => escapedBy blockEscape? s
  | literal | literalBlock => s

/-- The string as it is written. -/
def write (f : Form) (s : Text) : Text := f.opening ++ (f.content s ++ f.closing)

/-- The strings that can be written in a form: all of them with escapes. -/
def Fits (f : Form) (s : Text) : Prop :=
  match f with
  | basic | basicBlock => True
  | literal => ∀ c ∈ s, c ≠ singleQuote ∧ isBreak c = false
  | literalBlock => ¬[singleQuote, singleQuote, singleQuote] <:+: s

instance (f : Form) (s : Text) : Decidable (f.Fits s) :=
  match f with
  | basic | basicBlock => .isTrue trivial
  | literal => inferInstanceAs (Decidable (∀ c ∈ s, c ≠ singleQuote ∧ isBreak c = false))
  | literalBlock => inferInstanceAs (Decidable ¬[singleQuote, singleQuote, singleQuote] <:+: s)

end Form

/-! ## Escapes -/

theorem isEscape_block : IsEscape blockEscape? where
  decodes := by
    intro c e h
    unfold blockEscape? at h
    split at h
    · next hc =>
        obtain rfl := Option.some.inj h
        rcases hc with rfl | rfl <;> rfl
    · cases h
  backslash := by decide

theorem isEscape_line : IsEscape lineEscape? where
  decodes := by
    intro c e h
    unfold lineEscape? at h
    split at h
    · next hc =>
        obtain rfl := Option.some.inj h
        rcases hc with rfl | rfl <;> rfl
    · split at h
      · next hc =>
          obtain rfl := Option.some.inj h
          rw [hc]
          rfl
      · split at h
        · next hc =>
            obtain rfl := Option.some.inj h
            rw [hc]
            rfl
        · cases h
  backslash := by decide

variable {f : CodePoint → Option CodePoint} {c e quote : CodePoint} {s u : Text}

theorem ne_quote_of_block (h : blockEscape? c = none) : c ≠ doubleQuote := by
  rintro rfl
  cases h

/-- What stands as it is on a line is neither a quote nor a line break. -/
theorem apart_of_line (h : lineEscape? c = none) : c ≠ doubleQuote ∧ isBreak c = false := by
  constructor
  · rintro rfl
    cases h
  · rw [Bool.eq_false_iff]
    intro hbreak
    have hcases : c = CodePoint.carriageReturn ∨ c = CodePoint.lineFeed := by
      simpa [isBreak] using hbreak
    rcases hcases with rfl | rfl <;> cases h

/-- What is written with escapes stays on its line. -/
theorem escaped_inLine (s : Text) : ∀ x ∈ escapedBy lineEscape? s, isBreak x = false := by
  induction s with
  | nil => exact fun x hx => nomatch hx
  | cons c s ih =>
      intro x hx
      cases hc : lineEscape? c with
      | none =>
          rw [escapedBy_plain hc] at hx
          rcases List.mem_cons.mp hx with rfl | hx
          · exact (apart_of_line hc).2
          · exact ih x hx
      | some e =>
          rw [escapedBy_pair hc] at hx
          rcases List.mem_cons.mp hx with rfl | hx
          · decide
          rcases List.mem_cons.mp hx with rfl | hx
          · exact (Text.mark_apart (isEscape_line.decodes hc)).1
          · exact ih x hx

/-! ## Where a string on one line ends -/

theorem stringLength_closing (escapes : Bool) (t : Text) :
    stringLength quote escapes 0 (quote :: t) = 0 := by
  simp [stringLength]

theorem stringLength_plain {escapes : Bool} (hquote : c ≠ quote) (hbreak : isBreak c = false)
    (hplain : (escapes && decide (c = backslash)) = false) (t : Text) :
    stringLength quote escapes 0 (c :: t) = stringLength quote escapes 0 t + 1 := by
  simp [stringLength, hquote, hbreak, hplain]

theorem stringLength_pair (hquote : backslash ≠ quote) (he : isBreak e = false) (t : Text) :
    stringLength quote true 0 (backslash :: e :: t) = stringLength quote true 0 t + 2 := by
  have hbackslash : isBreak backslash = false := by decide
  simp [stringLength, hquote, hbackslash, isLineEnd, he]

/-- A string with escapes ends at its closing quote. -/
theorem stringLength_escaped (s u : Text) :
    stringLength doubleQuote true 0 (escapedBy lineEscape? s ++ doubleQuote :: u)
      = (escapedBy lineEscape? s).length := by
  induction s with
  | nil => exact stringLength_closing true u
  | cons c s ih =>
      cases hc : lineEscape? c with
      | none =>
          obtain ⟨hquote, hbreak⟩ := apart_of_line hc
          have hplain : c ≠ backslash := isEscape_line.ne_backslash hc
          rw [escapedBy_plain hc, List.cons_append, stringLength_plain hquote hbreak (by simp [hplain]), ih,
            List.length_cons]
      | some e =>
          have he : isBreak e = false := (Text.mark_apart (isEscape_line.decodes hc)).1
          have hquote : backslash ≠ doubleQuote := by decide
          have hpair := stringLength_pair hquote he (escapedBy lineEscape? s ++ doubleQuote :: u)
          rw [escapedBy_pair hc, List.cons_append, List.cons_append, List.length_cons, List.length_cons, ← ih]
          exact hpair

/-- A string without escapes ends at its closing quote, if it holds no other. -/
theorem stringLength_literal (hs : ∀ c ∈ s, c ≠ quote ∧ isBreak c = false) (u : Text) :
    stringLength quote false 0 (s ++ quote :: u) = s.length := by
  induction s with
  | nil => exact stringLength_closing false u
  | cons c s ih =>
      obtain ⟨hquote, hbreak⟩ := hs c List.mem_cons_self
      have hrest := ih fun x hx => hs x (List.mem_cons_of_mem c hx)
      rw [List.cons_append, stringLength_plain hquote hbreak rfl, hrest, List.length_cons]

/-- A quoted key ends at its closing quote. -/
theorem quotedLength_escaped (s u : Text) :
    quotedLength 0 (escapedBy lineEscape? s ++ doubleQuote :: u) = (escapedBy lineEscape? s).length := by
  induction s with
  | nil => rfl
  | cons c s ih =>
      cases hc : lineEscape? c with
      | none =>
          obtain ⟨hquote, hbreak⟩ := apart_of_line hc
          have hplain : c ≠ backslash := isEscape_line.ne_backslash hc
          rw [escapedBy_plain hc, List.cons_append, quotedLength, if_neg (by simp [hquote, hbreak]),
            if_neg hplain, ih, List.length_cons]
      | some e =>
          rw [escapedBy_pair hc, List.cons_append, List.cons_append, List.length_cons, List.length_cons, ← ih]
          rfl

/-! ## Where a string over several lines ends -/

theorem isClosing_of_ne (h : c ≠ quote) (t : Text) : isClosing quote (c :: t) = false := by
  have hstart : Text.startsWith (c :: t) [quote, quote, quote] = false := by
    rw [Bool.eq_false_iff]
    intro hstart
    obtain ⟨rest, hrest⟩ := Text.startsWith_iff.mp hstart
    exact h (List.cons.inj hrest).1
  rw [isClosing, hstart, Bool.false_and]

/-- The last three quotes of a run close a string. -/
theorem isClosing_of_stops (hu : u.head? ≠ some quote) :
    isClosing quote ([quote, quote, quote] ++ u) = true := by
  have hstart : Text.startsWith ([quote, quote, quote] ++ u) [quote, quote, quote] = true :=
    Text.startsWith_iff.mpr ⟨u, rfl⟩
  rw [isClosing, hstart, Bool.true_and, decide_eq_true_eq]
  exact hu

/-- Within a string that does not hold a delimiter, quotes at its end included, none is found. -/
theorem isClosing_within (hne : s ≠ []) (hs : ¬[quote, quote, quote] <:+: s) (u : Text) :
    isClosing quote (s ++ ([quote, quote, quote] ++ u)) = false := by
  rw [Bool.eq_false_iff]
  intro hclosing
  obtain ⟨hstart, hfourth⟩ := Bool.and_eq_true_iff.mp hclosing
  obtain ⟨rest, hrest⟩ := Text.startsWith_iff.mp hstart
  -- Three quotes stand first; those that are not of the string are of the delimiter after it.
  match s, hne, hs with
  | [a], _, _ => simp at hfourth
  | [a, b], _, _ => simp at hfourth
  | a :: b :: d :: s, _, hs =>
      obtain ⟨rfl, rfl, rfl, -⟩ : a = quote ∧ b = quote ∧ d = quote ∧ _ := by simpa using hrest
      exact hs ⟨[], s, rfl⟩

theorem multilineLength?_closing (escapes : Bool) {t : Text} (h : isClosing quote (c :: t) = true) :
    multilineLength? quote escapes 0 (c :: t) = some 0 := by
  rw [multilineLength?, if_pos h]

theorem multilineLength?_plain {escapes : Bool} {t : Text} (h : isClosing quote (c :: t) = false)
    (hplain : (escapes && decide (c = backslash)) = false) :
    multilineLength? quote escapes 0 (c :: t)
      = (multilineLength? quote escapes 0 t).map (· + 1) := by
  simp [multilineLength?, h, hplain]

theorem multilineLength?_pair (hquote : backslash ≠ quote) (t : Text) :
    multilineLength? quote true 0 (backslash :: e :: t)
      = (multilineLength? quote true 0 t).map (· + 2) := by
  simp [multilineLength?, isClosing_of_ne hquote, Function.comp_def]

/-- A string with escapes ends at its closing delimiter. -/
theorem multilineLength?_escaped (s : Text) (hu : u.head? ≠ some doubleQuote) :
    multilineLength? doubleQuote true 0
        (escapedBy blockEscape? s ++ ([doubleQuote, doubleQuote, doubleQuote] ++ u))
      = some (escapedBy blockEscape? s).length := by
  induction s with
  | nil => exact multilineLength?_closing true (isClosing_of_stops hu)
  | cons c s ih =>
      cases hc : blockEscape? c with
      | none =>
          have hplain : c ≠ backslash := isEscape_block.ne_backslash hc
          have hopen := isClosing_of_ne (ne_quote_of_block hc)
            (escapedBy blockEscape? s ++ ([doubleQuote, doubleQuote, doubleQuote] ++ u))
          rw [escapedBy_plain hc, List.cons_append, multilineLength?_plain hopen (by simp [hplain]), ih]
          rfl
      | some e =>
          have hquote : backslash ≠ doubleQuote := by decide
          have hpair := multilineLength?_pair (e := e) hquote
            (escapedBy blockEscape? s ++ ([doubleQuote, doubleQuote, doubleQuote] ++ u))
          rw [ih] at hpair
          rw [escapedBy_pair hc, List.cons_append, List.cons_append]
          exact hpair

/-- A string without escapes ends at its closing delimiter, if it does not hold one. -/
theorem multilineLength?_literal (hs : ¬[quote, quote, quote] <:+: s) (hu : u.head? ≠ some quote) :
    multilineLength? quote false 0 (s ++ ([quote, quote, quote] ++ u)) = some s.length := by
  induction s with
  | nil => exact multilineLength?_closing false (isClosing_of_stops hu)
  | cons c s ih =>
      have hopen := isClosing_within (List.cons_ne_nil c s) hs u
      have hrest := ih fun hin => hs (hin.trans (List.suffix_cons c s).isInfix)
      rw [List.cons_append] at hopen ⊢
      rw [multilineLength?_plain hopen rfl, hrest]
      rfl

/-! ## Line continuations -/

theorem foldFrom_plain (h : c ≠ backslash) (t : Text) : foldFrom 0 (c :: t) = c :: foldFrom 0 t := by
  rw [foldFrom, if_neg h]

/-- A backslash that protects something is not at the end of a line, whatever blanks may follow. -/
theorem foldFrom_pair (h : Text.simpleEscape? e = some c) (t : Text) :
    foldFrom 0 (backslash :: e :: t) = backslash :: e :: foldFrom 0 t := by
  by_cases he : e = backslash
  · rw [he]
    rfl
  · obtain ⟨hbreak, hblank⟩ := Text.mark_apart h
    have hspace : e ≠ CodePoint.ofChar ' ' ∧ e ≠ CodePoint.ofChar '\t' := by
      simp only [isInlineBlank, Bool.or_eq_false_iff, decide_eq_false_iff_not] at hblank
      exact hblank.1.1
    have hplain := foldFrom_plain he t
    rw [foldFrom, if_pos rfl, List.head?_cons, if_neg fun heq => he (Option.some.inj heq)]
    simp only [List.takeWhile_cons, hspace, decide_false, Bool.or_self, Bool.false_eq_true, if_false,
      List.length_nil, List.drop_zero, List.head?_cons, Option.any_some, hbreak, hplain]

/-- What is written with escapes has no line continuations. -/
theorem foldContinuations_escapedBy (hf : IsEscape f) (s : Text) :
    foldContinuations (escapedBy f s) = escapedBy f s := by
  unfold foldContinuations
  induction s with
  | nil => rfl
  | cons c s ih =>
      cases hc : f c with
      | none => rw [escapedBy_plain hc, foldFrom_plain (hf.ne_backslash hc), ih]
      | some e =>
          rw [escapedBy_pair hc]
          exact (foldFrom_pair (hf.decodes hc) _).trans (by rw [ih]; rfl)

/-! ## Reading strings -/

variable {k : Cursor}

/-- What a lexer of a string on one line finds. -/
theorem readString_of_length {escapes : Bool} {raw : Text} (hrest : k.rest = quote :: (raw ++ quote :: u))
    (hlength : stringLength quote escapes 0 (raw ++ quote :: u) = raw.length) :
    readString quote escapes k = .ok (raw, Cursor.advance (raw.length + 2) k) := by
  have hstart : k.next.rest = raw ++ quote :: u := by rw [Cursor.next_rest, hrest]; rfl
  have hstop : (Cursor.advance raw.length k.next).isAt quote = true := by
    rw [Cursor.isAt, Cursor.advance_rest, hstart, List.drop_left]
    exact decide_eq_true rfl
  have htext : k.next.textTo (Cursor.advance raw.length k.next) = raw := by
    rw [Cursor.textTo_advance, hstart, List.take_left]
  have hafter : (Cursor.advance raw.length k.next).next = Cursor.advance (raw.length + 2) k := by
    have hmove := Cursor.advance_advance raw.length 1 k.next
    exact hmove
  rw [readString, hstart, hlength, if_pos hstop, htext, hafter]

/-- What a lexer of a string over several lines finds. -/
theorem readMultiline_of_length {escapes : Bool} {raw : Text}
    (hrest : k.rest = [quote, quote, quote, CodePoint.lineFeed] ++ (raw ++ ([quote, quote, quote] ++ u)))
    (hlength : multilineLength? quote escapes 0 (raw ++ ([quote, quote, quote] ++ u))
      = some raw.length) :
    readMultiline quote escapes k = .ok (raw, Cursor.advance (raw.length + 7) k) := by
  have hopened : (Cursor.advance 3 k).rest
      = CodePoint.lineFeed :: (raw ++ ([quote, quote, quote] ++ u)) := by
    rw [Cursor.advance_rest, hrest]
    rfl
  -- The line feed after the opening quotes is not part of the string.
  have hskip : skipFirstBreak (Cursor.advance 3 k) = Cursor.advance 4 k := by
    have hpair : ¬(Cursor.advance 3 k).startsWith "\r\n" = true := by
      rw [Cursor.startsWith_pair, hopened]
      rintro ⟨t, ht⟩
      exact absurd (List.cons.inj ht).1 (by decide)
    have hfeed : (Cursor.advance 3 k).isAt CodePoint.lineFeed = true := by
      rw [Cursor.isAt, hopened]
      exact decide_eq_true rfl
    rw [skipFirstBreak, if_neg hpair, if_pos hfeed]
    rfl
  have hstart : (Cursor.advance 4 k).rest = raw ++ ([quote, quote, quote] ++ u) := by
    rw [Cursor.advance_rest, hrest]
    rfl
  have htext : (Cursor.advance 4 k).textTo (Cursor.advance raw.length (Cursor.advance 4 k)) = raw := by
    rw [Cursor.textTo_advance, hstart, List.take_left]
  have hafter : Cursor.advance 3 (Cursor.advance raw.length (Cursor.advance 4 k))
      = Cursor.advance (raw.length + 7) k := by
    rw [Cursor.advance_advance, Cursor.advance_advance]
    congr 1
    omega
  rw [readMultiline, hskip, hstart, hlength]
  dsimp only
  rw [htext, hafter]

/-- A delimiter of three quotes is not where a string on one line begins: if the quote after the opening one
is the closing one, no third follows. -/
theorem not_block {raw : Text} (hrest : k.rest = quote :: (raw ++ quote :: u))
    (hraw : raw.head? ≠ some quote) (hu : u.head? ≠ some quote) :
    k.startsWith [quote, quote, quote] = false := by
  rw [Bool.eq_false_iff]
  intro hstart
  obtain ⟨t, ht⟩ := Text.startsWith_iff.mp hstart
  rw [hrest] at ht
  have htail : raw ++ quote :: u = quote :: quote :: t := (List.cons.inj ht).2
  cases raw with
  | nil =>
      have hnext : u = quote :: t := (List.cons.inj htail).2
      exact hu (by rw [hnext]; rfl)
  | cons c raw =>
      have hc : c = quote := (List.cons.inj htail).1
      exact hraw (by rw [hc]; rfl)

theorem not_startsWith {t lead : Text} {x y : CodePoint} (hrest : k.rest = x :: t) (hne : x ≠ y) :
    k.startsWith (y :: lead) = false := by
  rw [Bool.eq_false_iff]
  intro hstart
  obtain ⟨u, hu⟩ := Text.startsWith_iff.mp hstart
  rw [hrest] at hu
  exact hne (List.cons.inj hu).1

/-- What is written with escapes does not start with a quote. -/
theorem head_escaped_ne (s : Text) : (escapedBy lineEscape? s).head? ≠ some doubleQuote := by
  cases s with
  | nil => exact fun h => by cases h
  | cons c s =>
      cases hc : lineEscape? c with
      | none =>
          rw [escapedBy_plain hc]
          exact fun h => (apart_of_line hc).1 (Option.some.inj h)
      | some e =>
          rw [escapedBy_pair hc]
          exact fun h => absurd (Option.some.inj h) (by decide)

/-- **What was written is read back.** The decoded value is the string, whatever the form, and the cursor
stands right after the closing delimiter, if no further quote follows there. -/
theorem readValue_write (form : Form) (hfits : form.Fits s) (hu : u.head? ≠ some form.quote)
    (hrest : k.rest = form.write s ++ u) :
    readValue k
      = .ok (⟨form.content s, some s⟩, Cursor.advance (form.write s).length k) := by
  unfold readValue
  -- The reader tries blocks before lines and double quotes before single ones, so each form excludes those tried
  -- before it.
  cases form with
  | basic =>
      have hrest : k.rest = doubleQuote :: (escapedBy lineEscape? s ++ doubleQuote :: u) := by
        simpa [Form.write, Form.opening, Form.closing, Form.quote, Form.content] using hrest
      have hread := readString_of_length hrest (stringLength_escaped s u)
      have hsize : (Form.basic.write s).length = (escapedBy lineEscape? s).length + 2 := by
        simp [Form.write, Form.opening, Form.closing, Form.content]
      rw [if_neg (Cursor.not_atLineEnd hrest (by decide)), not_block hrest (head_escaped_ne s) hu,
        if_neg Bool.false_ne_true, not_startsWith hrest (by decide), if_neg Bool.false_ne_true,
        Cursor.isAt_cons hrest, if_pos (decide_eq_true rfl), hread, hsize]
      show Except.ok (Written.mk _ (some (Text.unescape (escapedBy lineEscape? s))), _) = _
      rw [Text.unescape_escapedBy isEscape_line]
      rfl
  | literal =>
      have hrest : k.rest = singleQuote :: (s ++ singleQuote :: u) := by
        simpa [Form.write, Form.opening, Form.closing, Form.quote, Form.content] using hrest
      have hread := readString_of_length hrest (stringLength_literal hfits u)
      have hsize : (Form.literal.write s).length = s.length + 2 := by
        simp [Form.write, Form.opening, Form.closing, Form.content]
      have hhead : s.head? ≠ some singleQuote := fun h => (hfits _ (List.mem_of_mem_head? h)).1 rfl
      rw [if_neg (Cursor.not_atLineEnd hrest (by decide)), not_startsWith hrest (by decide),
        if_neg Bool.false_ne_true, not_block hrest hhead hu, if_neg Bool.false_ne_true,
        Cursor.isAt_cons hrest, Cursor.isAt_cons hrest, if_neg (by decide), if_pos (decide_eq_true rfl), hread, hsize]
      rfl
  | basicBlock =>
      have hrest : k.rest = [doubleQuote, doubleQuote, doubleQuote, CodePoint.lineFeed]
          ++ (escapedBy blockEscape? s ++ ([doubleQuote, doubleQuote, doubleQuote] ++ u)) := by
        simpa [Form.write, Form.opening, Form.closing, Form.quote, Form.content] using hrest
      have hread := readMultiline_of_length hrest (multilineLength?_escaped s hu)
      have hsize : (Form.basicBlock.write s).length = (escapedBy blockEscape? s).length + 7 := by
        simp [Form.write, Form.opening, Form.closing, Form.content]
      have hstart : k.startsWith [doubleQuote, doubleQuote, doubleQuote] = true :=
        Text.startsWith_iff.mpr ⟨_, hrest⟩
      rw [if_neg (Cursor.not_atLineEnd hrest (by decide)), if_pos hstart, hread, hsize]
      show Except.ok (Written.mk _ (some (Text.unescape (foldContinuations
        (escapedBy blockEscape? s)))), _) = _
      rw [foldContinuations_escapedBy isEscape_block, Text.unescape_escapedBy isEscape_block]
      rfl
  | literalBlock =>
      have hrest : k.rest = [singleQuote, singleQuote, singleQuote, CodePoint.lineFeed]
          ++ (s ++ ([singleQuote, singleQuote, singleQuote] ++ u)) := by
        simpa [Form.write, Form.opening, Form.closing, Form.quote, Form.content] using hrest
      have hread := readMultiline_of_length hrest (multilineLength?_literal hfits hu)
      have hsize : (Form.literalBlock.write s).length = s.length + 7 := by
        simp [Form.write, Form.opening, Form.closing, Form.content]
      have hstart : k.startsWith [singleQuote, singleQuote, singleQuote] = true :=
        Text.startsWith_iff.mpr ⟨_, hrest⟩
      rw [if_neg (Cursor.not_atLineEnd hrest (by decide)), not_startsWith hrest (by decide),
        if_neg Bool.false_ne_true, if_pos hstart, hread, hsize]
      rfl

end Phrasebook.Files.Toml
