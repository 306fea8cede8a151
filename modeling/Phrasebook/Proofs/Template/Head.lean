import Phrasebook.Proofs.Template.Print
import Phrasebook.Proofs.Text.Classes
import Phrasebook.Proofs.Text.Numerals

/-!
# Parts of placeholders, written and read

One statement for each reader of a part of a placeholder: what the printer writes for the part is read
back, and what follows it is left. None of them looks into cases, so that the recursion over templates
can be put together from them.
-/

namespace Phrasebook.Template

variable {mode : Mode}

/-! ## Names -/

theorem not_blank_of_name {c : CodePoint} (h : isNamePoint c = true) : c.isBlank = false := by
  by_contra hb
  rw [Bool.not_eq_false] at hb
  obtain ⟨halnum, hunderscore⟩ := CodePoint.blank_not_name hb
  simp only [isNamePoint, halnum, Bool.false_or, decide_eq_true_eq] at h
  exact hunderscore h

/-- **`IsLead mode argument t`**: `t` is an argument name with white space around it. -/
def IsLead (mode : Mode) (argument t : Text) : Prop :=
  IsArgument mode argument ∧ Text.Surrounded argument t

theorem IsArgument.lead {argument : Text} (h : IsArgument mode argument) : IsLead mode argument argument :=
  ⟨h, Text.surrounded_self argument⟩

/-- How a placeholder is read after its name, by the next code point that is not white space. -/
def afterName (mode : Mode) (whole argument : Text) (c : CodePoint) (rest : Text) :
    Except Fault (Head × Text) :=
  if c = '}' then .ok (.node (.simple argument none none (readPart whole rest)), rest)
  else if c = ':' ∧ mode = .composite then do
    let (format, rest) ← upToClosing whole.length rest
    return (.node (.simple argument (some format) none (readPart whole rest)), rest)
  else if c = ',' then afterComma mode whole argument rest
  else .error (.malformed (.unexpected [c]) (rest.length + 1))

/-- The name of a placeholder is read up to the next code point that is not white space. -/
theorem head_lead {whole argument t : Text} (ht : IsLead mode argument t) {c : CodePoint}
    {rest : Text} (hname : isNamePoint c = false) (hblank : c.isBlank = false) :
    head mode whole (t ++ c :: rest) = afterName mode whole argument c rest := by
  obtain ⟨⟨hne, hpoints, hfirst⟩, hsurrounded⟩ := ht
  obtain ⟨v, hstart, hread, hrest⟩ :=
    Text.read_surrounded hsurrounded hne hpoints (fun _ => not_blank_of_name) hname hblank rest
  -- Neither the check of names nor the other form of placeholders comes in the way.
  have hvalid : (mode.isArb && !isMessageName argument) = false := by
    by_cases hm : mode.isArb = true
    · simp [hfirst hm]
    · simp [hm]
  have hat : ¬(t ++ c :: rest).head? = some (CodePoint.ofChar '@') := by
    obtain ⟨d, hd, hcases⟩ := Text.head?_surrounded hsurrounded hne (c :: rest)
    intro h
    obtain rfl := Option.some.inj (hd.symm.trans h)
    rcases hcases with hblank | hmem
    · exact absurd hblank (by decide)
    · exact absurd (hpoints _ hmem) (by decide)
  obtain ⟨d, w, rfl⟩ := List.exists_cons_of_ne_nil hne
  rw [head, if_neg (fun h => hat h.2)]
  simp only [hstart, name, hread]
  simp only [List.cons_append, hvalid, reduceCtorEq, if_false, Bool.false_eq_true]
  rw [← List.cons_append, List.drop_left, hrest]
  rfl

/-- A name and a closing brace are a simple placeholder. -/
theorem head_close {whole argument rest : Text} (ha : IsArgument mode argument) :
    head mode whole (argument ++ rightBrace :: rest)
      = .ok (.node (.simple argument none none (readPart whole rest)), rest) := by
  rw [head_lead ha.lead (by decide) (by decide)]
  rfl

/-- A name and a comma are left to the reader of what follows commas. -/
theorem head_comma {whole argument rest : Text} (ha : IsArgument mode argument) :
    head mode whole (argument ++ comma :: rest) = afterComma mode whole argument rest := by
  rw [head_lead ha.lead (by decide) (by decide)]
  simp [afterName, CodePoint.ofChar_inj]

/-! ## Kinds -/

/-- The word for a kind. -/
def kindWord : FormatKind ⊕ ChoiceKind → Text := Sum.elim FormatKind.word ChoiceKind.word

/-- Every word names its kind. -/
theorem kindOf?_kindWord (k : FormatKind ⊕ ChoiceKind) : kindOf? (kindWord k) = some k := by
  rcases k with k | k <;> cases k <;> decide +kernel

/-- Every word is a name that starts with a letter. -/
theorem kindWord_name (k : FormatKind ⊕ ChoiceKind) :
    kindWord k ≠ [] ∧ (∀ c ∈ kindWord k, isNamePoint c = true) ∧
      ∀ c ∈ (kindWord k).head?, c.isDigit = false ∧ c ≠ '-' := by
  rcases k with k | k <;> cases k <;> decide +kernel

/-- A code point that starts an alignment in composite format. -/
def StartsNumber (mode : Mode) (c : CodePoint) : Prop :=
  mode = .composite ∧ (c.isDigit || c = '-') = true

/-- **`IsWord mode k t`**: `t` is a word for a kind with white space around it. -/
def IsWord (mode : Mode) (k : FormatKind ⊕ ChoiceKind) (t : Text) : Prop :=
  ∃ word, kindOf? word = some k ∧ (∀ c ∈ word, isNamePoint c = true) ∧
    (∀ c ∈ word.head?, ¬StartsNumber mode c) ∧ Text.Surrounded word t

theorem isWord_kindWord (mode : Mode) (k : FormatKind ⊕ ChoiceKind) : IsWord mode k (' ' :: kindWord k) := by
  obtain ⟨-, hpoints, hhead⟩ := kindWord_name k
  refine ⟨kindWord k, kindOf?_kindWord k, hpoints, ?_, Text.surrounded_space _⟩
  rintro c hc ⟨-, hstart⟩
  simp [hhead c hc] at hstart

/-- How a placeholder is read after the word for its kind, by the next code point that is not white
space. -/
def afterKind (whole argument : Text) (k : FormatKind ⊕ ChoiceKind) (c : CodePoint) (rest : Text) :
    Except Fault (Head × Text) :=
  if c = '}' then
    match k with
    | .inl kind => .ok (.node (.formatted kind argument .default (readPart whole rest)), rest)
    | .inr kind => .error (.malformed (.noCases kind argument) (rest.length + 1))
  else if c = ',' then
    match k with
    | .inl kind => do
      let (style, rest) ← style whole.length rest
      return (.node (.formatted kind argument style (readPart whole rest)), rest)
    | .inr kind => .ok (.cases kind argument, rest)
  else .error (.malformed (.unexpected [c]) (rest.length + 1))

/-- What is no alignment is a word for a kind and what follows that. -/
theorem afterComma_eq_afterKind (whole argument : Text) {t : Text}
    (hletter : ¬(mode = .composite ∧ (t.stripStart.head?.any fun c : CodePoint => c.isDigit || c = '-') = true))
    {k : FormatKind ⊕ ChoiceKind} (hk : kindOf? (name t.stripStart) = some k) {c : CodePoint} {rest : Text}
    (hrest : Text.stripStart (t.stripStart.drop (name t.stripStart).length) = c :: rest) :
    afterComma mode whole argument t = afterKind whole argument k c rest := by
  rw [afterComma, if_neg hletter]
  simp only [hk, hrest]
  rcases k with k | k <;> rfl

/-- A kind is read up to the next code point that is not white space. -/
theorem afterComma_word (whole argument : Text) {k : FormatKind ⊕ ChoiceKind} {t : Text}
    (ht : IsWord mode k t) {c : CodePoint} {rest : Text} (hname : isNamePoint c = false)
    (hblank : c.isBlank = false) :
    afterComma mode whole argument (t ++ c :: rest) = afterKind whole argument k c rest := by
  obtain ⟨word, hk, hpoints, hhead, hsurrounded⟩ := ht
  have hne : word ≠ [] := by
    have hnil : kindOf? [] = none := by decide +kernel
    rintro rfl
    rw [hnil] at hk
    cases hk
  obtain ⟨v, hstart, hread, hrest⟩ :=
    Text.read_surrounded hsurrounded hne hpoints (fun _ => not_blank_of_name) hname hblank rest
  have hletter : ¬(mode = .composite ∧
      ((word ++ v).head?.any fun c : CodePoint => c.isDigit || c = '-') = true) := by
    obtain ⟨d, w, rfl⟩ := List.exists_cons_of_ne_nil hne
    exact hhead d rfl
  have hword : name (word ++ v) = word := hread
  apply afterComma_eq_afterKind
  · rwa [hstart]
  · rwa [hstart, hword]
  · rwa [hstart, hword, List.drop_left]

/-- A kind is read from its word. -/
theorem afterComma_kind (whole argument : Text) (k : FormatKind ⊕ ChoiceKind) {c : CodePoint}
    {rest : Text} (hname : isNamePoint c = false) (hblank : c.isBlank = false) :
    afterComma mode whole argument (' ' :: (kindWord k ++ c :: rest)) = afterKind whole argument k c rest :=
  afterComma_word whole argument (isWord_kindWord mode k) hname hblank

/-! ## Styles -/

theorem upToClosing_append {t : Text} (h : rightBrace ∉ t) (start : Nat) (rest : Text) :
    upToClosing start (t ++ rightBrace :: rest) = .ok (t, rest) := by
  rw [upToClosing, cutAtClosing, Text.cut_append h]

/-- White space may stand before the brace that closes a placeholder. -/
theorem closing_blank {b : Text} (hb : ∀ c ∈ b, c.isBlank = true) (start : Nat) (rest : Text) :
    closing start (b ++ rightBrace :: rest) = .ok rest := by
  rw [closing, Text.stripStart_append hb, Text.stripStart_of_stops (Text.stops_cons.mpr (by decide))]
  rfl

/-- Apostrophes in pairs do not end a pattern. -/
theorem patternFrom_escaped (start : Nat) (t : Text) {rest : Text} (h : rest.head? ≠ some apostrophe) :
    patternFrom start 0 (escaped t ++ apostrophe :: rest) = .ok (escaped t, rest) := by
  induction t with
  | nil => simp [escaped, Text.doubled_nil, patternFrom, h]
  | cons c t ih =>
      by_cases hc : c = apostrophe
      · subst hc
        rw [escaped, Text.doubled_cons_of_pos (by decide), ← escaped]
        simp only [List.cons_append, patternFrom, List.head?_cons, if_true, ih]
        rfl
      · rw [escaped, Text.doubled_cons_of_neg (by simpa using hc), ← escaped]
        simp only [List.cons_append, patternFrom, if_neg hc, ih]
        rfl

/-- A pattern between quotes is a style, with white space before it and after it. -/
theorem style_pattern {b b' : Text} (hb : ∀ c ∈ b, c.isBlank = true) (hb' : ∀ c ∈ b', c.isBlank = true)
    (t : Text) (start : Nat) (rest : Text) :
    style start (b ++ (quoted (escaped t) ++ (b' ++ rightBrace :: rest)))
      = .ok (.pattern (escaped t), rest) := by
  have hquote : (b' ++ rightBrace :: rest).head? ≠ some apostrophe := by
    cases b' with
    | nil => simp [CodePoint.ofChar_inj]
    | cons d b' =>
        intro hd
        have hblank := hb' d (by simp)
        rw [Option.some.inj hd] at hblank
        exact absurd hblank (by decide)
  have hstart : Text.stripStart (b ++ (quoted (escaped t) ++ (b' ++ rightBrace :: rest)))
      = apostrophe :: (escaped t ++ apostrophe :: (b' ++ rightBrace :: rest)) := by
    rw [Text.stripStart_append hb, quoted, List.cons_append, List.append_assoc,
      Text.stripStart_of_stops (Text.stops_cons.mpr (by decide))]
    rfl
  rw [style, hstart, List.head?_cons]
  simp only [List.drop_one, List.tail_cons, patternFrom_escaped start t hquote, bind, Except.bind,
    closing_blank hb' start rest]
  rfl

/-- Anything else up to the closing brace is a style, with white space around it. -/
theorem style_named {b t : Text} (hb : ∀ c ∈ b, c.isBlank = true) (hbrace : rightBrace ∉ t)
    (hquote : (t ++ [rightBrace]).head? ≠ some apostrophe)
    (hfirst : Text.Stops CodePoint.isBlank (t ++ [rightBrace])) (start : Nat) (rest : Text) :
    style start (b ++ (t ++ rightBrace :: rest))
      = .ok (if t.strip = [] then .default else .named t.strip, rest) := by
  have hne : t ++ [rightBrace] ≠ [] := by simp
  have hsplit : t ++ rightBrace :: rest = (t ++ [rightBrace]) ++ rest := by simp
  have hstart : Text.stripStart (b ++ (t ++ rightBrace :: rest)) = t ++ rightBrace :: rest := by
    rw [Text.stripStart_append hb, hsplit, Text.stripStart_of_stops ((Text.stops_append hne rest).mpr hfirst)]
  have hhead : ¬(t ++ rightBrace :: rest).head? = some '\'' := by
    rw [hsplit, List.head?_append_of_ne_nil _ hne]
    exact hquote
  rw [style, hstart, if_neg hhead, upToClosing_append hbrace]
  rfl

/-- **A style is read back** after its comma, with the brace that closes the placeholder. -/
theorem style_printStyle {s : Style} (hs : StyleFits s) (hne : s ≠ .default) (start : Nat) (rest : Text) :
    ∃ t, printStyle s = comma :: t ∧ style start (t ++ rightBrace :: rest) = .ok (s, rest) := by
  have hspace : ∀ c ∈ [CodePoint.ofChar ' '], c.isBlank = true := by decide
  cases s with
  | default => exact absurd rfl hne
  | named t =>
      obtain ⟨hne, hbrace, hquote, hfirst, hlast⟩ := hs
      refine ⟨_, rfl, ?_⟩
      have hread := style_named hspace hbrace (by rwa [List.head?_append_of_ne_nil _ hne])
        ((Text.stops_append hne _).mpr hfirst) start rest
      rw [Text.strip_of_stops hfirst hlast, if_neg hne] at hread
      exact hread
  | pattern t =>
      obtain ⟨u, rfl⟩ := hs
      exact ⟨_, rfl, style_pattern hspace (List.forall_mem_nil _) u start rest⟩

/-! ## Alignments and formats -/

theorem digits_stop_format (format : Option Text) (rest : Text) :
    Text.Stops CodePoint.isDigit (printFormat format ++ rightBrace :: rest) := by
  cases format with
  | none => exact Text.stops_cons.mpr (by decide)
  | some f => exact Text.stops_cons.mpr (by decide)

/-- The digits of an alignment with its sign. -/
def signed (negative : Bool) (digits : Text) : Text := if negative = true then '-' :: digits else digits

/-- An integer is written as the digits of its absolute value with its sign. -/
theorem ofInt_eq_signed (n : Int) :
    ∃ negative, Text.ofInt n = signed negative (Text.ofNat n.natAbs) ∧
      (if negative = true then -(n.natAbs : Int) else n.natAbs) = n := by
  cases n with
  | ofNat n => exact ⟨false, rfl, rfl⟩
  | negSucc n => exact ⟨true, rfl, rfl⟩

/-- What follows the digits of an alignment: a format, or the closing brace. -/
def alignmentTail (start : Nat) : Text → Except Fault (Option Text × Text)
  | [] => .error (.malformed .unclosedOpening start)
  | c :: rest =>
    if c = ':' then do
      let (format, rest) ← upToClosing start rest
      return (some format, rest)
    else do
      let rest ← closing start (c :: rest)
      return (none, rest)

/-- **An alignment is its digits and what follows them**; a minus sign is no digit. -/
theorem alignment_digits (start : Nat) (negative : Bool) {digits tail : Text} (hne : digits ≠ [])
    (hdigits : ∀ c ∈ digits, c.isDigit = true) (htail : Text.Stops CodePoint.isDigit tail) :
    alignment start (signed negative digits ++ tail) = (do
      let n ← readNumber digits
      let (format, rest) ← alignmentTail start tail
      return ((if negative = true then -(n : Int) else n, format), rest)) := by
  -- Only a minus sign that was written is taken for one, since no digit is a minus sign.
  have hneg : decide ((signed negative digits ++ tail).head? = some '-') = negative := by
    cases negative with
    | true => rfl
    | false =>
        obtain ⟨d, digits, rfl⟩ := List.exists_cons_of_ne_nil hne
        apply decide_eq_false
        intro hminus
        have hd := hdigits d (by simp)
        rw [Option.some.inj hminus] at hd
        exact absurd hd (by decide)
  have hbody : (if negative = true then (signed negative digits ++ tail).drop 1
      else signed negative digits ++ tail) = digits ++ tail := by
    cases negative <;> rfl
  unfold alignment
  simp only [hneg, hbody, Text.takeWhile_run hdigits htail, List.drop_left]
  cases readNumber digits with
  | error e => rfl
  | ok n =>
      cases tail with
      | nil => rfl
      | cons c rest =>
          simp only [bind, Except.bind, alignmentTail]
          split
          · cases upToClosing start rest <;> rfl
          · cases closing start (c :: rest) <;> rfl

/-- Without a format, white space may stand before the closing brace. -/
theorem alignmentTail_blank {b : Text} (hb : ∀ c ∈ b, c.isBlank = true) (start : Nat) (rest : Text) :
    alignmentTail start (b ++ rightBrace :: rest) = .ok (none, rest) := by
  have hread := closing_blank hb start rest
  cases b with
  | nil =>
      rw [List.nil_append] at hread ⊢
      rw [alignmentTail, if_neg (by decide), hread]
      rfl
  | cons c b =>
      have hcolon : c ≠ ':' := by
        rintro rfl
        exact absurd (hb _ (List.mem_cons_self ..)) (by decide)
      rw [List.cons_append] at hread ⊢
      rw [alignmentTail, if_neg hcolon, hread]
      rfl

/-- A format is read back with the brace that closes the placeholder. -/
theorem alignmentTail_format (start : Nat) {format : Option Text} (hf : ∀ f ∈ format, rightBrace ∉ f)
    (rest : Text) :
    alignmentTail start (printFormat format ++ rightBrace :: rest) = .ok (format, rest) := by
  cases format with
  | none => exact alignmentTail_blank (List.forall_mem_nil _) start rest
  | some f =>
      have hread := upToClosing_append (hf f rfl) start rest
      simp only [printFormat, List.cons_append, alignmentTail, bind, Except.bind, hread]
      rfl

/-- **An alignment is read back**, with its format and the brace that closes the placeholder. -/
theorem alignment_ofInt {start : Nat} {n : Int} (hn : n.natAbs < 10 ^ Count.digitLimit)
    {format : Option Text} (hf : ∀ f ∈ format, rightBrace ∉ f) (rest : Text) :
    alignment start (Text.ofInt n ++ (printFormat format ++ rightBrace :: rest))
      = .ok ((n, format), rest) := by
  obtain ⟨negative, hsigned, hvalue⟩ := ofInt_eq_signed n
  rw [hsigned, alignment_digits start negative (Text.ofNat_ne_nil n.natAbs)
    (Text.isDigit_of_mem_ofNat n.natAbs) (digits_stop_format format rest), readNumber,
    Count.ofDigits_ofNat hn, alignmentTail_format start hf]
  show Except.ok ((if negative = true then -(n.natAbs : Int) else n.natAbs, format), rest) = _
  rw [hvalue]

/-- **A wider alignment is refused**, as no number at all. -/
theorem alignment_ofInt_error {start : Nat} {n : Int} (hn : 10 ^ Count.digitLimit ≤ n.natAbs) {t : Text}
    (ht : Text.Stops CodePoint.isDigit t) :
    alignment start (Text.ofInt n ++ t) = .error .unreadableNumber := by
  obtain ⟨negative, hsigned, -⟩ := ofInt_eq_signed n
  rw [hsigned, alignment_digits start negative (Text.ofNat_ne_nil n.natAbs)
    (Text.isDigit_of_mem_ofNat n.natAbs) ht, readNumber, Count.ofDigits_ofNat_error hn]
  rfl

/-- In composite format what starts like a number after the comma is an alignment. -/
theorem afterComma_number (whole argument : Text) {b : Text} (hb : ∀ c ∈ b, c.isBlank = true) {c : CodePoint}
    (hc : StartsNumber mode c) (t : Text) :
    afterComma mode whole argument (b ++ c :: t) = (do
      let ((width, format), rest) ← alignment whole.length (c :: t)
      return (.node (.simple argument format (some width) (readPart whole rest)), rest)) := by
  have hblank : c.isBlank = false := by
    by_contra hb
    rw [Bool.not_eq_false] at hb
    have hfirst := hc.2
    rw [CodePoint.blank_not_digit hb, Bool.false_or, decide_eq_true_eq] at hfirst
    rw [hfirst] at hb
    exact absurd hb (by decide)
  have hstart : Text.stripStart (b ++ c :: t) = c :: t := by
    rw [Text.stripStart_append hb, Text.stripStart_of_stops (Text.stops_cons.mpr hblank)]
  rw [afterComma, hstart, if_pos ⟨hc.1, hc.2⟩]

/-- An integer starts like a number. -/
theorem afterComma_ofInt (whole argument : Text) (n : Int) (t : Text) :
    afterComma .composite whole argument (Text.ofInt n ++ t) = (do
      let ((width, format), rest) ← alignment whole.length (Text.ofInt n ++ t)
      return (.node (.simple argument format (some width) (readPart whole rest)), rest)) := by
  obtain ⟨c, u, hc, hfirst⟩ : ∃ c u, Text.ofInt n = c :: u ∧ (c.isDigit || c = '-') = true := by
    cases n with
    | ofNat n =>
        obtain ⟨c, u, hc⟩ := List.exists_cons_of_ne_nil (Text.ofNat_ne_nil n)
        have hdigit := Text.isDigit_of_mem_ofNat n c (by rw [hc]; simp)
        exact ⟨c, u, hc, by rw [hdigit, Bool.true_or]⟩
    | negSucc n => exact ⟨_, _, rfl, rfl⟩
  rw [hc]
  exact afterComma_number whole argument (List.forall_mem_nil _) ⟨rfl, hfirst⟩ (u ++ t)

/-- **A simple placeholder is read back** with its alignment and its format. -/
theorem head_printTail {whole argument rest : Text} {format : Option Text} {width : Option Int}
    (ha : IsArgument mode argument) (ht : TailFits mode format width)
    (hn : ∀ n ∈ width, n.natAbs < 10 ^ Count.digitLimit) :
    head mode whole (argument ++ (printTail format width ++ rightBrace :: rest))
      = .ok (.node (.simple argument format width (readPart whole rest)), rest) := by
  obtain ⟨hf, hmode⟩ := ht
  by_cases hm : mode = .composite
  · cases width with
    | none =>
        cases format with
        | none => exact head_close ha
        | some f =>
            show head mode whole (argument ++ (':' : CodePoint) :: (f ++ rightBrace :: rest)) = _
            rw [head_lead ha.lead (by decide) (by decide), afterName, if_neg (by decide),
              if_pos ⟨rfl, hm⟩, upToClosing_append (hf f rfl)]
            rfl
    | some n =>
        show head mode whole (argument ++ comma :: (Text.ofInt n ++ printFormat format
          ++ rightBrace :: rest)) = _
        rw [head_comma ha, hm, List.append_assoc, afterComma_ofInt, alignment_ofInt (hn n rfl) hf]
        rfl
  · obtain ⟨rfl, rfl⟩ := hmode hm
    exact head_close ha

/-! ## Heads with a kind -/

/-- **A formatted placeholder is read back** with its style. -/
theorem head_formatted (kind : FormatKind) {whole argument rest : Text} {s : Style}
    (ha : IsArgument mode argument) (hs : StyleFits s) :
    head mode whole (listed argument (kind.word ++ printStyle s) ++ rightBrace :: rest)
      = .ok (.node (.formatted kind argument s (readPart whole rest)), rest) := by
  have hsplit : listed argument (kind.word ++ printStyle s) ++ rightBrace :: rest
      = argument ++ comma :: ' ' :: (kindWord (.inl kind) ++ (printStyle s ++ rightBrace :: rest)) := by
    simp [listed, kindWord]
  rw [hsplit, head_comma ha]
  by_cases hdefault : s = .default
  · subst hdefault
    exact afterComma_kind whole argument (.inl kind) (by decide) (by decide)
  · obtain ⟨t, ht, hread⟩ := style_printStyle hs hdefault whole.length rest
    rw [ht, List.cons_append, afterComma_kind whole argument (.inl kind) (by decide) (by decide), afterKind]
    simp only [CodePoint.ofChar_inj, Char.reduceEq, if_false, if_true, hread]
    rfl

/-- A choice is left to the reader of cases. -/
theorem head_choice (kind : ChoiceKind) {whole argument : Text} (ha : IsArgument mode argument)
    (t : Text) :
    head mode whole (listed argument (kind.word ++ comma :: t)) = .ok (.cases kind argument, t) := by
  rw [listed, head_comma ha]
  show afterComma mode whole argument (' ' :: (kindWord (.inr kind) ++ comma :: t)) = _
  rw [afterComma_kind whole argument (.inr kind) (by decide) (by decide), afterKind]
  simp only [CodePoint.ofChar_inj, Char.reduceEq, if_false, if_true]

/-! ## Offsets and labels -/

/-- The digits of an offset are what the reader of numbers is given; white space may stand before them. -/
theorem offset_number {kind : ChoiceKind} (hk : kind ≠ .select) {b digits t : Text}
    (hb : ∀ c ∈ b, c.isBlank = true) (hne : digits ≠ []) (hdigits : ∀ c ∈ digits, c.isDigit = true)
    (ht : Text.Stops CodePoint.isDigit t) :
    offset kind (offsetWord ++ (b ++ (digits ++ t))) = (readNumber digits).bind fun n => .ok (n, t) := by
  have hstops : Text.Stops CodePoint.isBlank (digits ++ t) := by
    obtain ⟨c, digits, rfl⟩ := List.exists_cons_of_ne_nil hne
    apply Text.stops_cons.mpr
    by_contra hblank
    rw [Bool.not_eq_false] at hblank
    have hdigit := hdigits c (by simp)
    rw [CodePoint.blank_not_digit hblank] at hdigit
    exact Bool.false_ne_true hdigit
  have hstart : Text.stripStart (b ++ (digits ++ t)) = digits ++ t := by
    rw [Text.stripStart_append hb, Text.stripStart_of_stops hstops]
  rw [offset, if_neg hk, ← offsetWord, Text.dropLead?_append]
  simp only [hstart, Text.takeWhile_run hdigits ht, if_neg hne, List.drop_left]
  rfl

/-- An offset is written as its digits. -/
theorem offset_digits {kind : ChoiceKind} (hk : kind ≠ .select) (n : Nat) {t : Text}
    (ht : Text.Stops CodePoint.isDigit t) :
    offset kind (Text.stripStart (printOffset kind n ++ t))
      = (readNumber (Text.ofNat n)).bind fun n => .ok (n, t) := by
  have hword : Text.Stops CodePoint.isBlank (offsetWord ++ (Text.ofNat n ++ t)) := by
    intro c hc
    obtain rfl := Option.some.inj hc
    decide
  have hstart : Text.stripStart (printOffset kind n ++ t) = offsetWord ++ (Text.ofNat n ++ t) := by
    rw [printOffset, if_neg hk, List.cons_append, List.append_assoc, Text.stripStart_space hword]
  rw [hstart]
  exact offset_number (b := []) hk (List.forall_mem_nil _) (Text.ofNat_ne_nil n) (Text.isDigit_of_mem_ofNat n) ht

/-- **An offset is read back**, up to white space before the cases, if it has few enough digits. -/
theorem offset_printOffset {kind : ChoiceKind} {n : Nat} (hn : n < 10 ^ Count.digitLimit)
    (hselect : kind = .select → n = 0) {t : Text} (ht : Text.Stops CodePoint.isDigit t) :
    ∃ u, offset kind (Text.stripStart (printOffset kind n ++ t)) = .ok (n, u) ∧
      Text.stripStart u = Text.stripStart t := by
  by_cases hk : kind = .select
  · refine ⟨Text.stripStart t, ?_, ?_⟩
    · rw [printOffset, if_pos hk, List.nil_append, offset, if_pos hk, hselect hk]
    · exact Text.stripStart_stripStart t
  · refine ⟨t, ?_, rfl⟩
    rw [offset_digits hk n ht, readNumber, Count.ofDigits_ofNat hn]
    rfl

/-- **A longer offset is refused**, as no number at all. -/
theorem offset_printOffset_error {kind : ChoiceKind} (hk : kind ≠ .select) {n : Nat}
    (hn : 10 ^ Count.digitLimit ≤ n) {t : Text} (ht : Text.Stops CodePoint.isDigit t) :
    offset kind (Text.stripStart (printOffset kind n ++ t)) = .error .unreadableNumber := by
  rw [offset_digits hk n ht, readNumber, Count.ofDigits_ofNat_error hn]
  rfl

/-- A label is read with the brace that opens its body; white space may stand between them. -/
theorem label_blank {t b : Text} (ht : IsLabel t) (hb : ∀ c ∈ b, c.isBlank = true) (kind : ChoiceKind)
    (argument : Text) (start : Nat) (rest : Text) :
    label kind argument start (t ++ (b ++ leftBrace :: rest)) = .ok (t, rest) := by
  obtain ⟨hne, hpoints⟩ := ht
  have hstops : Text.Stops isLabelPoint (b ++ leftBrace :: rest) := by
    cases b with
    | nil => exact Text.stops_cons.mpr (by decide)
    | cons d b => exact Text.stops_cons.mpr (by simp [isLabelPoint, hb d (by simp)])
  have hbrace : Text.stripStart (b ++ leftBrace :: rest) = leftBrace :: rest := by
    rw [Text.stripStart_append hb, Text.stripStart_of_stops (Text.stops_cons.mpr (by decide))]
  simp only [label, Text.takeWhile_run hpoints hstops, if_neg hne, List.drop_left, hbrace]
  rfl

end Phrasebook.Template
