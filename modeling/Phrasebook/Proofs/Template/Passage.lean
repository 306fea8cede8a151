import Phrasebook.Proofs.Template.Balance
import Phrasebook.Proofs.Template.Inversion

/-!
# What readers take and the pass steps over

One statement for each reader of a part of a template: what the reader takes, the pass for placeholders
steps over, and comes out within the braces that the reader has left open. Literal text needs nothing
more. Of the parts that are taken as they are up to some end (styles, formats, patterns, labels), the
pass looks at every code point, and they have to be plain for it.
-/

namespace Phrasebook.Template

variable {mode : Mode} {d e f : Nat} {t u v : Text}

/-- **`Reaches mode d t e u`**: the pass over `t` within `d` braces comes to its own end part `u` within
`e` braces. -/
def Reaches (mode : Mode) (d : Nat) (t : Text) (e : Nat) (u : Text) : Prop :=
  u <:+ t ∧ Passes mode d t e u

theorem Reaches.refl (mode : Mode) (d : Nat) (t : Text) : Reaches mode d t d t :=
  ⟨List.suffix_refl t, .refl mode d t⟩

theorem Reaches.trans (h : Reaches mode d t e u) (h' : Reaches mode e u f v) : Reaches mode d t f v :=
  ⟨h'.1.trans h.1, h.2.trans h'.2⟩

theorem Reaches.length_le (h : Reaches mode d t e u) : u.length ≤ t.length := h.1.length_le

theorem reaches_run (hu : ∀ c ∈ u, IsPlain mode c) (d : Nat) (t : Text) : Reaches mode d (u ++ t) d t :=
  ⟨List.suffix_append u t, passes_run hu d t⟩

theorem reaches_cons {c : CodePoint} (hc : IsPlain mode c) (d : Nat) (t : Text) :
    Reaches mode d (c :: t) d t :=
  ⟨List.suffix_cons c t, passes_plain hc d t⟩

theorem reaches_close (d : Nat) (t : Text) : Reaches mode (d + 1) (rightBrace :: t) d t :=
  ⟨List.suffix_cons _ t, passes_close d t⟩

theorem reaches_open (ht : mode = .composite → t.head? ≠ some leftBrace) (d : Nat) :
    Reaches mode d (leftBrace :: t) (d + 1) t :=
  ⟨List.suffix_cons _ t, passes_open ht d⟩

/-! ## Plain code points -/

/-- A class that holds no braces and no apostrophe holds plain code points only. -/
theorem isPlain_of_class {p : CodePoint → Bool} (hleft : p leftBrace = false)
    (hright : p rightBrace = false) (hquote : p apostrophe = false) {c : CodePoint} (hc : p c = true) :
    IsPlain mode c := by
  refine ⟨?_, ?_, fun _ => ?_⟩
  · rintro rfl
    exact Bool.false_ne_true (hleft.symm.trans hc)
  · rintro rfl
    exact Bool.false_ne_true (hright.symm.trans hc)
  · rintro rfl
    exact Bool.false_ne_true (hquote.symm.trans hc)

theorem isPlain_of_blank {c : CodePoint} (hc : c.isBlank = true) : IsPlain mode c :=
  isPlain_of_class (by decide) (by decide) (by decide) hc

theorem reaches_blank {b : Text} (hb : ∀ c ∈ b, c.isBlank = true) (d : Nat) (t : Text) :
    Reaches mode d (b ++ t) d t :=
  reaches_run (fun c hc => isPlain_of_blank (hb c hc)) d t

theorem reaches_stripStart (mode : Mode) (d : Nat) (t : Text) : Reaches mode d t d t.stripStart := by
  obtain ⟨b, hb, ht⟩ := Text.eq_stripStart t
  have hreach : Reaches mode d _ d t.stripStart := reaches_blank hb d t.stripStart
  rwa [← ht] at hreach

theorem reaches_digits {digits : Text} (h : ∀ c ∈ digits, c.isDigit = true) (d : Nat) (t : Text) :
    Reaches mode d (digits ++ t) d t :=
  reaches_run (fun c hc => isPlain_of_class (by decide) (by decide) (by decide) (h c hc)) d t

/-- **A name is passed over** with the white space around it. -/
theorem reaches_surrounded {w lead : Text} (h : Text.Surrounded w lead) (hw : ∀ c ∈ w, isNamePoint c = true)
    (d : Nat) (t : Text) : Reaches mode d (lead ++ t) d t := by
  obtain ⟨b, b', hb, hb', rfl⟩ := h
  refine reaches_run (fun c hc => ?_) d t
  rcases List.mem_append.mp hc with hc | hc
  · exact isPlain_of_blank (hb c hc)
  rcases List.mem_append.mp hc with hc | hc
  · exact isPlain_of_class (by decide) (by decide) (by decide) (hw c hc)
  · exact isPlain_of_blank (hb' c hc)

/-! ## Literal text -/

theorem isDoubled_eq_isScannedPair {x : Context} {quoted : Bool} (hquoted : x.mode = .composite → quoted = false)
    (hin : x.inCase = decide (d ≠ 0)) (c : CodePoint) (t : Text) :
    x.isDoubled quoted c t = isScannedPair x.mode d c t := by
  cases t with
  | nil => rfl
  | cons e t =>
      obtain ⟨mode, inCase, inPlural⟩ := x
      cases mode with
      | composite => simp_all [Context.isDoubled, isScannedPair]
      | _ => rfl

/-- Reader and pass go through literal text together, with the same pairs and the same quotes. -/
theorem scan_literalFrom {x : Context} {s : ScanState} (hquoted : x.mode = .composite → s.quoted = false)
    (hin : x.inCase = decide (s.depth ≠ 0)) (skip : Nat) (t : Text) :
    ∃ s' : ScanState, s'.IsAt s.depth ∧
      scanFrom x.mode skip s t = scanFrom x.mode 0 s' (literalFrom x skip s.quoted t).2 := by
  induction t generalizing skip s with
  | nil => exact ⟨{ s with quoted := false }, ⟨rfl, rfl⟩, by simp [scanFrom, literalFrom]⟩
  | cons c t ih =>
      cases skip with
      | succ skip => exact ih hquoted hin skip
      | zero =>
          -- The same four cases on both sides: a pair, a quote, a taken code point, a stop.
          have hpair := isDoubled_eq_isScannedPair hquoted hin c t
          by_cases hdoubled : x.isDoubled s.quoted c t = true
          · rw [scanFrom, literalFrom, if_pos hdoubled, if_pos (hpair ▸ hdoubled)]
            exact ih hquoted hin 1
          by_cases hquote : (x.mode.isArb && decide (c = apostrophe)) = true
          · have hmode : x.mode ≠ .composite := by
              intro h
              simp [h, Mode.isArb] at hquote
            rw [scanFrom, literalFrom, if_neg hdoubled, if_neg (hpair ▸ hdoubled), if_pos hquote,
              if_pos hquote]
            exact ih (s := s.toggle) (fun h => absurd h hmode) hin 0
          by_cases htaken : (s.quoted || !x.stops c) = true
          · -- The reader takes `c`, and for the pass it is quoted or no brace at all.
            have hstep : scanFrom x.mode 0 s (c :: t) = scanFrom x.mode 0 s t := by
              rw [scanFrom, if_neg (hpair ▸ hdoubled), if_neg hquote]
              by_cases hs : s.quoted = true
              · rw [if_pos hs]
              · have hstops : x.stops c = false := by simpa [hs] using htaken
                simp only [Context.stops, Bool.or_eq_false_iff, decide_eq_false_iff_not] at hstops
                rw [if_neg hs, if_neg hstops.1.1, if_neg hstops.1.2]
            rw [hstep, literalFrom, if_neg hdoubled, if_neg hquote, if_pos htaken]
            exact ih hquoted hin 0
          · rw [Bool.or_eq_true, not_or, Bool.not_eq_true] at htaken
            refine ⟨s, ⟨htaken.1, rfl⟩, ?_⟩
            rw [literalFrom, if_neg hdoubled, if_neg hquote, if_neg (by simpa using htaken)]

theorem literalFrom_suffix (x : Context) (skip : Nat) (quoted : Bool) (t : Text) :
    (literalFrom x skip quoted t).2 <:+ t := by
  induction t generalizing skip quoted with
  | nil => cases skip <;> exact List.suffix_refl _
  | cons c t ih =>
      have hcons : ∀ skip quoted, (literalFrom x skip quoted t).2 <:+ c :: t := fun skip quoted =>
        (ih skip quoted).trans (List.suffix_cons c t)
      cases skip with
      | succ skip => exact hcons skip quoted
      | zero =>
          rw [literalFrom]
          split
          · exact hcons 1 quoted
          split
          · exact hcons 0 (!quoted)
          split
          · exact hcons 0 quoted
          · exact List.suffix_refl _

theorem endsLiteral_literalFrom (x : Context) (skip : Nat) (quoted : Bool) (t : Text) :
    EndsLiteral x (literalFrom x skip quoted t).2 := by
  induction t generalizing skip quoted with
  | nil => cases skip <;> (intro c u h; cases h)
  | cons c t ih =>
      cases skip with
      | succ skip => exact ih skip quoted
      | zero =>
          rw [literalFrom]
          split
          · exact ih 1 quoted
          next hdoubled =>
          split
          · exact ih 0 (!quoted)
          split
          · exact ih 0 quoted
          · next hstop =>
              rintro e u ⟨⟩
              simp only [Bool.or_eq_true, not_or, Bool.not_eq_true, Bool.not_eq_eq_eq_not] at hstop
              rw [hstop.1, Bool.not_eq_true] at hdoubled
              exact ⟨by simpa using hstop.2, hdoubled⟩

/-- **Literal text is passed over**, quotes and doubled braces included. -/
theorem reaches_literal {x : Context} (hin : x.inCase = decide (d ≠ 0)) (t : Text) :
    Reaches x.mode d t d (literal x t).2 := by
  refine ⟨literalFrom_suffix x 0 false t, ?_⟩
  intro s hs
  obtain ⟨hquoted, rfl⟩ := hs
  have hscan := scan_literalFrom (fun _ => hquoted) hin 0 t
  rwa [hquoted] at hscan

/-! ## Styles -/

/-- A style that the pass takes for what it is. In message format a pattern is between quotes for the
pass, too. -/
def StylePlain (mode : Mode) : Style → Prop
  | .default => True
  | .named t => ∀ c ∈ t, IsPlain mode c
  | .pattern t => mode = .composite → ∀ c ∈ t, IsPlain mode c

instance (mode : Mode) : (s : Style) → Decidable (StylePlain mode s)
  | .default => inferInstanceAs (Decidable True)
  | .named t => inferInstanceAs (Decidable (∀ c ∈ t, IsPlain mode c))
  | .pattern t => inferInstanceAs (Decidable (mode = .composite → ∀ c ∈ t, IsPlain mode c))

/-- Apostrophes in pairs do not end what is quoted for the pass. -/
theorem scan_pattern (hmode : mode.isArb = true) {s : ScanState} (hs : s.quoted = true) (w : Text)
    (t : Text) : ∃ s' : ScanState, s'.IsAt s.depth ∧
      scanFrom mode 0 s (escaped w ++ apostrophe :: t) = scanFrom mode 0 s' t := by
  induction w generalizing s with
  | nil =>
      refine ⟨s.toggle, ⟨?_, rfl⟩, scan_apostrophe hmode t⟩
      rw [ScanState.toggle, hs, Bool.not_true]
  | cons c w ih =>
      by_cases hc : c = apostrophe
      · subst hc
        have htoggle : s.toggle.toggle.quoted = true := by
          simp only [ScanState.toggle, Bool.not_not, hs]
        obtain ⟨s', hs', hscan⟩ := ih htoggle
        refine ⟨s', hs', ?_⟩
        rw [escaped_apostrophe, List.cons_append, List.cons_append, scan_apostrophe hmode,
          scan_apostrophe hmode, hscan]
      · obtain ⟨s', hs', hscan⟩ := ih hs
        refine ⟨s', hs', ?_⟩
        have hstep := scan_quoted (u := [c]) hmode hs (by simpa using Ne.symm hc)
          (escaped w ++ apostrophe :: t)
        rw [escaped_other hc, ← hscan, ← hstep]
        rfl

/-- **A pattern is passed over** with its quotes. -/
theorem reaches_quoted {w : Text} (hp : mode = .composite → ∀ c ∈ escaped w, IsPlain mode c)
    (hmode : mode.parsesPlaceholders = true) (d : Nat) (t : Text) :
    Reaches mode d (quoted (escaped w) ++ t) d t := by
  have hsplit : quoted (escaped w) ++ t = apostrophe :: (escaped w ++ apostrophe :: t) := by simp [quoted]
  rw [hsplit]
  by_cases harb : mode.isArb = true
  · -- In message format the pass is within quotes until the pattern ends.
    refine ⟨⟨apostrophe :: (escaped w ++ [apostrophe]), by simp⟩, ?_⟩
    intro s hs
    have htoggle : s.toggle.quoted = true := by rw [ScanState.toggle, hs.1]; rfl
    obtain ⟨s', hs', hscan⟩ := scan_pattern harb htoggle w t
    refine ⟨s', ⟨hs'.1, hs'.2.trans hs.2⟩, ?_⟩
    rw [scan_apostrophe harb, hscan]
  · -- In composite format apostrophes say nothing to the pass, and the pattern itself has to be plain.
    have hcomposite : mode = .composite := by
      cases mode <;> simp_all [Mode.isArb, Mode.parsesPlaceholders]
    have hquote : IsPlain mode apostrophe := ⟨by decide, by decide, fun h => absurd h harb⟩
    exact (reaches_cons hquote d _).trans
      ((reaches_run (hp hcomposite) d _).trans (reaches_cons hquote d t))

/-- **A style is passed over** with the brace that closes its placeholder. -/
theorem reaches_style {start : Nat} {style : Style} (h : Template.style start t = .ok (style, u))
    (hs : StylePlain mode style) (hmode : mode.parsesPlaceholders = true) (d : Nat) :
    Reaches mode (d + 1) t d u := by
  rcases style_cases h with ⟨b, w, b', hb, hb', rfl, rfl⟩ | ⟨b, text, hb, -, -, -, rfl, rfl⟩
  · exact (reaches_blank hb (d + 1) _).trans ((reaches_quoted hs hmode (d + 1) _).trans
      ((reaches_blank hb' (d + 1) _).trans (reaches_close d u)))
  · have htext : ∀ c ∈ text, IsPlain mode c := by
      intro c hc
      rcases Text.mem_strip hc with hblank | hmem
      · exact isPlain_of_blank hblank
      · rw [if_neg (List.ne_nil_of_mem hmem)] at hs
        exact hs c hmem
    exact (reaches_blank hb (d + 1) _).trans ((reaches_run htext (d + 1) _).trans (reaches_close d u))

/-! ## Alignments and offsets -/

/-- A format that the pass takes for what it is. -/
def FormatPlain (mode : Mode) (format : Option Text) : Prop := ∀ f ∈ format, ∀ c ∈ f, IsPlain mode c

instance (mode : Mode) (format : Option Text) : Decidable (FormatPlain mode format) :=
  inferInstanceAs (Decidable (∀ f ∈ format, ∀ c ∈ f, IsPlain mode c))

theorem isPlain_colon (mode : Mode) : IsPlain mode ':' := ⟨by decide, by decide, fun _ => by decide⟩

/-- **An alignment is passed over** with its format and the brace that closes its placeholder. -/
theorem reaches_alignment {start : Nat} {n : Int} {format : Option Text}
    (h : alignment start t = .ok ((n, format), u)) (hf : FormatPlain mode format) (d : Nat) :
    Reaches mode (d + 1) t d u := by
  obtain ⟨negative, digits, tail, m, -, hdigits, -, rfl, -, -, htail⟩ := alignment_cases h
  have hsigned : Reaches mode (d + 1) (signed negative digits ++ tail) (d + 1) tail := by
    cases negative with
    | false => exact reaches_digits hdigits (d + 1) tail
    | true =>
        have hminus : IsPlain mode '-' := ⟨by decide, by decide, fun _ => by decide⟩
        exact (reaches_cons hminus (d + 1) _).trans (reaches_digits hdigits (d + 1) tail)
  refine hsigned.trans ?_
  rcases alignmentTail_cases htail with ⟨f, rfl, -, rfl⟩ | ⟨b, hb, -, rfl⟩
  · exact (reaches_cons (isPlain_colon mode) (d + 1) _).trans
      ((reaches_run (hf f rfl) (d + 1) _).trans (reaches_close d u))
  · exact (reaches_blank hb (d + 1) _).trans (reaches_close d u)

/-- **An offset is passed over.** -/
theorem reaches_offset {kind : ChoiceKind} {n : Nat} (h : offset kind t = .ok (n, u)) (d : Nat) :
    Reaches mode d t d u := by
  rcases offset_cases h with ⟨-, rfl, -⟩ | ⟨-, b, digits, hb, -, hdigits, -, rfl, -⟩
  · exact .refl mode d u
  · have hplain : ∀ c ∈ offsetWord, IsPlain mode c := by
      refine fun c hc => isPlain_of_class (p := fun c => c ∈ offsetWord) ?_ ?_ ?_ (by simpa using hc) <;> decide
    exact (reaches_run hplain d _).trans ((reaches_blank hb d _).trans (reaches_digits hdigits d u))

/-! ## Heads -/

/-- A node of which the pass takes what it does not look into for what it is. -/
def HeadPlain (mode : Mode) : Node → Prop
  | .simple _ format _ _ => FormatPlain mode format
  | .formatted _ _ style _ => StylePlain mode style
  | _ => True

/-- What a head leaves open: nothing after a whole node, its own brace before cases. -/
def Head.leavesOpen : Head → Nat → Nat
  | .node _, d => d
  | .cases _ _, d => d + 1

/-- What a head has read is plain for the pass. -/
def Head.Plain (mode : Mode) : Head → Prop
  | .node n => HeadPlain mode n
  | .cases _ _ => True

theorem reaches_comma (d : Nat) (t : Text) : Reaches mode d (comma :: t) d t :=
  reaches_cons ⟨by decide, by decide, fun _ => by decide⟩ d t

theorem reaches_afterKind {whole argument : Text} {k : FormatKind ⊕ ChoiceKind} {c : CodePoint} {found : Head}
    (h : afterKind whole argument k c t = .ok (found, u)) (hp : found.Plain mode)
    (hmode : mode.parsesPlaceholders = true) (d : Nat) :
    Reaches mode (d + 1) (c :: t) (found.leavesOpen d) u := by
  rcases afterKind_cases h with ⟨kind, -, rfl, rfl, rfl⟩ | ⟨kind, s, -, rfl, hread, rfl⟩ |
    ⟨kind, -, rfl, rfl, rfl⟩
  · exact reaches_close d t
  · exact (reaches_comma (d + 1) t).trans (reaches_style hread hp hmode d)
  · exact reaches_comma (d + 1) t

theorem reaches_afterComma {whole argument : Text} {found : Head}
    (h : afterComma mode whole argument t = .ok (found, u)) (hp : found.Plain mode)
    (hmode : mode.parsesPlaceholders = true) (d : Nat) :
    Reaches mode (d + 1) t (found.leavesOpen d) u := by
  rcases afterComma_cases h with ⟨b, c, v, n, format, hb, rfl, -, hread, rfl⟩ |
    ⟨k, lead, c, v, hword, rfl, hrest⟩
  · exact (reaches_blank hb (d + 1) _).trans (reaches_alignment hread hp d)
  · obtain ⟨word, -, hpoints, -, hsurrounded⟩ := hword
    exact (reaches_surrounded hsurrounded hpoints (d + 1) _).trans (reaches_afterKind hrest hp hmode d)

theorem reaches_afterName {whole argument : Text} {c : CodePoint} {found : Head}
    (h : afterName mode whole argument c t = .ok (found, u)) (hp : found.Plain mode)
    (hmode : mode.parsesPlaceholders = true) (d : Nat) :
    Reaches mode (d + 1) (c :: t) (found.leavesOpen d) u := by
  rcases afterName_cases h with ⟨rfl, rfl, rfl⟩ | ⟨format, rfl, -, -, rfl, rfl⟩ | ⟨rfl, h⟩
  · exact reaches_close d t
  · exact (reaches_cons (isPlain_colon mode) (d + 1) _).trans
      ((reaches_run (hp format rfl) (d + 1) _).trans (reaches_close d u))
  · exact (reaches_comma (d + 1) t).trans (reaches_afterComma h hp hmode d)

/-- The text of a placeholder with an at sign is plain for the pass. -/
def AtPlain (mode : Mode) (t : Text) : Prop :=
  mode.isArb = true → ∀ u, t = atSign :: u → ∀ c ∈ (cutAtClosing u).1, IsPlain mode c

/-- **A head is passed over**, up to its closing brace or its cases. -/
theorem reaches_head {whole : Text} {found : Head} (h : head mode whole t = .ok (found, u))
    (hp : found.Plain mode) (hat : AtPlain mode t) (hmode : mode.parsesPlaceholders = true) (d : Nat) :
    Reaches mode (d + 1) t (found.leavesOpen d) u := by
  rcases head_cases h with ⟨text, harb, hmem, rfl, rfl⟩ | ⟨argument, lead, c, v, hlead, rfl, hrest⟩
  · have hplain := hat harb _ rfl
    rw [cutAtClosing, Text.cut_append hmem] at hplain
    have hsign : IsPlain mode atSign := ⟨by decide, by decide, fun _ => by decide⟩
    exact (reaches_cons hsign (d + 1) _).trans
      ((reaches_run hplain (d + 1) _).trans (reaches_close d u))
  · obtain ⟨⟨-, hpoints, -⟩, hsurrounded⟩ := hlead
    exact (reaches_surrounded hsurrounded hpoints (d + 1) _).trans (reaches_afterName hrest hp hmode d)

end Phrasebook.Template
