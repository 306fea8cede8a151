import Phrasebook.Proofs.Outcome
import Phrasebook.Proofs.Template.Head
import Phrasebook.Proofs.Template.Literal
import Phrasebook.Proofs.Template.Names

/-!
# Parts of placeholders, taken apart

One statement for each reader of a part of a placeholder, in the direction opposite to that of the printer:
a reader that has come through was given one of the texts that it is known to read, and has left what
follows that text. Whatever else is said of readers that have come through rests on this: what the pass for
placeholders steps over, what is read the same whatever follows, how a node was written.
-/

namespace Phrasebook.Template

variable {mode : Mode} {t u : Text}

/-! ## Up to the closing brace -/

/-- Nothing but white space stands before the brace that closes a placeholder. -/
theorem closing_ok_iff {start : Nat} :
    closing start t = .ok u ↔ ∃ b, (∀ c ∈ b, c.isBlank = true) ∧ t = b ++ rightBrace :: u := by
  constructor
  · intro h
    obtain ⟨b, hb, ht⟩ := Text.eq_stripStart t
    unfold closing at h
    split at h
    · cases h
    next c v hv =>
    split at h
    · next hc =>
        cases h
        rw [hv, hc] at ht
        exact ⟨b, hb, ht⟩
    · cases h
  · rintro ⟨b, hb, rfl⟩
    exact closing_blank hb start u

theorem upToClosing_ok_iff {start : Nat} {text : Text} :
    upToClosing start t = .ok (text, u) ↔ t = text ++ rightBrace :: u ∧ rightBrace ∉ text := by
  constructor
  · intro h
    unfold upToClosing at h
    split at h
    · next hcut =>
        cases h
        exact ⟨Text.eq_of_cut hcut, Text.not_mem_of_cut hcut⟩
    · cases h
  · rintro ⟨rfl, hmem⟩
    exact upToClosing_append hmem start u

/-! ## Styles -/

/-- What is read as a pattern has its apostrophes in pairs. -/
theorem eq_of_patternFrom {start : Nat} {p : Text} (h : patternFrom start 0 t = .ok (p, u)) :
    ∃ w, p = escaped w ∧ t = p ++ apostrophe :: u := by
  -- A pair takes two code points at once, so the induction is on the length.
  induction hn : t.length using Nat.strong_induction_on generalizing t p with
  | _ n ih =>
  subst hn
  cases t with
  | nil => cases h
  | cons c t =>
      rw [patternFrom] at h
      split at h
      · next hc =>
        split at h
        · next hhead =>
            obtain ⟨t, rfl⟩ : ∃ v, t = c :: v := ⟨t.tail, List.eq_cons_of_mem_head? hhead⟩
            obtain ⟨⟨q, v⟩, hread, hok⟩ := exists_of_bind h
            cases hok
            rw [patternFrom] at hread
            obtain ⟨w, rfl, rfl⟩ := ih t.length (by simp only [List.length_cons]; omega) hread rfl
            refine ⟨apostrophe :: w, ?_, rfl⟩
            rw [escaped_apostrophe, hc]
        · cases h
          exact ⟨[], rfl, by rw [hc]; rfl⟩
      · next hc =>
          obtain ⟨⟨q, v⟩, hread, hok⟩ := exists_of_bind h
          cases hok
          obtain ⟨w, rfl, rfl⟩ := ih t.length (Nat.lt_succ_self _) hread rfl
          exact ⟨c :: w, (escaped_other hc w).symm, rfl⟩

/-- **A style is a pattern between quotes or anything else**, with white space around it, and the brace that
closes its placeholder. -/
theorem style_cases {start : Nat} {s : Style} (h : style start t = .ok (s, u)) :
    (∃ b w b', (∀ c ∈ b, c.isBlank = true) ∧ (∀ c ∈ b', c.isBlank = true) ∧ s = .pattern (escaped w) ∧
      -- A name goes up to the brace. What holds of its first code point holds of the name and the brace after it.
      t = b ++ (quoted (escaped w) ++ (b' ++ rightBrace :: u))) ∨
    (∃ (b text : Text), (∀ c ∈ b, c.isBlank = true) ∧ rightBrace ∉ text ∧
      (text ++ [rightBrace]).head? ≠ some apostrophe ∧
      Text.Stops CodePoint.isBlank (text ++ [rightBrace]) ∧
      s = (if text.strip = [] then .default else .named text.strip) ∧ t = b ++ (text ++ rightBrace :: u)) := by
  obtain ⟨b, hb, ht⟩ := Text.eq_stripStart t
  have hfirst : Text.Stops CodePoint.isBlank t.stripStart := Text.stops_dropWhile CodePoint.isBlank t
  unfold style at h
  generalize t.stripStart = t' at h ht hfirst
  dsimp only at h
  split at h
  · next hhead =>
      -- The pattern is read with its escapes as they are, so it is escaped text.
      left
      obtain ⟨t', rfl⟩ : ∃ v, t' = apostrophe :: v := ⟨t'.tail, List.eq_cons_of_mem_head? hhead⟩
      obtain ⟨⟨p, v⟩, hread, h⟩ := exists_of_bind h
      obtain ⟨w, hclose, hok⟩ := exists_of_bind h
      cases hok
      obtain ⟨p, rfl, hp⟩ := eq_of_patternFrom hread
      obtain ⟨b', hb', rfl⟩ := closing_ok_iff.mp hclose
      rw [List.drop_one, List.tail_cons] at hp
      refine ⟨b, p, b', hb, hb', rfl, ?_⟩
      rw [ht, hp]
      simp [quoted]
  · next hquote =>
      right
      obtain ⟨⟨text, v⟩, hread, hok⟩ := exists_of_bind h
      cases hok
      obtain ⟨rfl, hmem⟩ := upToClosing_ok_iff.mp hread
      have hsplit : text ++ rightBrace :: v = (text ++ [rightBrace]) ++ v := by simp
      have hne : text ++ [rightBrace] ≠ [] := by simp
      rw [hsplit, List.head?_append_of_ne_nil _ hne] at hquote
      rw [hsplit, Text.stops_append hne] at hfirst
      exact ⟨b, text, hb, hmem, hquote, hfirst, rfl, ht⟩

/-! ## Alignments -/

/-- A text is its sign, perhaps, its digits and what follows them. -/
theorem exists_signed (t : Text) : ∃ negative body, t = signed negative (body.takeWhile CodePoint.isDigit)
    ++ body.dropWhile CodePoint.isDigit ∧ negative = decide (t.head? = some '-') ∧
      body = if negative = true then t.drop 1 else t := by
  by_cases hhead : t.head? = some '-'
  · refine ⟨true, t.tail, ?_, (decide_eq_true hhead).symm, by simp⟩
    rw [signed, if_pos rfl, List.cons_append, List.takeWhile_append_dropWhile]
    exact List.eq_cons_of_mem_head? hhead
  · refine ⟨false, t, ?_, (decide_eq_false hhead).symm, by simp⟩
    rw [signed, if_neg Bool.false_ne_true, List.takeWhile_append_dropWhile]

/-- After the digits of an alignment stands a format or nothing, and the brace that closes the placeholder. -/
theorem alignmentTail_cases {start : Nat} {format : Option Text} (h : alignmentTail start t = .ok (format, u)) :
    (∃ f, format = some f ∧ rightBrace ∉ f ∧ t = printFormat (some f) ++ rightBrace :: u) ∨
    (∃ b, (∀ c ∈ b, c.isBlank = true) ∧ format = none ∧ t = b ++ rightBrace :: u) := by
  cases t with
  | nil => cases h
  | cons c t =>
      rw [alignmentTail] at h
      split at h
      · next hc =>
          obtain ⟨⟨f, v⟩, hread, hok⟩ := exists_of_bind h
          cases hok
          obtain ⟨rfl, hmem⟩ := upToClosing_ok_iff.mp hread
          rw [hc]
          exact .inl ⟨f, rfl, hmem, rfl⟩
      · obtain ⟨v, hclose, hok⟩ := exists_of_bind h
        cases hok
        obtain ⟨b, hb, ht⟩ := closing_ok_iff.mp hclose
        exact .inr ⟨b, hb, rfl, ht⟩

/-- **An alignment is a sign, perhaps, at least one digit and what follows the digits.** -/
theorem alignment_cases {start : Nat} {n : Int} {format : Option Text}
    (h : alignment start t = .ok ((n, format), u)) :
    ∃ negative digits tail m, digits ≠ [] ∧ (∀ c ∈ digits, c.isDigit = true) ∧
      Text.Stops CodePoint.isDigit tail ∧ t = signed negative digits ++ tail ∧ readNumber digits = .ok m ∧
      n = (if negative = true then -(m : Int) else m) ∧ alignmentTail start tail = .ok (format, u) := by
  obtain ⟨negative, body, ht, hnegative, hbody⟩ := exists_signed t
  -- Something is read as a number, so there are digits.
  have hne : body.takeWhile CodePoint.isDigit ≠ [] := by
    intro hnil
    unfold alignment at h
    simp only [← hnegative, ← hbody] at h
    obtain ⟨m, hm, -⟩ := exists_of_bind h
    rw [hnil] at hm
    cases hm
  have hdigits : ∀ c ∈ body.takeWhile CodePoint.isDigit, c.isDigit = true := fun _ => List.mem_takeWhile_imp
  have hstops := Text.stops_dropWhile CodePoint.isDigit body
  generalize body.takeWhile CodePoint.isDigit = digits at ht hne hdigits
  generalize body.dropWhile CodePoint.isDigit = tail at ht hstops
  rw [ht, alignment_digits start negative hne hdigits hstops] at h
  obtain ⟨m, hnumber, h⟩ := exists_of_bind h
  obtain ⟨⟨f, v⟩, htail, hok⟩ := exists_of_bind h
  cases hok
  exact ⟨negative, digits, tail, m, hne, hdigits, hstops, ht, hnumber, rfl, htail⟩

/-! ## Offsets and labels -/

/-- Any text is blanks, digits and what stops these. -/
theorem exists_digits (r : Text) : ∃ b digits tail, (∀ c ∈ b, c.isBlank = true) ∧ (∀ c ∈ digits, c.isDigit = true) ∧
    Text.Stops CodePoint.isDigit tail ∧ r = b ++ (digits ++ tail) ∧
    r.stripStart.takeWhile CodePoint.isDigit = digits ∧ r.stripStart.drop digits.length = tail := by
  obtain ⟨b, hb, hr⟩ := Text.eq_stripStart r
  refine ⟨b, _, _, hb, fun _ => List.mem_takeWhile_imp, Text.stops_dropWhile _ _, ?_, rfl, Text.drop_takeWhile _ _⟩
  rwa [List.takeWhile_append_dropWhile]

/-- **An offset is its word and at least one digit, or there is none.** -/
theorem offset_cases {kind : ChoiceKind} {n : Nat} (h : offset kind t = .ok (n, u)) :
    (n = 0 ∧ u = t ∧ (kind = .select ∨ Text.dropLead? offsetWord t = none)) ∨
    (kind ≠ .select ∧ ∃ b digits, (∀ c ∈ b, c.isBlank = true) ∧ digits ≠ [] ∧
      (∀ c ∈ digits, c.isDigit = true) ∧ Text.Stops CodePoint.isDigit u ∧
      t = offsetWord ++ (b ++ (digits ++ u)) ∧ readNumber digits = .ok n) := by
  unfold offset at h
  by_cases hk : kind = .select
  · rw [if_pos hk] at h
    cases h
    exact .inl ⟨rfl, rfl, .inl hk⟩
  rw [if_neg hk] at h
  split at h
  · next hword =>
      cases h
      exact .inl ⟨rfl, rfl, .inr hword⟩
  · next r hword =>
      obtain rfl := Text.eq_of_dropLead? hword
      obtain ⟨b, digits, tail, hb, hdigits, hstops, hr, hrun, htail⟩ := exists_digits r
      simp only [hrun, htail] at h
      split at h
      · cases h
      next hne =>
      obtain ⟨m, hnumber, hok⟩ := exists_of_bind h
      cases hok
      exact .inr ⟨hk, b, digits, hb, hne, hdigits, hstops, congrArg (offsetWord ++ ·) hr, hnumber⟩

/-- A label is a word and the brace that opens its body, with nothing but white space between them. -/
theorem label_ok_iff {kind : ChoiceKind} {argument : Text} {start : Nat} {word : Text} :
    label kind argument start t = .ok (word, u) ↔
      IsLabel word ∧ ∃ b, (∀ c ∈ b, c.isBlank = true) ∧ t = word ++ (b ++ leftBrace :: u) := by
  constructor
  · intro h
    unfold label at h
    simp only [Text.drop_takeWhile] at h
    split at h
    · cases h
    next hne =>
    obtain ⟨b, hb, hrest⟩ := Text.eq_stripStart (t.dropWhile isLabelPoint)
    split at h
    · cases h
    next c v hv =>
    split at h
    · next hc =>
        cases h
        rw [hv, hc] at hrest
        refine ⟨⟨hne, fun _ => List.mem_takeWhile_imp⟩, b, hb, ?_⟩
        rw [← hrest, List.takeWhile_append_dropWhile]
    · cases h
  · rintro ⟨hword, b, hb, rfl⟩
    exact label_blank hword hb kind argument start u

/-! ## Heads -/

/-- **The word for a kind ends its placeholder or has a comma after it**, and after the comma a style or cases. -/
theorem afterKind_cases {whole argument : Text} {k : FormatKind ⊕ ChoiceKind} {c : CodePoint} {found : Head}
    (h : afterKind whole argument k c t = .ok (found, u)) :
    (∃ kind, k = .inl kind ∧ c = rightBrace ∧ t = u ∧
      found = .node (.formatted kind argument .default (readPart whole u))) ∨
    (∃ kind s, k = .inl kind ∧ c = comma ∧ style whole.length t = .ok (s, u) ∧
      found = .node (.formatted kind argument s (readPart whole u))) ∨
    (∃ kind, k = .inr kind ∧ c = comma ∧ t = u ∧ found = .cases kind argument) := by
  unfold afterKind at h
  split at h
  · next hc =>
      cases k with
      | inl kind =>
          cases h
          exact .inl ⟨kind, rfl, hc, rfl, rfl⟩
      | inr kind => cases h
  split at h
  · next hc =>
      cases k with
      | inl kind =>
          obtain ⟨⟨s, v⟩, hread, hok⟩ := exists_of_bind h
          cases hok
          exact .inr (.inl ⟨kind, s, rfl, hc, hread, rfl⟩)
      | inr kind =>
          cases h
          exact .inr (.inr ⟨kind, rfl, hc, rfl, rfl⟩)
  · cases h

/-- **After the comma of a placeholder stands an alignment or the word for a kind.** -/
theorem afterComma_cases {whole argument : Text} {found : Head}
    (h : afterComma mode whole argument t = .ok (found, u)) :
    (∃ b c v n format, (∀ c ∈ b, c.isBlank = true) ∧ t = b ++ c :: v ∧ StartsNumber mode c ∧
      alignment whole.length (c :: v) = .ok ((n, format), u) ∧
      found = .node (.simple argument format (some n) (readPart whole u))) ∨
    (∃ k lead c v, IsWord mode k lead ∧ t = lead ++ c :: v ∧
      afterKind whole argument k c v = .ok (found, u)) := by
  have hwhole := h
  unfold afterComma at h
  dsimp only at h
  split at h
  · next hnumber =>
      left
      obtain ⟨hmode, hany⟩ := hnumber
      obtain ⟨b, hb, ht⟩ := Text.eq_stripStart t
      obtain ⟨⟨⟨n, format⟩, v⟩, hread, hok⟩ := exists_of_bind h
      cases hok
      cases hv : t.stripStart with
      | nil =>
          rw [hv] at hany
          cases hany
      | cons c v =>
          rw [hv] at hany hread ht
          exact ⟨b, c, v, n, format, hb, ht, ⟨hmode, hany⟩, hread, rfl⟩
  · next hnumber =>
      right
      split at h
      · cases h
      next k hk =>
      split at h
      · cases h
      next c v hv =>
      rw [afterComma_eq_afterKind whole argument hnumber hk hv] at hwhole
      obtain ⟨lead, hlead, ht⟩ := Text.surrounded_of_read hv
      refine ⟨k, lead, c, v, ⟨_, hk, fun _ => List.mem_takeWhile_imp, ?_, hlead⟩, ht, hwhole⟩
      -- A word that starts like a number would have been read as an alignment.
      rintro d hd ⟨hmode, hstart⟩
      have hfirst : t.stripStart.head? = some d := by
        rw [name, List.head?_takeWhile, Option.mem_def, Option.filter_eq_some_iff] at hd
        exact hd.1
      apply hnumber
      rw [hfirst]
      exact ⟨hmode, hstart⟩

/-- **A name ends its placeholder, or has a format after a colon or more after a comma.** -/
theorem afterName_cases {whole argument : Text} {c : CodePoint} {found : Head}
    (h : afterName mode whole argument c t = .ok (found, u)) :
    (c = rightBrace ∧ t = u ∧ found = .node (.simple argument none none (readPart whole u))) ∨
    (∃ format, c = ':' ∧ mode = .composite ∧ rightBrace ∉ format ∧ t = format ++ rightBrace :: u ∧
      found = .node (.simple argument (some format) none (readPart whole u))) ∨
    (c = comma ∧ afterComma mode whole argument t = .ok (found, u)) := by
  unfold afterName at h
  split at h
  · next hc =>
      cases h
      exact .inl ⟨hc, rfl, rfl⟩
  split at h
  · next hc =>
      obtain ⟨⟨format, v⟩, hread, hok⟩ := exists_of_bind h
      cases hok
      obtain ⟨rfl, hmem⟩ := upToClosing_ok_iff.mp hread
      exact .inr (.inl ⟨format, hc.1, hc.2, hmem, rfl, rfl⟩)
  split at h
  · next hc => exact .inr (.inr ⟨hc, h⟩)
  · cases h

/-- The at sign, which makes a placeholder of message format a literal. -/
abbrev atSign : CodePoint := '@'

/-- **After the opening brace stands an at sign, which makes the placeholder literal text, or a name.** -/
theorem head_cases {whole : Text} {found : Head} (h : head mode whole t = .ok (found, u)) :
    -- What is left once all that refuses a head is excluded: a name, blanks and what stands after them.
    (∃ text, mode.isArb = true ∧ rightBrace ∉ text ∧ t = atSign :: (text ++ rightBrace :: u) ∧
      found = .node (.literal text)) ∨
    (∃ argument lead c v, IsLead mode argument lead ∧ t = lead ++ c :: v ∧
      afterName mode whole argument c v = .ok (found, u)) := by
  unfold head at h
  dsimp only at h
  split at h
  · next hhead =>
      obtain ⟨hmode, hat⟩ := hhead
      obtain ⟨t, rfl⟩ : ∃ v, t = atSign :: v := ⟨t.tail, List.eq_cons_of_mem_head? hat⟩
      obtain ⟨⟨text, v⟩, hread, hok⟩ := exists_of_bind h
      cases hok
      rw [List.drop_one, List.tail_cons] at hread
      obtain ⟨rfl, hmem⟩ := upToClosing_ok_iff.mp hread
      exact .inl ⟨text, hmode, hmem, rfl, rfl⟩
  right
  split at h
  · cases h
  split at h
  · split at h <;> cases h
  next hne =>
  split at h
  · cases h
  next hname =>
  split at h
  · cases h
  next c v hv =>
  obtain ⟨lead, hlead, ht⟩ := Text.surrounded_of_read hv
  refine ⟨_, lead, c, v, ⟨⟨hne, fun _ => List.mem_takeWhile_imp, fun hmode => ?_⟩, hlead⟩, ht, h⟩
  simpa [hmode] using hname

/-! ## Placeholders and cases -/

/-- **A placeholder is a whole head, or the head of a choice, an offset and at least one case.** -/
theorem placeholder_cases {x : Context} {fuel : Nat} {whole : Text} {n : Node}
    (h : placeholder x (fuel + 1) whole t = .ok (n, u)) :
    head x.mode whole t = .ok (.node n, u) ∨
    (∃ kind argument v m w cs, head x.mode whole t = .ok (.cases kind argument, v) ∧
      offset kind v.stripStart = .ok (m, w) ∧
      cases (x.inside kind) kind argument whole.length fuel w = .ok (cs, u) ∧ cs ≠ [] ∧
      n = .choice kind argument m cs (readPart whole u)) := by
  rw [placeholder] at h
  obtain ⟨⟨found, v⟩, hread, h⟩ := exists_of_bind h
  cases found with
  | node n =>
      cases h
      exact .inl hread
  | cases kind argument =>
      obtain ⟨⟨m, w⟩, hoffset, h⟩ := exists_of_bind h
      obtain ⟨⟨cs, w'⟩, hcs, h⟩ := exists_of_bind h
      dsimp only at h
      split at h
      · cases h
      next hempty =>
      cases h
      exact .inr ⟨kind, argument, v, m, w, cs, hread, hoffset, hcs, by simpa using hempty, rfl⟩

/-- **Cases end at a closing brace, or start with a label and a body.** The reader takes whatever ends the body
for its brace. -/
theorem cases_cases {x : Context} {kind : ChoiceKind} {argument : Text} {start fuel : Nat}
    {cs : List (Text × List Node)} (h : cases x kind argument start (fuel + 1) t = .ok (cs, u)) :
    (∃ b, (∀ c ∈ b, c.isBlank = true) ∧ t = b ++ rightBrace :: u ∧ cs = []) ∨
    (∃ b word b' body inside d w more, (∀ c ∈ b, c.isBlank = true) ∧ IsLabel word ∧
      (∀ c ∈ b', c.isBlank = true) ∧ t = b ++ (word ++ (b' ++ leftBrace :: body)) ∧
      nodes x fuel body = .ok (inside, d :: w) ∧ cases x kind argument start fuel w = .ok (more, u) ∧
      cs = (word, inside) :: more) := by
  obtain ⟨b, hb, ht⟩ := Text.eq_stripStart t
  rw [cases] at h
  split at h
  · cases h
  next c v hv =>
  rw [hv] at ht
  split at h
  · next hc =>
      cases h
      exact .inl ⟨b, hb, by rw [ht, hc], rfl⟩
  -- There is a case: a label, its body up to whatever ends that, and the cases after it.
  obtain ⟨⟨word, body⟩, hlabel, h⟩ := exists_of_bind h
  obtain ⟨⟨inside, rest⟩, hbody, h⟩ := exists_of_bind h
  dsimp only at h hbody
  split at h
  · cases h
  next d w =>
  obtain ⟨⟨more, w'⟩, hmore, hok⟩ := exists_of_bind h
  cases hok
  obtain ⟨hword, b', hb', hstart⟩ := label_ok_iff.mp hlabel
  rw [hstart] at ht
  exact .inr ⟨b, word, b', body, inside, d, w, more, hb, hword, hb', ht, hbody, hmore, rfl⟩

/-! ## How a node was written -/

/-- The text that a node stands for in its template: literal text as it is read, a placeholder as it was
written. -/
def Node.written : Node → Text
  | .literal t => t
  | .pluralValue => [numberSign]
  | .simple _ _ _ raw => raw
  | .formatted _ _ _ raw => raw
  | .choice _ _ _ _ raw => raw

theorem afterComma_node {whole argument : Text} {n : Node}
    (h : afterComma mode whole argument t = .ok (.node n, u)) :
    n.argument? = some argument ∧ n.written = readPart whole u := by
  rcases afterComma_cases h with ⟨_, _, _, _, _, -, -, -, -, hn⟩ | ⟨k, lead, c, v, -, -, h⟩
  · cases hn
    exact ⟨rfl, rfl⟩
  · rcases afterKind_cases h with ⟨_, -, -, -, hn⟩ | ⟨_, _, -, -, -, hn⟩ | ⟨_, -, -, -, hn⟩
    all_goals cases hn
    all_goals exact ⟨rfl, rfl⟩

theorem afterName_node {whole argument : Text} {c : CodePoint} {n : Node}
    (h : afterName mode whole argument c t = .ok (.node n, u)) :
    n.argument? = some argument ∧ n.written = readPart whole u := by
  rcases afterName_cases h with ⟨-, -, hn⟩ | ⟨_, -, -, -, -, hn⟩ | ⟨-, h⟩
  · cases hn
    exact ⟨rfl, rfl⟩
  · cases hn
    exact ⟨rfl, rfl⟩
  · exact afterComma_node h

/-- **A placeholder without an at sign asks for an argument**, and keeps how it was written. -/
theorem placeholder_node {x : Context} {fuel : Nat} {whole : Text} {n : Node}
    (hat : x.mode.isArb = true → t.head? ≠ some atSign) (h : placeholder x fuel whole t = .ok (n, u)) :
    (∃ argument, n.argument? = some argument) ∧ n.written = readPart whole u := by
  cases fuel with
  | zero => cases h
  | succ fuel =>
      rcases placeholder_cases h with hread | ⟨kind, argument, _, _, _, _, -, -, -, -, rfl⟩
      · rcases head_cases hread with ⟨text, hmode, -, rfl, -⟩ | ⟨argument, lead, c, v, -, -, h⟩
        · exact absurd rfl (hat hmode)
        · obtain ⟨hargument, hwritten⟩ := afterName_node h
          exact ⟨⟨argument, hargument⟩, hwritten⟩
      · exact ⟨⟨argument, rfl⟩, rfl⟩

end Phrasebook.Template
