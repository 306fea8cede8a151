import Phrasebook.Proofs.Template.Inversion

/-!
# Readers that take the same whatever follows

One statement for each reader of a part of a placeholder: from the fact that the reader has come through to
the piece of text that it has taken, and that it takes this piece in the same way before any other text. The
readers do look ahead, for a closing brace, a second quote or the end of a name; what they look at always
belongs to what they take.

How a placeholder was written is part of what is read, so the readers of heads are told what stands
before their place (`before`). They take that for the beginning of the placeholder and use it for nothing
else.
-/

namespace Phrasebook.Template

variable {mode : Mode} {t u : Text}

/-- What was read is what stands before the rest. -/
theorem readPart_append (t rest : Text) : readPart (t ++ rest) rest = t := by
  rw [readPart, List.length_append, Nat.add_sub_cancel, List.take_left]

theorem readPart_before (before v w : Text) : readPart (before ++ (v ++ w)) w = before ++ v := by
  rw [← List.append_assoc, readPart_append]

/-! ## Styles and alignments -/

/-- **A style is read the same whatever follows its placeholder.** -/
theorem style_apart {start : Nat} {s : Style} (h : style start t = .ok (s, u)) :
    ∃ v, t = v ++ u ∧ ∀ start w, style start (v ++ w) = .ok (s, w) := by
  rcases style_cases h with ⟨b, p, b', hb, hb', rfl, rfl⟩ | ⟨b, text, hb, hmem, hquote, hfirst, rfl, rfl⟩
  · refine ⟨b ++ (quoted (escaped p) ++ (b' ++ [rightBrace])), by simp, fun start w => ?_⟩
    have hread := style_pattern hb hb' p start w
    simpa using hread
  · refine ⟨b ++ (text ++ [rightBrace]), by simp, fun start w => ?_⟩
    have hread := style_named hb hmem hquote hfirst start w
    simpa using hread

/-- What follows the digits of an alignment starts with the piece that is taken of it. -/
theorem alignmentTail_apart {start : Nat} {format : Option Text} (h : alignmentTail start t = .ok (format, u)) :
    ∃ v, v ≠ [] ∧ t = v ++ u ∧ ∀ start w, alignmentTail start (v ++ w) = .ok (format, w) := by
  rcases alignmentTail_cases h with ⟨f, rfl, hmem, rfl⟩ | ⟨b, hb, rfl, rfl⟩
  · refine ⟨printFormat (some f) ++ [rightBrace], by simp, by simp, fun start w => ?_⟩
    have hread : alignmentTail start (printFormat (some f) ++ rightBrace :: w) = .ok (some f, w) :=
      alignmentTail_format start (by simpa using hmem) w
    simpa using hread
  · refine ⟨b ++ [rightBrace], by simp, by simp, fun start w => ?_⟩
    have hread := alignmentTail_blank hb start w
    simpa using hread

/-- **An alignment is read the same whatever follows its placeholder.** -/
theorem alignment_apart {start : Nat} {n : Int} {format : Option Text}
    (h : alignment start t = .ok ((n, format), u)) :
    ∃ v, t = v ++ u ∧ v ≠ [] ∧ ∀ start w, alignment start (v ++ w) = .ok ((n, format), w) := by
  obtain ⟨negative, digits, tail, m, hne, hdigits, hstops, rfl, hnumber, rfl, htail⟩ := alignment_cases h
  obtain ⟨v, hv, rfl, hread⟩ := alignmentTail_apart htail
  refine ⟨signed negative digits ++ v, by rw [List.append_assoc], by simp [hv], fun start w => ?_⟩
  rw [Text.stops_append hv] at hstops
  rw [List.append_assoc, alignment_digits start negative hne hdigits ((Text.stops_append hv w).mpr hstops),
    hnumber]
  simp only [bind, Except.bind, hread]
  rfl

/-! ## Heads -/

theorem afterKind_apart {before argument : Text} {k : FormatKind ⊕ ChoiceKind} {c : CodePoint} {found : Head}
    (h : afterKind (before ++ t) argument k c t = .ok (found, u)) :
    ∃ v, t = v ++ u ∧ ∀ w, afterKind (before ++ (v ++ w)) argument k c (v ++ w) = .ok (found, w) := by
  rcases afterKind_cases h with ⟨kind, rfl, rfl, rfl, rfl⟩ | ⟨kind, s, rfl, rfl, hread, rfl⟩ |
    ⟨kind, rfl, rfl, rfl, rfl⟩
  · refine ⟨[], rfl, fun w => ?_⟩
    rw [afterKind, if_pos rfl]
    simp only [readPart_append, List.nil_append]
  · obtain ⟨v, rfl, hpiece⟩ := style_apart hread
    refine ⟨v, rfl, fun w => ?_⟩
    rw [afterKind, if_neg (by decide), if_pos rfl]
    simp only [hpiece, bind, Except.bind, readPart_before]
    rfl
  · exact ⟨[], rfl, fun w => rfl⟩

/-- A head that has come through after the word for a kind has met a brace or a comma. -/
theorem afterKind_ends {whole argument : Text} {k : FormatKind ⊕ ChoiceKind} {c : CodePoint} {found : Head}
    (h : afterKind whole argument k c t = .ok (found, u)) : isNamePoint c = false ∧ c.isBlank = false := by
  rcases afterKind_cases h with ⟨_, -, rfl, -⟩ | ⟨_, _, -, rfl, -⟩ | ⟨_, -, rfl, -⟩
  all_goals decide

theorem afterComma_apart {before argument : Text} {found : Head}
    (h : afterComma mode (before ++ t) argument t = .ok (found, u)) :
    ∃ v, t = v ++ u ∧ ∀ w, afterComma mode (before ++ (v ++ w)) argument (v ++ w) = .ok (found, w) := by
  rcases afterComma_cases h with ⟨b, c, v, n, format, hb, rfl, hc, hread, rfl⟩ |
    ⟨k, lead, c, v, hlead, rfl, h⟩
  · obtain ⟨p, hp, hne, hpiece⟩ := alignment_apart hread
    refine ⟨b ++ p, by rw [List.append_assoc, hp], fun w => ?_⟩
    obtain ⟨p, rfl⟩ : ∃ q, p = c :: q := by
      obtain ⟨d, q, rfl⟩ := List.exists_cons_of_ne_nil hne
      exact ⟨q, by rw [(List.cons.inj hp).1]⟩
    -- What a node keeps of its own text is what was read, whatever comes after it.
    have hraw : ∀ w : Text, readPart (before ++ (b ++ (c :: p ++ w))) w = before ++ (b ++ c :: p) := by
      intro w
      rw [← List.append_assoc b, readPart_before]
    rw [List.append_assoc, List.cons_append, afterComma_number _ argument hb hc, ← List.cons_append, hpiece,
      hp, hraw]
    simp only [bind, Except.bind, hraw]
    rfl
  · obtain ⟨hname, hblank⟩ := afterKind_ends h
    have hbefore : ∀ v, before ++ (lead ++ c :: v) = (before ++ (lead ++ [c])) ++ v := by simp
    rw [hbefore] at h
    obtain ⟨v, rfl, hpiece⟩ := afterKind_apart h
    refine ⟨lead ++ c :: v, by simp, fun w => ?_⟩
    rw [List.append_assoc, List.cons_append, afterComma_word _ argument hlead hname hblank, hbefore]
    exact hpiece w

theorem afterName_apart {before argument : Text} {c : CodePoint} {found : Head}
    (h : afterName mode (before ++ t) argument c t = .ok (found, u)) :
    ∃ v, t = v ++ u ∧ ∀ w, afterName mode (before ++ (v ++ w)) argument c (v ++ w) = .ok (found, w) := by
  rcases afterName_cases h with ⟨rfl, rfl, rfl⟩ | ⟨format, rfl, rfl, hmem, rfl, rfl⟩ | ⟨rfl, h⟩
  · refine ⟨[], rfl, fun w => ?_⟩
    rw [afterName, if_pos rfl]
    simp only [readPart_append, List.nil_append]
  · have hsplit : ∀ w : Text, format ++ rightBrace :: w = (format ++ [rightBrace]) ++ w := by simp
    refine ⟨format ++ [rightBrace], hsplit u, fun w => ?_⟩
    rw [afterName, if_neg (by decide), if_pos ⟨rfl, rfl⟩, ← hsplit w, upToClosing_append hmem, hsplit u,
      hsplit w]
    simp only [bind, Except.bind, readPart_before]
    rfl
  · obtain ⟨v, ht, hpiece⟩ := afterComma_apart h
    refine ⟨v, ht, fun w => ?_⟩
    rw [← hpiece w, afterName, if_neg (by decide), if_neg (fun hc => absurd hc.1 (by decide)), if_pos rfl]

theorem afterName_ends {whole argument : Text} {c : CodePoint} {found : Head}
    (h : afterName mode whole argument c t = .ok (found, u)) : isNamePoint c = false ∧ c.isBlank = false := by
  rcases afterName_cases h with ⟨rfl, -⟩ | ⟨_, rfl, -⟩ | ⟨rfl, -⟩
  all_goals decide

/-- **A head is read the same whatever follows it**: up to the closing brace, or up to the cases. -/
theorem head_apart (before : Text) {found : Head} (h : head mode (before ++ t) t = .ok (found, u)) :
    ∃ v, t = v ++ u ∧ ∀ w, head mode (before ++ (v ++ w)) (v ++ w) = .ok (found, w) := by
  rcases head_cases h with ⟨text, hmode, hmem, rfl, rfl⟩ | ⟨argument, lead, c, v, hlead, rfl, h⟩
  · refine ⟨atSign :: (text ++ [rightBrace]), by simp, fun w => ?_⟩
    have hsplit : atSign :: (text ++ [rightBrace]) ++ w = atSign :: (text ++ rightBrace :: w) := by simp
    rw [hsplit, head, if_pos ⟨hmode, rfl⟩, List.drop_one, List.tail_cons, upToClosing_append hmem]
    rfl
  · obtain ⟨hname, hblank⟩ := afterName_ends h
    have hbefore : ∀ v, before ++ (lead ++ c :: v) = (before ++ (lead ++ [c])) ++ v := by simp
    rw [hbefore] at h
    obtain ⟨v, rfl, hpiece⟩ := afterName_apart h
    refine ⟨lead ++ c :: v, by simp, fun w => ?_⟩
    rw [List.append_assoc, List.cons_append, head_lead hlead hname hblank, hbefore]
    exact hpiece w

/-! ## Offsets -/

/-- **An offset is read the same whatever follows the cases**, as soon as these hold a brace: then the word
before an offset cannot come to be there by what follows. -/
theorem offset_apart {kind : ChoiceKind} {n : Nat} {v : Text} (h : offset kind t = .ok (n, v ++ u))
    (hbrace : rightBrace ∈ v) :
    ∃ p, t = p ++ (v ++ u) ∧ ∀ w, offset kind (p ++ (v ++ w)) = .ok (n, v ++ w) := by
  have hv : v ≠ [] := List.ne_nil_of_mem hbrace
  rcases offset_cases h with ⟨rfl, rfl, hnone⟩ | ⟨hk, b, digits, hb, hne, hdigits, hstops, rfl, hnumber⟩
  · refine ⟨[], rfl, fun w => ?_⟩
    rcases hnone with hk | hword
    · rw [offset, if_pos hk]
      rfl
    · rw [List.nil_append, offset, ← offsetWord, Text.dropLead?_eq_none hbrace (by decide) hword w, ite_self]
  · refine ⟨offsetWord ++ (b ++ digits), by simp, fun w => ?_⟩
    rw [Text.stops_append hv] at hstops
    rw [List.append_assoc, List.append_assoc,
      offset_number hk hb hne hdigits ((Text.stops_append hv w).mpr hstops), hnumber]
    rfl

/-- White space before an offset, or before cases without one, is passed over in the same way, too. -/
theorem offset_stripStart_apart {kind : ChoiceKind} {n : Nat} {v : Text}
    (h : offset kind t.stripStart = .ok (n, v ++ u)) (hbrace : rightBrace ∈ v) :
    ∃ q, t = q ++ (v ++ u) ∧ ∀ w, offset kind (Text.stripStart (q ++ (v ++ w))) = .ok (n, v ++ w) := by
  obtain ⟨b, hb, ht⟩ := Text.eq_stripStart t
  have hstops : Text.Stops CodePoint.isBlank t.stripStart := Text.stops_dropWhile CodePoint.isBlank t
  obtain ⟨p, hp, hpiece⟩ := offset_apart h hbrace
  have hne : p ++ v ≠ [] := List.append_ne_nil_of_right_ne_nil p (List.ne_nil_of_mem hbrace)
  rw [hp] at ht hstops
  rw [← List.append_assoc, Text.stops_append hne] at hstops
  refine ⟨b ++ p, by rw [ht, List.append_assoc], fun w => ?_⟩
  have hstart : Text.stripStart (b ++ (p ++ (v ++ w))) = p ++ (v ++ w) := by
    rw [Text.stripStart_append hb, ← List.append_assoc,
      Text.stripStart_of_stops ((Text.stops_append hne w).mpr hstops)]
  rw [List.append_assoc, hstart, hpiece]

end Phrasebook.Template
