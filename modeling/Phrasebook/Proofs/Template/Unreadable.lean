import Phrasebook.Proofs.Template.Inversion

/-!
# Digits that write no number

Alignments and offsets are runs of digits in the sense in which superscripts are digits too. Such a run may write no
number, and there may be none at all after a minus sign (`WritesNothing`). One statement for each reader of a part of
a placeholder: this fault comes of such digits and of nothing else, and they never get through.
-/

namespace Phrasebook

/-- A text writes no number in decimal notation exactly if one of its code points has no decimal value. -/
theorem decimalNumber?_eq_none_iff {t : Text} : decimalNumber? t = none ↔ ∃ c ∈ t, c.digitValue? = none := by
  induction t using List.reverseRecOn with
  | nil => simp [decimalNumber?]
  | append_singleton t c ih =>
      rw [decimalNumber?_append]
      cases hnumber : decimalNumber? t with
      | none =>
          obtain ⟨d, hd, hvalue⟩ := ih.mp hnumber
          exact iff_of_true rfl ⟨d, List.mem_append_left [c] hd, hvalue⟩
      | some n =>
          have hall : ¬∃ d ∈ t, d.digitValue? = none := by
            rw [← ih, hnumber]
            exact Option.some_ne_none n
          cases hlast : c.digitValue? with
          | none => exact iff_of_true rfl ⟨c, by simp, hlast⟩
          | some m =>
              refine iff_of_false (Option.some_ne_none _) ?_
              rintro ⟨d, hd, hvalue⟩
              rcases List.mem_append.mp hd with hd | hd
              · exact hall ⟨d, hd, hvalue⟩
              · rw [List.mem_singleton.mp hd, hlast] at hvalue
                cases hvalue

namespace Template

variable {mode : Mode} {start : Nat} {t u : Text} {kind : ChoiceKind} {argument : Text}

/-- **`WritesNothing digits`**: there are none, there are too many, or one of them has no decimal value. -/
def WritesNothing (digits : Text) : Prop :=
  digits = [] ∨ Count.digitLimit < digits.length ∨ ∃ c ∈ digits, c.digitValue? = none

/-- Digits write a number or nothing. -/
theorem readNumber_eq_error {digits : Text} {e : Fault} :
    readNumber digits = .error e ↔ WritesNothing digits ∧ e = .unreadableNumber := by
  -- What the guard of the reader catches is the first two ways of writing nothing.
  have hwrites : WritesNothing digits ↔ ∃ o, Count.ofDigits digits = .error o := by
    unfold WritesNothing
    rw [← decimalNumber?_eq_none_iff, ← or_assoc, Count.ofDigits]
    by_cases hguard : (digits.isEmpty || decide (digits.length > Count.digitLimit)) = true
    · rw [if_pos hguard]
      rw [Bool.or_eq_true, List.isEmpty_iff, decide_eq_true_eq] at hguard
      exact iff_of_true (.inl hguard) ⟨_, rfl⟩
    · rw [if_neg hguard]
      rw [Bool.or_eq_true, List.isEmpty_iff, decide_eq_true_eq] at hguard
      cases hnumber : decimalNumber? digits with
      | none => exact iff_of_true (.inr rfl) ⟨_, rfl⟩
      | some n =>
          refine iff_of_false ?_ ?_
          · rintro (hlimit | hnone)
            · exact hguard hlimit
            · cases hnone
          · rintro ⟨o, ho⟩
            cases ho
  rw [hwrites, readNumber]
  constructor
  · intro h
    cases hnumber : Count.ofDigits digits with
    | ok n =>
        rw [hnumber] at h
        cases h
    | error o =>
        rw [hnumber] at h
        exact ⟨⟨o, rfl⟩, (Except.error.inj h).symm⟩
  · rintro ⟨⟨o, ho⟩, rfl⟩
    rw [ho]
    rfl

/-! ## Readers that read no number -/

theorem closing_ne : closing start t ≠ .error .unreadableNumber := by
  unfold closing
  split
  · exact fun h => by cases h
  · split <;> exact fun h => by cases h

theorem upToClosing_ne : upToClosing start t ≠ .error .unreadableNumber := by
  unfold upToClosing
  split <;> exact fun h => by cases h

theorem patternFrom_ne {skip : Nat} : patternFrom start skip t ≠ .error .unreadableNumber := by
  induction t generalizing skip with
  | nil => exact fun h => by cases skip <;> cases h
  | cons c t ih =>
      cases skip with
      | succ skip => exact ih
      | zero =>
          rw [patternFrom]
          intro h
          split at h
          · split at h
            · rcases failed_of_bind h with h | ⟨_, -, h⟩
              · exact ih h
              · cases h
            · cases h
          · rcases failed_of_bind h with h | ⟨_, -, h⟩
            · exact ih h
            · cases h

theorem style_ne : style start t ≠ .error .unreadableNumber := by
  unfold style
  dsimp only
  intro h
  split at h
  · rcases failed_of_bind h with h | ⟨_, -, h⟩
    · exact patternFrom_ne h
    rcases failed_of_bind h with h | ⟨_, -, h⟩
    · exact closing_ne h
    · cases h
  · rcases failed_of_bind h with h | ⟨_, -, h⟩
    · exact upToClosing_ne h
    · cases h

theorem label_ne : label kind argument start t ≠ .error .unreadableNumber := by
  unfold label
  dsimp only
  intro h
  split at h
  · cases h
  split at h
  · cases h
  · split at h <;> cases h

theorem alignmentTail_ne : alignmentTail start t ≠ .error .unreadableNumber := by
  cases t with
  | nil => exact fun h => by cases h
  | cons c t =>
      rw [alignmentTail]
      intro h
      split at h
      · rcases failed_of_bind h with h | ⟨_, -, h⟩
        · exact upToClosing_ne h
        · cases h
      · rcases failed_of_bind h with h | ⟨_, -, h⟩
        · exact closing_ne h
        · cases h

theorem afterKind_ne {whole : Text} {k : FormatKind ⊕ ChoiceKind} {c : CodePoint} :
    afterKind whole argument k c t ≠ .error .unreadableNumber := by
  unfold afterKind
  intro h
  split at h
  · cases k <;> cases h
  split at h
  · cases k with
    | inl kind =>
        rcases failed_of_bind h with h | ⟨_, -, h⟩
        · exact style_ne h
        · cases h
    | inr kind => cases h
  · cases h

/-! ## Alignments and offsets -/

/-- **`AlignsToNothing t`**: an alignment whose digits write nothing. Without a minus sign there are some. -/
def AlignsToNothing (t : Text) : Prop :=
  ∃ negative digits tail, t = signed negative digits ++ tail ∧ (∀ c ∈ digits, c.isDigit = true) ∧
    Text.Stops CodePoint.isDigit tail ∧ (digits = [] → negative = true) ∧ WritesNothing digits

theorem alignment_eq_unreadable_iff {c : CodePoint} (hc : (c.isDigit || c = '-') = true) :
    alignment start (c :: t) = .error .unreadableNumber ↔ AlignsToNothing (c :: t) := by
  constructor
  · intro h
    obtain ⟨negative, body, ht, hnegative, hbody⟩ := exists_signed (c :: t)
    have hdigits : ∀ d ∈ body.takeWhile CodePoint.isDigit, d.isDigit = true := fun _ => List.mem_takeWhile_imp
    have hstops := Text.stops_dropWhile CodePoint.isDigit body
    have hsign : body.takeWhile CodePoint.isDigit = [] → negative = true := by
      intro hnil
      by_contra hplain
      rw [if_neg hplain] at hbody
      rw [Bool.not_eq_true, hnegative, decide_eq_false_iff_not] at hplain
      have hdigit : c.isDigit = true := by
        rw [Bool.or_eq_true, decide_eq_true_eq] at hc
        exact hc.resolve_right fun hminus => hplain (by rw [hminus]; rfl)
      rw [hbody, List.takeWhile_cons_of_pos hdigit] at hnil
      cases hnil
    refine ⟨negative, _, _, ht, hdigits, hstops, hsign, ?_⟩
    by_cases hne : body.takeWhile CodePoint.isDigit = []
    · exact .inl hne
    · rw [ht, alignment_digits start negative hne hdigits hstops] at h
      rcases failed_of_bind h with h | ⟨n, -, h⟩
      · exact (readNumber_eq_error.mp h).1
      · rcases failed_of_bind h with h | ⟨_, -, h⟩
        · exact absurd h alignmentTail_ne
        · cases h
  · rintro ⟨negative, digits, tail, ht, hdigits, hstops, hsign, hnothing⟩
    rw [ht]
    by_cases hne : digits = []
    · -- The minus sign stands alone.
      rw [hsign hne, hne]
      have hminus : decide ((signed true [] ++ tail).head? = some '-') = true := rfl
      have hnone : tail.takeWhile CodePoint.isDigit = [] := Text.takeWhile_of_stops hstops
      have hbody : (signed true [] ++ tail).drop 1 = tail := rfl
      have hread : readNumber [] = .error .unreadableNumber := readNumber_eq_error.mpr ⟨.inl rfl, rfl⟩
      rw [alignment]
      simp only [hminus, if_true, hbody, hnone, hread]
      rfl
    · rw [alignment_digits start negative hne hdigits hstops, readNumber_eq_error.mpr ⟨hnothing, rfl⟩]
      rfl

/-- **`OffsetsByNothing kind t`**: an offset whose digits write nothing. -/
def OffsetsByNothing (kind : ChoiceKind) (t : Text) : Prop :=
  kind ≠ .select ∧ ∃ b digits tail, (∀ c ∈ b, c.isBlank = true) ∧ t = offsetWord ++ (b ++ (digits ++ tail)) ∧
    digits ≠ [] ∧ (∀ c ∈ digits, c.isDigit = true) ∧ Text.Stops CodePoint.isDigit tail ∧ WritesNothing digits

theorem offset_eq_unreadable_iff : offset kind t = .error .unreadableNumber ↔ OffsetsByNothing kind t := by
  constructor
  · intro h
    unfold offset at h
    by_cases hk : kind = .select
    · rw [if_pos hk] at h
      cases h
    rw [if_neg hk] at h
    split at h
    · cases h
    next r hword =>
    obtain rfl := Text.eq_of_dropLead? hword
    obtain ⟨b, digits, tail, hb, hdigits, hstops, hr, hrun, -⟩ := exists_digits r
    simp only [hrun] at h
    split at h
    · cases h
    next hne =>
    rcases failed_of_bind h with h | ⟨_, -, h⟩
    · exact ⟨hk, b, _, _, hb, congrArg (offsetWord ++ ·) hr, hne, hdigits, hstops,
        (readNumber_eq_error.mp h).1⟩
    · cases h
  · rintro ⟨hk, b, digits, tail, hb, rfl, hne, hdigits, hstops, hnothing⟩
    rw [offset_number hk hb hne hdigits hstops, readNumber_eq_error.mpr ⟨hnothing, rfl⟩]
    rfl

/-! ## Heads -/

/-- **`HeadAlignsToNothing mode t`**: after its opening brace a placeholder has a name, a comma and an alignment
whose digits write nothing. Only composite format has alignments. -/
def HeadAlignsToNothing (mode : Mode) (t : Text) : Prop :=
  ∃ argument lead b c v, IsLead mode argument lead ∧ (∀ d ∈ b, d.isBlank = true) ∧
    t = lead ++ comma :: (b ++ c :: v) ∧ StartsNumber mode c ∧ AlignsToNothing (c :: v)

theorem afterComma_eq_unreadable {whole : Text} (h : afterComma mode whole argument t = .error .unreadableNumber) :
    ∃ b c v, (∀ d ∈ b, d.isBlank = true) ∧ t = b ++ c :: v ∧ StartsNumber mode c ∧ AlignsToNothing (c :: v) := by
  have hwhole := h
  unfold afterComma at h
  dsimp only at h
  split at h
  · next hnumber =>
    obtain ⟨hmode, hany⟩ := hnumber
    obtain ⟨b, hb, ht⟩ := Text.eq_stripStart t
    cases hv : t.stripStart with
    | nil =>
        rw [hv] at hany
        cases hany
    | cons c v =>
        rw [hv] at hany h ht
        rcases failed_of_bind h with h | ⟨_, -, h⟩
        · exact ⟨b, c, v, hb, ht, ⟨hmode, hany⟩, (alignment_eq_unreadable_iff hany).mp h⟩
        · cases h
  · next hnumber =>
    split at h
    · cases h
    next k hk =>
    split at h
    · cases h
    next c v hv =>
    -- After the word for a kind no number is read.
    rw [afterComma_eq_afterKind whole argument hnumber hk hv] at hwhole
    exact absurd hwhole afterKind_ne

/-- What is wrong with a head is wrong after its name, if it is not the name itself. -/
theorem head_eq_unreadable {whole : Text} (h : head mode whole t = .error .unreadableNumber) :
    ∃ argument lead c v, IsLead mode argument lead ∧ t = lead ++ c :: v ∧
      afterName mode whole argument c v = .error .unreadableNumber := by
  unfold head at h
  dsimp only at h
  split at h
  · rcases failed_of_bind h with h | ⟨_, -, h⟩
    · exact absurd h upToClosing_ne
    · cases h
  split at h
  · cases h
  split at h
  · split at h <;> cases h
  next hne =>
  split at h
  · cases h
  next hname =>
  split at h
  · cases h
  next c v hv =>
  obtain ⟨lead, hlead, ht⟩ := Text.surrounded_of_read hv
  refine ⟨_, lead, c, v, ⟨⟨hne, fun _ => List.mem_takeWhile_imp, fun hmode => ?_⟩, hlead⟩, ht, h⟩
  simpa [hmode] using hname

/-- **The head of a placeholder is refused for its digits exactly if it aligns to nothing.** -/
theorem head_eq_unreadable_iff {whole : Text} :
    head mode whole t = .error .unreadableNumber ↔ HeadAlignsToNothing mode t := by
  constructor
  · intro h
    obtain ⟨argument, lead, c, v, hlead, ht, hname⟩ := head_eq_unreadable h
    unfold afterName at hname
    split at hname
    · cases hname
    split at hname
    · rcases failed_of_bind hname with hformat | ⟨_, -, hok⟩
      · exact absurd hformat upToClosing_ne
      · cases hok
    split at hname
    · next hcomma =>
      obtain ⟨b, d, w, hb, rfl, hd, hnothing⟩ := afterComma_eq_unreadable hname
      rw [ht, hcomma]
      exact ⟨argument, lead, b, d, w, hlead, hb, rfl, hd, hnothing⟩
    · cases hname
  · rintro ⟨argument, lead, b, c, v, hlead, hb, rfl, hc, hnothing⟩
    rw [head_lead hlead (by decide) (by decide), afterName, if_neg (by decide), if_neg (by simp [CodePoint.ofChar_inj]),
      if_pos rfl, afterComma_number whole argument hb hc, (alignment_eq_unreadable_iff hc.2).mpr hnothing]
    rfl

/-- **`OpensChoice mode kind argument t u`**: after its opening brace a placeholder has a name, the word for a choice
and a comma after each, and `u` follows. -/
def OpensChoice (mode : Mode) (kind : ChoiceKind) (argument t u : Text) : Prop :=
  ∃ lead word, IsLead mode argument lead ∧ IsWord mode (.inr kind) word ∧ t = lead ++ comma :: (word ++ comma :: u)

theorem head_choice_iff {whole : Text} :
    head mode whole t = .ok (.cases kind argument, u) ↔ OpensChoice mode kind argument t u := by
  constructor
  · intro h
    -- Everything else that a head can be is a node.
    rcases head_cases h with ⟨_, -, -, -, hnode⟩ | ⟨argument', lead, c, v, hlead, ht, hname⟩
    · cases hnode
    rcases afterName_cases hname with ⟨-, -, hnode⟩ | ⟨_, -, -, -, -, hnode⟩ | ⟨hc, hcomma⟩
    · cases hnode
    · cases hnode
    rcases afterComma_cases hcomma with ⟨_, _, _, _, _, -, -, -, -, hnode⟩ | ⟨k, word, d, w, hword, hv, hkind⟩
    · cases hnode
    rcases afterKind_cases hkind with ⟨_, -, -, -, hnode⟩ | ⟨_, _, -, -, -, hnode⟩ | ⟨kind', hk, hd, hw, hchoice⟩
    · cases hnode
    · cases hnode
    · cases hchoice
      rw [ht, hc, hv, hd, hw]
      rw [hk] at hword
      exact ⟨lead, word, hlead, hword, rfl⟩
  · rintro ⟨lead, word, hlead, hword, rfl⟩
    rw [head_lead hlead (by decide) (by decide), afterName, if_neg (by decide), if_neg (by simp [CodePoint.ofChar_inj]),
      if_pos rfl, afterComma_word whole argument hword (by decide) (by decide), afterKind, if_neg (by decide),
      if_pos rfl]

end Template

end Phrasebook
