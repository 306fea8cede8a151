import Phrasebook.Proofs.Outcome
import Phrasebook.Proofs.Template.Inversion
import Phrasebook.Proofs.Template.Passage
import Phrasebook.Proofs.Text.LineColumn
import Phrasebook.Template.Scan

/-!
# Where a template is malformed

A reader names the place of a fault by how much of the text is left there, and hands that on from placeholder to
placeholder as the place of an opening brace. `StaysIn w left r` says that neither goes astray: what a reader leaves
is an end part of the text `w`, and if it fails, what is left at the fault is one, too, and starts with what the fault
is about. There is one statement for each reader, then one induction on the fuel for nodes, placeholders and cases.

So a fault is reported at an offset of the text, with the line and the column of that offset
(`malformed_located`).
-/

namespace Phrasebook.Template

variable {α β : Type} {mode : Mode} {start : Nat} {w t u : Text} {kind : ChoiceKind} {argument : Text}

/-! ## Places -/

/-- **`p.StandsAt u`**: the problem `p` can be that of a place from which on `u` is left. -/
def Problem.StandsAt : Problem → Text → Prop
  | unmatchedClosing, u => u.head? = some rightBrace
  | unclosedOpening, u | emptyPlaceholder, u => u.head? = some leftBrace
  | unexpected found, u => found = next u
  | _, _ => True

/-- **`IsPlace w left p`**: when `left` code points are left, `w` has the problem `p`. -/
def IsPlace (w : Text) (left : Nat) (p : Problem) : Prop := ∃ u, u <:+ w ∧ u.length = left ∧ p.StandsAt u

/-- A fault that names a place names one of the text `w`. -/
def Fault.IsIn (w : Text) : Fault → Prop
  | malformed p left => IsPlace w left p
  | invalidName _ | unreadableNumber => True

/-- **`StaysIn w left r`**: a reader that has come through leaves an end part of `w`, and one that has failed has found
a fault of `w`. -/
def StaysIn (w : Text) (left : α → Text) : Except Fault α → Prop
  | .ok a => left a <:+ w
  | .error f => f.IsIn w

/-- When `start` code points are left, `w` has an opening brace. -/
abbrev IsOpening (w : Text) (start : Nat) : Prop := IsPlace w start .unclosedOpening

namespace StaysIn

variable {left : α → Text} {left' : β → Text} {r : Except Fault α} {f : α → Except Fault β}

theorem failsWith (h : StaysIn w left r) : FailsWith (Fault.IsIn w) r := by
  rintro e rfl
  exact h

/-- A sequence stays in the text if its steps do. -/
theorem bind (hr : StaysIn w left r) (hf : ∀ a, left a <:+ w → StaysIn w left' (f a)) :
    StaysIn w left' (r >>= f) := by
  cases r with
  | error e => exact hr
  | ok a => exact hf a hr

/-- It does not matter what a step that fails for no place has read. -/
theorem after (hr : FailsWith (Fault.IsIn w) r) (hf : ∀ a, StaysIn w left' (f a)) : StaysIn w left' (r >>= f) := by
  cases r with
  | error e => exact hr e rfl
  | ok a => exact hf a

end StaysIn

theorem IsPlace.of_cons {c : CodePoint} {p : Problem} (h : c :: t <:+ w) (hp : p.StandsAt (c :: t)) :
    IsPlace w (t.length + 1) p := ⟨c :: t, h, rfl, hp⟩

theorem suffix_stripStart (t : Text) : t.stripStart <:+ t := List.dropWhile_suffix CodePoint.isBlank

theorem suffix_of_stripStart (ht : t <:+ w) (h : t.stripStart = u) : u <:+ w :=
  h ▸ (suffix_stripStart t).trans ht

theorem suffix_tail {c : CodePoint} (h : c :: t <:+ w) : t <:+ w := (List.suffix_cons c t).trans h

/-! ## Parts of placeholders -/

theorem readNumber_located (digits : Text) : FailsWith (Fault.IsIn w) (readNumber digits) := by
  rw [readNumber]
  refine FailsWith.mapError fun e _ => ?_
  trivial

theorem closing_staysIn (hstart : IsOpening w start) (ht : t <:+ w) : StaysIn w id (closing start t) := by
  unfold closing
  split
  · exact hstart
  next c v hv =>
  have hv : c :: v <:+ w := suffix_of_stripStart ht hv
  split
  · exact suffix_tail hv
  · exact .of_cons hv rfl

theorem upToClosing_staysIn (hstart : IsOpening w start) (ht : t <:+ w) :
    StaysIn w Prod.snd (upToClosing start t) := by
  cases h : upToClosing start t with
  | ok p =>
      obtain ⟨text, u⟩ := p
      obtain ⟨rfl, -⟩ := upToClosing_ok_iff.mp h
      exact suffix_tail ((List.suffix_append text _).trans ht)
  | error f =>
      unfold upToClosing at h
      split at h
      · cases h
      · obtain rfl := Except.error.inj h
        exact hstart

theorem patternFrom_staysIn {skip : Nat} (hstart : IsOpening w start) (ht : t <:+ w) :
    StaysIn w Prod.snd (patternFrom start skip t) := by
  induction t generalizing skip with
  | nil => cases skip <;> exact hstart
  | cons c t ih =>
      have ht := suffix_tail ht
      cases skip with
      | succ skip => exact ih ht
      | zero =>
          rw [patternFrom]
          split
          · split
            · exact (ih ht).bind fun _ hv => hv
            · exact ht
          · exact (ih ht).bind fun _ hv => hv

theorem style_staysIn (hstart : IsOpening w start) (ht : t <:+ w) : StaysIn w Prod.snd (style start t) := by
  have ht : t.stripStart <:+ w := (suffix_stripStart t).trans ht
  unfold style
  dsimp only
  split
  · refine (patternFrom_staysIn hstart ((List.drop_suffix 1 _).trans ht)).bind fun _ hv => ?_
    exact (closing_staysIn hstart hv).bind fun _ hu => hu
  · exact (upToClosing_staysIn hstart ht).bind fun _ hv => hv

theorem alignment_staysIn (hstart : IsOpening w start) (ht : t <:+ w) :
    StaysIn w Prod.snd (alignment start t) := by
  unfold alignment
  dsimp only
  have hbody : (if decide (t.head? = some '-') = true then t.drop 1 else t) <:+ w := by
    split
    · exact (List.drop_suffix 1 t).trans ht
    · exact ht
  generalize (if decide (t.head? = some '-') = true then t.drop 1 else t) = body at hbody ⊢
  refine StaysIn.after (readNumber_located _) fun n => ?_
  split
  · next c v hv =>
    have hv : c :: v <:+ w := hv ▸ (List.drop_suffix _ body).trans hbody
    split
    · exact (upToClosing_staysIn hstart (suffix_tail hv)).bind fun _ hu => hu
    · exact (closing_staysIn hstart hv).bind fun _ hu => hu
  · exact hstart

theorem offset_staysIn (ht : t <:+ w) : StaysIn w Prod.snd (offset kind t) := by
  unfold offset
  split
  · exact ht
  next v hv =>
  have hv : v <:+ w := by
    split at hv
    · cases hv
    · rw [Text.eq_of_dropLead? hv] at ht
      exact (List.suffix_append _ v).trans ht
  have hv : v.stripStart <:+ w := (suffix_stripStart v).trans hv
  dsimp only
  split
  · exact ⟨_, hv, rfl, trivial⟩
  · exact StaysIn.after (readNumber_located _) fun n => (List.drop_suffix _ _).trans hv

theorem label_staysIn (hstart : IsOpening w start) (ht : t <:+ w) :
    StaysIn w Prod.snd (label kind argument start t) := by
  unfold label
  dsimp only
  split
  · exact ⟨t, ht, rfl, trivial⟩
  split
  · exact hstart
  next c v hv =>
  have hv : c :: v <:+ w := suffix_of_stripStart ((List.drop_suffix _ t).trans ht) hv
  split
  · exact suffix_tail hv
  · exact .of_cons hv trivial

/-! ## Heads -/

theorem afterComma_staysIn {whole : Text} (hstart : IsOpening w whole.length) (ht : t <:+ w) :
    StaysIn w Prod.snd (afterComma mode whole argument t) := by
  have ht : t.stripStart <:+ w := (suffix_stripStart t).trans ht
  unfold afterComma
  dsimp only
  split
  · exact (alignment_staysIn hstart ht).bind fun _ hv => hv
  have hword : t.stripStart.drop (name t.stripStart).length <:+ w := (List.drop_suffix _ _).trans ht
  split
  · exact ⟨_, hword, rfl, trivial⟩
  next k _ =>
  split
  · exact hstart
  next c v hv =>
  have hv : c :: v <:+ w := suffix_of_stripStart hword hv
  -- The placeholder may end after the name of a format, but not after that of a choice: its cases are missing.
  split
  · cases k with
    | inl kind => exact suffix_tail hv
    | inr kind => exact .of_cons hv trivial
  split
  · cases k with
    | inl kind => exact (style_staysIn hstart (suffix_tail hv)).bind fun _ hu => hu
    | inr kind => exact suffix_tail hv
  · exact .of_cons hv rfl

theorem head_staysIn {whole : Text} (hwhole : whole <:+ w) (hbrace : whole.head? = some leftBrace) (ht : t <:+ w) :
    StaysIn w Prod.snd (head mode whole t) := by
  have hstart : IsOpening w whole.length := ⟨whole, hwhole, rfl, hbrace⟩
  unfold head
  dsimp only
  split
  · exact (upToClosing_staysIn hstart ((List.drop_suffix 1 t).trans ht)).bind fun _ hv => hv
  split
  · exact hstart
  next c v hstrip =>
  have hv : c :: v <:+ w := suffix_of_stripStart ht hstrip
  rw [hstrip]
  -- Without a name the placeholder is empty, which is said of its brace, or something else stands in the name's place.
  split
  · split
    · exact ⟨whole, hwhole, rfl, hbrace⟩
    · exact .of_cons hv rfl
  split
  · trivial
  split
  · exact hstart
  next d u hu =>
  have hu : d :: u <:+ w := suffix_of_stripStart ((List.drop_suffix _ _).trans hv) hu
  split
  · exact suffix_tail hu
  split
  · exact (upToClosing_staysIn hstart (suffix_tail hu)).bind fun _ hr => hr
  split
  · exact afterComma_staysIn hstart (suffix_tail hu)
  · exact .of_cons hu rfl

/-! ## Nodes, placeholders and cases -/

/-- With `fuel` all readers stay in the text. -/
structure AllStayIn (w : Text) (fuel : Nat) : Prop where
  nodes : ∀ (x : Context) {t : Text}, t <:+ w → StaysIn w Prod.snd (nodes x fuel t)
  placeholder : ∀ (x : Context) {t : Text}, leftBrace :: t <:+ w →
    StaysIn w Prod.snd (placeholder x fuel (leftBrace :: t) t)
  cases : ∀ (x : Context) (kind : ChoiceKind) (argument : Text) {start : Nat} {t : Text}, IsOpening w start →
    t <:+ w → StaysIn w Prod.snd (cases x kind argument start fuel t)

theorem nodes_staysIn {fuel : Nat} (h : AllStayIn w fuel) (x : Context) (ht : t <:+ w) :
    StaysIn w Prod.snd (nodes x (fuel + 1) t) := by
  have hliteral : (literal x t).2 <:+ w := (literalFrom_suffix x 0 false t).trans ht
  rw [nodes]
  generalize literal x t = taken at hliteral ⊢
  obtain ⟨s, rest⟩ := taken
  dsimp only at hliteral ⊢
  cases rest with
  | nil => exact hliteral
  | cons c v =>
      dsimp only
      split
      · next hc =>
        split
        · exact hliteral
        · exact .of_cons hliteral (congrArg some hc)
      split
      · next hc =>
        rw [hc] at hliteral ⊢
        refine (h.placeholder x hliteral).bind fun _ hu => ?_
        exact (h.nodes x hu).bind fun _ hr => hr
      · exact (h.nodes x (suffix_tail hliteral)).bind fun _ hr => hr

theorem placeholder_staysIn {fuel : Nat} (h : AllStayIn w fuel) (x : Context) (ht : leftBrace :: t <:+ w) :
    StaysIn w Prod.snd (placeholder x (fuel + 1) (leftBrace :: t) t) := by
  have hstart : IsOpening w (leftBrace :: t).length := .of_cons ht rfl
  rw [placeholder]
  refine (head_staysIn ht rfl (suffix_tail ht)).bind fun p hu => ?_
  obtain ⟨found, u⟩ := p
  cases found with
  | node n => exact hu
  | cases kind argument =>
      refine (offset_staysIn ((suffix_stripStart u).trans hu)).bind fun _ hv => ?_
      refine (h.cases _ kind argument hstart hv).bind fun _ hr => ?_
      dsimp only
      split
      · exact ⟨_, ht, rfl, trivial⟩
      · exact hr

theorem cases_staysIn {fuel : Nat} (h : AllStayIn w fuel) (x : Context) (kind : ChoiceKind) (argument : Text)
    (hstart : IsOpening w start) (ht : t <:+ w) :
    StaysIn w Prod.snd (cases x kind argument start (fuel + 1) t) := by
  rw [cases]
  split
  · exact hstart
  next c v hv =>
  have hv : c :: v <:+ w := suffix_of_stripStart ht hv
  split
  · exact suffix_tail hv
  -- A body that does not end is blamed on its own brace and not on `start`, so where a label ends counts.
  cases hlabel : label kind argument start (c :: v) with
  | error f =>
      have hfault : StaysIn w Prod.snd (label kind argument start (c :: v)) := label_staysIn hstart hv
      rw [hlabel] at hfault
      exact hfault
  | ok p =>
      obtain ⟨word, body⟩ := p
      obtain ⟨-, b, -, hsplit⟩ := label_ok_iff.mp hlabel
      have hbrace : leftBrace :: body <:+ w := by
        rw [hsplit, ← List.append_assoc] at hv
        exact (List.suffix_append _ _).trans hv
      refine (h.nodes x (suffix_tail hbrace)).bind fun p hrest => ?_
      obtain ⟨inside, rest⟩ := p
      cases rest with
      | nil => exact .of_cons hbrace rfl
      | cons d u => exact (h.cases x kind argument hstart (suffix_tail hrest)).bind fun _ hr => hr

/-- **All readers stay in the text**, with any fuel. -/
theorem allStayIn (w : Text) (fuel : Nat) : AllStayIn w fuel := by
  induction fuel with
  | zero => exact ⟨fun _ _ ht => ht, fun _ _ ht => .of_cons ht rfl, fun _ _ _ _ _ hstart _ => hstart⟩
  | succ fuel ih => exact ⟨fun x _ => nodes_staysIn ih x, fun x _ => placeholder_staysIn ih x,
      fun x kind argument _ _ => cases_staysIn ih x kind argument⟩

theorem read_located (mode : Mode) (t : Text) : FailsWith (Fault.IsIn t) (read mode t) := by
  unfold read
  split
  · exact ((allStayIn t _).nodes _ List.suffix_rfl).failsWith.map _
  · exact .ok _

/-! ## The pass for placeholders -/

/-- The place that is remembered while braces are open is that of an opening brace. -/
theorem scanFrom_located {skip : Nat} {s : ScanState} (ht : t <:+ w) (hs : 0 < s.depth → IsOpening w s.opened) :
    FailsWith (Fault.IsIn w) (scanFrom mode skip s t) := by
  induction t generalizing skip s with
  | nil =>
      have hend : FailsWith (Fault.IsIn w)
          (if s.depth > 0 then .error (.malformed .unclosedOpening s.opened) else .ok s.found : Except Fault Bool) := by
        split
        · next hopen => exact .error (hs hopen)
        · exact .ok _
      cases skip <;> exact hend
  | cons c t ih =>
      have hrest := suffix_tail ht
      cases skip with
      | succ skip => exact ih hrest hs
      | zero =>
          -- Only an opening brace at depth zero changes the place that is remembered, and it becomes that of the
          -- brace.
          rw [scanFrom]
          split
          · exact ih hrest hs
          split
          · exact ih hrest hs
          split
          · exact ih hrest hs
          split
          · next hc =>
            refine ih hrest fun _ => ?_
            rw [ScanState.openBrace]
            dsimp only
            split
            · exact .of_cons ht (congrArg some hc)
            · next hdepth => exact hs (Nat.pos_of_ne_zero hdepth)
          split
          · next hc =>
            split
            · next hopen => exact ih hrest fun _ => hs hopen
            · exact .error (.of_cons ht (congrArg some hc))
          · exact ih hrest hs

theorem hasPlaceholders_located (mode : Mode) (t : Text) : FailsWith (Fault.IsIn t) (hasPlaceholders mode t) := by
  unfold hasPlaceholders
  split
  · exact scanFrom_located List.suffix_rfl fun h => absurd h (Nat.lt_irrefl 0)
  · exact .ok _

/-! ## Reports -/

/-- **`Locates t e`**: the error points at an offset of the text and gives its line and its column, which lead back to
it, and if it is about a brace that has no partner, that brace stands there. -/
structure Locates (t : Text) (e : TextError) : Prop where
  start_le : e.start ≤ t.length
  place : (e.line, e.column) = Text.lineColumn t e.start
  leads_back : Text.absolutePosition t e.line e.column = e.start
  opening : Text.startsWith e.message "Unclosed opening curly bracket" = true → t[e.start]? = some leftBrace
  closing : Text.startsWith e.message "Unmatched closing curly bracket" = true → t[e.start]? = some rightBrace

/-- No other problem starts with the words for a brace without a partner. -/
theorem Problem.eq_of_message {p q : Problem} (hq : q = unclosedOpening ∨ q = unmatchedClosing) {t : Text}
    (h : Text.startsWith (p.message ++ t) q.message = true) : p = q := by
  rcases hq with rfl | rfl
  · cases p with
    | unclosedOpening => rfl
    | _ => exact absurd h Bool.false_ne_true
  · cases p with
    | unmatchedClosing => rfl
    | _ => exact absurd h Bool.false_ne_true

/-- What is left at a place is what the text goes on with from its offset. -/
theorem getElem?_of_suffix (h : u <:+ t) : t[t.length - u.length]? = u.head? := by
  obtain ⟨v, rfl⟩ := h
  rw [List.length_append, Nat.add_sub_cancel, ← List.head?_drop, List.drop_left]

/-- **A problem is reported where it is.** -/
theorem IsPlace.locates {p : Problem} {left : Nat} (h : IsPlace t left p) : Locates t (p.inText t left) := by
  obtain ⟨u, hu, rfl, hstands⟩ := h
  have hle : t.length - u.length ≤ t.length := Nat.sub_le _ _
  obtain ⟨place, hmessage⟩ : ∃ place, (p.inText t u.length).message = p.message ++ place :=
    ⟨" at " ++ TextError.place (p.inText t u.length).line (p.inText t u.length).column ++ " in the text '" ++ t ++ "'",
      by simp [Problem.inText]⟩
  refine ⟨hle, rfl, Text.absolutePosition_lineColumn hle, fun hwords => ?_, fun hwords => ?_⟩
  all_goals rw [hmessage] at hwords
  · obtain rfl := Problem.eq_of_message (q := .unclosedOpening) (.inl rfl) hwords
    exact (getElem?_of_suffix hu).trans hstands
  · obtain rfl := Problem.eq_of_message (q := .unmatchedClosing) (.inr rfl) hwords
    exact (getElem?_of_suffix hu).trans hstands

theorem locates_of_reported {r : Except Fault α} {e : TextError} (hr : FailsWith (Fault.IsIn t) r)
    (h : r.mapError (Fault.inText t) = .error (.malformedTemplate e)) : Locates t e := by
  cases r with
  | ok a => cases h
  | error f =>
      cases f with
      | malformed p left =>
          obtain rfl := Failure.malformedTemplate.inj (Except.error.inj h)
          exact (hr _ rfl).locates
      | invalidName name => cases h
      | unreadableNumber => cases h

/-- **Malformed templates are refused at the right place.** The line and the column of an offset lead back to it, for
every offset of a text; and whenever the pass for placeholders or the reader of templates refuses a text as malformed,
the error is within the text, at an offset that its line and its column lead back to, and at the brace if that is what
it is about. -/
theorem malformed_located (t : Text) :
    (∀ n ≤ t.length, Text.absolutePosition t (Text.lineColumn t n).1 (Text.lineColumn t n).2 = n) ∧
      ∀ (mode : Mode) (e : TextError), containsPlaceholders mode t = .error (.malformedTemplate e) ∨
        parse mode t = .error (.malformedTemplate e) → Locates t e := by
  refine ⟨fun n hn => Text.absolutePosition_lineColumn hn, fun mode e h => ?_⟩
  rcases h with h | h
  · exact locates_of_reported (hasPlaceholders_located mode t) h
  · exact locates_of_reported (read_located mode t) h

/-- A body that does not end is blamed on its own brace, on the second line. -/
theorem malformed_located_body :
    let t : Text := "\x7bn, plural,\n other\x7bx"
    let e : TextError := ⟨"Unclosed opening curly bracket at 2:7 in the text '" ++ (t ++ "'"), 18, 18, 2, 7⟩
    18 ≤ t.length ∧ Text.absolutePosition t (Text.lineColumn t 18).1 (Text.lineColumn t 18).2 = 18 ∧
      parse .arb t = .error (.malformedTemplate e) ∧ Locates t e := by
  intro t e
  have hle : 18 ≤ t.length := by decide
  have hfault : (match parse .arb t with
      | .error (.malformedTemplate e') => decide (e' = e)
      | _ => false) = true := by decide +kernel
  have hparse : parse .arb t = .error (.malformedTemplate e) := by
    split at hfault
    · next hread => rw [hread, of_decide_eq_true hfault]
    · cases hfault
  exact ⟨hle, (malformed_located t).1 18 hle, hparse, (malformed_located t).2 .arb e (.inr hparse)⟩

end Phrasebook.Template
