import Phrasebook.Proofs.Template.Print
import Phrasebook.Template.Scan

/-!
# Matching braces

What the pass that finds placeholders accepts, said without its counters: `Matched` is a grammar of
texts whose braces match. It has one rule for each way in which the pass goes on, and an opening brace
is matched by what stands between it and its partner, not by how deep it is.

The way from the grammar to the pass is an induction on the grammar. The way back is an induction on the
length of the text, with as many open groups as the pass has counted (`MatchedOpen`).
-/

namespace Phrasebook.Template

variable {mode : Mode}

/-! ## The grammar -/

/-- A code point that has no meaning for the pass. -/
def IsPlain (mode : Mode) (c : CodePoint) : Prop :=
  c ≠ leftBrace ∧ c ≠ rightBrace ∧ (mode.isArb = true → c ≠ apostrophe)

instance (mode : Mode) (c : CodePoint) : Decidable (IsPlain mode c) :=
  inferInstanceAs (Decidable (_ ∧ _ ∧ _))

/-- **`Matched mode inside t`**: the braces of `t` match, where `inside` tells whether `t` stands within
braces. Quoted text counts in message format only and may stay open at the end; doubled braces count in
composite format only, and within braces two closing ones are no pair. -/
inductive Matched (mode : Mode) : (inside : Bool) → Text → Prop
  | nil (inside : Bool) : Matched mode inside []
  | plain {inside : Bool} {c : CodePoint} {t : Text} (hc : IsPlain mode c) (ht : Matched mode inside t) :
    Matched mode inside (c :: t)
  | quoted {inside : Bool} {u t : Text} (hmode : mode.isArb = true) (hu : apostrophe ∉ u)
    (ht : Matched mode inside t) : Matched mode inside (quoted u ++ t)
  | unfinished {u : Text} (hmode : mode.isArb = true) (hu : apostrophe ∉ u) :
    Matched mode false (apostrophe :: u)
  | doubled {inside : Bool} {c : CodePoint} {t : Text} (hmode : mode = .composite)
    (hc : c = leftBrace ∨ c = rightBrace ∧ inside = false) (ht : Matched mode inside t) :
    Matched mode inside (c :: c :: t)
  | group {inside : Bool} {t u : Text} (hhead : mode = .composite → t.head? ≠ some leftBrace)
    (ht : Matched mode true t) (hu : Matched mode inside u) : Matched mode inside (braced t ++ u)

/-! ## Single steps of the pass -/

section Steps

variable {s : ScanState}

theorem isScannedPair_of_head {c : CodePoint} {t : Text} (h : t.head? ≠ some c) (d : Nat) :
    isScannedPair mode d c t = false := by
  cases t with
  | nil => rfl
  | cons e t =>
      have he : c ≠ e := by
        rintro rfl
        exact h rfl
      simp [isScannedPair, he]

/-- Only some code points make a pair, whatever follows. -/
theorem isScannedPair_of_meaning {c : CodePoint} {d : Nat} (harb : mode = .arb → c ≠ apostrophe)
    (hcomposite : mode = .composite → c ≠ leftBrace ∧ (c = rightBrace → d ≠ 0)) (t : Text) :
    isScannedPair mode d c t = false := by
  cases t with
  | nil => rfl
  | cons e t =>
      cases mode with
      | arb => simp [isScannedPair, harb rfl]
      | composite =>
          obtain ⟨hleft, hright⟩ := hcomposite rfl
          simpa [isScannedPair, hleft] using fun _ => hright
      | _ => simp [isScannedPair]

/-- Plain code points are stepped over. -/
theorem scan_plain {c : CodePoint} (hc : IsPlain mode c) (t : Text) :
    scanFrom mode 0 s (c :: t) = scanFrom mode 0 s t := by
  obtain ⟨hleft, hright, hquote⟩ := hc
  have hpair : isScannedPair mode s.depth c t = false :=
    isScannedPair_of_meaning (fun h => hquote (by rw [h]; rfl)) (fun _ => ⟨hleft, fun h => absurd h hright⟩) t
  have htoggle : (mode.isArb && decide (c = apostrophe)) = false := by
    cases hm : mode.isArb with
    | false => rfl
    | true => simpa using hquote hm
  rw [scanFrom, hpair, htoggle]
  simp [hleft, hright]

/-- **In message format every apostrophe is a toggle**: a pair that is stepped over is two of them. -/
theorem scan_apostrophe (hmode : mode.isArb = true) (t : Text) :
    scanFrom mode 0 s (apostrophe :: t) = scanFrom mode 0 s.toggle t := by
  induction t generalizing s with
  | nil => simp [scanFrom, isScannedPair, hmode]
  | cons c t ih =>
      by_cases hpair : isScannedPair mode s.depth apostrophe (c :: t) = true
      · have hc : c = apostrophe := by
          simp only [isScannedPair, Bool.and_eq_true, decide_eq_true_eq] at hpair
          exact hpair.1.symm
        subst hc
        rw [ih, scanFrom, if_pos hpair, scanFrom]
        simp [ScanState.toggle]
      · rw [scanFrom, if_neg hpair]
        simp [hmode]

/-- Quoted text is stepped over. -/
theorem scan_quoted (hmode : mode.isArb = true) (hs : s.quoted = true) {u : Text}
    (hu : apostrophe ∉ u) (t : Text) : scanFrom mode 0 s (u ++ t) = scanFrom mode 0 s t := by
  induction u with
  | nil => rfl
  | cons c u ih =>
      rw [List.mem_cons, not_or] at hu
      have hc : c ≠ apostrophe := fun h => hu.1 h.symm
      have hpair : isScannedPair mode s.depth c (u ++ t) = false :=
        isScannedPair_of_meaning (fun _ => hc) (by rintro rfl; cases hmode) _
      rw [List.cons_append, scanFrom, hpair, ← ih hu.2]
      simp [hc, hs]

variable (hs : s.quoted = false)
include hs

/-- An opening brace that is not doubled is counted. -/
theorem scan_open {t : Text} (ht : mode = .composite → t.head? ≠ some leftBrace) :
    scanFrom mode 0 s (leftBrace :: t) = scanFrom mode 0 (s.openBrace (t.length + 1)) t := by
  have hpair : isScannedPair mode s.depth leftBrace t = false := by
    by_cases hmode : mode = .composite
    · exact isScannedPair_of_head (ht hmode) _
    · exact isScannedPair_of_meaning (fun _ => by decide) (fun h => absurd h hmode) t
  rw [scanFrom, hpair]
  simp [hs, CodePoint.ofChar_inj]

/-- Within braces, a closing brace is counted. -/
theorem scan_close (hd : 0 < s.depth) (t : Text) :
    scanFrom mode 0 s (rightBrace :: t) = scanFrom mode 0 s.closeBrace t := by
  have hpair : isScannedPair mode s.depth rightBrace t = false :=
    isScannedPair_of_meaning (fun _ => by decide) (fun _ => ⟨by decide, fun _ => Nat.ne_of_gt hd⟩) t
  rw [scanFrom, hpair]
  simp [hs, hd, CodePoint.ofChar_inj]

/-- Outside of braces, a closing brace that is not doubled is refused. -/
theorem scan_unmatched (hd : s.depth = 0) {t : Text}
    (ht : mode = .composite → t.head? ≠ some rightBrace) :
    scanFrom mode 0 s (rightBrace :: t) = .error (.malformed .unmatchedClosing (t.length + 1)) := by
  have hpair : isScannedPair mode s.depth rightBrace t = false := by
    by_cases hmode : mode = .composite
    · exact isScannedPair_of_head (ht hmode) _
    · exact isScannedPair_of_meaning (fun _ => by decide) (fun h => absurd h hmode) t
  rw [scanFrom, hpair]
  simp [hs, hd, CodePoint.ofChar_inj]

omit hs in
/-- In composite format, doubled braces are stepped over. -/
theorem scan_doubled (hmode : mode = .composite) {c : CodePoint}
    (hc : c = leftBrace ∨ c = rightBrace ∧ s.depth = 0) (t : Text) :
    scanFrom mode 0 s (c :: c :: t) = scanFrom mode 0 s t := by
  have hpair : isScannedPair mode s.depth c (c :: t) = true := by
    rcases hc with rfl | ⟨rfl, hd⟩ <;> simp [isScannedPair, *]
  rw [scanFrom, if_pos hpair, scanFrom]

end Steps

/-! ## From one place to another -/

/-- The pass stands outside of quoted text, within `d` braces. -/
def ScanState.IsAt (s : ScanState) (d : Nat) : Prop := s.quoted = false ∧ s.depth = d

/-- **`Passes mode d t e u`**: the pass over `t` within `d` braces goes on as the pass over `u` within
`e` braces. -/
def Passes (mode : Mode) (d : Nat) (t : Text) (e : Nat) (u : Text) : Prop :=
  ∀ s : ScanState, s.IsAt d → ∃ s' : ScanState, s'.IsAt e ∧ scanFrom mode 0 s t = scanFrom mode 0 s' u

section Passes

variable {d e f : Nat} {t u v : Text}

theorem Passes.refl (mode : Mode) (d : Nat) (t : Text) : Passes mode d t d t :=
  fun s hs => ⟨s, hs, rfl⟩

theorem Passes.trans (h : Passes mode d t e u) (h' : Passes mode e u f v) : Passes mode d t f v := by
  intro s hs
  obtain ⟨s', hs', hscan⟩ := h s hs
  obtain ⟨s'', hs'', hscan'⟩ := h' s' hs'
  exact ⟨s'', hs'', hscan.trans hscan'⟩

theorem passes_plain {c : CodePoint} (hc : IsPlain mode c) (d : Nat) (t : Text) :
    Passes mode d (c :: t) d t :=
  fun s hs => ⟨s, hs, scan_plain hc t⟩

theorem passes_run (hu : ∀ c ∈ u, IsPlain mode c) (d : Nat) (t : Text) : Passes mode d (u ++ t) d t := by
  induction u with
  | nil => exact .refl mode d t
  | cons c u ih =>
      exact (passes_plain (hu c (by simp)) d (u ++ t)).trans
        (ih fun e he => hu e (List.mem_cons_of_mem c he))

theorem passes_open (ht : mode = .composite → t.head? ≠ some leftBrace) (d : Nat) :
    Passes mode d (leftBrace :: t) (d + 1) t := by
  intro s hs
  exact ⟨s.openBrace (t.length + 1), ⟨hs.1, congrArg (· + 1) hs.2⟩, scan_open hs.1 ht⟩

theorem passes_close (d : Nat) (t : Text) : Passes mode (d + 1) (rightBrace :: t) d t := by
  intro s hs
  have hpos : 0 < s.depth := by rw [hs.2]; exact Nat.succ_pos d
  exact ⟨s.closeBrace, ⟨hs.1, congrArg (· - 1) hs.2⟩, scan_close hs.1 hpos t⟩

theorem passes_doubled (hmode : mode = .composite) {c : CodePoint}
    (hc : c = leftBrace ∨ c = rightBrace ∧ d = 0) (t : Text) : Passes mode d (c :: c :: t) d t := by
  intro s hs
  have hc' : c = leftBrace ∨ c = rightBrace ∧ s.depth = 0 := by rwa [hs.2]
  exact ⟨s, hs, scan_doubled hmode hc' t⟩

theorem passes_quoted (hmode : mode.isArb = true) (hu : apostrophe ∉ u) (d : Nat) (t : Text) :
    Passes mode d (quoted u ++ t) d t := by
  intro s hs
  have htoggle : s.toggle.quoted = true := by rw [ScanState.toggle, hs.1]; rfl
  refine ⟨s.toggle.toggle, ⟨?_, hs.2⟩, ?_⟩
  · show (!!s.quoted) = false
    rw [Bool.not_not, hs.1]
  · rw [quoted, List.cons_append, List.append_assoc, List.singleton_append,
      scan_apostrophe hmode, scan_quoted hmode htoggle hu, scan_apostrophe hmode]

/-- At the end it does not matter whether quoted text is open. -/
theorem passes_unfinished (hmode : mode.isArb = true) (hu : apostrophe ∉ u) (d : Nat) :
    Passes mode d (apostrophe :: u) d [] := by
  intro s hs
  have htoggle : s.toggle.quoted = true := by rw [ScanState.toggle, hs.1]; rfl
  refine ⟨s, hs, ?_⟩
  have hscan := scan_quoted hmode htoggle hu []
  rw [List.append_nil] at hscan
  rw [scan_apostrophe hmode, hscan]
  rfl

end Passes

/-! ## The pass accepts exactly the grammar -/

/-- Where a text ends that stands within `d` braces: at a closing one, or at the end of all. -/
def EndsAt (inside : Bool) (d : Nat) (t : Text) : Prop :=
  if inside = true then 0 < d ∧ ∃ u, t = rightBrace :: u else d = 0 ∧ t = []

/-- **Text of the grammar is passed over**, at every depth and up to where it ends. -/
theorem Matched.passes {inside : Bool} {t : Text} (h : Matched mode inside t) :
    ∀ {d : Nat} {rest : Text}, EndsAt inside d rest → Passes mode d (t ++ rest) d rest := by
  induction h with
  | nil inside => exact fun _ => .refl _ _ _
  | plain hc _ ih => exact fun hend => (passes_plain hc _ _).trans (ih hend)
  | quoted hmode hu _ ih =>
      intro d rest hend
      rw [List.append_assoc]
      exact (passes_quoted hmode hu d _).trans (ih hend)
  | unfinished hmode hu =>
      intro d rest hend
      obtain ⟨rfl, rfl⟩ := hend
      rw [List.append_nil]
      exact passes_unfinished hmode hu 0
  | @doubled inside c t hmode hc _ ih =>
      intro d rest hend
      have hc' : c = leftBrace ∨ c = rightBrace ∧ d = 0 := by
        refine hc.imp_right fun ⟨hright, hinside⟩ => ⟨hright, ?_⟩
        subst hinside
        exact hend.1
      exact (passes_doubled hmode hc' _).trans (ih hend)
  | @group inside t u hhead _ _ iht ihu =>
      intro d rest hend
      -- The group is passed over within `d + 1` braces, and what follows it within `d` again.
      have hsplit : braced t ++ u ++ rest = leftBrace :: (t ++ rightBrace :: (u ++ rest)) := by
        simp [braced]
      have hopen : mode = .composite → (t ++ rightBrace :: (u ++ rest)).head? ≠ some leftBrace := by
        intro hmode
        cases t with
        | nil => simp [CodePoint.ofChar_inj]
        | cons c t => simpa using hhead hmode
      rw [hsplit]
      exact (passes_open hopen d).trans
        ((iht ⟨Nat.succ_pos d, _, rfl⟩).trans ((passes_close d _).trans (ihu hend)))

/-- **`MatchedOpen mode d t`**: the braces of `t` match, after `d` more that are open. -/
def MatchedOpen (mode : Mode) : Nat → Text → Prop
  | 0, t => Matched mode false t
  | d + 1, t => ∃ u v, t = u ++ rightBrace :: v ∧ Matched mode true u ∧ MatchedOpen mode d v

/-- What can stand before matched text can stand before text with open braces. -/
theorem MatchedOpen.append {d : Nat} {p t : Text} (h : MatchedOpen mode d t)
    (hp : ∀ u, Matched mode (decide (d ≠ 0)) u → Matched mode (decide (d ≠ 0)) (p ++ u)) :
    MatchedOpen mode d (p ++ t) := by
  cases d with
  | zero => exact hp t h
  | succ d =>
      obtain ⟨u, v, rfl, hu, hv⟩ := h
      exact ⟨p ++ u, v, (List.append_assoc _ _ _).symm, hp u hu, hv⟩

/-- An opening brace closes up with the first of the open groups. -/
theorem MatchedOpen.group {d : Nat} {t : Text} (h : MatchedOpen mode (d + 1) t)
    (ht : mode = .composite → t.head? ≠ some leftBrace) : MatchedOpen mode d (leftBrace :: t) := by
  obtain ⟨u, v, rfl, hu, hv⟩ := h
  have hhead : mode = .composite → u.head? ≠ some leftBrace := by
    intro hmode
    cases u with
    | nil => simp
    | cons c u => simpa using ht hmode
  have hsplit : leftBrace :: (u ++ rightBrace :: v) = braced u ++ v := by simp [braced]
  rw [hsplit]
  exact hv.append fun w hw => .group hhead hu hw

/-- **What the pass accepts is matched**, as far as braces are not open already. -/
theorem matchedOpen_of_scan {d : Nat} {t : Text} {s : ScanState} {b : Bool} (hs : s.IsAt d)
    (h : scanFrom mode 0 s t = .ok b) : MatchedOpen mode d t := by
  induction hn : t.length using Nat.strong_induction_on generalizing d t s with
  | _ n ih =>
  subst hn
  -- What is passed over shortens the text, and its rule of the grammar puts it back.
  have hpassed : ∀ {e : Nat} {u : Text}, Passes mode d t e u → u.length < t.length →
      MatchedOpen mode e u := by
    intro e u hpass hlen
    obtain ⟨s', hs', hscan⟩ := hpass s hs
    exact ih u.length hlen hs' (hscan ▸ h) rfl
  cases t with
  | nil =>
      cases d with
      | zero => exact .nil false
      | succ d =>
          have hpos : s.depth > 0 := by rw [hs.2]; exact Nat.succ_pos d
          rw [scanFrom, if_pos hpos] at h
          cases h
  | cons c t =>
      have hshorter : t.length < (c :: t).length := Nat.lt_succ_self _
      by_cases hquote : mode.isArb = true ∧ c = apostrophe
      · obtain ⟨hmode, rfl⟩ := hquote
        by_cases hmem : apostrophe ∈ t
        · obtain ⟨u, v, rfl, hu⟩ := List.eq_append_cons_of_mem hmem
          have hsplit : apostrophe :: (u ++ apostrophe :: v) = quoted u ++ v := by simp [quoted]
          rw [hsplit] at hpassed ⊢
          refine (hpassed (passes_quoted hmode hu d v) ?_).append fun w hw => .quoted hmode hu hw
          simp only [quoted, List.cons_append, List.length_cons, List.length_append]
          omega
        · -- Quoted text that does not end hides every closing brace, so none may be missing.
          have hopen := hpassed (passes_unfinished hmode hmem d) (Nat.succ_pos _)
          cases d with
          | zero => exact .unfinished hmode hmem
          | succ d =>
              obtain ⟨u, v, hnil, -⟩ := hopen
              simp at hnil
      by_cases hleft : c = leftBrace
      · subst hleft
        by_cases hdouble : mode = .composite ∧ t.head? = some leftBrace
        · obtain ⟨hmode, hhead⟩ := hdouble
          obtain ⟨t, rfl⟩ : ∃ v, t = leftBrace :: v := ⟨t.tail, (List.eq_cons_of_mem_head? hhead)⟩
          have hshorter : t.length < (leftBrace :: leftBrace :: t).length := by
            simp only [List.length_cons]
            omega
          exact (hpassed (passes_doubled hmode (.inl rfl) t) hshorter).append (p := [_, _])
            fun w hw => .doubled hmode (.inl rfl) hw
        · rw [not_and] at hdouble
          exact (hpassed (passes_open hdouble d) hshorter).group hdouble
      by_cases hright : c = rightBrace
      · subst hright
        cases d with
        | zero =>
            by_cases hdouble : mode = .composite ∧ t.head? = some rightBrace
            · obtain ⟨hmode, hhead⟩ := hdouble
              obtain ⟨t, rfl⟩ : ∃ v, t = rightBrace :: v := ⟨t.tail, (List.eq_cons_of_mem_head? hhead)⟩
              have hshorter : t.length < (rightBrace :: rightBrace :: t).length := by
                simp only [List.length_cons]
                omega
              exact .doubled hmode (.inr ⟨rfl, rfl⟩)
                (hpassed (passes_doubled hmode (.inr ⟨rfl, rfl⟩) t) hshorter)
            · rw [not_and] at hdouble
              rw [scan_unmatched hs.1 hs.2 hdouble] at h
              cases h
        | succ d => exact ⟨[], t, rfl, .nil true, hpassed (passes_close d t) hshorter⟩
      · have hc : IsPlain mode c := ⟨hleft, hright, fun hmode hc => hquote ⟨hmode, hc⟩⟩
        exact (hpassed (passes_plain hc d t) hshorter).append (p := [c]) fun w hw => .plain hc hw

theorem isAt_start : ScanState.start.IsAt 0 := ⟨rfl, rfl⟩

/-- **The pass accepts a text exactly if its braces match.** -/
theorem hasPlaceholders_ok_iff (hmode : mode.parsesPlaceholders = true) (t : Text) :
    (∃ b, hasPlaceholders mode t = .ok b) ↔ Matched mode false t := by
  rw [hasPlaceholders, if_pos hmode]
  constructor
  · rintro ⟨b, h⟩
    exact matchedOpen_of_scan isAt_start h
  · intro h
    have hpass : Passes mode 0 (t ++ []) 0 [] := h.passes ⟨rfl, rfl⟩
    obtain ⟨s, hs, hscan⟩ := hpass .start isAt_start
    have hdepth : ¬s.depth > 0 := by rw [hs.2]; exact Nat.lt_irrefl 0
    rw [List.append_nil] at hscan
    exact ⟨s.found, by rw [hscan, scanFrom, if_neg hdepth]⟩

end Phrasebook.Template
