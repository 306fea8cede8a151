import Phrasebook.Template.Fault
import Phrasebook.Template.Mode

/-!
# Finding placeholders

A single pass over a text that tells whether it holds a placeholder, without reading what is in it: an
opening brace with the closing brace that matches it. The whole text is looked at, so that a brace
without a partner is refused wherever it stands. Quoted text counts only in message format; it may
stay open up to the end.
-/

namespace Phrasebook.Template

/-- What the pass remembers. -/
structure ScanState where
  /-- Inside quoted text. -/
  quoted : Bool
  /-- How many braces are open. -/
  depth : Nat
  /-- How much was left at the outermost open brace. -/
  opened : Nat
  /-- A brace has been matched. -/
  found : Bool
deriving DecidableEq

namespace ScanState

/-- Before the first code point. -/
def start : ScanState := ⟨false, 0, 0, false⟩

/-- After an opening brace with `left` code points from it on. -/
def openBrace (s : ScanState) (left : Nat) : ScanState :=
  { s with depth := s.depth + 1, opened := if s.depth = 0 then left else s.opened }

/-- After a closing brace that matches. -/
def closeBrace (s : ScanState) : ScanState := { s with depth := s.depth - 1, found := true }

/-- After a quote. -/
def toggle (s : ScanState) : ScanState := { s with quoted := !s.quoted }

end ScanState

/-- Two code points at the start of a text that the pass steps over together. -/
def isScannedPair (mode : Mode) (depth : Nat) (c : CodePoint) (t : Text) : Bool :=
  match t with
  | [] => false
  | d :: _ =>
    decide (c = d) &&
      match mode with
      | .arb => decide (c = '\'')
      | .composite => decide (c = '{') || (decide (c = '}') && decide (depth = 0))
      | _ => false

/-- The pass from a state on; `skip` code points belong to a pair that has been looked at. -/
def scanFrom (mode : Mode) : (skip : Nat) → ScanState → Text → Except Fault Bool
  | _, s, [] => if s.depth > 0 then .error (.malformed .unclosedOpening s.opened) else .ok s.found
  | skip + 1, s, _ :: t => scanFrom mode skip s t
  | 0, s, c :: t =>
    if isScannedPair mode s.depth c t then scanFrom mode 1 s t
    else if mode.isArb && decide (c = '\'') then scanFrom mode 0 s.toggle t
    else if s.quoted then scanFrom mode 0 s t
    else if c = '{' then scanFrom mode 0 (s.openBrace (t.length + 1)) t
    else if c = '}' then
      if s.depth > 0 then scanFrom mode 0 s.closeBrace t
      else .error (.malformed .unmatchedClosing (t.length + 1))
    else scanFrom mode 0 s t

/-- Whether a text holds a placeholder. Where placeholders are not parsed, none does. -/
def hasPlaceholders (mode : Mode) (t : Text) : Except Fault Bool :=
  if mode.parsesPlaceholders then scanFrom mode 0 .start t else .ok false

/-- Whether a text holds a placeholder, faults reported. -/
def containsPlaceholders (mode : Mode) (t : Text) : Outcome Bool :=
  (hasPlaceholders mode t).mapError (Fault.inText t)

end Phrasebook.Template
