import Phrasebook.Number.Count
import Phrasebook.Template.Fault
import Phrasebook.Template.Mode

/-!
# Reading templates

A template is literal text with placeholders between braces:

* a name alone;
* in composite format, a name with an alignment after a comma, a format after a colon, or both;
* a name and `number`, `date`, `time` or `datetime`, perhaps with a style;
* a name and `plural`, `selectordinal` or `select` with at least one case, each a label and a template
  between braces; plurals may start with an offset.

In message format a placeholder that starts with an at sign is literal text. Inside the cases of a
plural, and inside choices within them, a number sign stands for the number.

Readers take the text from their place on and return what they read and the rest of the text.
-/

namespace Phrasebook.Template

/-- The text up to the first `}`, and what follows that brace. -/
def cutAtClosing (t : Text) : Text × Option Text := Text.cut '}' t

/-- What was read of `t` when `rest` is left. -/
def readPart (t rest : Text) : Text := t.take (t.length - rest.length)

/-- The next code point as text; empty at the end. -/
def next (t : Text) : Text := t.take 1

/-! ## Literal text -/

/-- Where the reader stands: in which mode, inside a case, inside a plural. -/
structure Context where
  mode : Mode
  inCase : Bool
  inPlural : Bool
deriving DecidableEq

/-- A code point that ends literal text outside quotes. -/
def Context.stops (x : Context) (c : CodePoint) : Bool :=
  c = '{' || c = '}' || (x.inPlural && decide (c = '#'))

/-- Two equal code points at the start of a text that stand for one of them. -/
def Context.isDoubled (x : Context) (quoted : Bool) (c : CodePoint) (t : Text) : Bool :=
  match t with
  | [] => false
  | d :: _ =>
    decide (c = d) &&
      match x.mode with
      | .arb => decide (c = '\'')
      | .composite =>
        !quoted && (decide (c = '{') || (decide (c = '}') && !x.inCase))
      | _ => false

/-- Literal text up to the next code point with a meaning; `skip` code points belong to a doubled one
that has been read. -/
def literalFrom (x : Context) : (skip : Nat) → (quoted : Bool) → Text → Text × Text
  | _, _, [] => ([], [])
  | skip + 1, quoted, _ :: t => literalFrom x skip quoted t
  | 0, quoted, c :: t =>
    if x.isDoubled quoted c t then
      let (text, rest) := literalFrom x 1 quoted t
      (c :: text, rest)
    else if x.mode.isArb && decide (c = '\'') then
      let (text, rest) := literalFrom x 0 (!quoted) t
      (if x.mode = .arbNoEscaping then c :: text else text, rest)
    else if quoted || !x.stops c then
      let (text, rest) := literalFrom x 0 quoted t
      (c :: text, rest)
    else ([], c :: t)

/-- Literal text up to the next code point with a meaning. -/
def literal (x : Context) (t : Text) : Text × Text := literalFrom x 0 false t

/-- The node of a literal text, if it is not empty. -/
def literalNode (t : Text) : List Node := if t = [] then [] else [.literal t]

/-! ## Parts of placeholders -/

/-- A code point that a name may hold. -/
def isNamePoint (c : CodePoint) : Bool := c.isAlphanumeric || c = '_'

/-- The name at the start of a text. -/
def name (t : Text) : Text := t.takeWhile isNamePoint

/-- A name that message format allows: digits alone, or a letter or an underscore first. -/
def isMessageName (t : Text) : Bool :=
  t.isNumber ||
    match t with
    | [] => false
    | c :: _ => c.isLetter || c = '_'

/-- The number that a run of digits writes. -/
def readNumber (t : Text) : Except Fault Nat := (Count.ofDigits t).mapError fun _ => .unreadableNumber

/-- What follows the closing brace, which is the next thing but blanks. `start` was left at the opening
brace. -/
def closing (start : Nat) (t : Text) : Except Fault Text :=
  match t.stripStart with
  | [] => .error (.malformed .unclosedOpening start)
  | c :: rest =>
    if c = '}' then .ok rest else .error (.malformed (.unexpected [c]) (rest.length + 1))

/-- The text up to the closing brace, and what follows that. -/
def upToClosing (start : Nat) (t : Text) : Except Fault (Text × Text) :=
  match cutAtClosing t with
  | (text, some rest) => .ok (text, rest)
  | (_, none) => .error (.malformed .unclosedOpening start)

/-- An alignment and perhaps a format after it, up to and with the closing brace. -/
def alignment (start : Nat) (t : Text) : Except Fault ((Int × Option Text) × Text) := do
  let negative := decide (t.head? = some '-')
  let body := if negative then t.drop 1 else t
  let digits := body.takeWhile CodePoint.isDigit
  let n ← readNumber digits
  let value := if negative then -(n : Int) else n
  match body.drop digits.length with
  | c :: rest =>
    if c = ':' then
      let (format, rest) ← upToClosing start rest
      return ((value, some format), rest)
    else
      let rest ← closing start (c :: rest)
      return ((value, none), rest)
  | [] => .error (.malformed .unclosedOpening start)

/-- A pattern up to its closing quote, doubled quotes kept, and what follows the quote. `skip` code
points belong to a doubled quote. -/
def patternFrom (start : Nat) : (skip : Nat) → Text → Except Fault (Text × Text)
  | _, [] => .error (.malformed .unclosedOpening start)
  | skip + 1, _ :: t => patternFrom start skip t
  | 0, c :: t =>
    if c = '\'' then
      if t.head? = some c then do
        let (text, rest) ← patternFrom start 1 t
        return (c :: c :: text, rest)
      else .ok ([], t)
    else do
      let (text, rest) ← patternFrom start 0 t
      return (c :: text, rest)

/-- The style of a formatted placeholder, up to and with the closing brace. -/
def style (start : Nat) (t : Text) : Except Fault (Style × Text) := do
  let t := t.stripStart
  if t.head? = some '\'' then
    let (pattern, rest) ← patternFrom start 0 (t.drop 1)
    let rest ← closing start rest
    return (.pattern pattern, rest)
  else
    let (text, rest) ← upToClosing start t
    let text := text.strip
    return (if text = [] then .default else .named text, rest)

/-- The kind that a word names. -/
def kindOf? (word : Text) : Option (FormatKind ⊕ ChoiceKind) :=
  let word := word.lower
  ((FormatKind.all.find? fun k => k.word = word).map Sum.inl).or
    ((ChoiceKind.all.find? fun k => k.word = word).map Sum.inr)

/-- The offset at the start of the cases, zero if there is none. Only plurals have one. -/
def offset (kind : ChoiceKind) (t : Text) : Except Fault (Nat × Text) :=
  match if kind = .select then none else Text.dropLead? "offset:" t with
  | none => .ok (0, t)
  | some t => do
    let t := t.stripStart
    let digits := t.takeWhile CodePoint.isDigit
    if digits = [] then .error (.malformed .offsetWithoutNumber t.length)
    else
      let n ← readNumber digits
      return (n, t.drop digits.length)

/-- A code point that a case label may hold. -/
def isLabelPoint (c : CodePoint) : Bool := !(c.isBlank || c = '{' || c = '}')

/-- A case label and what follows the brace that opens its body. -/
def label (kind : ChoiceKind) (argument : Text) (start : Nat) (t : Text) : Except Fault (Text × Text) :=
  let label := t.takeWhile isLabelPoint
  if label = [] then .error (.malformed (.missingLabel kind argument) t.length)
  else
    match Text.stripStart (t.drop label.length) with
    | [] => .error (.malformed .unclosedOpening start)
    | c :: rest =>
      if c = '{' then .ok (label, rest)
      else .error (.malformed (.expectedBody label) (rest.length + 1))

/-- What a placeholder turns out to be after its name and what follows that. -/
inductive Head where
  /-- A whole node. -/
  | node (n : Node)
  /-- A choice whose cases follow. -/
  | cases (kind : ChoiceKind) (argument : Text)

/-- A placeholder after its name and the comma. `whole` is the text from the opening brace on. -/
def afterComma (mode : Mode) (whole argument t : Text) : Except Fault (Head × Text) := do
  let start := whole.length
  let t := t.stripStart
  if mode = .composite ∧ (t.head?.any fun c : CodePoint => c.isDigit || c = '-') then
    let ((width, format), rest) ← alignment start t
    return (.node (.simple argument format (some width) (readPart whole rest)), rest)
  else
    let word := name t
    let afterWord := t.drop word.length
    match kindOf? word with
    | none => .error (.malformed (.unknownKind word) afterWord.length)
    | some kind =>
      match Text.stripStart afterWord with
      | [] => .error (.malformed .unclosedOpening start)
      | c :: rest =>
        if c = '}' then
          match kind with
          | .inl kind => return (.node (.formatted kind argument .default (readPart whole rest)), rest)
          | .inr kind => .error (.malformed (.noCases kind argument) (rest.length + 1))
        else if c = ',' then
          match kind with
          | .inl kind =>
            let (style, rest) ← style start rest
            return (.node (.formatted kind argument style (readPart whole rest)), rest)
          | .inr kind => return (.cases kind argument, rest)
        else .error (.malformed (.unexpected [c]) (rest.length + 1))

/-- A placeholder up to where cases would start. `whole` is the text from the opening brace on, `t`
what follows that brace. -/
def head (mode : Mode) (whole t : Text) : Except Fault (Head × Text) := do
  let start := whole.length
  if mode.isArb ∧ t.head? = some '@' then
    let (text, rest) ← upToClosing start (t.drop 1)
    return (.node (.literal text), rest)
  else
    let t := t.stripStart
    let argument := name t
    match t with
    | [] => .error (.malformed .unclosedOpening start)
    | c :: _ =>
      if argument = [] then
        if c = '}' then .error (.malformed .emptyPlaceholder start)
        else .error (.malformed (.unexpected [c]) t.length)
      else if mode.isArb && !isMessageName argument then .error (.invalidName argument)
      else
        match Text.stripStart (t.drop argument.length) with
        | [] => .error (.malformed .unclosedOpening start)
        | c :: rest =>
          if c = '}' then return (.node (.simple argument none none (readPart whole rest)), rest)
          else if c = ':' ∧ mode = .composite then
            let (format, rest) ← upToClosing start rest
            return (.node (.simple argument (some format) none (readPart whole rest)), rest)
          else if c = ',' then afterComma mode whole argument rest
          else .error (.malformed (.unexpected [c]) (rest.length + 1))

/-! ## Templates -/

mutual

/-- The nodes up to the end of the text, or up to the brace that closes the case they stand in. -/
def nodes (x : Context) : (fuel : Nat) → Text → Except Fault (List Node × Text)
  | 0, t => .ok ([], t)
  | fuel + 1, t =>
    let (text, rest) := literal x t
    match rest with
    | [] => .ok (literalNode text, [])
    | c :: after =>
      if c = '}' then
        if x.inCase then .ok (literalNode text, rest)
        else .error (.malformed .unmatchedClosing rest.length)
      else if c = '{' then do
        let (node, rest) ← placeholder x fuel rest after
        let (more, rest) ← nodes x fuel rest
        return (literalNode text ++ node :: more, rest)
      else do
        let (more, rest) ← nodes x fuel after
        return (literalNode text ++ .pluralValue :: more, rest)

/-- A placeholder; `whole` starts with its opening brace and `t` follows that. -/
def placeholder (x : Context) : (fuel : Nat) → (whole t : Text) → Except Fault (Node × Text)
  | 0, whole, _ => .error (.malformed .unclosedOpening whole.length)
  | fuel + 1, whole, t => do
    let (found, rest) ← head x.mode whole t
    match found with
    | .node n => return (n, rest)
    | .cases kind argument =>
      let inner : Context := ⟨x.mode, true, x.inPlural || decide (kind ≠ .select)⟩
      let (offset, rest) ← offset kind rest.stripStart
      let (cases, rest) ← cases inner kind argument whole.length fuel rest
      if cases.isEmpty then .error (.malformed (.noCases kind argument) whole.length)
      else return (.choice kind argument offset cases (readPart whole rest), rest)

/-- The cases of a choice, up to and with the brace that closes it. -/
def cases (x : Context) (kind : ChoiceKind) (argument : Text) (start : Nat) :
    (fuel : Nat) → Text → Except Fault ((List (Text × List Node)) × Text)
  | 0, _ => .error (.malformed .unclosedOpening start)
  | fuel + 1, t =>
    match t.stripStart with
    | [] => .error (.malformed .unclosedOpening start)
    | c :: after =>
      if c = '}' then .ok ([], after)
      else do
        let (word, body) ← label kind argument start (c :: after)
        let (inside, rest) ← nodes x fuel body
        match rest with
        | [] => .error (.malformed .unclosedOpening (body.length + 1))
        | _ :: rest =>
          let (more, rest) ← cases x kind argument start fuel rest
          return ((word, inside) :: more, rest)

end

/-- The template that a text writes. Where placeholders are not parsed, all of it is literal. Every
call of a reader takes a code point, so the length of the text is fuel enough. -/
def read (mode : Mode) (t : Text) : Except Fault (List Node) :=
  if mode.parsesPlaceholders then (nodes ⟨mode, false, false⟩ (2 * t.length + 2) t).map (·.1)
  else .ok (literalNode t)

/-- The template that a text writes, faults reported. -/
def parse (mode : Mode) (t : Text) : Outcome (List Node) := (read mode t).mapError (Fault.inText t)

end Phrasebook.Template
