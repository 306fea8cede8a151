import Phrasebook.Files.Lines

/-!
# Toml files

Comments start with a number sign and may follow a value. Keys may be dotted, and each segment is a
star, a name or a quoted text. Values are strings in one of four forms: basic strings, in which
backslash escapes are decoded, and literal strings, each on one line between single delimiters or over
several lines between triple ones.
-/

namespace Phrasebook.Files.Toml

/-- The double quote. -/
def doubleQuote : CodePoint := '"'

/-- The single quote. -/
def singleQuote : CodePoint := '\''

/-- The backslash. -/
def backslash : CodePoint := '\\'

/-- A code point that ends a line, or the end of the text. -/
def isLineEnd (c : Option CodePoint) : Bool := c.all Cursor.isBreak

/-! ## Keys -/

/-- How far a quoted segment reaches after its opening quote: up to the closing quote, or to the end of
the line if there is none. A backslash takes the next code point with it. -/
def quotedLength : (skip : Nat) → Text → Nat
  | _, [] => 0
  | skip + 1, _ :: t => quotedLength skip t + 1
  | 0, c :: t =>
    if c = doubleQuote || Cursor.isBreak c then 0
    else quotedLength (if c = backslash then 1 else 0) t + 1

/-- A quoted segment from its opening quote on. -/
def readQuotedSegment (c : Cursor) : Except TextError (Text × Cursor) :=
  let start := c.next
  let stop := Cursor.advance (quotedLength 0 start.rest) start
  if stop.isAt doubleQuote then .ok (Text.unescape (start.textTo stop), stop.next)
  else .error (stop.errorFrom c "Unterminated quoted key")

/-- One segment of a key; only the first may be a star. -/
def readSegment (isFirst : Bool) (c : Cursor) : Except TextError (Text × Cursor) :=
  if c.isAt doubleQuote then readQuotedSegment c
  else if isFirst && c.isAt '*' then .ok ("*", c.next)
  else if c.rest.head?.any startsKey then
    let stop := c.skipWhile continuesKey
    .ok (c.textTo stop, stop)
  else .error (Dialect.unexpected c)

/-- The segments of a key. Each takes a code point. -/
def readSegments : (fuel : Nat) → (isFirst : Bool) → Cursor → Except TextError (List Text × Cursor)
  | 0, _, c => .ok ([], c)
  | fuel + 1, isFirst, c => do
    let (segment, c) ← readSegment isFirst c
    let c := c.skipInlineBlanks
    if c.isAt Group.dot then
      let (more, c) ← readSegments fuel false c.next.skipInlineBlanks
      return (segment :: more, c)
    else return ([segment], c)

/-- The segments of a key. -/
def readKey (c : Cursor) : Except TextError (List Text × Cursor) :=
  readSegments (c.rest.length + 1) true c

/-! ## Values -/

/-- A text without its line continuations: a backslash at the end of a line, the line break and the
white space up to the next other code point. `skip` code points belong to what was just decided. -/
def foldFrom : (skip : Nat) → Text → Text
  | _, [] => []
  | skip + 1, _ :: t => foldFrom skip t
  | 0, c :: t =>
    if c = backslash then
      if t.head? = some backslash then c :: backslash :: foldFrom 1 t
      else
        let blanks := t.takeWhile fun b : CodePoint => b = ' ' || b = '\t'
        let rest := t.drop blanks.length
        if rest.head?.any Cursor.isBreak then
          foldFrom (blanks.length + (rest.takeWhile CodePoint.isBlank).length) t
        else c :: foldFrom 0 t
    else c :: foldFrom 0 t

/-- A text without its line continuations. -/
def foldContinuations (t : Text) : Text := foldFrom 0 t

/-- How far a string on one line reaches: up to its closing quote, or to the end of the line. -/
def stringLength (quote : CodePoint) (escapes : Bool) : (skip : Nat) → Text → Nat
  | _, [] => 0
  | skip + 1, _ :: t => stringLength quote escapes skip t + 1
  | 0, c :: t =>
    if c = quote || Cursor.isBreak c then 0
    else
      let pair := escapes && decide (c = backslash) && !isLineEnd t.head?
      stringLength quote escapes (if pair then 1 else 0) t + 1

/-- A string on one line, from its opening quote on. -/
def readString (quote : CodePoint) (escapes : Bool) (c : Cursor) : Except TextError (Text × Cursor) :=
  let start := c.next
  let stop := Cursor.advance (stringLength quote escapes 0 start.rest) start
  if stop.isAt quote then .ok (start.textTo stop, stop.next)
  else .error (stop.errorFrom c "Unterminated string")

/-- Whether a triple delimiter stands first that no further quote follows. -/
def isClosing (quote : CodePoint) (t : Text) : Bool :=
  Text.startsWith t [quote, quote, quote] && decide ((t.drop 3).head? ≠ some quote)

/-- How far a string over several lines reaches, if it is closed. -/
def multilineLength? (quote : CodePoint) (escapes : Bool) : (skip : Nat) → Text → Option Nat
  | _, [] => none
  | skip + 1, _ :: t => (multilineLength? quote escapes skip t).map (· + 1)
  | 0, c :: t =>
    if isClosing quote (c :: t) then some 0
    else
      let skip := if escapes && decide (c = backslash) then 1 else 0
      (multilineLength? quote escapes skip t).map (· + 1)

/-- Past the line break right after an opening delimiter. -/
def skipFirstBreak (c : Cursor) : Cursor :=
  if c.startsWith "\r\n" then Cursor.advance 2 c else if c.isAt CodePoint.lineFeed then c.next else c

/-- A string over several lines, from its opening delimiter on. -/
def readMultiline (quote : CodePoint) (escapes : Bool) (c : Cursor) :
    Except TextError (Text × Cursor) :=
  let start := skipFirstBreak (Cursor.advance 3 c)
  match multilineLength? quote escapes 0 start.rest with
  | some n =>
    let stop := Cursor.advance n start
    .ok (start.textTo stop, Cursor.advance 3 stop)
  | none =>
    .error ((Cursor.advance start.rest.length start).errorFrom c "Unterminated multi-line string")

/-- A value. -/
def readValue (c : Cursor) : Except TextError (Written × Cursor) :=
  if c.atLineEnd then .error (c.error "Missing value")
  else if c.startsWith [doubleQuote, doubleQuote, doubleQuote] then do
    let (raw, c) ← readMultiline doubleQuote true c
    return (⟨raw, some (Text.unescape (foldContinuations raw))⟩, c)
  else if c.startsWith [singleQuote, singleQuote, singleQuote] then do
    let (raw, c) ← readMultiline singleQuote false c
    return (⟨raw, some raw⟩, c)
  else if c.isAt doubleQuote then do
    let (raw, c) ← readString doubleQuote true c
    return (⟨raw, some (Text.unescape raw)⟩, c)
  else if c.isAt singleQuote then do
    let (raw, c) ← readString singleQuote false c
    return (⟨raw, some raw⟩, c)
  else .error (c.error "Unquoted values are not supported, a string value is expected")

/-- The rules of toml files. -/
def dialect : Dialect where
  comment := '#'
  isSeparator c := c = '='
  readKey := readKey
  readValue := readValue
  allowsTrailingComment := true

end Phrasebook.Files.Toml
