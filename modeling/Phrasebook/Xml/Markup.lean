import Phrasebook.Unicode.Properties
import Phrasebook.Xml.Names

/-!
# Markup

The pieces that an XML document is written with: references, tags, comments, instructions, character
data sections, and the words and quotes of a document type declaration. Each reader takes the text
after the characters that announce the piece and answers the piece with the text that follows it. A
piece that cannot be read is `broken` at the first character that has no place in it, or `unfinished`
where the text ends within it.
-/

namespace Phrasebook.Xml

/-- Why a piece of markup cannot be read. -/
inductive Break where
  /-- The text from the first character that has no place in the piece. -/
  | broken (at_ : Text)
  | unfinished
deriving DecidableEq

/-- `t` must go on with something; what does not belong there breaks the piece. -/
def breakAt (t : Text) : Break := if t.isEmpty then .unfinished else .broken t

/-- The text after `c`, which must stand next. -/
def expect (c : CodePoint) (t : Text) : Except Break Text :=
  match t with
  | [] => .error .unfinished
  | x :: rest => if x = c then .ok rest else .error (.broken t)

/-! ## Names -/

/-- A name without colons. -/
def name (t : Text) : Except Break (Text × Text) :=
  match t with
  | [] => .error .unfinished
  | c :: _ =>
    if startsName c then .ok (t.takeWhile continuesName, t.dropWhile continuesName)
    else .error (.broken t)

/-- A name in a namespace. -/
structure QualifiedName where
  /-- What stands before the colon. -/
  scope : Option Text
  own : Text
deriving DecidableEq, Inhabited

namespace QualifiedName

/-- The name as it is written. -/
def written (q : QualifiedName) : Text :=
  match q.scope with
  | none => q.own
  | some s => s ++ ":" ++ q.own

/-- The name that a word writes. -/
def ofWord (t : Text) : QualifiedName :=
  match Text.cut ':' t with
  | (own, none) => ⟨none, own⟩
  | (scope, some own) => ⟨some scope, own⟩

end QualifiedName

/-- A name with at most one colon. -/
def qualifiedName (t : Text) : Except Break (QualifiedName × Text) := do
  let (first, rest) ← name t
  if rest.head? = some (CodePoint.ofChar ':') then
    let (second, rest) ← name rest.tail
    if rest.head? = some (CodePoint.ofChar ':') then .error (.broken rest)
    else return (⟨some first, second⟩, rest)
  else return (⟨none, first⟩, rest)

/-! ## References -/

/-- A piece of character data. -/
inductive Piece where
  | plain (c : CodePoint)
  /-- A character by its number, unless no document may hold the character. -/
  | numbered (c : Option CodePoint)
  /-- An entity by its name. -/
  | named (entity : Text)
deriving DecidableEq, Inhabited

/-- The character with a number that a reference may give. -/
def referable? (n : Nat) : Option CodePoint :=
  (CodePoint.ofNat? n).filter fun c => !(c.isSurrogate || isForbidden c)

/-- A character reference after its number sign. -/
def characterReference (t : Text) : Except Break (Piece × Text) :=
  let (base, t) := if t.head? = some (CodePoint.ofChar 'x') then (16, t.tail) else (10, t)
  let isDigit (c : CodePoint) : Bool := c.hexValue?.any (· < base)
  let digits := t.takeWhile isDigit
  if digits.isEmpty then .error (breakAt t)
  else do
    let number := digits.foldl (fun n c => n * base + c.hexValue?.getD 0) 0
    return (.numbered (referable? number), ← expect ';' (t.dropWhile isDigit))

/-- A reference after its ampersand. -/
def reference (t : Text) : Except Break (Piece × Text) :=
  if t.head? = some (CodePoint.ofChar '#') then characterReference t.tail
  else do
    let (entity, rest) ← name t
    return (.named entity, ← expect ';' rest)

/-- The character that one of the entities of every document stands for. -/
def predefined? (entity : Text) : Option CodePoint :=
  if entity = "lt" then some '<'
  else if entity = "gt" then some '>'
  else if entity = "amp" then some '&'
  else if entity = "quot" then some '"'
  else if entity = "apos" then some '\''
  else none

/-! ## Tags -/

/-- An attribute as it is written. -/
structure RawAttribute where
  name : QualifiedName
  /-- The text from the name on. -/
  at_ : Text
  /-- The pieces of the value, each with the text from it on. -/
  value : List (Piece × Text)
deriving Inhabited

/-- The value of an attribute up to its closing quote. Every step takes a character. -/
def attributeValue (quote : CodePoint) : (fuel : Nat) → Text →
    Except Break (List (Piece × Text) × Text)
  | 0, _ => .error .unfinished
  | _, [] => .error .unfinished
  | fuel + 1, t@(c :: rest) => do
    if c = quote then .ok ([], rest)
    else if c = '<' ∨ isForbidden c then .error (.broken t)
    else if c = '&' then
      let (piece, rest) ← reference rest
      let (more, rest) ← attributeValue quote fuel rest
      return ((piece, t) :: more, rest)
    else
      let (more, rest) ← attributeValue quote fuel rest
      return ((.plain c, t) :: more, rest)

/-- The pieces of a value that is a text on its own, and the place of the first character that belongs to none,
if there is one. Every step takes a character. -/
def valuePieces : (fuel : Nat) → Text → List (Piece × Text) × Option Text
  | 0, _ => ([], none)
  | _, [] => ([], none)
  | fuel + 1, t@(c :: rest) =>
    let go (p : Piece) (rest : Text) : List (Piece × Text) × Option Text :=
      let (more, stop) := valuePieces fuel rest
      ((p, t) :: more, stop)
    if c = '<' then ([], some t)
    else if c = '&' then
      match reference rest with
      | .ok (p, rest) => go p rest
      | .error (.broken at_) => ([], some at_)
      | .error .unfinished => ([], some t)
    else go (.plain c) rest

/-- An attribute from its name on. -/
def rawAttribute (t : Text) : Except Break (RawAttribute × Text) := do
  let (name, rest) ← qualifiedName t
  let rest ← expect '=' (rest.dropWhile isSpace)
  match rest.dropWhile isSpace with
  | [] => .error .unfinished
  | q :: rest =>
    if q = '"' ∨ q = '\'' then
      let (value, rest) ← attributeValue q (rest.length + 1) rest
      return (⟨name, t, value⟩, rest)
    else .error (.broken (q :: rest))

/-- A start tag, or the tag of an element without content. -/
structure Tag where
  name : QualifiedName
  attributes : List RawAttribute
  isEmpty : Bool
deriving Inhabited

/-- The attributes and the end of a start tag. Every step but the last takes an attribute. -/
def tagRest : (fuel : Nat) → Text → Except Break ((List RawAttribute × Bool) × Text)
  | 0, _ => .error .unfinished
  | fuel + 1, t => do
    let inner := t.dropWhile isSpace
    match inner with
    | [] => .error .unfinished
    | c :: rest =>
      if c = '>' then return (([], false), rest)
      else if c = '/' then return (([], true), ← expect '>' rest)
      else if startsName c && inner.length < t.length then
        let (a, rest) ← rawAttribute inner
        let ((more, isEmpty), rest) ← tagRest fuel rest
        return ((a :: more, isEmpty), rest)
      else .error (.broken inner)

/-- A start tag after its opening bracket. -/
def startTag (t : Text) : Except Break (Tag × Text) := do
  let (name, rest) ← qualifiedName t
  let ((attributes, isEmpty), rest) ← tagRest (rest.length + 1) rest
  return (⟨name, attributes, isEmpty⟩, rest)

/-- The name in an end tag after its slash. -/
def endTag (t : Text) : Except Break (Text × Text) := do
  let _ ← name t
  let inName (c : CodePoint) : Bool := continuesName c || c = ':'
  return (t.takeWhile inName, ← expect '>' ((t.dropWhile inName).dropWhile isSpace))

/-! ## Comments and instructions -/

/-- The text after a comment, from the text after the first two hyphens. -/
def commentRest : Text → Except Break Text
  | [] => .error .unfinished
  | c :: rest =>
    if isForbidden c then .error (.broken (c :: rest))
    else if c = '-' then
      match rest with
      | [] => .error .unfinished
      | d :: after => if d = '-' then expect '>' after else commentRest rest
    else commentRest rest

/-- The text after a comment, from the text after its first hyphen. -/
def comment (t : Text) : Except Break Text := do commentRest (← expect '-' t)

/-- The text after the end of an instruction. -/
def instructionRest : Text → Except Break Text
  | [] => .error .unfinished
  | c :: rest =>
    if isForbidden c then .error (.broken (c :: rest))
    else if c = '?' then
      match rest with
      | [] => .error .unfinished
      | d :: after => if d = '>' then .ok after else instructionRest rest
    else instructionRest rest

/-- The three letters that instructions may not be named with, in any case. -/
def isReservedTarget (target : Text) : Bool :=
  match target with
  | [x, m, l] => (x = 'x' || x = 'X') && (m = 'm' || m = 'M') && (l = 'l' || l = 'L')
  | _ => false

/-- Whether an instruction is the XML declaration, and the text after it; from the text after its
question mark. -/
def instruction (t : Text) : Except Break (Bool × Text) := do
  let (target, rest) ← name t
  match rest with
  | [] => .error .unfinished
  | c :: after =>
    if !(isSpace c || c = '?') || (isReservedTarget target && target ≠ Text.ofString "xml") then
      .error (.broken rest)
    else
      let rest ← if c = '?' then expect '>' after else instructionRest after
      return (isReservedTarget target, rest)

/-! ## Character data sections -/

/-- The text after the bracket that opens a character data section; `expected` is what is still to
come of it. -/
def sectionStart (t : Text) : Except Break Text :=
  let opening : Text := "CDATA["
  if t.length < opening.length then .error .unfinished
  else
    let rec go : (expected rest : Text) → Except Break Text
      | [], rest => .ok rest
      | _ :: _, [] => .error .unfinished
      | e :: expected, c :: rest => if c = e then go expected rest else .error (.broken (c :: rest))
    go opening t

/-! ## The head of a document -/

/-- A piece of what may stand before the root element. -/
inductive HeadToken where
  | space
  | comment
  | instruction
  | declaration
  /-- The start of a declaration with its keyword. -/
  | opening (keyword : Text)
  /-- A name, perhaps with a colon within. -/
  | word (t : Text)
  /-- Characters of names that are no name. -/
  | token
  /-- A name with a mark that says how often it comes. -/
  | countedWord
  | hashWord (t : Text)
  | literal (t : Text)
  | openBracket
  | closeBracket
  | openGroup
  /-- The end of a group, perhaps with a mark that says how often the group comes. -/
  | closeGroup (mark : Option CodePoint)
  | comma
  | bar
  | percent
  | close
  | parameterReference
  /-- The start or the end of a conditional section. -/
  | conditional
deriving DecidableEq, Inhabited

/-- What may follow a word. -/
def endsWord (c : CodePoint) : Bool :=
  isSpace c || c = '>' || c = ')' || c = ',' || c = '|' || c = '[' || c = '%'

/-- The name that a declaration starts with, after its exclamation mark. -/
def declarationStart (t : Text) : Except Break (HeadToken × Text) :=
  let isLetter (c : CodePoint) : Bool := startsName c && c.val < 0x80
  let keyword := t.takeWhile isLetter
  let rest := t.dropWhile isLetter
  match rest with
  | [] => .error .unfinished
  | c :: after =>
    if keyword.isEmpty then
      if c = '[' then .ok (.conditional, after)
      else if c = '-' then (comment after).map fun rest => (.comment, rest)
      else .error (.broken rest)
    else if isSpace c then .ok (.opening keyword, rest)
    else if c = '%' then
      match after with
      | [] => .error .unfinished
      | d :: _ => if isSpace d || d = '%' then .error (.broken rest) else .ok (.opening keyword, rest)
    else .error (.broken rest)

/-- A quoted literal after its opening quote. -/
def literal (quote : CodePoint) (t : Text) : Except Break (HeadToken × Text) :=
  let inside := t.takeWhile fun c => c ≠ quote && !isForbidden c
  match t.drop inside.length with
  | [] => .error .unfinished
  | c :: rest =>
    if c ≠ quote then .error (.broken (c :: rest))
    else
      match rest with
      | [] => .ok (.literal inside, [])
      | d :: _ =>
        if isSpace d || d = '>' || d = '%' || d = '[' then .ok (.literal inside, rest)
        else .error (.broken rest)

/-- A run of name characters: a word if it is a name, perhaps with a colon within. -/
def word (t : Text) : Except Break (HeadToken × Text) :=
  let colon : CodePoint := ':'
  let run := t.takeWhile fun c => continuesName c || c = colon
  let rest := t.drop run.length
  let startsWell := run.head?.any startsName && run.count colon ≤ 1
  let endsWell := run.getLast? ≠ some colon
  let piece := if startsWell && endsWell then .word run else .token
  match rest with
  | [] => if startsWell && !endsWell then .error .unfinished else .ok (piece, [])
  | c :: after =>
    if (c = '+' || c = '*' || c = '?') && startsWell && endsWell then .ok (.countedWord, after)
    else if endsWord c then .ok (piece, rest)
    else .error (.broken rest)

/-- The next piece of the head; `none` at the first character of the root element. -/
def headToken (c : CodePoint) (rest : Text) : Except Break (Option HeadToken × Text) :=
  let some' (t : HeadToken) (rest : Text) : Except Break (Option HeadToken × Text) := .ok (some t, rest)
  if isSpace c then some' .space (rest.dropWhile isSpace)
  else if c = '<' then
    match rest with
    | [] => .error .unfinished
    | d :: after =>
      if d = '!' then (declarationStart after).map fun (t, rest) => (some t, rest)
      else if d = '?' then
        (instruction after).map fun (isDeclaration, rest) =>
          (some (if isDeclaration then .declaration else .instruction), rest)
      else if startsName d || d.val ≥ 0x80 then .ok (none, c :: rest)
      else .error (.broken rest)
  else if c = '"' || c = '\'' then (literal c rest).map fun (t, rest) => (some t, rest)
  else if c = '[' then some' .openBracket rest
  else if c = ']' then
    if rest = [CodePoint.ofChar ']'] then .error .unfinished
    else if Text.startsWith rest "]>" then some' .conditional (rest.drop 2)
    else some' .closeBracket rest
  else if c = '>' then some' .close rest
  else if c = ',' then some' .comma rest
  else if c = '|' then some' .bar rest
  else if c = '(' then some' .openGroup rest
  else if c = ')' then
    match rest with
    | [] => some' (.closeGroup none) []
    | d :: after =>
      if d = '*' || d = '+' || d = '?' then some' (.closeGroup (some d)) after
      else if isSpace d || d = '>' || d = ',' || d = '|' || d = ')' then some' (.closeGroup none) rest
      else .error (.broken rest)
  else if c = '%' then
    match rest with
    | [] => .error .unfinished
    | d :: _ =>
      if isSpace d || d = '%' then some' .percent rest
      else do
        let (_, rest) ← name rest
        return (some .parameterReference, ← expect ';' rest)
  else if c = '#' then do
    let (word, rest) ← name rest
    match rest with
    | [] => some' (.hashWord word) []
    | d :: _ =>
      if endsWord d && d ≠ ',' && d ≠ '[' then some' (.hashWord word) rest else .error (.broken rest)
  else if continuesName c || c = ':' then (word (c :: rest)).map fun (t, rest) => (some t, rest)
  else .error (.broken (c :: rest))

end Phrasebook.Xml
