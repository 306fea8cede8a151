import Phrasebook.Json.Value
import Phrasebook.Text.Escape

/-!
# Reading JSON

`Json.read` reads a whole document. Beyond the grammar of JSON it accepts `NaN`, `Infinity` and
`-Infinity`, and lone surrogates written as escapes; two escapes that form a surrogate pair are one
code point. It refuses an object that repeats a key, once the object is complete, and an integer of
more digits than `digitLimit`.

A fault is located by how many code points of the text are `left` from its place on, so that no reader
has to know where in the text it stands.
-/

namespace Phrasebook.Json

/-- What the reader misses or refuses at a place. -/
inductive Complaint where
  | byteOrderMark
  | value
  | name
  | colon
  | comma
  | closingQuote
  | controlCharacter
  | escape
  | hexEscape
  | extra
deriving DecidableEq

/-- The words of a complaint. -/
def Complaint.message : Complaint → Text
  | byteOrderMark => "Unexpected UTF-8 BOM (decode using utf-8-sig)"
  | value => "Expecting value"
  | name => "Expecting property name enclosed in double quotes"
  | colon => "Expecting ':' delimiter"
  | comma => "Expecting ',' delimiter"
  | closingQuote => "Unterminated string starting at"
  | controlCharacter => "Invalid control character at"
  | escape => "Invalid \\escape"
  | hexEscape => "Invalid \\uXXXX escape"
  | extra => "Extra data"

/-- Why a text is no document. -/
inductive Fault where
  | malformed (c : Complaint) (left : Nat)
  | repeatedKey (key : Text)
  | numberTooLong
deriving DecidableEq

/-- How many digits an integer may have. -/
def digitLimit : Nat := 4300

/-- White space between the tokens of a document. -/
def isBlank (c : CodePoint) : Bool := c = ' ' || c = '\t' || c = '\n' || c = '\r'

/-- The text from its first token on. -/
def skipBlanks (t : Text) : Text := t.dropWhile isBlank

/-! ## Strings -/

/-- The first half of a surrogate pair. -/
def isHighSurrogate (n : Nat) : Bool := 0xD800 ≤ n && n ≤ 0xDBFF

/-- The second half of a surrogate pair. -/
def isLowSurrogate (n : Nat) : Bool := 0xDC00 ≤ n && n ≤ 0xDFFF

/-- What the four digits `t` starts with stand for, and how many code points they take together with
the escape of a second half that follows them. -/
def hexEscape (t : Text) : Except Fault (CodePoint × Nat) :=
  let fail (left : Nat) : Except Fault (CodePoint × Nat) := .error (.malformed .hexEscape left)
  if t.length ≤ 4 then fail (t.length + 1)
  else
    match Text.fourHexDigits? t with
    | none => fail (t.length + 1)
    | some n =>
      match t.drop 4 with
      | a :: b :: t' =>
        if isHighSurrogate n && decide (t'.length > 4) && decide (a = '\\') && decide (b = 'u') then
          match Text.fourHexDigits? t' with
          | none => fail (t'.length + 1)
          | some m =>
            if isLowSurrogate m then
              .ok (CodePoint.ofNat (0x10000 + (n - 0xD800) * 1024 + (m - 0xDC00)), 10)
            else .ok (CodePoint.ofNat n, 4)
        else .ok (CodePoint.ofNat n, 4)
      | _ => .ok (CodePoint.ofNat n, 4)

/-- What the escape after a backslash stands for, and how many code points it takes. `opening` is what
was left at the quote that opens the string. -/
def escape (opening : Nat) : Text → Except Fault (CodePoint × Nat)
  | [] => .error (.malformed .closingQuote opening)
  | e :: t =>
    match Text.simpleEscape? e with
    | some c => .ok (c, 1)
    | none =>
      if e = 'u' then (hexEscape t).map fun (c, n) => (c, n + 1)
      else .error (.malformed .escape (t.length + 2))

/-- The string up to its closing quote, and what follows that; `skip` code points belong to the last
escape. -/
def stringFrom (opening : Nat) : (skip : Nat) → Text → Except Fault (Text × Text)
  | _, [] => .error (.malformed .closingQuote opening)
  | skip + 1, _ :: t => stringFrom opening skip t
  | 0, c :: t =>
    if c = '"' then .ok ([], t)
    else if c.val < 0x20 then .error (.malformed .controlCharacter (t.length + 1))
    else if c = '\\' then do
      let (x, n) ← escape opening t
      let (s, rest) ← stringFrom opening n t
      return (x :: s, rest)
    else do
      let (s, rest) ← stringFrom opening 0 t
      return (c :: s, rest)

/-- The string after its opening quote. -/
def string (t : Text) : Except Fault (Text × Text) := stringFrom (t.length + 1) 0 t

/-! ## Numbers -/

/-- The digits at the start of a text. -/
def digitRun (t : Text) : Text := t.takeWhile CodePoint.isAsciiDigit

/-- The digits before the point: a zero, or a run of digits that starts with another one. -/
def wholeDigits (t : Text) : Text :=
  let run := digitRun t
  if run.head? = some '0' then run.take 1 else run

/-- The point and the digits after it, if there are some. -/
def fractionPart : Text → Text
  | [] => []
  | c :: t => if c = '.' ∧ digitRun t ≠ [] then c :: digitRun t else []

/-- The exponent with its letter, if it has digits. -/
def exponentPart : Text → Text
  | [] => []
  | c :: t =>
    if c = 'e' ∨ c = 'E' then
      let sign := (t.take 1).filter fun s : CodePoint => s = '-' || s = '+'
      let digits := digitRun (t.drop sign.length)
      if digits = [] then [] else c :: sign ++ digits
    else []

/-- The number at the start of a text. -/
def number (t : Text) : Except Fault (Json × Text) :=
  let sign := (t.take 1).filter fun s : CodePoint => s = '-'
  let whole := wholeDigits (t.drop sign.length)
  if whole = [] then .error (.malformed .value t.length)
  else
    let rest := t.drop (sign.length + whole.length)
    let fraction := fractionPart rest
    let exponent := exponentPart (rest.drop fraction.length)
    let rest := rest.drop (fraction.length + exponent.length)
    if fraction = [] ∧ exponent = [] then
      if whole.length > digitLimit then .error .numberTooLong
      else .ok (.int (Decimal.signed (sign ≠ []) (asciiNumber whole)), rest)
    else
      .ok (.double ((Double.ofText? (sign ++ whole ++ fraction ++ exponent)).getD .nan), rest)

/-- The words that stand for values. -/
def words : List (Text × Json) :=
  [("null", .null), ("true", .bool true), ("false", .bool false), ("NaN", .double .nan),
    ("Infinity", .double (.infinite false)), ("-Infinity", .double (.infinite true))]

/-- A word or a number. -/
def scalar (t : Text) : Except Fault (Json × Text) :=
  match words.findSome? fun (word, v) => (Text.dropLead? word t).map fun rest => (v, rest) with
  | some r => .ok r
  | none => number t

/-! ## Documents -/

/-- The object with these members, unless a key is repeated. -/
def ofMembers (members : List (Text × Json)) : Except Fault Json :=
  match firstRepeated? [] (members.map (·.1)) with
  | some key => .error (.repeatedKey key)
  | none => .ok (.object members)

mutual

/-- The value that a text starts with, and what follows it. -/
def value : (fuel : Nat) → Text → Except Fault (Json × Text)
  | 0, t => .error (.malformed .value t.length)
  | _ + 1, [] => .error (.malformed .value 0)
  | fuel + 1, c :: t =>
    if c = '"' then do
      let (s, rest) ← string t
      return (.text s, rest)
    else if c = '{' then
      let body := skipBlanks t
      if body.head? = some '}' then .ok (.object [], body.drop 1)
      else do
        let (members, rest) ← members fuel body
        let object ← ofMembers members
        return (object, rest)
    else if c = '[' then
      let body := skipBlanks t
      if body.head? = some ']' then .ok (.array [], body.drop 1)
      else do
        let (items, rest) ← items fuel body
        return (.array items, rest)
    else scalar (c :: t)

/-- At least one member, and what follows the brace that closes the object. -/
def members : (fuel : Nat) → Text → Except Fault (List (Text × Json) × Text)
  | 0, t => .error (.malformed .name t.length)
  | _ + 1, [] => .error (.malformed .name 0)
  | fuel + 1, c :: t =>
    if c ≠ '"' then .error (.malformed .name (t.length + 1))
    else do
      let (key, rest) ← string t
      match skipBlanks rest with
      | [] => .error (.malformed .colon 0)
      | c :: rest =>
        if c ≠ ':' then .error (.malformed .colon (rest.length + 1))
        else do
          let (v, rest) ← value fuel (skipBlanks rest)
          match skipBlanks rest with
          | [] => .error (.malformed .comma 0)
          | c :: rest =>
            if c = '}' then return ([(key, v)], rest)
            else if c = ',' then do
              let (more, rest) ← members fuel (skipBlanks rest)
              return ((key, v) :: more, rest)
            else .error (.malformed .comma (rest.length + 1))

/-- At least one item, and what follows the bracket that closes the array. -/
def items : (fuel : Nat) → Text → Except Fault (List Json × Text)
  | 0, t => .error (.malformed .value t.length)
  | fuel + 1, t => do
    let (v, rest) ← value fuel t
    match skipBlanks rest with
    | [] => .error (.malformed .comma 0)
    | c :: rest =>
      if c = ']' then return ([v], rest)
      else if c = ',' then do
        let (more, rest) ← items fuel (skipBlanks rest)
        return (v :: more, rest)
      else .error (.malformed .comma (rest.length + 1))

end

/-- The document that a text writes. Every call takes a code point or is followed by one that does, so
twice the length of the text is enough. -/
def read (t : Text) : Except Fault Json :=
  match t with
  | [] => .error (.malformed .value 0)
  | c :: _ =>
    if c.val = 0xFEFF then .error (.malformed .byteOrderMark t.length)
    else do
      let (v, rest) ← value (2 * t.length + 2) (skipBlanks t)
      let rest := skipBlanks rest
      if rest.isEmpty then return v else .error (.malformed .extra rest.length)

end Phrasebook.Json
