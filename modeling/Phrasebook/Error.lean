import Phrasebook.Text.Basic

/-!
# Failures

Everything that can go wrong, by cause. A `TextError` points at a place in a text; a `Failure` is what
an operation of the library answers instead of a value. An `Obstacle` is the report of a primitive
operation (an arithmetic limit, an absent field, undecodable bytes) that no rule of the library turned
into one of the other failures.
-/

namespace Phrasebook

/-- A fault between the offsets `start` and `stop` of a text. -/
structure TextError where
  message : Text
  start : Nat
  stop : Nat
  line : Nat
  column : Nat
deriving DecidableEq

namespace TextError

/-- The place as `line:column`. -/
def place (line column : Nat) : Text := Text.ofNat line ++ ":" ++ Text.ofNat column

/-- The error as it is told about a file. -/
def inFile (name : Text) (e : TextError) : TextError :=
  { e with message := name ++ ":" ++ place e.line e.column ++ ": " ++ e.message }

end TextError

/-- What a primitive operation could not do. -/
inductive Obstacle where
  /-- An arithmetic operation without a result. -/
  | invalidOperation
  /-- A decimal beyond the largest exponent. -/
  | decimalOverflow
  /-- A number too large for what it is used as. -/
  | overflow
  /-- A value of the right kind that cannot be used. -/
  | value
  /-- A value of the wrong kind. -/
  | type
  /-- A field or an operation that the value does not have. -/
  | attribute
  /-- A name that stands for nothing. -/
  | key
  /-- Bytes that are no UTF-8. -/
  | decoding
  /-- Text that cannot be written as UTF-8. -/
  | encoding
  /-- A refusal of the operating system. -/
  | system
deriving DecidableEq

/-- Why a template could not be rendered. -/
structure ProcessingError where
  message : Text
  placeholder : Option Text
  /-- The obstacle at the end of the message, if that is where the message gets its last words. -/
  cause : Option Obstacle
deriving DecidableEq

/-- What an operation of the library answers instead of a value. -/
inductive Failure where
  /-- Content or a setting that is well formed and yet unusable. -/
  | content (message : Text)
  /-- Malformed content. -/
  | malformed (e : TextError)
  /-- Malformed content of a named file. -/
  | malformedFile (name : Text) (e : TextError)
  /-- A malformed template. -/
  | malformedTemplate (e : TextError)
  /-- A file that cannot be read. -/
  | unreadable (file message : Text)
  /-- A configuration file that cannot be used. -/
  | configuration (file message : Text)
  /-- A template that cannot be rendered. -/
  | processing (e : ProcessingError)
  /-- A change to something locked. -/
  | locked (message : Text)
  /-- A setting that its validation refuses. -/
  | invalidSetting
  /-- The report of a primitive operation. -/
  | obstacle (o : Obstacle)
deriving DecidableEq

/-- The result of an operation that may fail. -/
abbrev Outcome := Except Failure

namespace Failure

/-- Fails because of `o`. -/
def ofObstacle {α : Type} (r : Except Obstacle α) : Outcome α := r.mapError .obstacle

/-- The words of a failure that has some. -/
def message? : Failure → Option Text
  | content m => some m
  | malformed e => some e.message
  | malformedFile name e => some (e.inFile name).message
  | malformedTemplate e => some e.message
  | unreadable _ m => some m
  | configuration _ m => some m
  | processing e => some e.message
  | locked m => some m
  | invalidSetting => none
  | obstacle _ => none

end Failure

end Phrasebook
