import Phrasebook.Unicode.Properties

/-!
# Backslash escapes

`unescape` decodes the escapes of a text: the eight two-character ones of `simpleEscape?`, and a `u`
followed by four hexadecimal digits, which names any code point below U+10000, a surrogate included.
Everything else that follows a backslash is kept with its backslash, and so is a trailing backslash.
-/

namespace Phrasebook.Text

/-- What a backslash and `c` stand for, where that is a single code point. -/
def simpleEscape? (c : CodePoint) : Option CodePoint :=
  if c = '"' ∨ c = '\\' ∨ c = '/' then some c
  else if c = 'b' then some (CodePoint.ofNat 0x08)
  else if c = 'f' then some (CodePoint.ofNat 0x0C)
  else if c = 'n' then some '\n'
  else if c = 'r' then some '\r'
  else if c = 't' then some '\t'
  else none

/-- The number that the first four code points write as hexadecimal digits. -/
def fourHexDigits? : Text → Option Nat
  | a :: b :: c :: d :: _ =>
    match a.hexValue?, b.hexValue?, c.hexValue?, d.hexValue? with
    | some a, some b, some c, some d => some (((a * 16 + b) * 16 + c) * 16 + d)
    | _, _, _, _ => none
  | _ => none

/-- The text that a text with escapes stands for; `skip` counts the code points of the last escape
that are still to be passed over. -/
def unescapeFrom : Nat → Text → Text
  | _, [] => []
  | skip + 1, _ :: t => unescapeFrom skip t
  | 0, c :: t =>
    if c = '\\' then
      match t with
      | [] => [c]
      | e :: digits =>
        match simpleEscape? e with
        | some x => x :: unescapeFrom 1 t
        | none =>
          if e = 'u' then
            match fourHexDigits? digits with
            | some n => CodePoint.ofNat n :: unescapeFrom 5 t
            | none => c :: e :: unescapeFrom 1 t
          else c :: e :: unescapeFrom 1 t
    else c :: unescapeFrom 0 t

/-- The text that a text with escapes stands for. -/
def unescape (t : Text) : Text := unescapeFrom 0 t

end Phrasebook.Text
