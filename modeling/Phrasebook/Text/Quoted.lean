import Phrasebook.Unicode.Properties

/-!
# Quoted texts

The form in which a message shows a value that is a text: between quotes, with backslash escapes for
the quote, the backslash and everything unprintable. Single quotes are used unless the text holds
some and no double quote.
-/

namespace Phrasebook.Text

/-- `n` as a hexadecimal number of at least `width` digits. -/
def hexField (width n : Nat) : Text := padLeft width '0' (ofNatHex n)

/-- One code point between quotes of the kind `quote`. -/
def quotePoint (quote c : CodePoint) : Text :=
  if c = quote ∨ c = '\\' then ['\\', c]
  else if c = '\t' then "\\t"
  else if c = '\n' then "\\n"
  else if c = '\r' then "\\r"
  else if c.isPrintable then [c]
  else if c.val < 0x100 then "\\x" ++ hexField 2 c.val
  else if c.val < 0x10000 then "\\u" ++ hexField 4 c.val
  else "\\U" ++ hexField 8 c.val

/-- The quoted form of a text. -/
def quoted (t : Text) : Text :=
  let single : CodePoint := '\''
  let double : CodePoint := '"'
  let quote := if single ∈ t ∧ double ∉ t then double else single
  quote :: t.flatMap (quotePoint quote) ++ [quote]

end Phrasebook.Text
