import Phrasebook.Text.Basic
import Phrasebook.Unicode.Letters
import Phrasebook.Unicode.Numerals
import Phrasebook.Unicode.Printing
import Phrasebook.Unicode.CaseContext

/-!
# Classes of code points

The properties of single code points that the readers and printers ask about.
-/

namespace Phrasebook.CodePoint

open Unicode

/-- A letter of any script. -/
def isLetter (c : CodePoint) : Bool := inRanges letterRanges c.val

/-- A letter, or a code point with a numeric value. -/
def isAlphanumeric (c : CodePoint) : Bool := c.isLetter || inRanges numeralRanges c.val

/-- A code point that stands for a single digit, superscript and circled ones included. -/
def isDigit (c : CodePoint) : Bool := inRanges digitRanges c.val

/-- The value of a decimal digit of any script. -/
def digitValue? (c : CodePoint) : Option Nat :=
  (decimalZeros.find? fun start => start ≤ c.val && c.val ≤ start + 9).map (c.val - ·)

/-- White space. -/
def isBlank (c : CodePoint) : Bool := inRanges blankRanges c.val

/-- Shown as itself in a quoted text. -/
def isPrintable (c : CodePoint) : Bool := !inRanges unprintableRanges c.val

/-- A letter that has case, or a sign derived from one. -/
def isCased (c : CodePoint) : Bool := inRanges casedRanges c.val

/-- A code point that the final-sigma rule looks through. -/
def isCaseIgnorable (c : CodePoint) : Bool := inRanges caseIgnorableRanges c.val

/-- The value of an ASCII hexadecimal digit. -/
def hexValue? (c : CodePoint) : Option Nat :=
  if 0x30 ≤ c.val ∧ c.val ≤ 0x39 then some (c.val - 0x30)
  else if 0x41 ≤ c.val ∧ c.val ≤ 0x46 then some (c.val - 0x41 + 10)
  else if 0x61 ≤ c.val ∧ c.val ≤ 0x66 then some (c.val - 0x61 + 10)
  else none

/-- An ASCII digit. -/
def isAsciiDigit (c : CodePoint) : Bool := 0x30 ≤ c.val && c.val ≤ 0x39

/-- The value of an ASCII digit; zero for anything else. -/
def asciiDigitValue (c : CodePoint) : Nat := if c.isAsciiDigit then c.val - 0x30 else 0

end Phrasebook.CodePoint

namespace Phrasebook.Text

/-- `t` without the white space at its start. -/
def stripStart (t : Text) : Text := t.dropWhile CodePoint.isBlank

/-- `t` without the white space at its end. -/
def stripEnd (t : Text) : Text := (stripStart t.reverse).reverse

/-- `t` without the white space at either end. -/
def strip (t : Text) : Text := stripEnd (stripStart t)

/-- Only white space, or nothing at all. -/
def isBlank (t : Text) : Bool := t.all CodePoint.isBlank

/-- Not empty, and made of digits alone. -/
def isNumber (t : Text) : Bool := !t.isEmpty && t.all CodePoint.isDigit

/-- The runs of code points between white space; `word` is the run read so far, backwards. -/
def wordsFrom (word : Text) : Text → List Text
  | [] => if word.isEmpty then [] else [word.reverse]
  | c :: t =>
    if c.isBlank then
      if word.isEmpty then wordsFrom [] t else word.reverse :: wordsFrom [] t
    else wordsFrom (c :: word) t

/-- The words of a text: its maximal runs without white space. -/
def words (t : Text) : List Text := wordsFrom [] t

end Phrasebook.Text
