import Phrasebook.Unicode.Properties
import Phrasebook.Unicode.CaseMaps

/-!
# Upper, lower and title case

Full case mappings, which may lengthen a text. Lower case writes a capital sigma as a final sigma
when a cased letter stands before it and none after it, code points that the rule looks through not
counted. Title case raises the first cased letter after anything uncased and lowers the others.

`fold` is the key under which names are compared without regard to case: the upper case of the text.
-/

namespace Phrasebook

namespace Unicode

/-- The image of `n` under the runs of a case map. -/
def shiftOf : List Run → Nat → Option Int
  | [], _ => none
  | r :: rest, n =>
    if n < r.first then none
    else if n ≤ r.last then if (n - r.first) % r.stride = 0 then some r.shift else none
    else shiftOf rest n

/-- The image of `n` among exceptions in ascending order. -/
def exceptionOf : List (Nat × List Nat) → Nat → Option (List Nat)
  | [], _ => none
  | (m, image) :: rest, n => if n < m then none else if n = m then some image else exceptionOf rest n

/-- The image of a code point under a case map: an exception, else a shift, else itself. -/
def mapCase (exceptions : List (Nat × List Nat)) (runs : List Run) (c : CodePoint) : Text :=
  match exceptionOf exceptions c.val with
  | some image => image.map CodePoint.ofNat
  | none =>
    match shiftOf runs c.val with
    | some d => [CodePoint.ofNat (Int.toNat (c.val + d))]
    | none => [c]

end Unicode

namespace CodePoint

/-- The upper case of a code point. -/
def upper (c : CodePoint) : Text := Unicode.mapCase Unicode.upperExceptions Unicode.upperRuns c

/-- The lower case of a code point, apart from its context. -/
def lower (c : CodePoint) : Text := Unicode.mapCase Unicode.lowerExceptions Unicode.lowerRuns c

/-- The title case of a code point. -/
def title (c : CodePoint) : Text :=
  match Unicode.exceptionOf Unicode.titleExceptions c.val with
  | some image => image.map CodePoint.ofNat
  | none => c.upper

end CodePoint

namespace Text

/-- Whether the first code point that the final-sigma rule does not look through is cased. -/
def meetsCased (t : Text) : Bool :=
  match t.dropWhile CodePoint.isCaseIgnorable with
  | [] => false
  | c :: _ => c.isCased

/-- The lower case of `c` between what stands before it, read backwards, and what stands after. -/
def lowerBetween (before : Text) (c : CodePoint) (after : Text) : Text :=
  if c.val = 0x3A3 then
    if meetsCased before && !meetsCased after then [CodePoint.ofNat 0x3C2] else [CodePoint.ofNat 0x3C3]
  else c.lower

/-- The lower case of a text after `before`, read backwards. -/
def lowerFrom (before : Text) : Text → Text
  | [] => []
  | c :: t => lowerBetween before c t ++ lowerFrom (c :: before) t

/-- The title case of a text after `before`, read backwards. -/
def titleFrom (before : Text) : Text → Text
  | [] => []
  | c :: t =>
    let here :=
      match before with
      | [] => c.title
      | b :: _ => if b.isCased then lowerBetween before c t else c.title
    here ++ titleFrom (c :: before) t

/-- The upper case of a text. -/
def upper (t : Text) : Text := t.flatMap CodePoint.upper

/-- The lower case of a text. -/
def lower (t : Text) : Text := lowerFrom [] t

/-- The title case of a text. -/
def title (t : Text) : Text := titleFrom [] t

/-- The key under which names are compared without regard to case. -/
def fold (t : Text) : Text := upper t

theorem upper_append (s t : Text) : upper (s ++ t) = upper s ++ upper t := by
  simp [upper]

end Text

end Phrasebook
