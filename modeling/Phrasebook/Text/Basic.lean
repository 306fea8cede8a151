/-!
# Text

A text is a list of Unicode code points. Surrogates are code points too: an escape sequence can put a
lone one into a text, so the element type is wider than `Char`. Characters and string literals are
read as code points and texts by coercion.

The second half holds the cutting and joining that the readers are written with. Positions and
lengths count code points.
-/

namespace Phrasebook

/-- A Unicode code point, surrogates included. -/
structure CodePoint where
  val : Nat
  isLt : val < 0x110000
deriving DecidableEq

namespace CodePoint

theorem toNat_lt (c : Char) : c.toNat < 0x110000 := by
  rcases c.valid with h | ⟨_, h⟩
  · exact Nat.lt_trans h (by decide)
  · exact h

/-- The code point of a character. -/
def ofChar (c : Char) : CodePoint := ⟨c.toNat, toNat_lt c⟩

instance : Coe Char CodePoint := ⟨ofChar⟩

instance : Inhabited CodePoint := ⟨⟨0, by decide⟩⟩

/-- The code point with a given number, if there is one. -/
def ofNat? (n : Nat) : Option CodePoint := if h : n < 0x110000 then some ⟨n, h⟩ else none

/-- The code point with a given number; numbers beyond the last one give U+FFFD. -/
def ofNat (n : Nat) : CodePoint := if h : n < 0x110000 then ⟨n, h⟩ else ⟨0xFFFD, by decide⟩

/-- Surrogates have no character. -/
def isSurrogate (c : CodePoint) : Bool := 0xD800 ≤ c.val && c.val ≤ 0xDFFF

/-- The line feed. -/
def lineFeed : CodePoint := '\n'

/-- The underscore. -/
def underscore : CodePoint := '_'

/-- The carriage return. -/
def carriageReturn : CodePoint := '\r'

theorem ofChar_inj {a b : Char} : ofChar a = ofChar b ↔ a = b := by
  constructor
  · intro h
    have : a.toNat = b.toNat := congrArg CodePoint.val h
    exact Char.ext (UInt32.toNat_inj.1 this)
  · rintro rfl
    rfl

end CodePoint

/-- A sequence of code points. -/
abbrev Text := List CodePoint

instance : LawfulBEq Text := List.instLawfulBEq

instance : LawfulBEq (Text × Text) := inferInstance

namespace Text

/-- The code points of a string. -/
def ofString (s : String) : Text := s.toList.map CodePoint.ofChar

instance : Coe String Text := ⟨ofString⟩

/-- The parts with `separator` between neighbours. -/
def join (separator : Text) : List Text → Text
  | [] => []
  | [t] => t
  | t :: rest => t ++ separator ++ join separator rest

/-- `t` cut at every occurrence of `c`; one more part than there are occurrences. -/
def splitAll (c : CodePoint) : Text → List Text
  | [] => [[]]
  | x :: t =>
    if x = c then [] :: splitAll c t
    else
      match splitAll c t with
      | [] => [[x]]
      | part :: parts => (x :: part) :: parts

theorem splitAll_ne_nil (c : CodePoint) (t : Text) : splitAll c t ≠ [] := by
  cases t with
  | nil => simp [splitAll]
  | cons x t =>
    unfold splitAll
    split
    · simp
    · split <;> simp

/-- Joining undoes splitting. -/
theorem join_splitAll (c : CodePoint) (t : Text) : join [c] (splitAll c t) = t := by
  induction t with
  | nil => rfl
  | cons x t ih =>
    cases hs : splitAll c t with
    | nil => exact absurd hs (splitAll_ne_nil c t)
    | cons part parts =>
      rw [hs] at ih
      by_cases h : x = c
      · simp [splitAll, h, hs, join, ih]
      · cases parts with
        | nil => simp_all [splitAll, join]
        | cons q qs => simp_all [splitAll, join]

/-- What stands before the first `c`, and what stands after it if there is one. -/
def cut (c : CodePoint) : Text → Text × Option Text
  | [] => ([], none)
  | x :: t =>
    if x = c then ([], some t)
    else
      let (before, after) := cut c t
      (x :: before, after)

/-- What stands before the last `c` (nothing if there is none) and what stands after it. -/
def cutLast (c : CodePoint) (t : Text) : Text × Text :=
  let after := (t.reverse.takeWhile (· ≠ c)).reverse
  (t.take (t.length - after.length - 1), after)

/-- The rest of `t` after `lead`, if it starts with it. -/
def dropLead? : (lead t : Text) → Option Text
  | [], t => some t
  | _ :: _, [] => none
  | a :: lead, b :: t => if a = b then dropLead? lead t else none

/-- Whether `t` starts with `lead`. -/
def startsWith (t lead : Text) : Bool := (dropLead? lead t).isSome

/-- Whether `t` ends with `tail`. -/
def endsWith (t tail : Text) : Bool := startsWith t.reverse tail.reverse

/-- The position of the first `c`. -/
def indexOf? (c : CodePoint) (t : Text) : Option Nat := t.findIdx? (· = c)

/-- Every `old`, found from the left and without overlap, becomes `new`. `skip` counts the code
points of the last match that are still to be passed over. -/
def replaceFrom (old new : Text) : Nat → Text → Text
  | _, [] => []
  | skip + 1, _ :: t => replaceFrom old new skip t
  | 0, c :: t =>
    if startsWith (c :: t) old then new ++ replaceFrom old new (old.length - 1) t
    else c :: replaceFrom old new 0 t

/-- Every `old` becomes `new`; an empty `old` stands at both ends and between all neighbours. -/
def replace (t old new : Text) : Text :=
  if old.isEmpty then new ++ t.flatMap (fun c => c :: new) else replaceFrom old new 0 t

/-- `t` filled up on the left to `width` code points. -/
def padLeft (width : Nat) (fill : CodePoint) (t : Text) : Text :=
  List.replicate (width - t.length) fill ++ t

/-- `t` filled up on the right to `width` code points. -/
def padRight (width : Nat) (fill : CodePoint) (t : Text) : Text :=
  t ++ List.replicate (width - t.length) fill

/-- A run of zeros. -/
def zeros (n : Nat) : Text := List.replicate n '0'

/-- The digit with value `d`, for `d` below sixteen, in lower case. -/
def digit (d : Nat) : CodePoint :=
  if d < 10 then CodePoint.ofNat (0x30 + d) else CodePoint.ofNat (0x61 + (d - 10))

/-- The digits of `n` in a base of at least two, before those already written. -/
def digitsOnto (base : Nat) (h : 1 < base) (n : Nat) (written : Text) : Text :=
  if n < base then digit n :: written
  else digitsOnto base h (n / base) (digit (n % base) :: written)
termination_by n
decreasing_by exact Nat.div_lt_self (by omega) h

/-- A number in decimal notation. -/
def ofNat (n : Nat) : Text := digitsOnto 10 (by decide) n []

/-- A number in hexadecimal notation, in lower case. -/
def ofNatHex (n : Nat) : Text := digitsOnto 16 (by decide) n []

/-- An integer in decimal notation. -/
def ofInt : Int → Text
  | .ofNat n => ofNat n
  | .negSucc n => '-' :: ofNat (n + 1)

end Text

end Phrasebook
