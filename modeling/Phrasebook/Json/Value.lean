import Phrasebook.Number.Double
import Phrasebook.Pairs

/-!
# JSON values

A JSON document as a tree. Objects keep their members in the order of the document; that no key is
repeated is a rule of the reader. Numbers written with a fraction or an exponent are double-precision,
all others are integers of any size.
-/

namespace Phrasebook

/-- A JSON value. -/
inductive Json where
  | null
  | bool (b : Bool)
  | int (n : Int)
  | double (x : Double)
  | text (t : Text)
  | array (items : List Json)
  | object (members : List (Text × Json))
deriving Inhabited

namespace Json

/-- The word by which messages name the kind of a value. -/
def kind : Json → Text
  | null => "NoneType"
  | bool _ => "bool"
  | int _ => "int"
  | double _ => "float"
  | text _ => "str"
  | array _ => "list"
  | object _ => "dict"

/-- A number as a fraction; truth values count as numbers. -/
def fraction? : Json → Option (Int × Nat)
  | bool b => some (if b then 1 else 0, 1)
  | int n => some (n, 1)
  | double (.finite negative m e) =>
    let (num, den) := Double.ratio m e
    some (if negative then -num else num, den)
  | _ => none

mutual

/-- Whether two values are the same: numbers by their value, objects without regard to order. -/
def same : Json → Json → Bool
  | null, null => true
  | text t, text u => t = u
  | array l, array m => l.length = m.length && sameItems l m
  | object l, object m => l.length = m.length && sameMembers l m
  | double (.infinite x), double (.infinite y) => x = y
  | a, b =>
    match fraction? a, fraction? b with
    | some (n, d), some (m, e) => n * e = m * d
    | _, _ => false

/-- Whether the values of two lists are the same one by one. -/
def sameItems : List Json → List Json → Bool
  | a :: l, b :: m => same a b && sameItems l m
  | [], [] => true
  | _, _ => false

/-- Whether each of some members has the same value among others. -/
def sameMembers : List (Text × Json) → List (Text × Json) → Bool
  | [], _ => true
  | (k, a) :: l, m => (Pairs.get? k m).any (same a) && sameMembers l m

end

/-- The first key that an earlier key of the list equals; `seen` are the keys before the list. -/
def firstRepeated? (seen : List Text) : List Text → Option Text
  | [] => none
  | k :: rest => if k ∈ seen then some k else firstRepeated? (k :: seen) rest

end Json

end Phrasebook
