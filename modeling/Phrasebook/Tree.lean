import Phrasebook.Error
import Phrasebook.Pairs
import Phrasebook.Text.Case
import Phrasebook.Text.Quoted

/-!
# Trees of keys

The hierarchical view of a catalog: groups that hold leaves and further groups. Groups and leaves
are found by the folded form of their names. A path is a dotted name; empty segments of a path do not
count.
-/

namespace Phrasebook

/-- One key with its value. -/
structure Leaf where
  key : Text
  value : Option Text
  escapedValue : Option Text
  hasPlaceholders : Bool
deriving DecidableEq, Inhabited

/-- A group of leaves and further groups, each under its folded name. -/
inductive Group where
  | node (name : Text) (leaves : List (Text × Leaf)) (children : List (Text × Group))
deriving Inhabited

namespace Group

/-- The full stop between the segments of a path. -/
def dot : CodePoint := '.'

/-- The segments of a path. -/
def segments (path : Text) : List Text := (Text.splitAll dot path).filter fun s => !s.isEmpty

/-- A group with nothing in it. -/
def named (name : Text) : Group := .node name [] []

/-- The name of a group as it was first written. -/
def name : Group → Text
  | node name _ _ => name

/-- The leaves of a group under their folded keys. -/
def leaves : Group → List (Text × Leaf)
  | node _ leaves _ => leaves

/-- The groups within a group under their folded names. -/
def children : Group → List (Text × Group)
  | node _ _ children => children

/-- A group in a word, for those who look for faults. -/
def described (g : Group) : Text :=
  "TranslationTreeNode(name=" ++ g.name.quoted ++ ", keys=" ++ Text.ofNat g.leaves.length
    ++ ", children=" ++ Text.ofNat g.children.length ++ ")"

/-- The leaf with a key. -/
def leaf? (g : Group) (key : Text) : Option Leaf := Pairs.get? key.fold g.leaves

/-- The group with a name within a group. -/
def child? (g : Group) (name : Text) : Option Group := Pairs.get? name.fold g.children

/-- The group at the end of a path. -/
def find? : List Text → Group → Option Group
  | [], g => some g
  | s :: path, g => (g.child? s).bind (find? path)

/-- The children with the one under `key` changed by `f`; `fresh` is changed and added if there is
none. -/
def updateChild {ε : Type} (key : Text) (fresh : Group) (f : Group → Except ε Group) :
    List (Text × Group) → Except ε (List (Text × Group))
  | [] => do return [(key, ← f fresh)]
  | (k, g) :: rest =>
    if k = key then do return (k, ← f g) :: rest
    else do return (k, g) :: (← updateChild key fresh f rest)

/-- The group with the one at the end of a path changed by `f`; groups that are missing on the way are
made. -/
def update {ε : Type} (f : Group → Except ε Group) : List Text → Group → Except ε Group
  | [], g => f g
  | s :: path, .node name leaves children => do
    return .node name leaves (← updateChild s.fold (named s) (update f path) children)

/-- The group with a leaf added, unless its key is taken. -/
def addLeaf (l : Leaf) : Group → Outcome Group
  | .node name leaves children =>
    if Pairs.has l.key.fold leaves then
      .error (.content ("Duplicate key '" ++ l.key ++ "'"))
    else .ok (.node name (leaves ++ [(l.key.fold, l)]) children)

end Group

/-- The tree of a catalog: the group at its root. -/
structure Tree where
  root : Group
deriving Inhabited

namespace Tree

open Phrasebook.Group

/-- A tree with nothing in it. -/
def empty : Tree := ⟨.named []⟩

/-- The group at the end of a path. -/
def group? (t : Tree) (path : Text) : Option Group := t.root.find? (segments path)

/-- The tree with all groups on a path in it. -/
def makeGroup (t : Tree) (path : Text) : Outcome Tree := do
  return ⟨← t.root.update .ok (segments path)⟩

/-- The tree with a leaf added to the group at the end of a path, which is made if it is missing. -/
def addLeaf (t : Tree) (path : Text) (l : Leaf) : Outcome Tree := do
  return ⟨← t.root.update (Group.addLeaf l) (segments path)⟩

/-- The leaf with a dotted key. -/
def leaf? (t : Tree) (path : Text) : Option Leaf := do
  let (group, key) := Text.cutLast dot path
  (← t.group? group).leaf? key

/-- The value of the leaf with a dotted key. -/
def value? (t : Tree) (path : Text) : Option Text := (t.leaf? path).bind Leaf.value

/-- A dotted name within a group. -/
def join (group name : Text) : Text := if group.isEmpty then name else group ++ [dot] ++ name

mutual

/-- How many groups lie on the longest way down from a group, itself included. -/
def height : Group → Nat
  | .node _ _ children => heightOfAll children + 1

/-- The largest height among groups. -/
def heightOfAll : List (Text × Group) → Nat
  | [] => 0
  | (_, g) :: rest => max (height g) (heightOfAll rest)

end

/-- The leaves of groups of one depth, and then those of the groups below them, `levels` deep. Each
group comes with its dotted name. -/
def leavesByLevel : (levels : Nat) → List (Text × Group) → List (Text × Leaf)
  | 0, _ => []
  | levels + 1, groups =>
    (groups.flatMap fun (path, g) => g.leaves.map fun (_, l) => (join path l.key, l))
      ++ leavesByLevel levels
        (groups.flatMap fun (path, g) => g.children.map fun (_, c) => (join path c.name, c))

/-- All leaves with their dotted keys: those of a group before those of groups further down. -/
def flatten (t : Tree) : List (Text × Leaf) := leavesByLevel (height t.root) [([], t.root)]

end Tree

end Phrasebook
