import Phrasebook.Pairs
import Phrasebook.Text.Basic

/-!
# Elements

An element with its attributes, its first text and its child elements. A name in a namespace is written
with the name of the namespace in braces before it. Of the text of an element only what stands before
its first child is kept.
-/

namespace Phrasebook.Xml

/-- An element of a document. -/
inductive Element where
  | node (tag : Text) (attributes : List (Text × Text)) (text : Text) (children : List Element)
deriving Inhabited

namespace Element

/-- The name of an element. -/
def tag : Element → Text
  | node tag _ _ _ => tag

/-- The text before the first child. -/
def text : Element → Text
  | node _ _ text _ => text

/-- The child elements. -/
def children : Element → List Element
  | node _ _ _ children => children

/-- The value of an attribute. -/
def attribute? (e : Element) (name : Text) : Option Text :=
  match e with
  | node _ attributes _ _ => Pairs.get? name attributes

/-- The first child with a name. -/
def child? (e : Element) (tag : Text) : Option Element := e.children.find? fun c => c.tag = tag

/-- The children with a name. -/
def childrenNamed (e : Element) (tag : Text) : List Element := e.children.filter fun c => c.tag = tag

end Element

end Phrasebook.Xml
