import Phrasebook.Configuration
import Phrasebook.Files.Options
import Phrasebook.Text.Position
import Phrasebook.Catalog
import Phrasebook.Tree
import Phrasebook.Xml.Reader

/-!
# Resource files

XML documents with one `data` element for each text: its name is the key, and its children are the
value and a comment. Elements that are typed as something else than strings are passed over, and so
are those without a name. Outer blanks of a value do not count unless the element preserves them.
-/

namespace Phrasebook.Files.Resources

open Xml

/-- The failure that a fault of a document is reported as. -/
def failure (t : Text) (f : Fault) : Failure :=
  let (line, column) := Document.place (t.take (t.length - f.left))
  let place : Text := "line " ++ Text.ofNat line ++ ", column " ++ Text.ofNat column
  let offset := Text.absolutePosition t line (column + 1)
  .malformed
    { message := f.complaint.message ++ ": " ++ place ++ " at " ++ TextError.place line (column + 1)
      start := offset
      stop := offset
      line := line
      column := column + 1 }

/-- The root of the document that a text writes. -/
def root (t : Text) : Outcome Element :=
  if t.isBlank then .error (.content "The document has no XML root node")
  else if t.any CodePoint.isSurrogate then .error (.obstacle .encoding)
  else (Document.root t).mapError (failure t)

/-- The trimmed text of a child. -/
def childText (e : Element) (tag : Text) : Option Text := (e.child? tag).map fun c => c.text.strip

/-! ## Texts -/

/-- The type of the elements that count; a shorter form of its name will do. -/
def stringType : Text := "System.String"

/-- The attribute that asks for blanks to be preserved. -/
def spaceAttribute : Text := inNamespace xmlNamespace "space"

/-- The attribute with the key. -/
def nameAttribute : Text := "name"

/-- A text of a resource file. -/
structure Resource where
  name : Text
  value : Option Text
  comment : Option Text
deriving DecidableEq

/-- The trimmed name of an element; empty if it has none. -/
def nameOf (e : Element) : Text := ((e.attribute? nameAttribute).getD []).strip

/-- Whether an element is a text with a name. -/
def isResource (e : Element) : Bool :=
  ((e.attribute? "type").all fun t => Text.startsWith stringType t) && !(nameOf e).isEmpty

/-- The text that an element holds. -/
def Resource.ofElement (e : Element) : Resource where
  name := nameOf e
  value := (e.child? "value").map fun c =>
    if e.attribute? spaceAttribute = some (Text.ofString "preserve") then c.text else c.text.strip
  comment := childText e "comment"

/-- The texts of a document folded into a value; a name may not come twice. -/
def foldResources {α : Type} (f : α → Resource → Outcome α) (seen : List Text) :
    List Resource → α → Outcome α
  | [], a => .ok a
  | r :: rest, a => do
    if r.name.fold ∈ seen then
      .error (.content ("Duplicate key '" ++ r.name ++ "' specified in the translation file"))
    else
      let a ← f a r
      foldResources f (r.name.fold :: seen) rest a

/-- The texts of a document in order. -/
def resources (e : Element) : List Resource :=
  ((e.childrenNamed "data").filter isResource).map Resource.ofElement

/-! ## Catalogs, trees and configurations -/

/-- The catalog with the entry of a text added. -/
def addEntry (o : Options) (mode : Mode) (t : Catalog) (r : Resource) : Outcome Catalog := do
  let e ← makeEntry o mode r.name r.value none
  return t.add r.name { e with comments := r.comment.filter fun c => !c.isEmpty }

/-- The catalog of a document by its root. -/
def rootCatalog (o : Options) (mode : Mode) (e : Element) : Outcome Catalog :=
  foldResources (addEntry o mode) [] (resources e) (.ofLocale none)

/-- The catalog that a text writes. -/
def catalog (o : Options) (mode : Mode) (t : Text) : Outcome Catalog := do rootCatalog o mode (← root t)

/-- The tree with the leaf of a text added. -/
def addLeaf (o : Options) (mode : Mode) (tree : Tree) (r : Resource) : Outcome Tree := do
  tree.addLeaf [] ⟨r.name, r.value, none, ← leafFlag o mode r.value⟩

/-- The tree of a document by its root. -/
def rootTree (o : Options) (mode : Mode) (e : Element) : Outcome Tree :=
  foldResources (addLeaf o mode) [] (resources e) .empty

/-- The tree that a text writes. -/
def tree (o : Options) (mode : Mode) (t : Text) : Outcome Tree := do rootTree o mode (← root t)

/-- The element that lists the file of a locale. -/
def localeTag : Text := "locale"

/-- The pairs of a locale and a file that elements list. -/
def filePairs : List Element → Outcome (List (Text × Text))
  | [] => .ok []
  | e :: rest => do
    let sectionName := "'" ++ Configuration.filesSection ++ "' section"
    if e.tag.lower ≠ localeTag then
      .error (.content ("Unexpected '" ++ e.tag ++ "' tag in the " ++ sectionName))
    else if (nameOf e).isEmpty then
      .error (.content ("The '" ++ nameAttribute ++ "' attribute is missing from the '" ++ localeTag
        ++ "' node"))
    else return (nameOf e, e.text) :: (← filePairs rest)

/-- The configuration of a document by its root. -/
def rootConfiguration (e : Element) (source : Option Text) : Outcome Configuration := do
  let listed := ((e.child? Configuration.filesSection).map Element.children).getD []
  let files ← Configuration.fileMap (← filePairs listed)
  Configuration.ofSettings (childText e) files source

/-- The configuration that a text writes. -/
def configuration (t : Text) (source : Option Text) : Outcome Configuration := do rootConfiguration (← root t) source

end Phrasebook.Files.Resources
