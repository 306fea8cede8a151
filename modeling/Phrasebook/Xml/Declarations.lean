import Phrasebook.Xml.Namespace

/-!
# Declarations

What a document declares before its root. An entity is a text with a name; where the name is referred to,
the text stands, and in it other entities may be referred to, but not the entity itself. An attribute
may be declared with a value that it has where it is not written, and as one whose blanks do not count.
Of two declarations the first counts. What is declared of contents and formats is checked and passed over.

Entities may also be declared where nothing is read from: in another document, or by a reference to a
parameter entity. An entity that is not known is passed over then, unless the document stands alone.
-/

namespace Phrasebook.Xml

/-- A complaint and how many code points of the text are left from its place on. -/
structure Fault where
  complaint : Complaint
  left : Nat
deriving DecidableEq

/-- The fault of a piece of markup that starts at `start`. -/
def Break.fault (start : Text) : Break → Fault
  | broken t => ⟨.invalidToken, t.length⟩
  | unfinished => ⟨.unclosedToken, start.length⟩

/-- The fault of `t`. -/
def faultAt {α : Type} (t : Text) (c : Complaint) : Except Fault α := .error ⟨c, t.length⟩

/-- A piece of markup that starts at `start`. -/
def piece {α : Type} (start : Text) (r : Except Break α) : Except Fault α := r.mapError (·.fault start)

/-- An entity that is declared. -/
inductive Entity where
  | internal (text : Text)
  /-- The text is another document. -/
  | external
  /-- It is no text. -/
  | unparsed

/-- What is declared of an attribute. -/
structure AttributeRule where
  /-- The name of the elements, as it is written. -/
  element : Text
  name : QualifiedName
  keepsBlanks : Bool
  default : Option Text

/-- What a document declares before its root. -/
structure Declarations where
  entities : List (Text × Entity) := []
  rules : List AttributeRule := []
  /-- There are declarations that are not read. -/
  hasUnread : Bool := false
  /-- The document stands alone. -/
  isAlone : Bool := false
  /-- Further declarations count. -/
  isKept : Bool := true
  /-- The entities whose texts are being read. -/
  opened : List Text := []

namespace Declarations

/-- Whether entities must be declared. -/
def isComplete (d : Declarations) : Bool := !d.hasUnread || d.isAlone

/-- The declarations with an entity added; of two with one name the first counts. -/
def addEntity (d : Declarations) (name : Text) (e : Entity) : Declarations :=
  if !d.isKept || Pairs.has name d.entities || (predefined? name).isSome then d
  else { d with entities := d.entities ++ [(name, e)] }

/-- What is declared of an attribute of the elements of a name. -/
def rule? (d : Declarations) (element : Text) (name : QualifiedName) : Option AttributeRule :=
  d.rules.find? fun r => r.element = element ∧ r.name = name

/-- The declarations with one of an attribute added; of two for one attribute the first counts. -/
def addRule (d : Declarations) (r : AttributeRule) : Declarations :=
  if !d.isKept || (d.rule? r.element r.name).isSome then d else { d with rules := d.rules ++ [r] }

/-- The declarations where the text of an entity is read. -/
def opening (d : Declarations) (name : Text) : Declarations := { d with opened := name :: d.opened }

/-- How many entities may be open within each other, and one more. -/
def depth (d : Declarations) : Nat := d.entities.length + 1

end Declarations

/-! ## Values of attributes -/

/-- What is wrong with a value, and the value from that place on; without a place it is what the value stands in. -/
structure Remark where
  complaint : Complaint
  at_ : Option Text

/-- The value that pieces make. White space is read as spaces, and each reference to an entity is replaced. A
complaint about an entity is about the reference to it if it says so. -/
def valueText (replace : Text → Except (Complaint × Bool) Text) : List (Piece × Text) → Except Remark Text
  | [] => .ok []
  | (.plain c, _) :: rest => do
    let more ← valueText replace rest
    let isFirstOfTwo := c = CodePoint.carriageReturn
      ∧ rest.head?.map Prod.fst = some (.plain CodePoint.lineFeed)
    return if isFirstOfTwo then more else (if isSpace c then ' ' else c) :: more
  | (.numbered none, at_) :: _ => .error ⟨.noCharacter, some at_⟩
  | (.numbered (some c), _) :: rest => do return c :: (← valueText replace rest)
  | (.named entity, at_) :: rest => do
    let t ←
      match predefined? entity with
      | some c => .ok [c]
      | none => (replace entity).mapError fun (complaint, isHere) => ⟨complaint, if isHere then some at_ else none⟩
    return t ++ (← valueText replace rest)

/-- The value that a text on its own makes. -/
def wholeValue (replace : Text → Except (Complaint × Bool) Text) (t : Text) : Except Remark Text := do
  let (pieces, stop) := valuePieces (t.length + 1) t
  let value ← valueText replace pieces
  match stop with
  | none => return value
  | some at_ => .error ⟨.invalidToken, some at_⟩

/-- The text of an entity where it stands for a reference in a value: a carriage return is a space there, whatever
follows it. -/
def withoutReturns (t : Text) : Text := t.map fun c => if c = CodePoint.carriageReturn then ' ' else c

/-- The text that stands for an entity in the value of an attribute. Every step down opens one more entity. -/
def Declarations.replacement : (depth : Nat) → Declarations → Text → Except (Complaint × Bool) Text
  | 0, _, _ => .error (.recursiveEntity, true)
  | depth + 1, d, name =>
    match Pairs.get? name d.entities with
    | none => if d.isComplete then .error (.undefinedEntity, false) else .ok []
    | some .unparsed => .error (.unparsedEntity, true)
    | some .external => .error (.externalInAttribute, true)
    | some (.internal t) =>
      if name ∈ d.opened then .error (.recursiveEntity, true)
      else
        (wholeValue (replacement depth (d.opening name)) (withoutReturns t)).mapError fun r => (r.complaint, false)

/-- A value without the blanks that do not count: those at its ends, and all but one of those in a row. -/
def collapsed (t : Text) : Text := Text.join [' '] ((Text.splitAll ' ' t).filter fun part => !part.isEmpty)

namespace Declarations

/-- The value of an attribute of the elements of a name. -/
def attributeText (d : Declarations) (element : Text) (name : QualifiedName) (value : List (Piece × Text)) :
    Except Remark Text := do
  let t ← valueText (replacement d.depth d) value
  return if (d.rule? element name).all AttributeRule.keepsBlanks then t else collapsed t

/-- The value that an attribute is declared with. -/
def defaultText (d : Declarations) (keepsBlanks : Bool) (t : Text) : Except Remark Text := do
  let t ← wholeValue (replacement d.depth d) t
  return if keepsBlanks then t else collapsed t

end Declarations

/-! ## The text of an entity -/

/-- The text that an entity is declared with: characters by their numbers are put in, and entities are left to be
replaced. -/
def entityText : (fuel : Nat) → Text → Except Remark Text
  | 0, _ => .ok []
  | _, [] => .ok []
  | fuel + 1, t@(c :: rest) =>
    let broken (b : Break) : Remark :=
      match b with
      | .broken at_ => ⟨.invalidToken, some at_⟩
      | .unfinished => ⟨.invalidToken, some t⟩
    if c = '&' then do
      let (p, rest) ← (reference rest).mapError broken
      match p with
      | .numbered none => .error ⟨.noCharacter, some t⟩
      | .numbered (some c) => return c :: (← entityText fuel rest)
      | _ => return t.take (t.length - rest.length) ++ (← entityText fuel rest)
    else if c = '%' then
      if rest.head?.any fun d => isSpace d || d = '%' then .error ⟨.invalidToken, some rest⟩
      else do
        let (_, after) ← (name rest).mapError broken
        let _ ← (expect ';' after).mapError broken
        .error ⟨.parameterReference, some t⟩
    else if c = CodePoint.carriageReturn then do
      let rest := if rest.head? = some CodePoint.lineFeed then rest.tail else rest
      return '\n' :: (← entityText fuel rest)
    else return c :: (← entityText fuel rest)

/-! ## Other documents -/

/-- The words before the identifier of a system. -/
def systemWord : Text := "SYSTEM"

/-- The word before a public identifier. -/
def publicWord : Text := "PUBLIC"

/-- Whether the reference to another document may go on with a piece. -/
def externalAccepts : (words : List HeadToken) → HeadToken → Bool
  | [], .word w => w = systemWord || w = publicWord
  | [.word _], .literal _ => true
  | [.word w, .literal _], .literal _ => w = publicWord
  | _, _ => false

/-- Whether words refer to another document. -/
def isExternal : (words : List HeadToken) → Bool
  | [.word w, .literal _] => w = systemWord
  | [.word _, .literal _, .literal _] => true
  | _ => false

/-- A character that a public identifier may hold. -/
def isPublic (c : CodePoint) : Bool :=
  c.val < 0x80 && (c = ' ' || c = '\n' || c = '\r' || c.isLetter || c.isAsciiDigit
    || (Text.ofString "-'()+,./:=?;!*#@$_%").contains c)

/-- A literal in a reference to another document, checked if it is the public identifier. `rest` follows it. -/
def checkLiteral (words : List HeadToken) (t : HeadToken) (rest : Text) : Except Fault Unit :=
  match words, t with
  | [.word w], .literal inside =>
    let bad := inside.dropWhile isPublic
    if w = publicWord ∧ !bad.isEmpty then .error ⟨.publicIdentifier, bad.length + 1 + rest.length⟩ else .ok ()
  | _, _ => .ok ()

/-- Whether a word is a name without a colon. -/
def isBare (w : Text) : Bool := !w.contains ':'

/-! ## Declarations of entities and formats -/

/-- The word before the format of an entity that is no text. -/
def formatWord : Text := "NDATA"

/-- What follows the name in the declaration of an entity, if the name has been read. -/
def entityTail? : (words : List HeadToken) → Option (List HeadToken)
  | .percent :: .word _ :: tail => some tail
  | .word _ :: tail => some tail
  | _ => none

/-- Whether the declaration of an entity may go on with a piece. -/
def entityAccepts (words : List HeadToken) (t : HeadToken) : Bool :=
  match entityTail? words with
  | none =>
    match words, t with
    | [], .percent => true
    | _, .word w => isBare w
    | _, _ => false
  | some tail =>
    let isGeneral := words.head? ≠ some .percent
    match t with
    | .literal _ => tail.isEmpty || externalAccepts tail t
    | .word w =>
      if isGeneral && isExternal tail then w = formatWord
      else if isGeneral && isExternal tail.dropLast then isBare w
      else externalAccepts tail t
    | _ => false

/-- The declarations once that of an entity ends, if it may end. -/
def Declarations.endEntity? (d : Declarations) (words : List HeadToken) : Option Declarations :=
  match words with
  | [.word name, .literal text] => some (d.addEntity name (.internal text))
  | [.percent, .word _, .literal _] => some d
  | .percent :: .word _ :: tail => if isExternal tail then some d else none
  | .word name :: tail =>
    if isExternal tail then some (d.addEntity name .external)
    else if isExternal tail.dropLast.dropLast then some (d.addEntity name .unparsed)
    else none
  | _ => none

/-- Whether the declaration of a format may go on with a piece. -/
def formatAccepts : (words : List HeadToken) → HeadToken → Bool
  | [], .word w => isBare w
  | _ :: tail, t => externalAccepts tail t
  | _, _ => false

/-- Whether the declaration of a format may end. -/
def formatMayEnd : (words : List HeadToken) → Bool
  | [_, .word _, .literal _] => true
  | _ :: tail => isExternal tail
  | [] => false

/-! ## Declarations of attributes -/

/-- What is expected next in the declaration of attributes. -/
inductive AttributePlace where
  | element
  /-- The name of an attribute, or the end. -/
  | name
  | type
  /-- The start of a group of formats. -/
  | group
  /-- A value of a group, of names alone or of anything like names. -/
  | choice (ofNames : Bool)
  /-- The end of a group, or another value. -/
  | chosen (ofNames : Bool)
  | default (keepsBlanks : Bool)
  /-- A value that cannot be changed. -/
  | fixed (keepsBlanks : Bool)

/-- A declaration of attributes as far as it has been read. -/
structure AttributeList where
  place : AttributePlace := .element
  element : Text := []
  name : QualifiedName := ⟨none, []⟩

/-- The types of attributes whose blanks do not count. -/
def tokenTypes : List Text := ["ID", "IDREF", "IDREFS", "ENTITY", "ENTITIES", "NMTOKEN", "NMTOKENS"]

/-- The declaration of an attribute at its end. -/
def AttributeList.declare (l : AttributeList) (d : Declarations) (keepsBlanks : Bool) (default : Option Text) :
    AttributeList × Declarations :=
  ({ l with place := .name }, d.addRule ⟨l.element, l.name, keepsBlanks, default⟩)

/-- A declaration of attributes after a piece that stands at `start`, with `rest` following it. -/
def AttributeList.step (l : AttributeList) (d : Declarations) (t : HeadToken) (start rest : Text) :
    Except Fault (AttributeList × Declarations) :=
  let refused : Except Fault (AttributeList × Declarations) := faultAt start .misplaced
  let goTo (p : AttributePlace) : Except Fault (AttributeList × Declarations) := .ok ({ l with place := p }, d)
  let declared (keepsBlanks : Bool) (inside : Text) : Except Fault (AttributeList × Declarations) :=
    if !d.isKept then goTo .name
    else
      match d.defaultText keepsBlanks inside with
      | .ok value => .ok (l.declare d keepsBlanks (some value))
      | .error r => .error ⟨r.complaint, (r.at_.map fun at_ => at_.length + 1 + rest.length).getD start.length⟩
  match l.place, t with
  | .element, .word w => .ok ({ l with place := .name, element := w }, d)
  | .name, .word w => .ok ({ l with place := .type, name := .ofWord w }, d)
  | .type, .word w =>
    if w = "CDATA" then goTo (.default true)
    else if w ∈ tokenTypes then goTo (.default false)
    else if w = "NOTATION" then goTo .group
    else refused
  | .type, .openGroup => goTo (.choice false)
  | .group, .openGroup => goTo (.choice true)
  | .choice ofNames, .word w => if ofNames && !isBare w then refused else goTo (.chosen ofNames)
  | .choice false, .token => goTo (.chosen false)
  | .chosen ofNames, .bar => goTo (.choice ofNames)
  | .chosen _, .closeGroup none => goTo (.default false)
  | .default keepsBlanks, .hashWord w =>
    if w = "IMPLIED" ∨ w = "REQUIRED" then .ok (l.declare d keepsBlanks none)
    else if w = "FIXED" then goTo (.fixed keepsBlanks)
    else refused
  | .default keepsBlanks, .literal inside => declared keepsBlanks inside
  | .fixed keepsBlanks, .literal inside => declared keepsBlanks inside
  | _, _ => refused

/-! ## Declarations of contents -/

/-- What is expected next in the declaration of the content of an element. Of each group that is open it is
known what stands between its items. -/
inductive ContentPlace where
  | element
  | content
  /-- The first item of the outermost group. -/
  | first
  /-- The end of a group that allows for characters, or further names. -/
  | characters
  | mixedName
  /-- The end of a group of characters and elements, or further names. -/
  | mixedNext
  | item (groups : List (Option HeadToken))
  /-- The end of a group, or another item. -/
  | next (groups : List (Option HeadToken))
  | done

/-- The place in a declaration after a piece, if the piece has a place there. -/
def ContentPlace.step? : ContentPlace → HeadToken → Option ContentPlace
  | element, .word _ => some content
  | content, .word w => if w = "EMPTY" ∨ w = "ANY" then some done else none
  | content, .openGroup => some first
  | first, .hashWord w => if w = "PCDATA" then some characters else none
  | first, .openGroup => some (item [none, none])
  | first, .word _ | first, .countedWord => some (next [none])
  | characters, .closeGroup mark => if mark = none ∨ mark = some (CodePoint.ofChar '*') then some done else none
  | characters, .bar | mixedNext, .bar => some mixedName
  | mixedName, .word _ => some mixedNext
  | mixedNext, .closeGroup mark => if mark = some (CodePoint.ofChar '*') then some done else none
  | item groups, .openGroup => some (item (none :: groups))
  | item groups, .word _ | item groups, .countedWord => some (next groups)
  | next (_ :: groups), .closeGroup _ => some (if groups.isEmpty then done else next groups)
  | next (between :: groups), t =>
    if (t = .comma ∨ t = .bar) ∧ between.all (· = t) then some (item (some t :: groups)) else none
  | _, _ => none

/-! ## A declaration -/

/-- A declaration between the brackets, as far as it has been read. -/
inductive Draft where
  | entity (words : List HeadToken)
  | format (words : List HeadToken)
  | attributes (l : AttributeList)
  | content (p : ContentPlace)

namespace Draft

/-- The declaration that a keyword starts. -/
def ofKeyword? (keyword : Text) : Option Draft :=
  if keyword = "ENTITY" then some (entity [])
  else if keyword = "NOTATION" then some (format [])
  else if keyword = "ATTLIST" then some (attributes {})
  else if keyword = "ELEMENT" then some (content .element)
  else none

/-- The declarations once a declaration ends, if it may end. -/
def end? (d : Declarations) : Draft → Option Declarations
  | entity words => d.endEntity? words
  | format words => if formatMayEnd words then some d else none
  | attributes l =>
    match l.place with
    | .name => some d
    | _ => none
  | content p =>
    match p with
    | .done => some d
    | _ => none

/-- A declaration after a piece that stands at `start`, with `rest` following it. -/
def step (d : Declarations) (t : HeadToken) (start rest : Text) : Draft → Except Fault (Draft × Declarations)
  | entity words =>
    if !entityAccepts words t then faultAt start .misplaced
    else
      match entityTail? words, t with
      | some [], .literal inside =>
        if !d.isKept then .ok (entity (words ++ [t]), d)
        else
          match entityText (inside.length + 1) inside with
          | .ok text => .ok (entity (words ++ [.literal text]), d)
          | .error r => .error ⟨r.complaint, (r.at_.map fun at_ => at_.length + 1 + rest.length).getD start.length⟩
      | tail, _ => do
        checkLiteral (tail.getD []) t rest
        return (entity (words ++ [t]), d)
  | format words => do
    if !formatAccepts words t then faultAt start .misplaced
    else
      checkLiteral words.tail t rest
      return (format (words ++ [t]), d)
  | attributes l => do
    let (l, d) ← l.step d t start rest
    return (attributes l, d)
  | content p =>
    match p.step? t with
    | some p => .ok (content p, d)
    | none => faultAt start .misplaced

end Draft

end Phrasebook.Xml
