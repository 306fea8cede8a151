import Phrasebook.Xml.Declarations
import Phrasebook.Xml.Element

/-!
# Reading XML

`Document.root` reads a document and answers its root element. What stands before and after the root is
checked and passed over, except that of a document type declaration the entities and the attributes count
that it declares.

Line ends are read as line feeds, in attributes as spaces. A fault is located by how many code points
of the text are left from its place on. A fault in the text of an entity is one of the reference to it.
-/

namespace Phrasebook.Xml

/-! ## Attributes -/

/-- A remark about a value in the tag at `start`. -/
def Remark.fault (start : Text) (r : Remark) : Fault := ⟨r.complaint, (r.at_.getD start).length⟩

/-- The attributes of a tag with their values, and the namespaces that are bound within it. -/
def readAttributes (d : Declarations) (element start : Text) (scopes : Scopes) : (seen : List QualifiedName) →
    List RawAttribute → Except Fault (List (QualifiedName × Text) × Scopes)
  | _, [] => .ok ([], scopes)
  | seen, a :: rest => do
    if a.name ∈ seen then faultAt a.at_ .duplicateAttribute
    else
      let value ← (d.attributeText element a.name a.value).mapError (·.fault start)
      match declaredScope? a.name with
      | some scope =>
        match scopes.bind scope value with
        | .ok scopes => readAttributes d element start scopes (a.name :: seen) rest
        | .error c => faultAt start c
      | none =>
        let (more, scopes) ← readAttributes d element start scopes (a.name :: seen) rest
        return ((a.name, value) :: more, scopes)

/-- The values that attributes are declared with, unless they are written, and the namespaces with those bound. -/
def defaultAttributes (start : Text) (written : List QualifiedName) : Scopes → List AttributeRule →
    Except Fault (List (QualifiedName × Text) × Scopes)
  | scopes, [] => .ok ([], scopes)
  | scopes, r :: rest =>
    match r.default with
    | none => defaultAttributes start written scopes rest
    | some value =>
      if r.name ∈ written then defaultAttributes start written scopes rest
      else
        match declaredScope? r.name with
        | some scope =>
          match scopes.bind scope value with
          | .ok scopes => defaultAttributes start written scopes rest
          | .error c => faultAt start c
        | none => do
          let (more, scopes) ← defaultAttributes start written scopes rest
          return ((r.name, value) :: more, scopes)

/-- The attributes under their full names. -/
def nameAttributes (start : Text) (scopes : Scopes) : (done : List (Text × Text)) →
    List (QualifiedName × Text) → Except Fault (List (Text × Text))
  | done, [] => .ok done
  | done, (q, value) :: rest =>
    match scopes.attributeName q with
    | .error c => faultAt start c
    | .ok name =>
      if Pairs.has name done then faultAt start .duplicateAttribute
      else nameAttributes start scopes (done ++ [(name, value)]) rest

/-! ## Content -/

/-- An element that is still open. -/
structure OpenElement where
  /-- The name as it is written. -/
  written : Text
  tag : Text
  attributes : List (Text × Text)
  /-- The text read so far, backwards; nothing is added after the first child. -/
  text : Text
  /-- The children read so far, the last one first. -/
  children : List Element
  /-- The namespaces bound within the element. -/
  scopes : Scopes

namespace OpenElement

/-- The element with a character read. -/
def addCharacter (e : OpenElement) (c : CodePoint) : OpenElement :=
  if e.children.isEmpty then { e with text := c :: e.text } else e

/-- The element once its end is read. -/
def close (e : OpenElement) : Element :=
  .node e.tag e.attributes e.text.reverse e.children.reverse

/-- The element that a start tag opens. -/
def ofTag (d : Declarations) (start : Text) (scopes : Scopes) (t : Tag) : Except Fault OpenElement := do
  let element := t.name.written
  let (written, scopes) ← readAttributes d element start scopes [] t.attributes
  let rules := d.rules.filter fun r => r.element = element
  let (unwritten, scopes) ← defaultAttributes start (t.attributes.map RawAttribute.name) scopes rules
  let attributes ← nameAttributes start scopes [] (written ++ unwritten)
  match scopes.elementName t.name with
  | .ok tag => return ⟨element, tag, attributes, [], [], scopes⟩
  | .error c => faultAt start c

end OpenElement

/-- An open element and those around it, the innermost first. -/
structure Stack where
  top : OpenElement
  below : List OpenElement

/-- The stack once the top element is closed, or the root. -/
def Stack.pop (s : Stack) : Stack ⊕ Element :=
  match s.below with
  | [] => .inr s.top.close
  | e :: below => .inl ⟨{ e with children := s.top.close :: e.children }, below⟩

/-- A tag in the text of an entity, where a carriage return is white space like any other. -/
def Tag.inEntity (t : Tag) : Tag :=
  let plain (p : Piece × Text) : Piece × Text := (if p.1 = .plain CodePoint.carriageReturn then .plain ' ' else p.1, p.2)
  { t with attributes := t.attributes.map fun a => { a with value := a.value.map plain } }

/-- The stack with a character read. -/
def Stack.addCharacter (s : Stack) (c : CodePoint) : Stack := { s with top := s.top.addCharacter c }

/-- How many elements are open around the top one. -/
def Stack.height (s : Stack) : Nat := s.below.length

/-- Where the reader is in the content of an element. -/
inductive Place where
  | content
  /-- In a character data section. -/
  | verbatim

/-- The end of a text within the content of elements. The text of an entity, which starts at a height, ends there;
a document ends after its root. -/
def endOfContent (base : Option Nat) (s : Stack) : Except Fault (Stack ⊕ Element × Text) :=
  match base with
  | none => .error ⟨.noElement, 0⟩
  | some height => if s.height = height then .ok (.inl s) else .error ⟨.asynchronousEntity, 0⟩

/-- The content of the open elements, up to the end of the root in a document, and to the end of the text in that of an
entity: the root and what follows it, or the elements that are open then. `enter` reads the text that an entity stands
for. Every step takes a code point. A carriage return ends a line in a document alone. -/
def readContent (d : Declarations) (enter : Text → Stack → Except Complaint Stack) (base : Option Nat) :
    (fuel : Nat) → Place → Stack → Text → Except Fault (Stack ⊕ Element × Text)
  | 0, _, s, _ => endOfContent base s
  | _, .verbatim, _, [] => .error ⟨.unclosedSection, 0⟩
  | _, .content, s, [] => endOfContent base s
  | fuel + 1, place, s, t@(c :: rest) => do
    if isForbidden c then faultAt t .invalidToken
    else if c = CodePoint.carriageReturn ∧ base.isNone then
      match place, rest with
      | .verbatim, [] => faultAt t .unclosedSection
      | .content, [] => faultAt t .noElement
      | _, _ =>
        let rest := if rest.head? = some CodePoint.lineFeed then rest.tail else rest
        readContent d enter base fuel place (s.addCharacter '\n') rest
    else
      match place with
      | .verbatim =>
        if Text.startsWith t "]]>" then readContent d enter base fuel .content s (t.drop 3)
        else if c = ']' ∧ (rest = [] ∨ rest = [CodePoint.ofChar ']']) then
          faultAt t .unclosedSection
        else readContent d enter base fuel .verbatim (s.addCharacter c) rest
      | .content =>
        if Text.startsWith t "]]>" then faultAt (t.drop 2) .invalidToken
        else if c = '&' then
          match ← piece t (reference rest) with
          | (.plain c, rest) => readContent d enter base fuel .content (s.addCharacter c) rest
          | (.numbered none, _) => faultAt t .noCharacter
          | (.numbered (some c), rest) => readContent d enter base fuel .content (s.addCharacter c) rest
          | (.named entity, rest) =>
            match enter entity s with
            | .ok s => readContent d enter base fuel .content s rest
            | .error complaint => faultAt t complaint
        else if c ≠ '<' then readContent d enter base fuel .content (s.addCharacter c) rest
        else
          match rest with
          | [] => faultAt t .unclosedToken
          | m :: after =>
            if m = '/' then
              let (written, rest) ← piece t (endTag after)
              if base = some s.height then faultAt t .asynchronousEntity
              else if written ≠ s.top.written then faultAt after .mismatchedTag
              else
                match s.pop with
                | .inr root => return .inr (root, rest)
                | .inl s => readContent d enter base fuel .content s rest
            else if m = '?' then
              let (isDeclaration, rest) ← piece t (instruction after)
              if isDeclaration then faultAt t .lateDeclaration
              else readContent d enter base fuel .content s rest
            else if m = '!' then
              match after with
              | [] => faultAt t .unclosedToken
              | k :: inner =>
                if k = '-' then readContent d enter base fuel .content s (← piece t (comment inner))
                else if k = '[' then readContent d enter base fuel .verbatim s (← piece t (sectionStart inner))
                else faultAt after .invalidToken
            else if startsName m then
              let (tag, rest) ← piece t (startTag rest)
              let e ← OpenElement.ofTag d t s.top.scopes (if base.isNone then tag else tag.inEntity)
              let s : Stack := ⟨e, s.top :: s.below⟩
              if tag.isEmpty then
                match s.pop with
                | .inr root => return .inr (root, rest)
                | .inl s => readContent d enter base fuel .content s rest
              else readContent d enter base fuel .content s rest
            else faultAt rest .invalidToken

/-- The open elements once the text that stands for an entity is read. Every step down opens one more entity. -/
def enterEntity : (depth : Nat) → Declarations → Text → Stack → Except Complaint Stack
  | 0, _, _, _ => .error .recursiveEntity
  | depth + 1, d, name, s =>
    match predefined? name with
    | some c => .ok (s.addCharacter c)
    | none =>
      match Pairs.get? name d.entities with
      | none => .error (if d.isComplete then .undefinedEntity else .unknownEntity name)
      | some .unparsed => .error .unparsedEntity
      | some .external => .error (.unknownEntity name)
      | some (.internal t) =>
        if name ∈ d.opened then .error .recursiveEntity
        else
          let d := d.opening name
          match readContent d (enterEntity depth d) (some s.height) (t.length + 1) .content s t with
          | .ok (.inl s) => .ok s
          | .ok (.inr _) => .error .asynchronousEntity
          | .error f => .error f.complaint

/-- The root element from its start tag on, and what follows it. -/
def readRoot (d : Declarations) (t : Text) : Except Fault (Element × Text) := do
  let (tag, rest) ← piece t (startTag t.tail)
  let e ← OpenElement.ofTag d t Scopes.initial tag
  if tag.isEmpty then return (e.close, rest)
  else
    match ← readContent d (enterEntity d.depth d) none (rest.length + 1) .content ⟨e, []⟩ rest with
    | .inl _ => .error ⟨.noElement, 0⟩
    | .inr root => return root

/-! ## Before and after the root -/

/-- What is expected next before the root. -/
inductive Stage where
  /-- Nothing has been read. -/
  | start
  /-- No document type declaration has been read. -/
  | beforeType
  /-- Within a document type declaration; what has been read of it. -/
  | inType (words : List HeadToken)
  /-- Between the brackets of a document type declaration. -/
  | inSubset
  /-- Within a declaration between the brackets. -/
  | inDeclaration (draft : Draft)
  /-- After the brackets of a document type declaration. -/
  | endOfType
  | afterType

/-- Whether a document type declaration may go on with a piece. -/
def typeAccepts : (words : List HeadToken) → HeadToken → Bool
  | [], .word _ => true
  | _ :: words, t => externalAccepts words t
  | _, _ => false

/-- Whether a document type declaration may end. -/
def typeMayEnd : (words : List HeadToken) → Bool
  | [_] => true
  | _ :: words => isExternal words
  | [] => false

/-- The declarations once a document type declaration has said where others are. -/
def Declarations.ofType (d : Declarations) (words : List HeadToken) : Declarations :=
  { d with hasUnread := d.hasUnread || words.length > 1 }

/-- The stage and the declarations after a piece before the root, which stands at `start` with `rest` following it. -/
def nextStage (stage : Stage) (d : Declarations) (t : HeadToken) (start rest : Text) :
    Except Fault (Stage × Declarations) :=
  let refused : Except Fault (Stage × Declarations) :=
    match t with
    | .declaration => faultAt start .lateDeclaration
    | .parameterReference => faultAt start .parameterReference
    | _ => faultAt start .misplaced
  match stage, t with
  | .start, .declaration => .ok (.beforeType, d)
  | .start, .space | .start, .comment | .start, .instruction
  | .beforeType, .space | .beforeType, .comment | .beforeType, .instruction => .ok (.beforeType, d)
  | .start, .opening keyword | .beforeType, .opening keyword =>
    if keyword = "DOCTYPE" then .ok (.inType [], d) else refused
  | .inType words, .space => .ok (.inType words, d)
  | .inType words, .openBracket => if typeMayEnd words then .ok (.inSubset, d.ofType words) else refused
  | .inType words, .close => if typeMayEnd words then .ok (.afterType, d.ofType words) else refused
  | .inType words, t =>
    if typeAccepts words t then do
      checkLiteral words.tail t rest
      return (.inType (words ++ [t]), d)
    else refused
  | .inSubset, .space | .inSubset, .comment | .inSubset, .instruction => .ok (.inSubset, d)
  | .inSubset, .parameterReference => .ok (.inSubset, { d with hasUnread := true, isKept := d.isAlone })
  | .inSubset, .closeBracket => .ok (.endOfType, d)
  | .inSubset, .opening keyword =>
    match Draft.ofKeyword? keyword with
    | some draft => .ok (.inDeclaration draft, d)
    | none => refused
  | .inDeclaration draft, .space => .ok (.inDeclaration draft, d)
  | .inDeclaration draft, .close =>
    match draft.end? d with
    | some d => .ok (.inSubset, d)
    | none => refused
  | .inDeclaration _, .parameterReference | .inDeclaration _, .declaration => refused
  | .inDeclaration draft, t => do
    let (draft, d) ← draft.step d t start rest
    return (.inDeclaration draft, d)
  | .endOfType, .space => .ok (.endOfType, d)
  | .endOfType, .close => .ok (.afterType, d)
  | .afterType, .space | .afterType, .comment | .afterType, .instruction => .ok (.afterType, d)
  | _, _ => refused

/-- Whether the root may start. -/
def Stage.allowsRoot : Stage → Bool
  | start | beforeType | afterType => true
  | _ => false

/-- The value of a declared property after its name, and what follows it. -/
def propertyValue (t : Text) : Except Text (Text × Text) :=
  let t := t.dropWhile isSpace
  match t with
  | [] => .error t
  | q :: rest =>
    let isPlain (c : CodePoint) : Bool :=
      c.val < 0x80 && (startsName c || c.isAsciiDigit || c = '.' || c = '-')
    let value := rest.takeWhile isPlain
    let after := rest.drop value.length
    if q ≠ '"' ∧ q ≠ '\'' then .error t
    else if after.head? = some q then .ok (value, after.tail)
    else .error after

/-- A property of the XML declaration: its name, its value, and the texts from each on. `none` if
nothing follows, and the place of the fault otherwise. -/
def property (t : Text) : Except Text (Option ((Text × Text) × (Text × Text) × Text)) := do
  match t with
  | [] => return none
  | c :: _ =>
    if !isSpace c then .error t
    else
      let start := t.dropWhile isSpace
      if start.isEmpty then return none
      else
        let inName (c : CodePoint) : Bool := c.val < 0x80 && c ≠ '=' && !isSpace c
        let name := start.takeWhile inName
        let rest := (start.drop name.length).dropWhile isSpace
        if rest.head? ≠ some (CodePoint.ofChar '=') || name.isEmpty then .error rest
        else
          let (value, after) ← propertyValue rest.tail
          return some ((name, start), (value, (rest.tail.dropWhile isSpace).tail), after)

/-- The place of the fault in the inner part of an XML declaration; whether the document stands
alone. -/
def checkDeclaration (t : Text) : Except Text Bool := do
  match ← property t with
  | none => .error t
  | some ((name, at_), _, rest) =>
    if name ≠ "version" then .error at_
    else
      let standalone (p : Option ((Text × Text) × (Text × Text) × Text)) : Except Text Bool :=
        match p with
        | none => .ok false
        | some ((name, at_), (value, valueAt), rest) =>
          if name ≠ "standalone" then .error at_
          else if value ≠ "yes" ∧ value ≠ "no" then .error valueAt
          else
            let rest := rest.dropWhile isSpace
            if rest.isEmpty then .ok (value = "yes") else .error rest
      match ← property rest with
      | none => return false
      | some ((name, at_), (value, valueAt), rest) =>
        if name = "encoding" then
          if value.head?.any fun c : CodePoint => c ≠ '_' && startsName c then standalone (← property rest)
          else .error valueAt
        else standalone (some ((name, at_), (value, valueAt), rest))

/-- The XML declaration at the start of `t`, with `after` following it. -/
def readDeclaration (t after : Text) : Except Fault Bool :=
  let inner := (t.drop 5).take (t.length - 5 - after.length - 2)
  (checkDeclaration inner).mapError fun at_ => ⟨.badDeclaration, at_.length + 2 + after.length⟩

/-- What stands before the root, and the text from the root on. Every step takes a code point. -/
def readHead : (fuel : Nat) → Stage → Declarations → Text → Except Fault (Declarations × Text)
  | 0, _, _, _ => .error ⟨.noElement, 0⟩
  | _, _, _, [] => .error ⟨.noElement, 0⟩
  | fuel + 1, stage, d, t@(c :: rest) => do
    match ← piece t (headToken c rest) with
    | (none, _) => if stage.allowsRoot then return (d, t) else faultAt t .misplaced
    | (some next, rest) =>
      let (stage, d) ← nextStage stage d next t rest
      if next = .declaration then
        let isAlone ← readDeclaration t rest
        readHead fuel stage { d with isAlone := isAlone } rest
      else readHead fuel stage d rest

/-- What stands after the root: white space, comments and instructions. -/
def readTail : (fuel : Nat) → Text → Except Fault Unit
  | 0, _ => .ok ()
  | _, [] => .ok ()
  | fuel + 1, t@(c :: rest) => do
    match ← piece t (headToken c rest) with
    | (some .space, rest) | (some .comment, rest) | (some .instruction, rest) => readTail fuel rest
    | _ => faultAt t .afterRoot

namespace Document

/-- The root element of the document that a text writes. -/
def root (t : Text) : Except Fault Element := do
  let (d, rest) ← readHead (t.length + 1) .start {} t
  let (root, rest) ← readRoot d rest
  readTail (rest.length + 1) rest
  return root

/-- The line, counted from one, and the column, counted from zero, at the end of `before`. Lines end
with a line feed, a carriage return or both. -/
def place (before : Text) : Nat × Nat :=
  let rec go (line column : Nat) : Text → Nat × Nat
    | [] => (line, column)
    | c :: rest =>
      if c = CodePoint.lineFeed then go (line + 1) 0 rest
      else if c = CodePoint.carriageReturn then
        if rest.head? = some CodePoint.lineFeed then go line column rest else go (line + 1) 0 rest
      else go line (column + 1) rest
  go 1 0 before

end Document

end Phrasebook.Xml
