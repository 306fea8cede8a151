import Phrasebook.Pairs
import Phrasebook.Xml.Markup

/-!
# Namespaces

Attributes that declare namespaces bind a prefix, or the empty prefix of names without a colon, to the
name of a namespace. Two prefixes are reserved, and so are the names of their namespaces.
-/

namespace Phrasebook.Xml

/-- What is wrong at a place of a document. -/
inductive Complaint where
  | invalidToken
  | unclosedToken
  | noElement
  | misplaced
  | mismatchedTag
  | duplicateAttribute
  | afterRoot
  | undefinedEntity
  | unknownEntity (name : Text)
  | noCharacter
  | unclosedSection
  | lateDeclaration
  | badDeclaration
  | parameterReference
  | recursiveEntity
  | asynchronousEntity
  | unparsedEntity
  | externalInAttribute
  | publicIdentifier
  | unboundScope
  | undeclaredScope
  | reservedXmlScope
  | reservedDeclaringScope
  | reservedNamespace
deriving DecidableEq

/-- The words of a complaint. -/
def Complaint.message : Complaint → Text
  | invalidToken => "not well-formed (invalid token)"
  | unclosedToken => "unclosed token"
  | noElement => "no element found"
  | misplaced => "syntax error"
  | mismatchedTag => "mismatched tag"
  | duplicateAttribute => "duplicate attribute"
  | afterRoot => "junk after document element"
  | undefinedEntity => "undefined entity"
  | unknownEntity name => "undefined entity &" ++ name ++ ";"
  | noCharacter => "reference to invalid character number"
  | unclosedSection => "unclosed CDATA section"
  | lateDeclaration => "XML or text declaration not at start of entity"
  | badDeclaration => "XML declaration not well-formed"
  | parameterReference => "illegal parameter entity reference"
  | recursiveEntity => "recursive entity reference"
  | asynchronousEntity => "asynchronous entity"
  | unparsedEntity => "reference to binary entity"
  | externalInAttribute => "reference to external entity in attribute"
  | publicIdentifier => "illegal character(s) in public id"
  | unboundScope => "unbound prefix"
  | undeclaredScope => "must not undeclare prefix"
  | reservedXmlScope =>
    "reserved prefix (xml) must not be undeclared or bound to another namespace name"
  | reservedDeclaringScope => "reserved prefix (xmlns) must not be declared or undeclared"
  | reservedNamespace => "prefix must not be bound to one of the reserved namespace names"

/-- The namespaces that prefixes are bound to, the last binding first. An empty name takes the binding
of the empty prefix back. -/
abbrev Scopes := List (Text × Text)

/-- The prefix of the names that every document has. -/
def xmlScope : Text := "xml"

/-- The prefix of the attributes that declare namespaces. -/
def declaringScope : Text := "xmlns"

/-- The namespace of the names that every document has. -/
def xmlNamespace : Text := "http://www.w3.org/XML/1998/namespace"

/-- The namespace of the attributes that declare namespaces. -/
def declaringNamespace : Text := "http://www.w3.org/2000/xmlns/"

/-- What is bound where nothing is declared. -/
def Scopes.initial : Scopes := [(xmlScope, xmlNamespace)]

/-- The prefix that an attribute declares; empty for the namespace of names without a prefix. -/
def declaredScope? (q : QualifiedName) : Option Text :=
  match q.scope with
  | none => if q.own = declaringScope then some [] else none
  | some s => if s = declaringScope then some q.own else none

/-- A prefix bound to a namespace. -/
def Scopes.bind (scopes : Scopes) (scope uri : Text) : Except Complaint Scopes :=
  if uri.isEmpty ∧ !scope.isEmpty then .error .undeclaredScope
  else if scope = declaringScope then .error .reservedDeclaringScope
  else if scope = xmlScope ∧ uri ≠ xmlNamespace then .error .reservedXmlScope
  else if scope ≠ xmlScope ∧ (uri = xmlNamespace ∨ uri = declaringNamespace) then
    .error .reservedNamespace
  else if uri.contains (CodePoint.ofNat 0x7D) then .error .misplaced
  else .ok ((scope, uri) :: scopes)

/-- A name in a namespace as it is told. -/
def inNamespace (uri own : Text) : Text := CodePoint.ofNat 0x7B :: uri ++ CodePoint.ofNat 0x7D :: own

/-- The full name of an element. -/
def Scopes.elementName (scopes : Scopes) (q : QualifiedName) : Except Complaint Text :=
  match Pairs.get? (q.scope.getD []) scopes with
  | some uri => .ok (if uri.isEmpty then q.own else inNamespace uri q.own)
  | none => if q.scope.isSome then .error .unboundScope else .ok q.own

/-- The full name of an attribute; without a prefix it is in no namespace. -/
def Scopes.attributeName (scopes : Scopes) (q : QualifiedName) : Except Complaint Text :=
  match q.scope with
  | none => .ok q.own
  | some s =>
    match Pairs.get? s scopes with
    | some uri => .ok (inNamespace uri q.own)
    | none => .error .unboundScope

end Phrasebook.Xml
