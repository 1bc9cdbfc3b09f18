/-!
# Page — trees

What a page is made of: elements with their attributes, texts, comments and the document itself.
A `Tree` is a page as a value; it becomes a page with identities when its nodes are numbered.

An element belongs to a `Vocabulary`. Graphics and formulas have names of their own, in which upper
case counts, and some of their attributes stand in a space apart, such as the target of a link. What
a template holds hangs under a node that is no element.
-/

namespace ConsentWalker

/-- What kind of content the names of an element are taken from. -/
inductive Vocabulary where
  | markup | graphics | formulas
  deriving DecidableEq, Repr, Inhabited

/-- An element: its name, in markup in lower case, and its attributes in the order they were written
in. -/
structure Element where
  name : String
  attributes : List (String × String) := []
  vocabulary : Vocabulary := .markup
  /-- The attributes that stand in a space apart, by the last part of their names. -/
  apart : List (String × String) := []
  deriving DecidableEq, Repr, Inhabited

namespace Element

/-- Whether an element is one of markup. -/
def isMarkup (e : Element) : Bool := e.vocabulary == .markup

/-- Whether two elements are of one kind. -/
def sameKind (e other : Element) : Bool :=
  e.name == other.name && e.vocabulary == other.vocabulary

/-- The value of an attribute. -/
def attribute? (e : Element) (name : String) : Option String := e.attributes.lookup name

/-- Whether an attribute is there. -/
def hasAttribute (e : Element) (name : String) : Bool := (e.attribute? name).isSome

/-- Adds the attributes that are not there yet. -/
def addMissing (e : Element) (more : List (String × String)) : Element :=
  { e with attributes := e.attributes ++ more.filter fun a => ! e.hasAttribute a.1 }

end Element

/-- What one node is. -/
inductive Content where
  | document
  /-- What a template holds. -/
  | inert
  | doctype (name : String)
  | comment (text : String)
  | text (s : String)
  | element (e : Element)
  deriving DecidableEq, Repr, Inhabited

namespace Content

/-- The element a node is. -/
def element? : Content → Option Element
  | .element e => some e
  | _ => none

/-- Whether a node is an element. -/
def isElement (c : Content) : Bool := c.element?.isSome

/-- Whether a node is a text. -/
def isText : Content → Bool
  | .text _ => true
  | _ => false

end Content

/-- A tree of nodes. -/
inductive Tree where
  | node (content : Content) (children : List Tree)
  deriving Repr, Inhabited

namespace Tree

/-- What the root of a tree is. -/
def content : Tree → Content
  | .node c _ => c

/-- The trees below the root. -/
def children : Tree → List Tree
  | .node _ cs => cs

end Tree
end ConsentWalker
