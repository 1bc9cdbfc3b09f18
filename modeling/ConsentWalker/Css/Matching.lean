import ConsentWalker.Css.Parser
import ConsentWalker.Page.Node
/-!
# CSS — matching

Which elements a selector matches. The question is put to a place, since combinators and positions
look at the siblings and the elements above.

Ids and classes tell upper case from lower case; in markup, names of elements and attributes do not.
The root is the element right below the document. An empty value is never part of a value.

**No combinator passes the node between a template and what it holds**: from either side the other
one is out of reach.
-/

namespace ConsentWalker
namespace Css

/-! ## Attributes -/

/-- The characters of a value as they are compared. -/
def CaseRule.fold (rule : CaseRule) (e : Element) (s : String) : List Char :=
  match rule with
  | .sensitive => s.toList
  | .insensitive => s.toList.map Char.toLower
  | .insensitiveInMarkup => if e.isMarkup then s.toList.map Char.toLower else s.toList

/-- A name in a selector as it is compared with the names of an element. -/
def nameFor (e : Element) (name : String) : String :=
  if e.isMarkup then Text.asciiLower name else name

/-- Whether an attribute value passes a comparison. -/
def Operator.accepts (op : Operator) (wanted value : List Char) : Bool :=
  match op with
  | .equal => value == wanted
  | .includes =>
    ! wanted.isEmpty && (Text.splitAtAll Text.isMarkupSpace value).any fun w => w == wanted
  | .dashMatch => value == wanted || (wanted ++ ['-']).isPrefixOf value
  | .starts => ! wanted.isEmpty && wanted.isPrefixOf value
  | .substring => ! wanted.isEmpty && Text.occursIn wanted value
  | .ends => ! wanted.isEmpty && wanted.isSuffixOf value

/-- Whether an element passes a test of an attribute. -/
def AttributeTest.accepts (t : AttributeTest) (e : Element) : Bool :=
  let name := nameFor e t.name
  let passes (value : String) : Bool :=
    match t.value with
    | none => true
    | some (op, wanted, rule) => op.accepts (rule.fold e wanted) (rule.fold e value)
  (e.attribute? name).any passes || (t.everywhere && (e.apart.lookup name).any passes)

/-- Whether an element has a class. -/
def hasClass (e : Element) (name : String) : Bool :=
  match e.attribute? "class" with
  | some value => (Text.words value).contains name
  | none => false

/-! ## Positions -/

/-- The position of a place among the elements on one side of it, counted from one. -/
def Nth.positionAt (n : Nth) (p : Place) (e : Element) : Nat :=
  let side := if n.fromEnd then p.level.right else p.level.left
  1 + side.countP fun sibling =>
    match sibling.element? with
    | some other => ! n.ofType || other.sameKind e
    | none => false

/-- Whether a place is right below the document. -/
def isRoot (p : Place) : Bool :=
  match p.parent? with
  | some q => q.node.content == .document
  | none => false

/-- Whether nothing but comments stands below a place. -/
def isEmpty (p : Place) : Bool :=
  p.node.children.all fun n => ! (n.isElement || n.content.isText)

/-! ## Selectors -/

/-- The nearest of some places that holds an element. -/
def nearestElement? (ps : List Place) : Option Place := ps.find? fun p => p.node.isElement

/-- The elements above a place up to the first node that is none, nearest first. -/
def elementsAbove (p : Place) : List Place := p.ancestors.takeWhile fun q => q.node.isElement

/-- The elements below a place that are joined to it by elements. -/
def elementsBelow (p : Place) : List Place :=
  p.below.filter fun q => q.node.isElement && (elementsAbove q).any fun a => a.id == p.id

/-- The places a relative selector may match: the elements below and the later siblings with what
stands below them. -/
def hasCandidates (p : Place) : List Place :=
  elementsBelow p ++ (p.after.map fun q => q :: elementsBelow q).flatten

mutual

/-- Whether the element at a place passes a test. `anchor` is the number of the node that a
relative selector starts from. -/
def Simple.accepts (anchor : Nat) (p : Place) (e : Element) : Simple → Bool
  | .any => true
  | .never => false
  | .tag name => nameFor e name == e.name
  | .id name => e.attribute? "id" == some name
  | .cls name => hasClass e name
  | .attribute test => test.accepts e
  | .nth n => n.accepts (n.positionAt p e)
  | .root => isRoot p
  | .empty => isEmpty p
  | .anchor => p.id == anchor
  | .not cs => ! anyAccepts anchor p cs
  | .is cs => anyAccepts anchor p cs
  | .has cs => anyFound p.id (hasCandidates p) cs

/-- Whether the element at a place passes all tests of a compound. -/
def allAccept (anchor : Nat) (p : Place) (e : Element) : List Simple → Bool
  | [] => true
  | t :: rest => t.accepts anchor p e && allAccept anchor p e rest

/-- Whether a selector matches at a place. -/
def Complex.accepts (anchor : Nat) (p : Place) : Complex → Bool
  | .mk subject left =>
    match p.element? with
    | some e => allAccept anchor p e subject && leftAccepts anchor p left
    | none => false

/-- Whether what stands left of a compound is found around a place. -/
def leftAccepts (anchor : Nat) (p : Place) : List Link → Bool
  | [] => true
  | .mk k tests :: rest =>
    let found (q : Place) : Bool :=
      match q.element? with
      | some e => allAccept anchor q e tests && leftAccepts anchor q rest
      | none => false
    match k with
    | .child => ((elementsAbove p).take 1).any found
    | .descendant => (elementsAbove p).any found
    | .nextSibling => (nearestElement? p.before).any found
    | .laterSibling => p.before.any found

/-- Whether one of some selectors matches at a place. -/
def anyAccepts (anchor : Nat) (p : Place) : List Complex → Bool
  | [] => false
  | c :: rest => c.accepts anchor p || anyAccepts anchor p rest

/-- Whether one of some relative selectors matches at one of the places. -/
def anyFound (anchor : Nat) (ps : List Place) : List Complex → Bool
  | [] => false
  | c :: rest => (ps.any fun q => c.accepts anchor q) || anyFound anchor ps rest

end

/-- **Whether one of some selectors matches the element at a place.** -/
def selects (cs : List Complex) (p : Place) : Bool := anyAccepts p.id p cs

end Css
end ConsentWalker
