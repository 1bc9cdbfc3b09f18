import ConsentWalker.Walk.Routine
import ConsentWalker.Rules.Action
/-!
# Walk — finding elements

How a query is resolved against a page. `find` looks for one element: where several match it takes
the first and says so. `findAll` gives every match in document order. A query without a parent is
resolved below the base it is given; the parent of a query is resolved there instead, and the query
below what the parent finds.

The filters of a query narrow its matches one after another: text, style, display, iframe, child.

`Matcher.holds` puts the question of a matcher, and `Matcher.outline` marks the element it is about.
-/

namespace ConsentWalker

/-- What a query finds: the element, and the one it was looked for in when that had to be found
too. -/
structure Finding where
  parent : Option Handle := none
  target : Option Handle := none
  deriving DecidableEq, Repr, Inhabited

/-- Keeps the elements that pass a test, which is put to one after another. -/
def keep (test : Handle → Lookup Bool) : List Handle → Lookup (List Handle)
  | [] => return []
  | h :: rest => do
    let passed ← test h
    let kept ← keep test rest
    return if passed then h :: kept else kept

/-- Keeps the elements that pass a test, if there is one. -/
def keepIf {α : Type} (test? : Option α) (test : α → Handle → Lookup Bool) (hs : List Handle) :
    Lookup (List Handle) :=
  match test? with
  | none => return hs
  | some t => keep (test t) hs

namespace TextFilter

/-- Whether the text of an element passes. -/
def test (f : TextFilter) (h : Handle) : Lookup Bool := do
  return f.accepts (← ask (.text h))

end TextFilter

namespace StyleFilter

/-- Whether the style of an element passes filters; after the first that it fails no more is
asked. -/
def testAll : List StyleFilter → Handle → Lookup Bool
  | [], _ => return true
  | f :: rest, h => do
    if f.accepts (← ask (.style h f.option)) then testAll rest h else return false

/-- Keeps the elements whose style passes filters, if there are any. -/
def keepAll (fs : List StyleFilter) (hs : List Handle) : Lookup (List Handle) :=
  if fs.isEmpty then return hs else keep (testAll fs) hs

end StyleFilter

/-- Whether an element is rendered as asked. -/
def testDisplay (displayed : Bool) (h : Handle) : Lookup Bool := do
  let r ← ask (.rect h)
  return r.isTall == displayed

/-- Whether an element is in a nested page as asked. -/
def testIframe (nested : Bool) (h : Handle) : Lookup Bool := do
  let b ← ask (.nested h)
  return b == nested

/-- The first of some findings; that there are more is told. -/
def firstOf (selector : String) (findings : List Finding) : Lookup Finding := do
  if 1 < findings.length then tell (.severalMatches selector findings.length)
  return findings.head?.getD {}

/-- What a selector finds below each of some elements. -/
def below (narrow : Handle → Lookup (List Handle)) : List Handle → Lookup (List Finding)
  | [] => return []
  | p :: rest => do
    let targets ← narrow p
    let more ← below narrow rest
    return (targets.map fun t => ⟨some p, some t⟩) ++ more

namespace Query

/-- The elements below a base that a selector matches and that pass one filter after another. -/
def sift (selector : String) (textFilter : Option TextFilter) (styleFilters : List StyleFilter)
    (displayFilter iframeFilter : Option Bool) (childFilter : Option (Handle → Lookup Bool))
    (base : Option Handle) : Lookup (List Handle) := do
  let matched ← ask (.query base selector)
  let matched ← keepIf textFilter TextFilter.test matched
  let matched ← StyleFilter.keepAll styleFilters matched
  let matched ← keepIf displayFilter testDisplay matched
  let matched ← keepIf iframeFilter testIframe matched
  keepIf childFilter id matched

/-- The findings below a base where no parents are asked for, else below each of the parents. -/
def spread (narrow : Option Handle → Lookup (List Handle)) (base : Option Handle) :
    Option (Lookup (List Handle)) → Lookup (List Finding)
  | none => do return (← narrow base).map fun t => ⟨none, some t⟩
  | some parents => do below (fun h => narrow (some h)) (← parents)

mutual

/-- **What a query finds below a base.** With `plural` every match of its parent counts, else the
first. -/
def resolve (plural : Bool) : Query → Option Handle → Lookup (List Finding)
  | ⟨selector, textFilter, styleFilters, displayFilter, iframeFilter, childFilter, parent⟩, base =>
    let narrow :=
      sift selector textFilter styleFilters displayFilter iframeFilter (childTest childFilter)
    spread narrow base (parents plural parent base)

/-- Whether a child filter finds something inside an element. -/
def childTest : Option Query → Option (Handle → Lookup Bool)
  | none => none
  | some child => some fun h => do
    let found ← firstOf child.selector (← child.resolve false (some h))
    return found.target.isSome

/-- The matches of a parent query that count. -/
def parents (plural : Bool) : Option Query → Option Handle → Option (Lookup (List Handle))
  | none, _ => none
  | some p, base => some do
    let findings ← p.resolve plural base
    if plural then return findings.filterMap Finding.target
    else return (← firstOf p.selector findings).target.toList

end

/-- **Looks for one element.** -/
def find (q : Query) (base : Option Handle) : Lookup Finding := do
  firstOf q.selector (← q.resolve false base)

/-- **Looks for every element.** -/
def findAll (q : Query) (base : Option Handle) : Lookup (List Finding) := q.resolve true base

/-- The element a query finds, if it finds one. -/
def target? (q : Query) (base : Option Handle) : Lookup (Option Handle) := do
  return (← q.find base).target

end Query

namespace Matcher

/-- What a matcher sees in the element it is about. -/
def state (m : Matcher) (h : Handle) : Lookup Bool :=
  match m with
  | .css _ => return true
  | .checkbox _ => ask (.isChecked h)

/-- **The answer to a matcher**; without its element the answer is no. -/
def holds (m : Matcher) (base : Option Handle) : Lookup Bool := do
  match ← m.target.target? base with
  | none => return false
  | some h => m.state h

/-- Outlines the element of a matcher, as passed if it is in the state that is wanted. -/
def outline (m : Matcher) (base : Option Handle) (wanted : Bool) : Lookup Unit := do
  match ← m.target.target? base with
  | none => return ()
  | some h =>
    let b ← m.state h
    ask (.paint h (b == wanted))

end Matcher
end ConsentWalker
