import ConsentWalker.Css.Selector
/-!
# CSS — reading selectors

`Selector.parse` reads a list of selectors from a text. The tokens are grouped by their brackets
first, so that a group in brackets is read on its own and must be read to its end.

**Where reading stops, it says why.** A reading yields a value or a `Flaw`, and in both cases the
pieces it has not passed: inside `:is()` and `:where()` a faulty selector matches nothing, unless a
token that is never right is still to come.
-/

namespace ConsentWalker
namespace Css

/-- A reading of pieces: what it finds or why it stops, and the pieces it leaves. -/
abbrev Reading := ExceptT Flaw (StateM (List Piece))

namespace Reading

variable {α : Type}

/-- Stops a reading. -/
def fail (flaw : Flaw) : Reading α := throw flaw

/-- The next piece, which is not passed. -/
def peek : Reading (Option Piece) := do return (← get).head?

/-- Passes the next piece. -/
def skip : Reading Unit := modify List.tail

/-- Passes white space. -/
def skipBlanks : Reading Unit := modify (List.dropWhile Piece.isBlank)

/-- The next piece, which is passed. -/
def next : Reading Piece := do
  match ← get with
  | [] => fail .endOfInput
  | p :: rest =>
    set rest
    return p

/-- The next piece after white space, which is passed. -/
def nextInk : Reading Piece := do
  skipBlanks
  next

/-- The next piece after white space, if there is one. -/
def nextInk? : Reading (Option Piece) := do
  skipBlanks
  match ← get with
  | [] => return none
  | p :: rest =>
    set rest
    return some p

/-- Nothing but white space is left. -/
def finish : Reading Unit := do
  match ← nextInk? with
  | none => return ()
  | some p => fail (.unexpectedToken p.head)

/-- Reads some pieces to their end. -/
def whole (r : Reading α) (pieces : List Piece) : Except Flaw α :=
  ((do let v ← r; finish; return v : Reading α).run.run pieces).1

/-- Repeats a reading until it finds nothing, at most `fuel` times. -/
def many (r : Reading (Option α)) : Nat → Reading (List α)
  | 0 => return []
  | fuel + 1 => do
    match ← r with
    | none => return []
    | some v => return v :: (← many r fuel)

/-- Repeats a reading until it finds nothing. Each round passes a piece, so that the pieces at hand
bound the rounds. -/
def all (r : Reading (Option α)) : Reading (List α) := do many r ((← get).length + 1)

end Reading

open Reading

/-! ## Names -/

/-- A name after a namespace separator, where `*` may stand for any name. -/
def nameInNamespace : Reading (Option String) := do
  match ← next with
  | .token (.delim '*') => return none
  | .token (.ident name) => return some name
  | p => fail (.badNamespacedName p.head)

/-- The test that a name puts to an element. -/
def Simple.named : Option String → Simple
  | some name => .tag name
  | none => .any

/-- Whether the namespace separator comes next; it is passed. -/
def separator : Reading Bool := do
  match ← peek with
  | some (.token (.delim '|')) =>
    skip
    return true
  | _ => return false

/-- Nothing, where the pieces ran out. -/
def orNone (r : Reading (List Simple)) : Reading (List Simple) :=
  tryCatch r fun
    | .endOfInput => return []
    | flaw => fail flaw

/-- The element name a compound may start with. No namespace has a name, and no element is without
one. -/
def elementName : Reading (List Simple) := do
  match ← peek with
  | some (.token (.ident name)) =>
    skip
    if ← separator then fail (.unknownNamespace name) else return [.tag name]
  | some (.token (.delim '*')) =>
    skip
    if ← separator then orNone do return [.named (← nameInNamespace)] else return [.any]
  | some (.token (.delim '|')) =>
    skip
    orNone do
      let name ← nameInNamespace
      return [.named name, .never]
  | _ => return []

/-! ## Attributes -/

/-- Attributes whose values ignore case in markup elements. -/
def caselessAttributes : List String :=
  ["accept", "accept-charset", "align", "alink", "axis", "bgcolor", "charset", "checked", "clear",
   "codetype", "color", "compact", "declare", "defer", "dir", "direction", "disabled", "enctype",
   "face", "frame", "hreflang", "http-equiv", "lang", "language", "link", "media", "method",
   "multiple", "nohref", "noresize", "noshade", "nowrap", "readonly", "rel", "rev", "rules",
   "scope", "scrolling", "selected", "shape", "target", "text", "type", "valign", "valuetype",
   "vlink"]

/-- An attribute name after a namespace separator. -/
def attributeInNamespace : Reading String := do
  match ← next with
  | .token (.ident name) => return name
  | p => fail (.badAttributeName p.head)

/-- The name of an attribute, and whether it is asked for in every namespace. -/
def attributeName : Reading (String × Bool) := do
  match ← next with
  | .token (.ident name) =>
    if ← separator then fail (.unknownNamespace name) else return (name, false)
  | .token (.delim '*') =>
    match ← next with
    | .token (.delim '|') => return (← attributeInNamespace, true)
    | p => fail (.noBarInAttribute p.head)
  | .token (.delim '|') => return (← attributeInNamespace, false)
  | p => fail (.noAttributeName p.head)

/-- The comparison a token stands for. -/
def Operator.ofToken? : Token → Option Operator
  | .delim '=' => some .equal
  | .includes => some .includes
  | .dashMatch => some .dashMatch
  | .starts => some .starts
  | .substring => some .substring
  | .ends => some .ends
  | _ => none

/-- The case rule of an attribute, which a flag may state. Without one it depends on the name,
unless every namespace is meant. -/
def caseRule (name : String) (everywhere : Bool) : Reading CaseRule := do
  match ← nextInk? with
  | none =>
    if ! everywhere && caselessAttributes.contains (Text.asciiLower name) then
      return .insensitiveInMarkup
    else return .sensitive
  | some (.token (.ident flag)) =>
    if Text.sameUpToCase flag "i" then return .insensitive
    else if Text.sameUpToCase flag "s" then return .sensitive
    else fail (.unexpectedToken (.ident flag))
  | some p => fail (.unexpectedToken p.head)

/-- What stands between square brackets. -/
def attributeTest : Reading AttributeTest := do
  skipBlanks
  let (name, everywhere) ← attributeName
  match ← nextInk? with
  | none => return { name, everywhere, value := none }
  | some p =>
    match Operator.ofToken? p.head with
    | none => fail (.badAttributeOperator p.head)
    | some operator =>
      match ← nextInk with
      | .token (.ident value) | .token (.quoted value) =>
        return { name, everywhere, value := some (operator, value, ← caseRule name everywhere) }
      | p => fail (.badAttributeValue p.head)

/-! ## Positions -/

/-- The number after `n` and its sign. -/
def plainOffset (step sign : Int) : Reading (Int × Int) := do
  match ← nextInk with
  | .token (.number ⟨false, _, some start⟩) => return (step, sign * start)
  | p => fail (.unexpectedToken p.head)

/-- What may follow `n`: a signed number, or a sign and a number. -/
def offset (step : Int) : Reading (Int × Int) := do
  let before ← get
  match ← nextInk? with
  | some (.token (.delim '+')) => plainOffset step 1
  | some (.token (.delim '-')) => plainOffset step (-1)
  | some (.token (.number ⟨true, _, some start⟩)) => return (step, start)
  | _ =>
    -- without an offset nothing was passed
    set before
    return (step, 0)

/-- The number in a name such as `n-3`: its sign is the dash. -/
def dashedNumber? (name : String) : Option Int :=
  match name.toList with
  | n :: '-' :: ds =>
    if n.toLower = 'n' ∧ ds ≠ [] ∧ ds.all Char.isDigit then
      some (clampInt (-(Nat.ofDigitChars 10 ds 0 : Int)))
    else none
  | _ => none

/-- Reads on after a name that starts with the letter `n`. -/
def positionNamed (step : Int) (name : String) (shown : String) : Reading (Int × Int) :=
  if Text.sameUpToCase name "n" then offset step
  else if Text.sameUpToCase name "n-" then plainOffset step (-1)
  else
    match dashedNumber? name with
    | some start => return (step, start)
    | none => fail (.unexpectedToken (.ident shown))

/-- A step and a start: `even`, `odd`, a number, or a form such as `2n+1`. -/
def position : Reading (Int × Int) := do
  match ← nextInk with
  | .token (.number ⟨_, _, some start⟩) => return (0, start)
  | .token (.dimension ⟨_, _, some step⟩ unit) => positionNamed step unit unit
  | .token (.ident name) =>
    if Text.sameUpToCase name "even" then return (2, 0)
    else if Text.sameUpToCase name "odd" then return (2, 1)
    else
      match name.toList with
      | '-' :: rest => positionNamed (-1) (String.ofList rest) name
      | _ => positionNamed 1 name name
  | .token (.delim '+') =>
    match ← next with
    | .token (.ident name) => positionNamed 1 name name
    | p => fail (.unexpectedToken p.head)
  | p => fail (.unexpectedToken p.head)

/-- A test of the first or the last place. -/
def Nth.edge (fromEnd ofType : Bool) : Nth := ⟨0, 1, fromEnd, ofType⟩

/-! ## Pseudo-classes -/

/-- Where a list of selectors stands. -/
structure Setting where
  /-- A faulty selector matches nothing. -/
  forgiving : Bool := false
  /-- Each selector starts from an anchor. -/
  relative : Bool := false
  /-- Within brackets pseudo-elements are out of place. -/
  nested : Bool := false
  /-- Within `:has()` another one is out of place. -/
  inHas : Bool := false
  /-- Combinators are out of place. -/
  single : Bool := false

/-- Pseudo-classes without arguments. -/
def plainPseudo? (name : String) : Option (List Simple) :=
  match Text.asciiLower name with
  | "first-child" => some [.nth (.edge false false)]
  | "last-child" => some [.nth (.edge true false)]
  | "only-child" => some [.nth (.edge false false), .nth (.edge true false)]
  | "first-of-type" => some [.nth (.edge false true)]
  | "last-of-type" => some [.nth (.edge true true)]
  | "only-of-type" => some [.nth (.edge false true), .nth (.edge true true)]
  | "root" | "scope" => some [.root]
  | "empty" => some [.empty]
  | _ => none

/-- Pseudo-classes that test a position: whether they count from the end, and by type. -/
def nthPseudo? (name : String) : Option (Bool × Bool) :=
  match Text.asciiLower name with
  | "nth-child" => some (false, false)
  | "nth-last-child" => some (true, false)
  | "nth-of-type" => some (false, true)
  | "nth-last-of-type" => some (true, true)
  | _ => none

/-- Pseudo-elements that may be written with one colon. -/
def isOldPseudoElement (name : String) : Bool :=
  ["before", "after", "first-line", "first-letter"].contains (Text.asciiLower name)

/-- How the selectors inside brackets are read: `list` reads a list of them, `one` a single one. -/
structure Within where
  list : Setting → List Piece → Except Flaw (List Complex)
  one : Setting → List Piece → Except Flaw Complex

/-- A pseudo-class with its arguments. No element is the host of a tree apart, so that `:host()`
matches nothing. -/
def functional (w : Within) (s : Setting) (name : String) (inner : List Piece) :
    Reading Simple := do
  let nested : Setting := { nested := true, inHas := s.inHas, single := s.single }
  match nthPseudo? name with
  | some (fromEnd, ofType) =>
    match whole position inner with
    | .ok (step, start) => return .nth ⟨step, start, fromEnd, ofType⟩
    | .error flaw => fail flaw
  | none =>
    match Text.asciiLower name with
    | "is" | "where" => return .is (← w.list { nested with forgiving := true } inner)
    | "not" => return .not (← w.list nested inner)
    | "has" =>
      if s.inHas then fail .misplaced
      else return .has (← w.list { nested with relative := true, inHas := true } inner)
    | "host" => do
      let _ ← w.one { nested with single := true } inner
      return .never
    | _ => fail (.unsupportedPseudo name)

/-- What follows a colon. -/
def pseudo (w : Within) (s : Setting) : Reading (List Simple) := do
  let first ← next
  let (double, p) ←
    match first with
    -- a second colon makes a pseudo-element
    | .token .colon => do pure (true, ← next)
    | p => pure (false, p)
  let refusePseudoElement (name : String) : Reading (List Simple) :=
    if s.nested then fail .misplaced else fail (.unsupportedPseudo name)
  match p with
  | .token (.ident name) =>
    if double || isOldPseudoElement name then refusePseudoElement name
    else
      match plainPseudo? name with
      | some tests => return tests
      | none => fail (.unsupportedPseudo name)
  | .block (.function name) inner =>
    if double || isOldPseudoElement name then refusePseudoElement name
    else return [← functional w s name inner]
  | p => fail (.noPseudoName p.head)

/-! ## Selectors -/

/-- One test of a compound after its element name. -/
def simple? (w : Within) (s : Setting) : Reading (Option (List Simple)) := do
  match ← peek with
  | some (.token (.idHash name)) =>
    skip
    return some [.id name]
  | some (.token (.delim '.')) =>
    skip
    match ← next with
    | .token (.ident name) => return some [.cls name]
    | p => fail (.noClassName p.head)
  | some (.block .square inner) =>
    skip
    match whole attributeTest inner with
    | .ok test => return some [.attribute test]
    | .error flaw => fail flaw
  | some (.token .colon) =>
    skip
    return some (← pseudo w s)
  | _ => return none

/-- A compound: an element name and further tests, each of which may be missing. -/
def compound (w : Within) (s : Setting) : Reading (List Simple) := do
  skipBlanks
  let name ← elementName
  let tests ← all (simple? w s)
  return name ++ tests.flatten

/-- The combinator that comes next; white space is one if anything follows it. -/
def combinator? : Reading (Option Combinator) := do
  let blank := match ← peek with
    | some p => p.isBlank
    | none => false
  skipBlanks
  match ← peek with
  | some (.token (.delim '>')) =>
    skip
    return some .child
  | some (.token (.delim '+')) =>
    skip
    return some .nextSibling
  | some (.token (.delim '~')) =>
    skip
    return some .laterSibling
  | some _ => return if blank then some .descendant else none
  | none => return none

/-- Compounds and combinators up to the end of a selector; `left` is what stands before. -/
def compounds (w : Within) (s : Setting) : Nat → List Link → Reading Complex
  | 0, left => return ⟨[], left⟩
  | fuel + 1, left => do
    match ← compound w s with
    | [] => fail (if left.isEmpty then .emptySelector else .danglingCombinator)
    | tests =>
      match ← combinator? with
      | none => return ⟨tests, left⟩
      | some k => if s.single then fail .misplaced else compounds w s fuel (⟨k, tests⟩ :: left)

/-- One selector of a list. -/
def complex (w : Within) (s : Setting) : Reading Complex := do
  skipBlanks
  let left ←
    if s.relative then do
      let k ← combinator?
      pure [⟨k.getD .descendant, [.anchor]⟩]
    else pure []
  compounds w s ((← get).length + 1) left

/-- The first token that is never right among pieces. -/
def errorToken? : Nat → List Piece → Option Token
  | 0, _ => none
  | fuel + 1, pieces =>
    pieces.findSome? fun
      | .token t => if t.isError then some t else none
      | .block _ inner => errorToken? fuel inner

/-- One selector of a list, which has to be read to its end. A forgiven one matches nothing. -/
def member (w : Within) (s : Setting) (pieces : List Piece) : Except Flaw Complex :=
  match (complex w s).run.run pieces with
  | (.ok c, rest) =>
    match (finish.run.run rest).1 with
    | .ok () => .ok c
    | .error flaw => forgive flaw rest
  | (.error flaw, rest) => forgive flaw rest
where
  /-- Passes over a faulty selector where that is allowed. -/
  forgive (flaw : Flaw) (rest : List Piece) : Except Flaw Complex :=
    if s.forgiving then
      match errorToken? (Piece.depthAll rest + 1) rest with
      | some t => .error (.unexpectedToken t)
      | none => .ok ⟨[.never], []⟩
    else .error flaw

/-- Splits pieces at the commas that stand outside brackets. -/
def splitAtCommas : List Piece → List (List Piece)
  | [] => [[]]
  | .token .comma :: rest => [] :: splitAtCommas rest
  | p :: rest =>
    match splitAtCommas rest with
    | [] => [[p]]
    | g :: gs => (p :: g) :: gs

/-- The reading of selectors whose brackets are nested less than so deep. -/
def Within.ofDepth : Nat → Within
  | 0 => ⟨fun _ _ => .error .misplaced, fun _ _ => .error .misplaced⟩
  | depth + 1 =>
    { list := fun s pieces => (splitAtCommas pieces).mapM (member (ofDepth depth) s)
      one := fun s pieces => whole (complex (ofDepth depth) s) pieces }

/-- **Reads a list of selectors.** -/
def Selector.parse (s : String) : Except Flaw (List Complex) :=
  let pieces := Piece.nest (tokens s)
  (Within.ofDepth (Piece.depthAll pieces + 1)).list {} pieces

end Css
end ConsentWalker
