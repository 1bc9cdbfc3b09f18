import ConsentWalker.Markup.Token
import ConsentWalker.Markup.Vocabulary
/-!
# Markup — a page under construction

A `Draft` holds the nodes made so far, by their positions, together with what the construction has
to remember: the elements that are open, the formatting that is reopened after a block has cut it
off, the head and the form, and the stage. The operations here move nodes and elements about; the
rules about which token does what are in `Markup.Construction`.

**Neighbouring texts are one text**: a text that is put next to another one is joined with it. What
is put into a template goes under the node that holds its content.
-/

namespace ConsentWalker
namespace Markup

/-- What part of a page comes next. -/
inductive Stage where
  | initial | beforeHtml | beforeHead | inHead | afterHead | inBody | inText
  | inTable | inTableText | inCaption | inColumnGroup | inTableBody | inRow | inCell
  | inSelect | inSelectInTable | inTemplate | afterBody | inFrames | afterFrames
  | afterAll | afterAllFrames
  deriving DecidableEq, Repr, Inhabited

/-- A node in a draft: what it is, and where it hangs. -/
structure Sketch where
  content : Content
  children : List Nat := []
  parent? : Option Nat := none
  deriving Repr, Inhabited

/-- Formatting that is in force, or a mark that formatting does not pass. -/
inductive Formatting where
  | marker
  | element (at? : Nat) (e : Element)
  deriving DecidableEq, Repr, Inhabited

/-- A page under construction. Lists of what is in force start with the innermost. -/
structure Draft where
  nodes : Array Sketch := #[⟨.document, [], none⟩]
  opened : List Nat := []
  formatting : List Formatting := []
  stage : Stage := .initial
  /-- The stage to go back to after a text. -/
  resume : Stage := .inBody
  /-- The stages of the templates that are open. -/
  templates : List Stage := []
  head? : Option Nat := none
  form? : Option Nat := none
  /-- Content that a table cannot hold goes in front of it. -/
  fostering : Bool := false
  /-- Text between the parts of a table. Whether it stays there is open until all of it is read. -/
  tableText : List Char := []
  /-- Whether frames may still take the place of the body. -/
  framesAllowed : Bool := true
  /-- How the next token is read. -/
  mode : Mode := .markup
  /-- A line feed right after the tag does not count. -/
  dropsLineFeed : Bool := false
  /-- Whether the page is of an old kind. -/
  isOld : Bool := false
  /-- Whether only a part of a body is read. -/
  isFragment : Bool := false
  deriving Repr, Inhabited

/-- A step of the construction. -/
abbrev Drafting := StateM Draft

namespace Draft

/-- The element at a position. -/
def element? (d : Draft) (i : Nat) : Option Element :=
  d.nodes[i]?.bind fun s => s.content.element?

/-- The name of the markup element at a position, empty for other nodes. -/
def nameAt (d : Draft) (i : Nat) : String :=
  match d.element? i with
  | some e => if e.isMarkup then e.name else ""
  | none => ""

/-- The names of the open elements, empty for those of graphics and formulas. -/
def openNames (d : Draft) : List String := d.opened.map d.nameAt

/-- The name of the innermost open element. -/
def currentName (d : Draft) : String := d.openNames.head?.getD ""

/-- The innermost open element. -/
def current? (d : Draft) : Option Element := d.opened.head?.bind d.element?

/-- Whether graphics or formulas are read. -/
def isEmbedding (d : Draft) : Bool := d.current?.any fun e => ! e.isMarkup

/-- Changes the node at a position. -/
def updateAt (d : Draft) (i : Nat) (f : Sketch → Sketch) : Draft :=
  { d with nodes := d.nodes.modify i f }

/-- Makes a node that hangs nowhere yet. -/
def make (d : Draft) (content : Content) : Nat × Draft :=
  (d.nodes.size, { d with nodes := d.nodes.push ⟨content, [], none⟩ })

/-- Takes a node from where it hangs. -/
def detach (d : Draft) (i : Nat) : Draft :=
  match d.nodes[i]?.bind Sketch.parent? with
  | none => d
  | some p =>
    (d.updateAt p fun s => { s with children := s.children.filter (· ≠ i) }).updateAt i
      fun s => { s with parent? := none }

/-- Hangs a node under a parent, before one of its children or after all of them. -/
def hang (d : Draft) (parent : Nat) (before? : Option Nat) (i : Nat) : Draft :=
  let d := d.detach i
  let place (children : List Nat) : List Nat :=
    match before? with
    | none => children ++ [i]
    | some b => children.takeWhile (· ≠ b) ++ i :: children.dropWhile (· ≠ b)
  (d.updateAt parent fun s => { s with children := place s.children }).updateAt i
    fun s => { s with parent? := some parent }

/-- Hangs a text under a parent, joined with the text before it. -/
def hangText (d : Draft) (parent : Nat) (before? : Option Nat) (text : String) : Draft :=
  let children := (d.nodes[parent]?.map Sketch.children).getD []
  let children := children.takeWhile fun i => some i ≠ before?
  let last? : Option (Nat × String) :=
    children.getLast?.bind fun i =>
      match d.nodes[i]?.map Sketch.content with
      | some (.text s) => some (i, s)
      | _ => none
  match last? with
  | some (i, s) => d.updateAt i fun n => { n with content := .text (s ++ text) }
  | none =>
    let (i, d) := d.make (.text text)
    d.hang parent before? i

/-- Makes an element that hangs nowhere yet. A template comes with the node that holds its
content. -/
def makeElement (d : Draft) (e : Element) : Nat × Draft :=
  let (i, d) := d.make (.element e)
  if e.isMarkup && e.name == "template" then
    let (j, d) := d.make .inert
    (i, d.hang i none j)
  else (i, d)

/-! ## Where new nodes go -/

/-- The parts of a table that hold only parts of a table. -/
def tableParts : List String := ["table", "tbody", "tfoot", "thead", "tr"]

/-- The outermost open element. -/
def outermost (d : Draft) : Nat := d.opened.getLast?.getD 0

/-- The node that holds the content of an element. -/
def holder (d : Draft) (i : Nat) : Nat :=
  if d.nameAt i = "template" then ((d.nodes[i]?.bind fun s => s.children.head?).getD i) else i

/-- The place in front of the innermost table, unless a template is nearer. -/
def fosterSpot (d : Draft) : Nat × Option Nat :=
  match d.opened.find? fun i => ["template", "table"].contains (d.nameAt i) with
  | none => (d.outermost, none)
  | some i =>
    if d.nameAt i = "template" then (d.holder i, none)
    else
      match d.nodes[i]?.bind Sketch.parent? with
      | some p => (p, some i)
      | none => ((((d.opened.dropWhile (· ≠ i)).drop 1).head?).getD d.outermost, none)

/-- Where a new node goes that is meant for some open element. -/
def spotIn (d : Draft) (target : Nat) : Nat × Option Nat :=
  if d.fostering && tableParts.contains (d.nameAt target) then d.fosterSpot
  else (d.holder target, none)

/-- Where a new node goes. -/
def spot (d : Draft) : Nat × Option Nat := d.spotIn (d.opened.head?.getD 0)

/-! ## Scopes -/

/-- Elements of markup that end every common scope. -/
def scopeEnds : List String :=
  ["applet", "caption", "html", "table", "td", "th", "marquee", "object", "template"]

/-- Whether an element ends every common scope. -/
def endsScope (d : Draft) (i : Nat) : Bool :=
  scopeEnds.contains (d.nameAt i) ||
    (d.element? i).any fun e => e.holdsMarkup || e.holdsFormulaText

/-- Whether a target is open and nothing that ends the scope stands in between. -/
def inScopeOf (d : Draft) (isEnd isTarget : Nat → Bool) : Bool :=
  match d.opened.find? fun i => isTarget i || isEnd i with
  | some i => isTarget i
  | none => false

/-- Whether the element at a position has one of some names. -/
def isNamed (d : Draft) (names : List String) (i : Nat) : Bool := names.contains (d.nameAt i)

/-- The common scope. -/
def inScope (d : Draft) (targets : List String) : Bool :=
  d.inScopeOf d.endsScope (d.isNamed targets)

/-- Whether the element at a position is in the common scope. -/
def hasInScope (d : Draft) (i : Nat) : Bool := d.inScopeOf d.endsScope (· == i)

/-- The scope that buttons end too. -/
def inButtonScope (d : Draft) (targets : List String) : Bool :=
  d.inScopeOf (fun i => d.isNamed ["button"] i || d.endsScope i) (d.isNamed targets)

/-- The scope that lists end too. -/
def inListScope (d : Draft) (targets : List String) : Bool :=
  d.inScopeOf (fun i => d.isNamed ["ol", "ul"] i || d.endsScope i) (d.isNamed targets)

/-- The scope of parts of tables. -/
def inTableScope (d : Draft) (targets : List String) : Bool :=
  d.inScopeOf (d.isNamed ["html", "table", "template"]) (d.isNamed targets)

/-- The scope of selections. -/
def inSelectScope (d : Draft) (targets : List String) : Bool :=
  d.inScopeOf (! d.isNamed ["optgroup", "option"] ·) (d.isNamed targets)

/-- Whether an element of that name is open. -/
def isOpen (d : Draft) (name : String) : Bool := d.openNames.contains name

end Draft

open Draft

/-! ## Opening and closing -/

/-- Makes an element at the place for new nodes, without opening it. -/
def insertElement (e : Element) : Drafting Nat :=
  modifyGet fun d =>
    let (parent, before?) := d.spot
    let (i, d) := d.makeElement e
    (i, d.hang parent before? i)

/-- Makes an element and opens it. -/
def openElement (e : Element) : Drafting Nat := do
  let i ← insertElement e
  modify fun d => { d with opened := i :: d.opened }
  return i

/-- Makes a markup element and opens it. -/
def start (name : String) (attributes : List (String × String)) : Drafting Unit :=
  discard (openElement { name, attributes })

/-- Makes a markup element that has no content. -/
def startVoid (name : String) (attributes : List (String × String)) : Drafting Unit :=
  discard (insertElement { name, attributes })

/-- Puts a text at the place for new nodes. -/
def insertText (cs : List Char) : Drafting Unit :=
  if cs.isEmpty then return
  else modify fun d =>
    let (parent, before?) := d.spot
    d.hangText parent before? (String.ofList cs)

/-- Puts a comment at the place for new nodes. -/
def insertComment (text : String) : Drafting Unit :=
  modify fun d =>
    let (parent, before?) := d.spot
    let (i, d) := d.make (.comment text)
    d.hang parent before? i

/-- Puts a node below another one. -/
def insertUnder (parent : Nat) (content : Content) : Drafting Unit :=
  modify fun d =>
    let (i, d) := d.make content
    d.hang parent none i

/-- Closes the innermost element. -/
def close : Drafting Unit := modify fun d => { d with opened := d.opened.tail }

/-- Closes elements while their names are in a class. -/
def closeWhile (p : String → Bool) : Drafting Unit :=
  modify fun d => { d with opened := d.opened.dropWhile fun i => p (d.nameAt i) }

/-- Closes elements up to the first that has one of the names, and that one. -/
def closeUntil (names : List String) : Drafting Unit := do
  closeWhile fun n => ! names.contains n
  close

/-- Elements whose end tags may be left out. -/
def impliedEnds : List String :=
  ["dd", "dt", "li", "optgroup", "option", "p", "rb", "rp", "rt", "rtc"]

/-- Closes elements whose end tags may be left out, except those of one name. -/
def closeImplied (except : String) : Drafting Unit :=
  closeWhile fun n => n != except && impliedEnds.contains n

/-- Closes elements whose end tags may be left out, parts of tables included. -/
def closeAllImplied : Drafting Unit :=
  closeWhile fun n =>
    impliedEnds.contains n ||
      ["caption", "colgroup", "tbody", "td", "tfoot", "th", "thead", "tr"].contains n

/-- Closes a paragraph. -/
def closeParagraph : Drafting Unit := do
  closeImplied "p"
  closeUntil ["p"]

/-- Closes the paragraph that is open, if there is one. -/
def closeOpenParagraph : Drafting Unit := do
  if (← get).inButtonScope ["p"] then closeParagraph

/-! ## Formatting -/

/-- Whether two lists of attributes say the same. -/
def sameAttributes (a b : List (String × String)) : Bool :=
  a.length == b.length && a.all fun (name, value) => b.lookup name == some value

/-- Notes that formatting is in force. Of four equal ones up to a mark the outermost is dropped. -/
def pushFormatting (i : Nat) (e : Element) : Drafting Unit :=
  modify fun d =>
    let isSame (f : Formatting) : Bool := match f with
      | .element _ other => other.name == e.name && sameAttributes other.attributes e.attributes
      | .marker => false
    let inner := d.formatting.takeWhile (· ≠ .marker)
    let outer := d.formatting.dropWhile (· ≠ .marker)
    let inner : List Formatting :=
      if 3 ≤ inner.countP isSame then
        let outermost := inner.reverse
        (outermost.takeWhile (! isSame ·) ++ (outermost.dropWhile (! isSame ·)).drop 1).reverse
      else inner
    { d with formatting := .element i e :: inner ++ outer }

/-- Sets a mark that formatting does not pass. -/
def pushMarker : Drafting Unit :=
  modify fun d => { d with formatting := .marker :: d.formatting }

/-- Drops the formatting up to the last mark, and the mark. -/
def dropToMarker : Drafting Unit :=
  modify fun d => { d with formatting := (d.formatting.dropWhile (· ≠ .marker)).drop 1 }

/-- Whether an entry is the formatting of the element at a position. -/
def Formatting.isAt (i : Nat) : Formatting → Bool
  | .element j _ => j == i
  | .marker => false

/-- Drops the formatting of the element at a position. -/
def dropFormatting (i : Nat) : Drafting Unit :=
  modify fun d => { d with formatting := d.formatting.filter (! ·.isAt i) }

/-- Reopens formatting, outermost first; `acc` holds what is in force already. -/
def reopen : List Formatting → List Formatting → Drafting (List Formatting)
  | [], acc => return acc
  | .marker :: rest, acc => reopen rest (.marker :: acc)
  | .element _ e :: rest, acc => do
    let i ← openElement e
    reopen rest (.element i e :: acc)

/-- Reopens the formatting that a block has cut off. -/
def reopenFormatting : Drafting Unit := do
  let d ← get
  let isCut : Formatting → Bool
    | .marker => false
    | .element i _ => ! d.opened.contains i
  let kept := d.formatting.dropWhile isCut
  let formatting ← reopen (d.formatting.takeWhile isCut).reverse kept
  modify fun d => { d with formatting }

/-- Elements that text formatting does not reach into. -/
def specialElements : List String :=
  ["address", "applet", "area", "article", "aside", "base", "basefont", "bgsound", "blockquote",
   "body", "br", "button", "caption", "center", "col", "colgroup", "dd", "details", "dir", "div",
   "dl", "dt", "embed", "fieldset", "figcaption", "figure", "footer", "form", "frame", "frameset",
   "h1", "h2", "h3", "h4", "h5", "h6", "head", "header", "hgroup", "hr", "html", "iframe", "img",
   "input", "isindex", "li", "link", "listing", "main", "marquee", "menu", "meta", "nav",
   "noembed", "noframes", "noscript", "object", "ol", "p", "param", "plaintext", "pre", "script",
   "section", "select", "source", "style", "summary", "table", "tbody", "td", "template",
   "textarea", "tfoot", "th", "thead", "title", "tr", "track", "ul", "wbr", "xmp"]

/-- Closes the nearest element of a name, unless a special element stands in between. -/
def closeNamed (name : String) : Drafting Unit := do
  let d ← get
  match d.opened.find? fun i => d.nameAt i == name || specialElements.contains (d.nameAt i) with
  | none => return
  | some i =>
    if d.nameAt i = name then
      closeImplied name
      modify fun d => { d with opened := (d.opened.dropWhile (· ≠ i)).drop 1 }

/-- Rebuilds the elements between a formatting element and the block below it, from the inside
out; `depth` counts them. Gives the outermost node of what was moved, and the innermost rebuilt
element. -/
def rebuildBetween (block : Nat) : List Nat → Nat → Nat → Option Nat → Drafting (Nat × Option Nat)
  | [], _, last, mark? => return (last, mark?)
  | i :: rest, depth, last, mark? => do
    let d ← get
    let entry? := d.formatting.find? (·.isAt i)
    match entry? with
    | some (.element _ e) =>
      if depth > 3 then
        dropFormatting i
        modify fun d => { d with opened := d.opened.filter (· ≠ i) }
        rebuildBetween block rest (depth + 1) last mark?
      else
        let (j, d) := d.makeElement e
        let renewed (f : Formatting) : Formatting := if f.isAt i then .element j e else f
        set { d with
          opened := d.opened.map fun k => if k = i then j else k
          formatting := d.formatting.map renewed }
        modify fun d => d.hang j none last
        rebuildBetween block rest (depth + 1) j (if last = block then some j else mark?)
    | _ =>
      modify fun d => { d with opened := d.opened.filter (· ≠ i) }
      rebuildBetween block rest (depth + 1) last mark?

/-- Closes formatting that a block cuts through: the formatting is rebuilt inside the block. Gives
whether there may be more to close. -/
def closeFormattingOnce (name : String) : Drafting Bool := do
  let d ← get
  let isNamed : Formatting → Bool
    | .element _ e => e.name == name
    | .marker => false
  match (d.formatting.takeWhile (· ≠ .marker)).find? isNamed with
  | none | some .marker =>
    closeNamed name
    return false
  | some (.element f e) =>
    -- its element is closed already
    if ! d.opened.contains f then
      dropFormatting f
      return false
    else if ! d.hasInScope f then return false
    else
      let inner := d.opened.takeWhile (· ≠ f)
      match inner.reverse.find? fun i => specialElements.contains (d.nameAt i) with
      | none =>
        -- no block is cut through
        set { d with opened := (d.opened.dropWhile (· ≠ f)).drop 1 }
        dropFormatting f
        return false
      | some block =>
        let ancestor := (((d.opened.dropWhile (· ≠ f)).drop 1).head?).getD 0
        let between := (inner.dropWhile (· ≠ block)).drop 1
        let (last, mark?) ← rebuildBetween block between 1 block none
        -- what was rebuilt hangs where the formatting did
        let (parent, before?) := (← get).spotIn ancestor
        modify fun d => d.hang parent before? last
        let (j, d) := (← get).makeElement e
        -- a copy of the formatting takes the content of the block
        let children := (d.nodes[block]?.map Sketch.children).getD []
        let d := children.foldl (fun d c => d.hang j none c) d
        let d := d.hang block none j
        let entry : Formatting := .element j e
        let formatting :=
          match mark? with
          | some m =>
            (d.formatting.filter (! ·.isAt f)).flatMap fun g =>
              if g.isAt m then [entry, g] else [g]
          | none => d.formatting.map fun g => if g.isAt f then entry else g
        let opened := (d.opened.filter (· ≠ f)).flatMap fun i => if i = block then [j, i] else [i]
        set { d with formatting, opened }
        return true

/-- Closes formatting in at most so many rounds. -/
def closeFormattingIn (name : String) : Nat → Drafting Unit
  | 0 => return
  | rounds + 1 => do
    if ← closeFormattingOnce name then closeFormattingIn name rounds

/-- Closes formatting. -/
def closeFormatting (name : String) : Drafting Unit := do
  let d ← get
  let current := d.opened.head?.getD 0
  if d.currentName = name ∧ ! d.formatting.any (·.isAt current) then close
  else closeFormattingIn name 8

/-! ## Stages -/

/-- Goes to a stage. -/
def goTo (stage : Stage) : Drafting Unit := modify fun d => { d with stage }

/-- Notes content whose place frames cannot take. -/
def forbidFrames : Drafting Unit := modify fun d => { d with framesAllowed := false }

/-- Starts an element whose content is read in a mode of its own. -/
def startText (name : String) (attributes : List (String × String)) (mode : Mode) :
    Drafting Unit := do
  start name attributes
  modify fun d => { d with mode, resume := d.stage, stage := .inText }

/-- The stage of the innermost open elements. -/
def stageOf (d : Draft) : List Nat → Stage
  | [] => .inBody
  | [i] =>
    if d.isFragment then .inBody
    else if d.nameAt i = "html" ∧ d.head?.isNone then .beforeHead
    else if d.nameAt i = "html" then .afterHead
    else .inBody
  | i :: rest =>
    match d.nameAt i with
    | "select" =>
      match (rest.map d.nameAt).find? fun n => n == "template" || n == "table" with
      | some "table" => .inSelectInTable
      | _ => .inSelect
    | "td" | "th" => .inCell
    | "tr" => .inRow
    | "tbody" | "thead" | "tfoot" => .inTableBody
    | "caption" => .inCaption
    | "colgroup" => .inColumnGroup
    | "table" => .inTable
    | "template" => d.templates.head?.getD .inBody
    | "head" => .inHead
    | "body" => .inBody
    | "frameset" => .inFrames
    | _ => stageOf d rest

/-- Goes to the stage of the innermost open elements. -/
def resetStage : Drafting Unit := modify fun d => { d with stage := stageOf d d.opened }

/-! ## The finished page -/

/-- The tree below a position, at most so deep. -/
def Draft.treeAt (d : Draft) : Nat → Nat → Tree
  | 0, i => .node ((d.nodes[i]?.map Sketch.content).getD .document) []
  | fuel + 1, i =>
    match d.nodes[i]? with
    | some s => .node s.content (s.children.map (d.treeAt fuel))
    | none => .node .document []

/-- The whole page. -/
def Draft.tree (d : Draft) : Tree := d.treeAt d.nodes.size 0

end Markup
end ConsentWalker
