import ConsentWalker.Markup.Draft
/-!
# Markup — how tokens build a page

What a token does to a draft, stage by stage. A page always gets its `html` and `head`, and a `body`
or the frames in its place; end tags that may be left out are supplied, and stray tags are passed
over. Scripts count as on, so that what stands in for them is only text.

**A rule either finishes with its token or hands one on**, which the next stage sees. The rules here
are those of markup; graphics and formulas have theirs in `Markup.Embedding`.
-/

namespace ConsentWalker
namespace Markup

open Draft

/-- What a rule leaves to be looked at again. -/
abbrev Rule := Token → Drafting (Option Token)

/-- The token is dealt with. -/
def done : Drafting (Option Token) := return none

/-- The token is dealt with, after a step. -/
def after (step : Drafting Unit) : Drafting (Option Token) := do
  step
  done

/-- Another stage looks at the token. -/
def next (stage : Stage) (t : Token) : Drafting (Option Token) := do
  goTo stage
  return some t

/-- The white space at the front of a text, and the rest. -/
def splitBlank (cs : List Char) : List Char × List Char :=
  (cs.takeWhile Text.isMarkupSpace, cs.dropWhile Text.isMarkupSpace)

/-- A rule for the part of a text that is not white space, which is treated first. -/
def textAfterBlank (blank : List Char → Drafting Unit) (other : Rule) (cs : List Char) :
    Drafting (Option Token) := do
  let (space, rest) := splitBlank cs
  if ! space.isEmpty then blank space
  if rest.isEmpty then done else other (.text rest)

/-- End tags that count as content before the body. -/
def bodyLikeEnds : List String := ["body", "html", "br"]

/-! ## Before the body -/

/-- The stage before the document type. -/
def initial : Rule
  | .text cs => textAfterBlank (fun _ => return) loose cs
  | .comment s => after (insertUnder 0 (.comment s))
  | .doctype t => after do
    insertUnder 0 (.doctype (t.name?.getD ""))
    modify fun d => { d with isOld := t.isOld, stage := .beforeHtml }
  | t => loose t
where
  /-- A page without a document type. -/
  loose (t : Token) : Drafting (Option Token) := do
    modify fun d => { d with isOld := true }
    next .beforeHtml t

/-- Makes the outermost element. -/
def startRoot (attributes : List (String × String)) : Drafting Unit :=
  modify fun d =>
    let (i, d) := d.makeElement { name := "html", attributes }
    let d := d.hang 0 none i
    { d with opened := [i], stage := .beforeHead }

/-- The stage before the outermost element. -/
def beforeHtml : Rule
  | .doctype _ => done
  | .comment s => after (insertUnder 0 (.comment s))
  | .text cs => textAfterBlank (fun _ => return) supply cs
  | .startTag ⟨"html", attributes, _⟩ => after (startRoot attributes)
  | .endTag name =>
    if name = "head" ∨ bodyLikeEnds.contains name then supply (.endTag name) else done
  | t => supply t
where
  /-- The element is supplied. -/
  supply (t : Token) : Drafting (Option Token) := do
    startRoot []
    return some t

/-- Adds attributes to an element that is there already. -/
def addAttributes (i : Nat) (attributes : List (String × String)) : Drafting Unit :=
  modify fun d => d.updateAt i fun s =>
    match s.content with
    | .element e => { s with content := .element (e.addMissing attributes) }
    | _ => s

/-- A second tag of the outermost element. -/
def repeatedRoot (attributes : List (String × String)) : Drafting Unit := do
  let d ← get
  if ! d.isOpen "template" then addAttributes d.outermost attributes

/-- Opens the head. -/
def startHead (attributes : List (String × String)) : Drafting Unit := do
  let i ← openElement { name := "head", attributes }
  modify fun d => { d with head? := some i, stage := .inHead }

/-- The stage before the head. -/
def beforeHead : Rule
  | .text cs => textAfterBlank (fun _ => return) supply cs
  | .comment s => after (insertComment s)
  | .doctype _ => done
  | .startTag ⟨"html", attributes, _⟩ => after (repeatedRoot attributes)
  | .startTag ⟨"head", attributes, _⟩ => after (startHead attributes)
  | .endTag name =>
    if name = "head" ∨ bodyLikeEnds.contains name then supply (.endTag name) else done
  | t => supply t
where
  /-- The head is supplied. -/
  supply (t : Token) : Drafting (Option Token) := do
    startHead []
    return some t

/-- Elements of the head without content. -/
def headVoids : List String := ["base", "basefont", "bgsound", "link", "meta"]

/-- Elements that go to the head or are read as there. -/
def headElements : List String :=
  headVoids ++ ["noframes", "script", "style", "template", "title"]

/-- Starts an element of the head. -/
def startHeadElement (name : String) (attributes : List (String × String)) : Drafting Unit :=
  match name with
  | "title" => startText name attributes (.referring name)
  | "noframes" | "style" => startText name attributes (.raw name)
  | "script" => startText name attributes .script
  | "template" => do
    start name attributes
    pushMarker
    forbidFrames
    modify fun d => { d with stage := .inTemplate, templates := .inTemplate :: d.templates }
  | _ => startVoid name attributes

/-- Closes the innermost template with all that is open in it. -/
def leaveTemplate : Drafting Unit := do
  closeUntil ["template"]
  dropToMarker
  modify fun d => { d with templates := d.templates.tail }
  resetStage

/-- The end tag of a template. -/
def endTemplate : Drafting Unit := do
  if (← get).isOpen "template" then
    closeAllImplied
    leaveTemplate

/-- The head. -/
def inHead : Rule
  | .text cs => textAfterBlank insertText leave cs
  | .comment s => after (insertComment s)
  | .doctype _ => done
  | .startTag ⟨"html", attributes, _⟩ => after (repeatedRoot attributes)
  | .startTag ⟨"head", _, _⟩ => done
  | t@(.startTag ⟨name, attributes, _⟩) =>
    if name = "noscript" then after (startText name attributes (.raw name))
    else if headElements.contains name then after (startHeadElement name attributes)
    else leave t
  | .endTag "head" => after do
    close
    goTo .afterHead
  | .endTag "template" => after endTemplate
  | .endTag name => if bodyLikeEnds.contains name then leave (.endTag name) else done
  | .finish => leave .finish
where
  /-- The head ends. -/
  leave (t : Token) : Drafting (Option Token) := do
    close
    next .afterHead t

/-- Opens the body. -/
def startBody (attributes : List (String × String)) : Drafting Unit := do
  start "body" attributes
  goTo .inBody

/-- The stage between head and body. -/
def afterHead : Rule
  | .text cs => textAfterBlank insertText supply cs
  | .comment s => after (insertComment s)
  | .doctype _ => done
  | .startTag ⟨"html", attributes, _⟩ => after (repeatedRoot attributes)
  | .startTag ⟨"body", attributes, _⟩ => after do
    startBody attributes
    forbidFrames
  | .startTag ⟨"frameset", attributes, _⟩ => after do
    start "frameset" attributes
    goTo .inFrames
  | .startTag ⟨"head", _, _⟩ => done
  | t@(.startTag ⟨name, attributes, _⟩) =>
    if headElements.contains name then after do
      match (← get).head? with
      | none => startHeadElement name attributes
      | some head =>
        modify fun d => { d with opened := head :: d.opened }
        startHeadElement name attributes
        modify fun d => { d with opened := d.opened.filter (· ≠ head) }
    else supply t
  | .endTag "template" => after endTemplate
  | .endTag name => if bodyLikeEnds.contains name then supply (.endTag name) else done
  | .finish => supply .finish
where
  /-- The body is supplied. -/
  supply (t : Token) : Drafting (Option Token) := do
    startBody []
    return some t

/-! ## The body -/

/-- Blocks, which end a paragraph. -/
def blocks : List String :=
  ["address", "article", "aside", "blockquote", "center", "details", "dialog", "dir", "div", "dl",
   "fieldset", "figcaption", "figure", "footer", "header", "hgroup", "main", "menu", "nav", "ol",
   "p", "search", "section", "summary", "ul"]

/-- Headings. -/
def headings : List String := ["h1", "h2", "h3", "h4", "h5", "h6"]

/-- Elements that format the text inside them. -/
def formattingElements : List String :=
  ["b", "big", "code", "em", "font", "i", "s", "small", "strike", "strong", "tt", "u"]

/-- Elements that hold content of their own. -/
def containers : List String := ["applet", "marquee", "object"]

/-- Elements without content that stand in a text. -/
def inlineVoids : List String := ["area", "br", "embed", "img", "input", "keygen", "wbr"]

/-- Elements without content that stand in other elements. -/
def plainVoids : List String := ["param", "source", "track"]

/-- Parts of tables, and other tags that mean nothing in a body. -/
def strayInBody : List String :=
  ["caption", "col", "colgroup", "frame", "head", "tbody", "td", "tfoot", "th", "thead", "tr"]

/-- A new item ends the last one, unless it stands in another block. -/
def closeItem (names : List String) : Drafting Unit := do
  let d ← get
  let stops (n : String) : Bool :=
    names.contains n || (specialElements.contains n && ! ["address", "div", "p"].contains n)
  match d.openNames.find? stops with
  | some n =>
    if names.contains n then
      closeImplied n
      closeUntil [n]
  | none => return

/-- Opens formatting. -/
def startFormatting (name : String) (attributes : List (String × String)) : Drafting Unit := do
  reopenFormatting
  let e : Element := { name, attributes }
  let i ← openElement e
  pushFormatting i e

/-- A link inside a link ends the outer one. -/
def closeOpenLink : Drafting Unit := do
  let d ← get
  let isLink (f : Formatting) : Bool := match f with
    | .element _ e => e.name == "a"
    | .marker => false
  match (d.formatting.takeWhile (· ≠ .marker)).find? isLink with
  | some (.element i _) =>
    closeFormatting "a"
    dropFormatting i
    modify fun d => { d with opened := d.opened.filter (· ≠ i) }
  | _ => return

/-- Content that stands in a text. -/
def startInline (name : String) (attributes : List (String × String)) : Drafting Unit := do
  reopenFormatting
  start name attributes

/-- Frames take the place of a body that has nothing in it that counts. -/
def replaceBody (attributes : List (String × String)) : Drafting Unit := do
  let d ← get
  match d.opened.reverse with
  | root :: body :: _ =>
    if d.framesAllowed ∧ d.nameAt body = "body" then
      set { d.detach body with opened := [root] }
      start "frameset" attributes
      goTo .inFrames
  | _ => return

/-- Opens the outermost element of graphics or formulas. -/
def startEmbedding (v : Vocabulary) (tag : Tag) : Drafting Unit := do
  reopenFormatting
  let e := Element.embedded v tag.name tag.attributes
  if tag.closed then discard (insertElement e) else discard (openElement e)

/-- Whether an input is a hidden one. -/
def isHiddenInput (name : String) (attributes : List (String × String)) : Bool :=
  name == "input" && (attributes.lookup "type").any (Text.sameUpToCase · "hidden")

/-- A start tag in a body. -/
def startInBody (tag : Tag) : Drafting Unit := do
  let d ← get
  let name := tag.name
  let attributes := tag.attributes
  if name = "html" then repeatedRoot attributes
  else if headElements.contains name then startHeadElement name attributes
  else if name = "body" then
    match d.opened.reverse with
    | _ :: body :: _ =>
      if d.nameAt body = "body" ∧ ! d.isOpen "template" then
        forbidFrames
        addAttributes body attributes
    | _ => return
  else if name = "frameset" then replaceBody attributes
  else if strayInBody.contains name then return
  else if blocks.contains name then
    closeOpenParagraph
    start name attributes
  else if headings.contains name then
    closeOpenParagraph
    if headings.contains (← get).currentName then close
    start name attributes
  else if name = "pre" ∨ name = "listing" then
    closeOpenParagraph
    start name attributes
    forbidFrames
    modify fun d => { d with dropsLineFeed := true }
  else if name = "form" then
    if d.form?.isNone ∨ d.isOpen "template" then
      closeOpenParagraph
      let i ← openElement { name, attributes }
      if ! d.isOpen "template" then modify fun d => { d with form? := some i }
  else if name = "li" then
    forbidFrames
    closeItem ["li"]
    closeOpenParagraph
    start name attributes
  else if name = "dd" ∨ name = "dt" then
    forbidFrames
    closeItem ["dd", "dt"]
    closeOpenParagraph
    start name attributes
  else if name = "plaintext" then
    closeOpenParagraph
    start name attributes
    modify fun d => { d with mode := .plain }
  else if name = "button" then
    if d.inScope ["button"] then
      closeImplied ""
      closeUntil ["button"]
    startInline name attributes
    forbidFrames
  else if name = "a" then
    closeOpenLink
    startFormatting name attributes
  else if formattingElements.contains name then startFormatting name attributes
  else if name = "nobr" then
    reopenFormatting
    if (← get).inScope ["nobr"] then closeFormatting "nobr"
    startFormatting name attributes
  else if containers.contains name then
    startInline name attributes
    pushMarker
    forbidFrames
  else if name = "table" then
    -- an old page keeps its tables inside paragraphs
    if ! d.isOld then closeOpenParagraph
    start name attributes
    forbidFrames
    goTo .inTable
  else if inlineVoids.contains name then
    reopenFormatting
    startVoid name attributes
    if ! isHiddenInput name attributes then forbidFrames
  else if plainVoids.contains name then startVoid name attributes
  else if name = "hr" then
    closeOpenParagraph
    startVoid name attributes
    forbidFrames
  else if name = "image" then
    reopenFormatting
    startVoid "img" attributes
    forbidFrames
  else if name = "textarea" then
    startText name attributes (.referring name)
    forbidFrames
    modify fun d => { d with dropsLineFeed := true }
  else if name = "xmp" then
    closeOpenParagraph
    reopenFormatting
    forbidFrames
    startText name attributes (.raw name)
  else if name = "iframe" then
    forbidFrames
    startText name attributes (.raw name)
  else if name = "noembed" ∨ name = "noscript" then startText name attributes (.raw name)
  else if name = "select" then
    startInline name attributes
    forbidFrames
    let inTable := [Stage.inTable, .inCaption, .inTableBody, .inRow, .inCell].contains d.stage
    goTo (if inTable then .inSelectInTable else .inSelect)
  else if name = "optgroup" ∨ name = "option" then
    if d.currentName = "option" then close
    startInline name attributes
  else if name = "rb" ∨ name = "rtc" then
    if d.inScope ["ruby"] then closeImplied ""
    start name attributes
  else if name = "rp" ∨ name = "rt" then
    if d.inScope ["ruby"] then closeImplied "rtc"
    start name attributes
  else if name = "math" then startEmbedding .formulas tag
  else if name = "svg" then startEmbedding .graphics tag
  else startInline name attributes

/-- Closes the element of a name with what is open in it, if it is in scope. -/
def endBlock (names : List String) (except : String) : Drafting Unit := do
  if (← get).inScope names then
    closeImplied except
    closeUntil names

/-- The end tag of a form. -/
def endForm : Drafting Unit := do
  let d ← get
  if d.isOpen "template" then endBlock ["form"] ""
  else
    set { d with form? := none }
    match d.form? with
    | none => return
    | some form =>
      if d.hasInScope form then
        closeImplied ""
        modify fun d => { d with opened := d.opened.filter (· ≠ form) }

/-- An end tag in a body. -/
def endInBody (name : String) : Drafting Unit := do
  let d ← get
  if name = "template" then endTemplate
  else if name = "body" then
    if d.inScope ["body"] then goTo .afterBody
  else if name = "p" then
    if ! d.inButtonScope ["p"] then start "p" []
    closeParagraph
  else if blocks.contains name ∨ ["button", "listing", "pre"].contains name then endBlock [name] ""
  else if name = "form" then endForm
  else if name = "li" then
    if d.inListScope ["li"] then
      closeImplied "li"
      closeUntil ["li"]
  else if name = "dd" ∨ name = "dt" then endBlock [name] name
  else if headings.contains name then endBlock headings ""
  else if name = "a" ∨ name = "nobr" ∨ formattingElements.contains name then closeFormatting name
  else if containers.contains name then
    if d.inScope [name] then
      closeImplied ""
      closeUntil [name]
      dropToMarker
  else if name = "br" then
    reopenFormatting
    startVoid "br" []
    forbidFrames
  else closeNamed name

/-- The end of a page that is inside a template. -/
def finishTemplate : Drafting (Option Token) := do
  if (← get).isOpen "template" then
    leaveTemplate
    return some .finish
  else done

/-- The body. -/
def inBody : Rule
  | .text cs => after do
    let shown := cs.filter (· ≠ '\x00')
    if ! shown.isEmpty then
      reopenFormatting
      if ! shown.all Text.isMarkupSpace then forbidFrames
      insertText shown
  | .comment s => after (insertComment s)
  | .doctype _ => done
  | .startTag tag => after (startInBody tag)
  | .endTag "html" => do
    if (← get).inScope ["body"] then next .afterBody (.endTag "html") else done
  | .endTag name => after (endInBody name)
  | .finish => do
    if (← get).templates.isEmpty then done else finishTemplate

/-- The text of an element that holds only text. -/
def inText : Rule
  | .text cs => after (insertText cs)
  | .finish => do
    leave
    return some .finish
  | _ => after leave
where
  /-- The element ends. -/
  leave : Drafting Unit := do
    close
    modify fun d => { d with stage := d.resume, mode := .markup }

/-! ## Tables -/

/-- Closes elements up to one of some elements, which stays open. -/
def closeBackTo (names : List String) : Drafting Unit :=
  closeWhile fun n => ! (names ++ ["html", "template"]).contains n

/-- Content that a table cannot hold. -/
def misplacedInTable (t : Token) : Drafting (Option Token) := do
  modify fun d => { d with fostering := true }
  let left ← inBody t
  modify fun d => { d with fostering := false }
  return left

/-- The parts of a table that group its rows. -/
def rowGroups : List String := ["tbody", "tfoot", "thead"]

/-- The cells of a table. -/
def cells : List String := ["td", "th"]

/-- Tags of which one ends what stands in a table. -/
def tableParting : List String :=
  ["caption", "col", "colgroup", "tbody", "td", "tfoot", "th", "thead", "tr"]

/-- The end tag of a table. -/
def endTable : Drafting Unit := do
  if (← get).inTableScope ["table"] then
    closeUntil ["table"]
    resetStage

/-- Text between the parts of a table: all of it that comes before the next tag or comment. White
space stays in the table, any other text goes in front of it. -/
def inTableText : Rule
  | .text cs => after do
    modify fun d => { d with tableText := d.tableText ++ cs.filter (· ≠ '\x00') }
  | .doctype _ => done
  | t => do
    let cs := (← get).tableText
    modify fun d => { d with tableText := [], stage := d.resume }
    if cs.all Text.isMarkupSpace then insertText cs
    else discard (misplacedInTable (.text cs))
    return some t

/-- A table. -/
def inTable : Rule
  | .text cs => do
    let d ← get
    if ("template" :: tableParts).contains d.currentName then
      set { d with resume := d.stage }
      next .inTableText (.text cs)
    else misplacedInTable (.text cs)
  | .comment s => after (insertComment s)
  | .doctype _ => done
  | t@(.startTag ⟨name, attributes, _⟩) => do
    let d ← get
    if name = "caption" then after do
      closeBackTo ["table"]
      pushMarker
      start name attributes
      goTo .inCaption
    else if name = "colgroup" then after do
      closeBackTo ["table"]
      start name attributes
      goTo .inColumnGroup
    else if name = "col" then
      closeBackTo ["table"]
      start "colgroup" []
      next .inColumnGroup t
    else if rowGroups.contains name then after do
      closeBackTo ["table"]
      start name attributes
      goTo .inTableBody
    else if cells.contains name ∨ name = "tr" then
      closeBackTo ["table"]
      start "tbody" []
      next .inTableBody t
    else if name = "table" then
      if d.inTableScope ["table"] then
        endTable
        return some t
      else done
    else if ["style", "script", "template"].contains name then
      after (startHeadElement name attributes)
    else if isHiddenInput name attributes then after (startVoid name attributes)
    else if name = "form" then after do
      if ! d.isOpen "template" ∧ d.form?.isNone then
        let i ← insertElement { name, attributes }
        modify fun d => { d with form? := some i }
    else misplacedInTable t
  | .endTag name =>
    if name = "table" then after endTable
    else if name = "template" then after endTemplate
    else if (["body", "html"] ++ tableParting).contains name then done
    else misplacedInTable (.endTag name)
  | .finish => inBody .finish

/-- Closes a caption; whether there was one. -/
def closeCaption : Drafting Bool := do
  if (← get).inTableScope ["caption"] then
    closeImplied ""
    closeUntil ["caption"]
    dropToMarker
    goTo .inTable
    return true
  else return false

/-- A caption. -/
def inCaption : Rule
  | .endTag "caption" => after (discard closeCaption)
  | .endTag "table" => do if ← closeCaption then return some (.endTag "table") else done
  | t@(.startTag ⟨name, _, _⟩) =>
    if tableParting.contains name then do
      if ← closeCaption then return some t else done
    else inBody t
  | .endTag name =>
    if (["body", "html"] ++ tableParting).contains name then done else inBody (.endTag name)
  | t => inBody t

/-- A group of columns. -/
def inColumnGroup : Rule
  | .text cs => textAfterBlank insertText leave cs
  | .comment s => after (insertComment s)
  | .doctype _ => done
  | .startTag ⟨"html", attributes, _⟩ => after (repeatedRoot attributes)
  | .startTag ⟨"col", attributes, _⟩ => after (startVoid "col" attributes)
  | .startTag ⟨"template", attributes, _⟩ => after (startHeadElement "template" attributes)
  | .endTag "template" => after endTemplate
  | .endTag "col" => done
  | .endTag "colgroup" => do
    if (← get).currentName = "colgroup" then
      close
      goTo .inTable
    done
  | .finish => inBody .finish
  | t => leave t
where
  /-- The group ends; where there is none, only white space counts. -/
  leave (t : Token) : Drafting (Option Token) := do
    if (← get).currentName = "colgroup" then
      close
      next .inTable t
    else
      match t with
      | .text cs => after (insertText (cs.filter Text.isMarkupSpace))
      | _ => done

/-- Closes a group of rows. -/
def closeRowGroup : Drafting Unit := do
  closeBackTo rowGroups
  close
  goTo .inTable

/-- A group of rows. -/
def inTableBody : Rule
  | t@(.startTag ⟨name, attributes, _⟩) => do
    if name = "tr" then after do
      closeBackTo rowGroups
      start name attributes
      goTo .inRow
    else if cells.contains name then
      closeBackTo rowGroups
      start "tr" []
      next .inRow t
    else if tableParting.contains name then leave t
    else inTable t
  | .endTag name => do
    if rowGroups.contains name then after do
      if (← get).inTableScope [name] then closeRowGroup
    else if name = "table" then leave (.endTag name)
    else if (["body", "html"] ++ tableParting).contains name then done
    else inTable (.endTag name)
  | t => inTable t
where
  /-- The group ends. A template does not close its head rows this way. -/
  leave (t : Token) : Drafting (Option Token) := do
    if (← get).inTableScope ["table", "tbody", "tfoot"] then
      closeRowGroup
      return some t
    else done

/-- Closes a row. -/
def closeRow : Drafting Unit := do
  closeBackTo ["tr"]
  close
  goTo .inTableBody

/-- A row. -/
def inRow : Rule
  | t@(.startTag ⟨name, attributes, _⟩) =>
    if cells.contains name then after do
      closeBackTo ["tr"]
      start name attributes
      goTo .inCell
      pushMarker
    else if tableParting.contains name then leave t
    else inTable t
  | .endTag name => do
    if name = "tr" then after do
      if (← get).inTableScope ["tr"] then closeRow
    else if name = "table" then leave (.endTag name)
    else if rowGroups.contains name then
      if (← get).inTableScope [name] then leave (.endTag name) else done
    else if (["body", "html"] ++ tableParting).contains name then done
    else inTable (.endTag name)
  | t => inTable t
where
  /-- The row ends. -/
  leave (t : Token) : Drafting (Option Token) := do
    if (← get).inTableScope ["tr"] then
      closeRow
      return some t
    else done

/-- Closes a cell. -/
def closeCell : Drafting Unit := do
  closeImplied ""
  closeUntil cells
  dropToMarker
  goTo .inRow

/-- A cell. -/
def inCell : Rule
  | t@(.startTag ⟨name, _, _⟩) => do
    if tableParting.contains name then
      if (← get).inTableScope cells then
        closeCell
        return some t
      else done
    else inBody t
  | .endTag name => do
    if cells.contains name then after do
      if (← get).inTableScope [name] then
        closeImplied ""
        closeUntil [name]
        dropToMarker
        goTo .inRow
    else if ["table", "tr"].contains name ∨ rowGroups.contains name then
      if (← get).inTableScope [name] then
        closeCell
        return some (.endTag name)
      else done
    else if ["body", "caption", "col", "colgroup", "html"].contains name then done
    else inBody (.endTag name)
  | t => inBody t

/-! ## Selections and templates -/

/-- Closes a selection. -/
def closeSelect : Drafting Unit := do
  closeUntil ["select"]
  resetStage

/-- Closes an option, and a group of options if the option ends it. -/
def closeOption (group : Bool) : Drafting Unit := do
  if (← get).currentName = "option" then close
  if group ∧ (← get).currentName = "optgroup" then close

/-- A selection. -/
def inSelect : Rule
  | .text cs => after (insertText (cs.filter (· ≠ '\x00')))
  | .comment s => after (insertComment s)
  | .doctype _ => done
  | t@(.startTag ⟨name, attributes, _⟩) => do
    if name = "html" then after (repeatedRoot attributes)
    else if name = "option" then after do
      closeOption false
      start name attributes
    else if name = "optgroup" then after do
      closeOption true
      start name attributes
    else if name = "hr" then after do
      closeOption true
      startVoid name attributes
    else if name = "select" then after do
      if (← get).inSelectScope ["select"] then closeSelect
    else if ["input", "keygen", "textarea"].contains name then
      if (← get).inSelectScope ["select"] then
        closeSelect
        return some t
      else done
    else if name = "script" ∨ name = "template" then after (startHeadElement name attributes)
    else done
  | .endTag name => after do
    let d ← get
    if name = "optgroup" then
      match d.openNames with
      | "option" :: "optgroup" :: _ => closeOption true
      | "optgroup" :: _ => close
      | _ => return
    else if name = "option" then closeOption false
    else if name = "select" then
      if d.inSelectScope ["select"] then closeSelect
    else if name = "template" then endTemplate
  | .finish => inBody .finish

/-- Whether a tag of a table ends a selection that stands in one. -/
def endsSelect (name : String) : Bool :=
  ["caption", "table", "tr"].contains name || rowGroups.contains name || cells.contains name

/-- A selection inside a table. -/
def inSelectInTable : Rule
  | t@(.startTag ⟨name, _, _⟩) =>
    if endsSelect name then do
      closeSelect
      return some t
    else inSelect t
  | .endTag name => do
    if endsSelect name then
      if (← get).inTableScope [name] then
        closeSelect
        return some (.endTag name)
      else done
    else inSelect (.endTag name)
  | t => inSelect t

/-- A template. -/
def inTemplate : Rule
  | t@(.startTag ⟨name, attributes, _⟩) =>
    if headElements.contains name then after (startHeadElement name attributes)
    else if ["caption", "colgroup"].contains name ∨ rowGroups.contains name then
      switch .inTable t
    else if name = "col" then switch .inColumnGroup t
    else if name = "tr" then switch .inTableBody t
    else if cells.contains name then switch .inRow t
    else switch .inBody t
  | .endTag "template" => after endTemplate
  | .endTag _ => done
  | .finish => finishTemplate
  | t => inBody t
where
  /-- The template goes on as something else. -/
  switch (stage : Stage) (t : Token) : Drafting (Option Token) := do
    modify fun d => { d with stage, templates := stage :: d.templates.tail }
    return some t

/-! ## After the body -/

/-- The stage after the body. -/
def afterBody : Rule
  | .text cs => textAfterBlank (fun s => discard (inBody (.text s))) (next .inBody) cs
  | .comment s => after do insertUnder (← get).outermost (.comment s)
  | .doctype _ => done
  | .startTag ⟨"html", attributes, _⟩ => after (repeatedRoot attributes)
  | .endTag "html" => do
    if ! (← get).isFragment then goTo .afterAll
    done
  | .finish => done
  | t => next .inBody t

/-- The stage after the outermost element. -/
def afterAll : Rule
  | .text cs => textAfterBlank (fun s => discard (inBody (.text s))) (next .inBody) cs
  | .comment s => after (insertUnder 0 (.comment s))
  | .doctype _ => done
  | .startTag ⟨"html", attributes, _⟩ => after (repeatedRoot attributes)
  | .finish => done
  | t => next .inBody t

/-! ## Frames -/

/-- Frames, of whose text only white space counts. -/
def inFrames : Rule
  | .text cs => after (insertText (cs.filter Text.isMarkupSpace))
  | .comment s => after (insertComment s)
  | .startTag ⟨"html", attributes, _⟩ => after (repeatedRoot attributes)
  | .startTag ⟨"frameset", attributes, _⟩ => after (start "frameset" attributes)
  | .startTag ⟨"frame", attributes, _⟩ => after (startVoid "frame" attributes)
  | .startTag ⟨"noframes", attributes, _⟩ => after (startHeadElement "noframes" attributes)
  | .endTag "frameset" => after do
    if 1 < (← get).opened.length then
      close
      if (← get).currentName ≠ "frameset" then goTo .afterFrames
  | _ => done

/-- The stage after the outermost frames. -/
def afterFrames : Rule
  | .text cs => after (insertText (cs.filter Text.isMarkupSpace))
  | .comment s => after (insertComment s)
  | .startTag ⟨"html", attributes, _⟩ => after (repeatedRoot attributes)
  | .startTag ⟨"noframes", attributes, _⟩ => after (startHeadElement "noframes" attributes)
  | .endTag "html" => after (goTo .afterAllFrames)
  | _ => done

/-- The stage after the outermost element of a page with frames. -/
def afterAllFrames : Rule
  | .text cs => inBody (.text (cs.filter Text.isMarkupSpace))
  | .comment s => after (insertUnder 0 (.comment s))
  | .startTag ⟨"html", attributes, _⟩ => after (repeatedRoot attributes)
  | .startTag ⟨"noframes", attributes, _⟩ => after (startHeadElement "noframes" attributes)
  | _ => done

/-- The rule of a stage. -/
def Stage.rule : Stage → Rule
  | .initial => Markup.initial
  | .beforeHtml => Markup.beforeHtml
  | .beforeHead => Markup.beforeHead
  | .inHead => Markup.inHead
  | .afterHead => Markup.afterHead
  | .inBody => Markup.inBody
  | .inText => Markup.inText
  | .inTable => Markup.inTable
  | .inTableText => Markup.inTableText
  | .inCaption => Markup.inCaption
  | .inColumnGroup => Markup.inColumnGroup
  | .inTableBody => Markup.inTableBody
  | .inRow => Markup.inRow
  | .inCell => Markup.inCell
  | .inSelect => Markup.inSelect
  | .inSelectInTable => Markup.inSelectInTable
  | .inTemplate => Markup.inTemplate
  | .afterBody => Markup.afterBody
  | .inFrames => Markup.inFrames
  | .afterFrames => Markup.afterFrames
  | .afterAll => Markup.afterAll
  | .afterAllFrames => Markup.afterAllFrames

end Markup
end ConsentWalker
