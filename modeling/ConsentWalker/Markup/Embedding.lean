import ConsentWalker.Markup.Construction
/-!
# Markup — graphics and formulas in a page

What a token does while an element of graphics or formulas is open. Most tags stay in the vocabulary
they are found in; some belong to markup so clearly that they end what is embedded. Where an
embedded element holds markup or text of its own, the stages of the page deal with it again.

`Draft.embeds` tells which tokens are dealt with here, and `embedded` is the rule.
-/

namespace ConsentWalker
namespace Markup

open Draft

/-- Start tags that end what is embedded. -/
def breakingTags : List String :=
  ["b", "big", "blockquote", "body", "br", "center", "code", "dd", "div", "dl", "dt", "em", "embed",
   "h1", "h2", "h3", "h4", "h5", "h6", "head", "hr", "i", "img", "li", "listing", "menu", "meta",
   "nobr", "ol", "p", "pre", "ruby", "s", "small", "span", "strike", "strong", "sub", "sup",
   "table", "tt", "u", "ul", "var"]

/-- Whether a start tag ends what is embedded. A font does where it says how it looks. -/
def Tag.breaksOut (t : Tag) : Bool :=
  breakingTags.contains t.name ||
    (t.name == "font" && ["color", "face", "size"].any fun a => (t.attributes.lookup a).isSome)

/-- **Whether a token is dealt with as embedded.** -/
def Draft.embeds (d : Draft) (t : Token) : Bool :=
  match d.current? with
  | none => false
  | some e =>
    if e.isMarkup then false
    else
      match t with
      | .finish => false
      | .text _ => ! (e.holdsMarkup || e.holdsFormulaText)
      | .startTag tag =>
        if e.holdsFormulaText then ["malignmark", "mglyph"].contains tag.name
        else if e.holdsMarkup then false
        else ! (e.vocabulary == .formulas && e.name == "annotation-xml" && tag.name == "svg")
      | _ => true

/-- Closes embedded elements up to one that markup may stand in. -/
def leaveEmbedding : Drafting Unit :=
  modify fun d =>
    let holds (e : Element) : Bool := e.isMarkup || e.holdsMarkup || e.holdsFormulaText
    { d with opened := d.opened.dropWhile fun i => ! (d.element? i).any holds }

/-- Makes an element of the vocabulary that is read. -/
def startEmbedded (tag : Tag) : Drafting Unit := do
  match (← get).current? with
  | none => return
  | some e =>
    let made := Element.embedded e.vocabulary tag.name tag.attributes
    if tag.closed then discard (insertElement made) else discard (openElement made)

/-- An end tag closes the nearest embedded element of its name, whatever the case of its letters.
From the first markup element on, `rule` decides. -/
def endEmbedded (rule : Rule) (name : String) : Drafting (Option Token) := do
  let d ← get
  let isMarkupAt (i : Nat) : Bool := (d.element? i).any Element.isMarkup
  let hasName (i : Nat) : Bool := (d.element? i).any fun e => Text.asciiLower e.name == name
  match d.opened.dropLast.find? fun i => isMarkupAt i || hasName i with
  | none => done
  | some i =>
    if isMarkupAt i then rule (.endTag name)
    else after (set { d with opened := (d.opened.dropWhile (· ≠ i)).drop 1 })

/-- The rule for embedded content; `rule` is the one of the stage. -/
def embedded (rule : Rule) : Rule
  | .text cs => after do
    if cs.any fun c => c ≠ '\x00' && ! Text.isMarkupSpace c then forbidFrames
    insertText (cs.map Text.shownNull)
  | .comment s => after (insertComment s)
  | t@(.startTag tag) => do
    if tag.breaksOut then
      leaveEmbedding
      rule t
    else after (startEmbedded tag)
  | .endTag name => do
    if name = "br" ∨ name = "p" then
      leaveEmbedding
      rule (.endTag name)
    else endEmbedded rule name
  | .doctype _ => done
  | .finish => rule .finish

end Markup
end ConsentWalker
