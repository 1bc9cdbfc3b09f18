import ConsentWalker.Page.Tree
import ConsentWalker.Text.Blank
/-!
# Page — styles

The style an element has: what its own `style` attribute declares, and otherwise a default for its
kind. **Of several declarations of one property the last counts**; a piece of the attribute without
a colon declares nothing.
-/

namespace ConsentWalker
namespace Style

/-- Elements that generate no box. -/
def boxless : List String :=
  ["head", "script", "style", "template", "noscript", "meta", "link", "title", "base"]

/-- Elements that stand in a line of text. -/
def inline : List String :=
  ["a", "abbr", "b", "bdi", "bdo", "br", "button", "cite", "code", "em", "i", "img", "input", "kbd",
   "label", "mark", "q", "s", "samp", "select", "small", "span", "strong", "sub", "sup", "textarea",
   "time", "u", "var"]

/-- The dashed form of a property name: `backgroundColor` becomes `background-color`. -/
def kebab (property : String) : String :=
  String.ofList (property.toList.flatMap fun c => if c.isUpper then ['-', c.toLower] else [c])

/-- Drops a start from a text as often as it is there, at most so many times. -/
def dropFronts (start : List Char) : Nat → List Char → List Char
  | 0, cs => cs
  | fuel + 1, cs =>
    if start.isPrefixOf cs then dropFronts start fuel (cs.drop start.length) else cs

/-- What marks a declaration as important. -/
def importantMark : List Char := "!important".toList

/-- A declared value as it counts: without blanks around it and without marks of importance at its
end. -/
def cleaned (value : List Char) : List Char :=
  let trimmed := Text.trimList value
  Text.trimList (dropFronts importantMark.reverse trimmed.length trimmed.reverse).reverse

/-- The name and the value of a declaration; `none` if there is no colon. -/
def splitDeclaration? (declaration : List Char) : Option (List Char × List Char) :=
  match declaration.dropWhile (· ≠ ':') with
  | [] => none
  | _ :: value => some (declaration.takeWhile (· ≠ ':'), value)

/-- The value a declaration gives to a property, if it is about that one. -/
def declares? (property : String) (declaration : List Char) : Option String :=
  match splitDeclaration? declaration with
  | none => none
  | some (name, value) =>
    if Text.sameUpToCase (String.ofList (Text.trimList name)) property then
      some (String.ofList (cleaned value))
    else none

/-- What a style text declares for a property. -/
def declared? (style property : String) : Option String :=
  (Text.splitAtAll (· == ';') style.toList).reverse.findSome? (declares? property)

/-- The style of an element that declares none. -/
def initial (e : Element) (property : String) : String :=
  match property with
  | "display" =>
    if e.hasAttribute "hidden" || boxless.contains e.name then "none"
    else if inline.contains e.name then "inline"
    else "block"
  | "visibility" => "visible"
  | "opacity" => "1"
  | "position" => "static"
  | _ => ""

end Style

namespace Element

/-- **The style of an element**, whichever way the property is spelled. -/
def style (e : Element) (property : String) : String :=
  let property := Style.kebab property
  match (e.attribute? "style").bind fun text => Style.declared? text property with
  | some value => value
  | none => Style.initial e property

/-- The kind of an input, for elements that are one. -/
def inputKind? (e : Element) : Option String :=
  if e.name = "input" then some (Text.asciiLower ((e.attribute? "type").getD "text")) else none

/-- Whether an element generates a box of its own, whatever stands above it. -/
def renders (e : Element) : Bool :=
  e.inputKind? != some "hidden" && e.style "display" != "none"

/-- Whether an element is a checkbox or a radio button. -/
def isControl (e : Element) : Bool :=
  e.inputKind? == some "checkbox" || e.inputKind? == some "radio"

end Element
end ConsentWalker
