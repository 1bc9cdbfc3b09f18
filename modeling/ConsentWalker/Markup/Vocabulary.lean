import ConsentWalker.Page.Tree
import ConsentWalker.Text.Blank
/-!
# Markup — the names of graphics and formulas

Graphics and formulas stand inside a page with names of their own. A page is read in lower case, so
the capitals of these names have to be restored: `Element.embedded` makes an element of a vocabulary
from a tag as it was read. Some elements in them hold markup or text again; `Element.holdsMarkup`
and `Element.holdsFormulaText` tell which.
-/

namespace ConsentWalker
namespace Markup

/-- Elements of graphics whose names have capitals. -/
def graphicsElements : List String :=
  ["altGlyph", "altGlyphDef", "altGlyphItem", "animateColor", "animateMotion", "animateTransform",
   "clipPath", "feBlend", "feColorMatrix", "feComponentTransfer", "feComposite",
   "feConvolveMatrix", "feDiffuseLighting", "feDisplacementMap", "feDistantLight", "feDropShadow",
   "feFlood", "feFuncA", "feFuncB", "feFuncG", "feFuncR", "feGaussianBlur", "feImage", "feMerge",
   "feMergeNode", "feMorphology", "feOffset", "fePointLight", "feSpecularLighting", "feSpotLight",
   "feTile", "feTurbulence", "foreignObject", "glyphRef", "linearGradient", "radialGradient",
   "textPath"]

/-- Attributes of graphics whose names have capitals. -/
def graphicsAttributes : List String :=
  ["attributeName", "attributeType", "baseFrequency", "baseProfile", "calcMode", "clipPathUnits",
   "diffuseConstant", "edgeMode", "filterUnits", "glyphRef", "gradientTransform", "gradientUnits",
   "kernelMatrix", "kernelUnitLength", "keyPoints", "keySplines", "keyTimes", "lengthAdjust",
   "limitingConeAngle", "markerHeight", "markerUnits", "markerWidth", "maskContentUnits",
   "maskUnits", "numOctaves", "pathLength", "patternContentUnits", "patternTransform",
   "patternUnits", "pointsAtX", "pointsAtY", "pointsAtZ", "preserveAlpha", "preserveAspectRatio",
   "primitiveUnits", "refX", "refY", "repeatCount", "repeatDur", "requiredExtensions",
   "requiredFeatures", "specularConstant", "specularExponent", "spreadMethod", "startOffset",
   "stdDeviation", "stitchTiles", "surfaceScale", "systemLanguage", "tableValues", "targetX",
   "targetY", "textLength", "viewBox", "viewTarget", "xChannelSelector", "yChannelSelector",
   "zoomAndPan"]

/-- Attributes of formulas whose names have capitals. -/
def formulaAttributes : List String := ["definitionURL"]

/-- Attributes that stand in a space apart, each with the last part of its name. -/
def attributesApart : List (String × String) :=
  [("xlink:actuate", "actuate"), ("xlink:arcrole", "arcrole"), ("xlink:href", "href"),
   ("xlink:role", "role"), ("xlink:show", "show"), ("xlink:title", "title"),
   ("xlink:type", "type"), ("xml:base", "base"), ("xml:lang", "lang"), ("xml:space", "space"),
   ("xmlns", "xmlns"), ("xmlns:xlink", "xlink")]

/-- A name with the capitals it has in a list of names. -/
def withCapitals (names : List String) (name : String) : String :=
  (names.find? fun n => Text.asciiLower n == name).getD name

/-- The names of attributes that have capitals in a vocabulary. -/
def capitalAttributes : Vocabulary → List String
  | .markup => []
  | .graphics => graphicsAttributes
  | .formulas => formulaAttributes

end Markup

namespace Element

/-- **The element of a vocabulary** that a tag stands for, by its name and attributes as they were
read. -/
def embedded (v : Vocabulary) (name : String) (attributes : List (String × String)) : Element :=
  let own := attributes.filter fun a => (Markup.attributesApart.lookup a.1).isNone
  { name := if v = .graphics then Markup.withCapitals Markup.graphicsElements name else name
    attributes := own.map fun a => (Markup.withCapitals (Markup.capitalAttributes v) a.1, a.2)
    vocabulary := v
    apart := attributes.filterMap fun a =>
      (Markup.attributesApart.lookup a.1).map fun last => (last, a.2) }

/-- Whether an element of graphics holds markup. -/
def holdsMarkup (e : Element) : Bool :=
  e.vocabulary == .graphics && ["foreignObject", "desc", "title"].contains e.name

/-- Whether an element of formulas holds text. -/
def holdsFormulaText (e : Element) : Bool :=
  e.vocabulary == .formulas && ["mi", "mo", "mn", "ms", "mtext"].contains e.name

end Element
end ConsentWalker
