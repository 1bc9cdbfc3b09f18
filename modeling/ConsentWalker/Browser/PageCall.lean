import ConsentWalker.Json.Printer
import ConsentWalker.Text.Blank
/-!
# Browser — page calls as text

A function text and its arguments become one expression that calls the function at once. Arguments
are written as compact JSON, so no argument can end the call or run into its neighbour.

The functions of a page are kept by the names of what they answer. Each takes the handle of an
element first and throws the stale marker when the element is gone.
-/

namespace ConsentWalker
namespace Browser

/-- The expression that calls a function text with these arguments. -/
def callText (function : String) (args : List Json) : String :=
  "(" ++ Text.trim function ++ ")(" ++ ", ".intercalate (args.map Json.compact) ++ ")"

/-- The functions a page can be asked for. -/
inductive PageFunction where
  | query | text | style | rect | nested | checked | scrollIntoView | focus | closeWindow
  deriving DecidableEq, Repr

namespace PageFunction

/-- All functions, in their order. -/
def all : List PageFunction :=
  [.query, .text, .style, .rect, .nested, .checked, .scrollIntoView, .focus, .closeWindow]

/-- The name of a function. -/
def name : PageFunction → String
  | .query => "QUERY"
  | .text => "TEXT"
  | .style => "STYLE"
  | .rect => "RECT"
  | .nested => "NESTED"
  | .checked => "CHECKED"
  | .scrollIntoView => "SCROLL_INTO_VIEW"
  | .focus => "FOCUS"
  | .closeWindow => "CLOSE_WINDOW"

/-- The function of that name. -/
def ofName? (s : String) : Option PageFunction := all.find? (·.name == s)

/-- The text of a function. -/
def source : PageFunction → String
  | .query =>
    "\n(scope, selector) => \x7b\n" ++
    "    const rt = window.__cmpilot;\n" ++
    "    const root = scope === null ? document : rt.element(scope);\n" ++
    "    let found;\n" ++
    "    try \x7b\n" ++
    "        found = root.querySelectorAll(selector);\n" ++
    "    \x7d catch (e) \x7b\n" ++
    "        return \x7b handles: [], invalid: String(e && e.message || e) \x7d;\n" ++
    "    \x7d\n" ++
    "    return \x7b handles: Array.from(found, rt.handle), invalid: null \x7d;\n" ++
    "\x7d\n"
  | .text =>
    "\n(id) => window.__cmpilot.element(id).textContent || ''\n"
  | .style =>
    "\n(id, property) => \x7b\n" ++
    "    const style = window.getComputedStyle(window.__cmpilot.element(id));\n" ++
    "    return style.getPropertyValue(property) || style[property] || '';\n" ++
    "\x7d\n"
  | .rect =>
    "\n(id) => \x7b\n" ++
    "    const r = window.__cmpilot.element(id).getBoundingClientRect();\n" ++
    "    return \x7b x: r.x, y: r.y, width: r.width, height: r.height \x7d;\n" ++
    "\x7d\n"
  | .nested =>
    "\n(id) => \x7b\n" ++
    "    window.__cmpilot.element(id);\n" ++
    "    return window.top !== window.self;\n" ++
    "\x7d\n"
  | .checked =>
    "\n(id) => !!window.__cmpilot.element(id).checked\n"
  | .scrollIntoView =>
    "\n(id) => \x7b\n" ++
    "    window.__cmpilot.element(id).scrollIntoView(\x7b block: 'center' \x7d);\n" ++
    "    return true;\n" ++
    "\x7d\n"
  | .focus =>
    "\n(id) => \x7b\n" ++
    "    window.__cmpilot.element(id).focus();\n" ++
    "    return true;\n" ++
    "\x7d\n"
  | .closeWindow =>
    "\n() => \x7b window.close(); return true; \x7d\n"

end PageFunction
end Browser
end ConsentWalker
