import ConsentWalker.Json.Shape
/-!
# Page — points, rectangles and handles

The client-space geometry an element reports, the phases of a pointer gesture, and the handles by
which elements are named. Coordinates are doubles, and sums are rounded.
-/

namespace ConsentWalker

open Decimal (Binary)

/-- A point in client space. -/
structure Point where
  x : Binary := .zero
  y : Binary := .zero
  deriving DecidableEq, Repr, Inhabited

namespace Point

/-- The point at a distance. -/
def offset (p : Point) (dx dy : Binary) : Point := ⟨p.x + dx, p.y + dy⟩

/-- A point as an object. -/
def toJson (p : Point) : Json := .object [("x", .real p.x), ("y", .real p.y)]

/-- Reads a point. -/
def read : Json.Reader Point :=
  Json.readRecord "Point"
    [{ name := "x", absence := .required,
       read := fun v p => do return { p with x := ← Json.readReal v } },
     { name := "y", absence := .required,
       read := fun v p => do return { p with y := ← Json.readReal v } }]
    {}

end Point

/-- A bounding rectangle in client space. -/
structure Rect where
  x : Binary := .zero
  y : Binary := .zero
  width : Binary := .zero
  height : Binary := .zero
  deriving DecidableEq, Repr, Inhabited

namespace Rect

/-- The middle of a rectangle. -/
def center (r : Rect) : Point := ⟨r.x + r.width.half, r.y + r.height.half⟩

/-- Whether a rectangle has a height. -/
def isTall (r : Rect) : Bool := ! r.height.isZero

/-- A rectangle as an object. -/
def toJson (r : Rect) : Json :=
  .object [("x", .real r.x), ("y", .real r.y), ("width", .real r.width), ("height", .real r.height)]

/-- Reads a rectangle. -/
def read : Json.Reader Rect :=
  Json.readRecord "Rect"
    [{ name := "x", absence := .required,
       read := fun v r => do return { r with x := ← Json.readReal v } },
     { name := "y", absence := .required,
       read := fun v r => do return { r with y := ← Json.readReal v } },
     { name := "width", absence := .required,
       read := fun v r => do return { r with width := ← Json.readReal v } },
     { name := "height", absence := .required,
       read := fun v r => do return { r with height := ← Json.readReal v } }]
    {}

end Rect

/-- The phases of a pointer gesture. -/
inductive Phase where
  | down | move | up
  deriving DecidableEq, Repr, Inhabited

namespace Phase

/-- All phases, in their order. -/
def all : List Phase := [.down, .move, .up]

/-- The name of a phase. -/
def name : Phase → String
  | .down => "down"
  | .move => "move"
  | .up => "up"

/-- The page event a phase dispatches. -/
def eventName : Phase → String
  | .down => "mousedown"
  | .move => "mousemove"
  | .up => "mouseup"

/-- Reads a phase by its name. -/
def read : Json.Reader Phase := Json.readVariant (all.map fun p => (p.name, p))

end Phase

/-- The name of an element within one page. -/
structure Handle where
  id : Nat
  deriving DecidableEq, Repr, Inhabited

namespace Handle

/-- How a handle stands in messages. -/
def text (h : Handle) : String := "#" ++ toString h.id

/-- A handle as a number. -/
def toJson (h : Handle) : Json := .nat h.id

/-- Reads a handle. -/
def read : Json.Reader Handle := fun v => do return ⟨← Json.readLong v⟩

end Handle

/-- Why one operation on a page fails. -/
inductive PageError where
  | invalidSelector (selector reason : String)
  | stale (element : Handle)
  | script (message : String)
  | protocol (message : String)
  | closed
  deriving DecidableEq, Repr, Inhabited

/-- The wording of a page error. -/
def PageError.message : PageError → String
  | .invalidSelector selector reason => "invalid selector `" ++ selector ++ "`: " ++ reason
  | .stale element => "element " ++ element.text ++ " is no longer attached to the document"
  | .script message => "script failed: " ++ message
  | .protocol message => "protocol error: " ++ message
  | .closed => "document is closed"

end ConsentWalker
