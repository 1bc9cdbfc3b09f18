import ConsentWalker.Page.Page
/-!
# Page — calls

What a walk may ask of a page, and how a page answers. The answer to a call has the type
`Call.Result` says. Some calls only read; `Call.isRead` tells which.

`Page.perform` answers with the page itself. A `Fault` stands in for an answer: `Faults.perform`
counts the calls of each kind and lets the first fault that fits answer instead of the page.
-/

namespace ConsentWalker

/-- A request to a page. -/
inductive Call where
  | query (scope : Option Handle) (selector : String)
  | text (h : Handle)
  | style (h : Handle) (property : String)
  | rect (h : Handle)
  | nested (h : Handle)
  | isChecked (h : Handle)
  | scroll (h : Handle)
  | focus (h : Handle)
  | click (h : Handle) (openInTab : Bool)
  | pointer (h : Handle) (phase : Phase) (point : Point)
  | setHidden (h : Handle) (hidden : Bool)
  | paint (h : Handle) (passed : Bool)
  | showProgress (message : String)
  | hideProgress
  | close
  | observe
  deriving DecidableEq, Repr, Inhabited

namespace Call

/-- What a call yields when it succeeds. -/
@[reducible] def Result : Call → Type
  | .query .. => List Handle
  | .text _ | .style .. => String
  | .rect _ => Rect
  | .nested _ | .isChecked _ => Bool
  | .observe => Observer
  | _ => Unit

/-- The kinds of calls. -/
inductive Kind where
  | query | text | style | rect | nested | isChecked | scroll | focus | click | pointer | setHidden
  | paint | showProgress | hideProgress | close | observe
  deriving DecidableEq, Repr, Inhabited

/-- The kind of a call. -/
def kind : Call → Kind
  | .query .. => .query
  | .text _ => .text
  | .style .. => .style
  | .rect _ => .rect
  | .nested _ => .nested
  | .isChecked _ => .isChecked
  | .scroll _ => .scroll
  | .focus _ => .focus
  | .click .. => .click
  | .pointer .. => .pointer
  | .setHidden .. => .setHidden
  | .paint .. => .paint
  | .showProgress _ => .showProgress
  | .hideProgress => .hideProgress
  | .close => .close
  | .observe => .observe

/-- Whether a call only looks at the page. -/
def isRead (c : Call) : Bool :=
  match c.kind with
  | .query | .text | .style | .rect | .nested | .isChecked => true
  | _ => false

end Call

namespace Page

/-- **The answer of a page to a call.** -/
def answer : (c : Call) → Op c.Result
  | .query scope selector => select scope selector
  | .text h => do
    let place ← locate h
    return place.node.text
  | .style h property => do return (← element h).style property
  | .rect h => do
    let place ← locate h
    return (← get).layout place
  | .nested h => do
    let _ ← locate h
    return (← get).nested
  | .isChecked h => do
    let place ← locate h
    return (← get).isCheckedAt place
  | .scroll h => recordAt h (.scroll h)
  | .focus h => recordAt h (.focus h)
  | .click h openInTab => click h openInTab
  | .pointer h phase point => recordAt h (.pointer h phase point)
  | .setHidden h b => setHidden h b
  | .paint h passed => paint h passed
  | .showProgress message => showProgress message
  | .hideProgress => hideProgress
  | .close => close
  | .observe => observe

/-- The answer of a page to a call, and the page after it. -/
def perform (p : Page) (c : Call) : Except PageError c.Result × Page := (answer c).run.run p

end Page

/-! ## Faults -/

/-- An error in place of an answer: to the call of a kind with that count, from one on; a count of
zero stands for every call. -/
structure Fault where
  kind : Call.Kind
  count : Nat
  error : PageError
  deriving DecidableEq, Repr, Inhabited

/-- Whether a fault takes the place of the answer to the call with that count. -/
def Fault.fits (f : Fault) (kind : Call.Kind) (count : Nat) : Bool :=
  f.kind == kind && (f.count == 0 || f.count == count)

/-- The faults of a page, and the kinds of the calls made so far. -/
structure Faults where
  planned : List Fault := []
  made : List Call.Kind := []
  deriving Repr, Inhabited

namespace Faults

/-- The error in place of the next answer, if there is one. -/
def next? (f : Faults) (kind : Call.Kind) : Option PageError :=
  (f.planned.find? (·.fits kind (f.made.count kind + 1))).map Fault.error

/-- **The answer to a call where faults may stand in for the page.** -/
def perform (f : Faults) (p : Page) (c : Call) : Except PageError c.Result × Faults × Page :=
  let after : Faults := { f with made := c.kind :: f.made }
  match f.next? c.kind with
  | some e => (.error e, after, p)
  | none =>
    let (answer, p) := p.perform c
    (answer, after, p)

end Faults
end ConsentWalker
