import ConsentWalker.Css.Matching
import ConsentWalker.Page.Geometry
import ConsentWalker.Page.Style
/-!
# Page — a page in memory

A page keeps its tree, the handles it has given out, and a record of what was done to it. Clicks
switch checkboxes and radio buttons, also through their labels; everything else is recorded and
changes no tree. The layout is naive: a row for every element, indented by depth.

**An operation that fails changes nothing.** Each looks first whether the page is open, then whether
the handle still denotes a node of the page, and acts last.

Handles are given out in the order in which elements are found by selectors: `Page.handles` lists
the numbers of their nodes.
-/

namespace ConsentWalker

/-- What a page records of what was done to it. -/
inductive PageEvent where
  | click (h : Handle) (openInTab : Bool)
  | scroll (h : Handle)
  | focus (h : Handle)
  | pointer (h : Handle) (phase : Phase) (point : Point)
  | hidden (h : Handle) (hidden : Bool)
  | painted (h : Handle) (passed : Bool)
  | progress (message : String)
  | progressHidden
  | closed
  deriving DecidableEq, Repr, Inhabited

/-- The queue of an observer: the sizes of the batches that wait for it. -/
structure Mailbox where
  queue : List Nat := []
  /-- Whether the page still delivers. -/
  connected : Bool := true
  /-- Whether the observer was given up. -/
  dropped : Bool := false
  deriving DecidableEq, Repr, Inhabited

namespace Mailbox

/-- Whether an observer is there to be told of changes. -/
def isLive (m : Mailbox) : Bool := m.connected && ! m.dropped

/-- The mailbox after a change of so many records. -/
def deliver (records : Nat) (m : Mailbox) : Mailbox :=
  if m.isLive then { m with queue := m.queue ++ [records] } else m

end Mailbox

/-- The name of an observer: its position among all observers of the page. -/
structure Observer where
  index : Nat
  deriving DecidableEq, Repr, Inhabited

/-- What an observer finds when it asks for the next batch. -/
inductive Receipt where
  | batch (records : Nat)
  /-- Nothing has changed yet. -/
  | pending
  /-- Nothing will change any more. -/
  | ended
  /-- The observer was given up. -/
  | dropped
  deriving DecidableEq, Repr, Inhabited

/-- A page in memory. -/
structure Page where
  root : Node
  /-- The number for the next new node. -/
  nextId : Nat
  /-- Whether the page counts as the content of an iframe. -/
  nested : Bool := false
  /-- The nodes that have handles, in the order of the handles. -/
  handles : List Nat := []
  /-- Checked states that differ from the markup, latest first. -/
  switched : List (Nat × Bool) := []
  /-- The handles of hidden elements, ascending. -/
  hidden : List Handle := []
  painted : List (Handle × Bool) := []
  events : List PageEvent := []
  progress : Option String := none
  closed : Bool := false
  mailboxes : List Mailbox := []
  deriving Repr, Inhabited

namespace Page

/-- The page of a tree. -/
def ofTree (t : Tree) (nested : Bool) : Page :=
  let (root, nextId) := t.number 0
  { root, nextId, nested }

/-- An operation on a page. -/
abbrev Op := ExceptT PageError (StateM Page)

/-! ## Places and handles -/

/-- The places of all nodes but the document. -/
def places (p : Page) : List Place := (Place.root p.root).below

/-- The place a handle denotes. -/
def place? (p : Page) (h : Handle) : Option Place :=
  p.handles[h.id]?.bind p.root.place?

/-- The handle of a node, which gets one if it has none yet. -/
def name (p : Page) (id : Nat) : Handle × Page :=
  match p.handles.idxOf? id with
  | some i => (⟨i⟩, p)
  | none => (⟨p.handles.length⟩, { p with handles := p.handles ++ [id] })

/-- The handles of nodes, which get one each if they have none yet. -/
def nameAll (p : Page) : List Nat → List Handle × Page
  | [] => ([], p)
  | id :: ids =>
    let (h, p) := p.name id
    let (hs, p) := p.nameAll ids
    (h :: hs, p)

/-- Fails once the page is closed. -/
def ensureOpen : Op Unit := do
  if (← get).closed then throw .closed

/-- The place of an element, which has to be in the page. -/
def locate (h : Handle) : Op Place := do
  ensureOpen
  match (← get).place? h with
  | some place => return place
  | none => throw (.stale h)

/-- The place and the element of a handle. -/
def element (h : Handle) : Op Element := do
  match (← locate h).element? with
  | some e => return e
  | none => throw (.stale h)

/-- **The elements below a place that a selector matches**, in document order. -/
def select (scope : Option Handle) (selector : String) : Op (List Handle) := do
  ensureOpen
  match Css.Selector.parse selector with
  | .error flaw => throw (.invalidSelector selector flaw.message)
  | .ok selectors =>
    let origin ←
      match scope with
      | some h => locate h
      | none => do pure (Place.root (← get).root)
    let found := (origin.below.filter (Css.selects selectors)).map Place.id
    modifyGet fun p => p.nameAll found

/-! ## What an element is like -/

/-- Whether a node is checked: as it was switched, else as the markup says. -/
def isCheckedAt (p : Page) (place : Place) : Bool :=
  match p.switched.lookup place.id with
  | some b => b
  | none => place.element?.any fun e => e.hasAttribute "checked"

/-- The height of a row. -/
def rowHeight : Nat := 20

/-- How far a level is indented. -/
def indent : Nat := 8

/-- The width of the page. -/
def viewportWidth : Nat := 1280

/-- The rectangle of an element in its row; an element that is not rendered has none. -/
def layout (p : Page) (place : Place) : Rect :=
  let rendered := (place :: place.ancestors).all fun q => q.element?.all Element.renders
  if ! rendered then {}
  else
    -- natural subtraction keeps the width from going below zero
    let x := indent * place.above.length
    let row := ((p.places.filter fun q => q.node.isElement).findIdx fun q => q.id == place.id)
    { x := .ofNat x
      y := .ofNat (rowHeight * row)
      width := .ofNat (viewportWidth - 2 * x)
      height := .ofNat rowHeight }

/-! ## Clicks -/

/-- Whether a place holds a checkbox or a radio button. -/
def holdsControl (place : Place) : Bool := place.element?.any Element.isControl

/-- The control that a click at a place reaches: the element itself, or what the nearest label is
for. A label that names a control does not fall back to one inside it. -/
def controlOf? (p : Page) (place : Place) : Option Place :=
  if holdsControl place then some place
  else
    let isLabel (q : Place) : Bool := q.element?.any fun e => e.name == "label"
    match (place :: place.ancestors).find? isLabel with
    | none => none
    | some label =>
      match label.element?.bind (·.attribute? "for") with
      -- the label decides by its `for` alone
      | some target =>
        p.places.find? fun q => q.element?.any fun e => e.attribute? "id" == some target
      | none => label.withBelow.find? holdsControl

/-- The radio buttons of a group, wherever they stand. -/
def radioGroup (p : Page) (name : String) : List Nat :=
  let isMember (e : Element) : Bool :=
    e.inputKind? == some "radio" && e.attribute? "name" == some name
  (p.places.filter fun q => q.element?.any isMember).map Place.id

/-- The page after a control was reached by a click. A checkbox changes its state; a radio button
is checked, and the others of its group are not. -/
def activate (p : Page) (control : Place) : Page :=
  match control.element? with
  | none => p
  | some e =>
    match e.inputKind? with
    | some "checkbox" =>
      { p with switched := (control.id, ! p.isCheckedAt control) :: p.switched }
    | some "radio" =>
      let peers :=
        match e.attribute? "name" with
        | some name => p.radioGroup name
        | none => []
      { p with
        switched := (control.id, true) :: (peers.map fun id => (id, false)) ++ p.switched }
    | _ => p

/-- The page with one more event. -/
def record (p : Page) (e : PageEvent) : Page := { p with events := p.events ++ [e] }

/-- Records an event at an element of the page. -/
def recordAt (h : Handle) (e : PageEvent) : Op Unit := do
  let _ ← locate h
  modify (·.record e)

/-- Clicks an element. -/
def click (h : Handle) (openInTab : Bool) : Op Unit := do
  let place ← locate h
  modify fun p =>
    let p := match p.controlOf? place with
      | some control => p.activate control
      | none => p
    p.record (.click h openInTab)

/-! ## What is recorded -/

/-- Puts a handle into an ascending list. -/
def insertHandle (h : Handle) : List Handle → List Handle
  | [] => [h]
  | k :: rest =>
    if h.id < k.id then h :: k :: rest
    else if h = k then k :: rest
    else k :: insertHandle h rest

/-- Hides an element or shows it again. -/
def setHidden (h : Handle) (b : Bool) : Op Unit := do
  let _ ← locate h
  modify fun p =>
    let hidden := if b then insertHandle h p.hidden else p.hidden.filter (· ≠ h)
    record { p with hidden } (.hidden h b)

/-- Outlines an element as passed or failed. -/
def paint (h : Handle) (passed : Bool) : Op Unit := do
  let _ ← locate h
  modify fun p => record { p with painted := p.painted ++ [(h, passed)] } (.painted h passed)

/-- Shows a message about the progress. -/
def showProgress (message : String) : Op Unit := do
  ensureOpen
  modify fun p => record { p with progress := some message } (.progress message)

/-- Takes the message about the progress away. -/
def hideProgress : Op Unit := do
  ensureOpen
  modify fun p => record { p with progress := none } .progressHidden

/-- Closes the page. Closing it again does nothing. -/
def close : Op Unit :=
  modify fun p =>
    if p.closed then p
    else
      let mailboxes := p.mailboxes.map fun m => { m with connected := false }
      record { p with closed := true, mailboxes } .closed

/-! ## Observers -/

/-- The observers that are told of changes. -/
def observerCount (p : Page) : Nat := p.mailboxes.countP Mailbox.isLive

/-- Starts to observe; a closed page delivers nothing. -/
def observe : Op Observer :=
  modifyGet fun p =>
    (⟨p.mailboxes.length⟩, { p with mailboxes := p.mailboxes ++ [{ connected := ! p.closed }] })

/-- Tells the observers of a change. -/
def notify (p : Page) (records : Nat) : Page :=
  { p with mailboxes := p.mailboxes.map (Mailbox.deliver records) }

/-- The mailbox of an observer. -/
def mailbox (p : Page) (o : Observer) : Mailbox := p.mailboxes[o.index]?.getD { dropped := true }

/-- Changes the mailbox of an observer. -/
def updateMailbox (p : Page) (o : Observer) (f : Mailbox → Mailbox) : Page :=
  { p with mailboxes := p.mailboxes.modify o.index f }

/-- The next batch of an observer, which is taken from its queue. -/
def receive (p : Page) (o : Observer) : Receipt × Page :=
  let m := p.mailbox o
  if m.dropped then (.dropped, p)
  else
    match m.queue with
    | records :: rest => (.batch records, p.updateMailbox o fun m => { m with queue := rest })
    | [] => (if m.connected then .pending else .ended, p)

/-- Takes all batches of an observer at once, and gives how many records they hold. -/
def drain (p : Page) (o : Observer) : Nat × Page :=
  ((p.mailbox o).queue.foldr (· + ·) 0, p.updateMailbox o fun m => { m with queue := [] })

/-- Gives an observer up. -/
def drop (p : Page) (o : Observer) : Page :=
  p.updateMailbox o fun m => { m with queue := [], dropped := true }

/-! ## Changes by others -/

/-- **Appends nodes** to the first element a selector matches, and gives their number. -/
def append (parent : String) (trees : List Tree) : Op Nat := do
  match ← select none parent with
  | [] => throw (.script ("`" ++ parent ++ "` matched nothing to append to"))
  | h :: _ =>
    let target ← locate h
    modifyGet fun p =>
      let (nodes, nextId) := Tree.numberAll p.nextId trees
      let count := nextId - p.nextId
      (count, notify { p with root := p.root.appendTo target.id nodes, nextId } count)

/-- **Takes out every element a selector matches**, and gives their number. -/
def remove (selector : String) : Op Nat := do
  let matched ← select none selector
  modifyGet fun p =>
    let ids := matched.filterMap fun h => p.handles[h.id]?
    let p := { p with root := p.root.without ids }
    (ids.length, if ids.isEmpty then p else p.notify ids.length)

/-- The checked states of the elements a selector matches; of none when it cannot be asked. -/
def checkedAll (p : Page) (selector : String) : List Bool × Page :=
  match (select none selector).run.run p with
  | (.ok hs, p) => ((hs.filterMap p.place?).map p.isCheckedAt, p)
  | (.error _, _) => ([], p)

end Page
end ConsentWalker
