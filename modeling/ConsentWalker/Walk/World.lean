import ConsentWalker.Walk.Search
/-!
# Walk — the world of a walk

A page with a clock, the faults that stand in for its answers, and everything that was told. Nothing
but waiting takes time.

`World.alone` runs a routine to its end where nobody else acts. `World.go` runs one only up to the
point where it has to wait, and says what it waits for.
-/

namespace ConsentWalker

/-- A report of a handled dialog, with what the page looked like when it was made. -/
structure Sighting where
  vendor : String
  time : Nat
  progress : Option String
  hidden : List Handle
  tried : List String
  deriving DecidableEq, Repr, Inhabited

/-- A page, its clock, and what was told. -/
structure World where
  page : Page
  faults : Faults := {}
  /-- The milliseconds since the start. -/
  clock : Nat := 0
  /-- What was told, latest first. -/
  told : List Notice := []
  /-- The vendors tried so far, for others to see. -/
  tried : List String := []
  /-- The reports made so far, in order. -/
  sightings : List Sighting := []
  deriving Inhabited

namespace World

variable {α : Type}

/-- Tells something. -/
def tell (w : World) (n : Notice) : World := { w with told := n :: w.told }

/-- Tells some things in order. -/
def tellAll (w : World) (ns : List Notice) : World := { w with told := ns.reverse ++ w.told }

/-- The answer to a call, and the world after it. -/
def perform (w : World) (c : Call) : Except PageError c.Result × World :=
  let (answer, faults, page) := w.faults.perform w.page c
  (answer, { w with faults, page })

/-- Reports a handled dialog. -/
def sight (w : World) (vendor : String) : World :=
  let s : Sighting :=
    { vendor, time := w.clock, progress := w.page.progress, hidden := w.page.hidden,
      tried := w.tried }
  { w with sightings := w.sightings ++ [s] }

/-- Gives an observer up. -/
def drop (w : World) (o : Observer) : World := { w with page := w.page.drop o }

/-- The changes an observer was told of, if there are any or will be no more. -/
def collect? (w : World) (o : Observer) : Option (Option Nat × World) :=
  match w.page.receive o with
  | (.pending, _) => none
  | (.ended, _) | (.dropped, _) => some (none, w)
  | (.batch records, page) =>
    let (more, page) := page.drain o
    some (some (records + more), { w with page })

/-! ## Changes by others -/

/-- Changes the page past the faults, and tells of a change of its tree. -/
def change (w : World) (op : Page.Op Nat) (always : Bool) : Except PageError Nat × World :=
  let (answer, page) := op.run.run w.page
  let w := { w with page }
  match answer with
  | .error e => (.error e, w)
  | .ok records =>
    if always || records != 0 then
      (.ok records, w.tell (.pageChanged records page.observerCount))
    else (.ok records, w)

/-- Appends markup to the first element a selector matches. -/
def append (w : World) (parent : String) (trees : List Tree) : Except PageError Nat × World :=
  w.change (Page.append parent trees) true

/-- Takes out the elements a selector matches. -/
def remove (w : World) (selector : String) : Except PageError Nat × World :=
  w.change (Page.remove selector) false

/-- Does something to the page past the faults. -/
def direct (w : World) (op : Page.Op α) : Except PageError α × World :=
  let (answer, page) := op.run.run w.page
  (answer, { w with page })

/-! ## Running routines -/

/-- **Runs a routine to its end where nobody else acts.** Whoever waits for changes in vain learns
that there will be none. -/
def alone : Routine α → World → α × World
  | .done a, w => (a, w)
  | .call c next, w =>
    let (answer, w) := w.perform c
    alone (next answer) w
  | .note n next, w => alone next (w.tell n)
  | .sleep time next, w => alone next { w with clock := w.clock + time }
  | .pause next, w => alone next w
  | .await o next, w =>
    match w.collect? o with
    | some (records, w) => alone (next records) w
    | none => alone (next none) w
  | .drop o next, w => alone next (w.drop o)
  | .report vendor next, w => alone next (w.sight vendor)

end World

/-- Where a routine stands when it has to wait, or has come to its end. -/
inductive Halt (α : Type) where
  | finished (a : α)
  | sleeping (wake : Nat) (next : Routine α)
  | paused (next : Routine α)
  | waiting (o : Observer) (next : Option Nat → Routine α)

namespace World

variable {α : Type}

/-- **Runs a routine up to the point where it has to wait.** A wait of no time, and a wait for
changes that are there already, are none. -/
def go : Routine α → World → Halt α × World
  | .done a, w => (.finished a, w)
  | .call c next, w =>
    let (answer, w) := w.perform c
    go (next answer) w
  | .note n next, w => go next (w.tell n)
  | .sleep 0 next, w => go next w
  | .sleep (time + 1) next, w => (.sleeping (w.clock + (time + 1)) next, w)
  | .pause next, w => (.paused next, w)
  | .await o next, w =>
    match w.collect? o with
    | some (records, w) => go (next records) w
    | none => (.waiting o next, w)
  | .drop o next, w => go next (w.drop o)
  | .report vendor next, w => go next (w.sight vendor)

end World
end ConsentWalker
