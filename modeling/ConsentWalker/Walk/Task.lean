import ConsentWalker.Walk.World
/-!
# Walk — a search as a task

A search that runs beside others on one page. `Task.run` lets it act until it has to wait,
`Task.runUntil` lets it act up to a point in time, `Task.abort` stops it for good.

At a point in time where both the search and its neighbour could act, the neighbour acts first.
-/

namespace ConsentWalker

/-- A search that runs beside others. -/
structure Task where
  search : Search
  /-- The stage it is in. -/
  state : Search.State := {}
  /-- Where it waits. -/
  halt : Halt Search.Next
  /-- How it ended, and when. -/
  ended : Option (Except PageError Report × Nat) := none

namespace Task

/-- A search that has not begun yet. -/
def new (search : Search) : Task := { search, halt := .paused Search.start }

/-- Whether a search has come to its end. -/
def isOver (t : Task) : Bool := t.ended.isSome

/-- What the search does next, if it need not wait at this time. -/
def ready? (t : Task) (w : World) : Option (Routine Search.Next × World) :=
  if t.isOver then none
  else
    match t.halt with
    | .finished _ => none
    | .sleeping time next => if time ≤ w.clock then some (next, w) else none
    | .paused next => some (next, w)
    | .waiting o next => (w.collect? o).map fun (records, w) => (next records, w)

/-- Runs a routine of the search and the stages after it, at most so many, up to a wait. -/
def follow (t : Task) : Nat → Routine Search.Next → World → Task × World
  | 0, r, w => ({ t with halt := .paused r }, w)
  | fuel + 1, r, w =>
    match w.go r with
    | (.finished (.stop outcome), w) =>
      ({ t with halt := .finished (.stop outcome), ended := some (outcome, w.clock) }, w)
    | (.finished (.goOn s), w) =>
      follow { t with state := s } fuel (t.search.step s) { w with tried := s.tried }
    | (halt, w) => ({ t with halt }, w)

/-- The stages between two waits: a few for each vendor, which is tried once. -/
def stagesBetween (t : Task) : Nat := 5 * t.search.vendors.length + 16

/-- The pauses at one time: a few for each vendor. -/
def pausesBetween (t : Task) : Nat := 8 * t.search.vendors.length + 8

/-- Lets a search act at this time, through at most so many pauses. -/
def actFor (t : Task) (w : World) : Nat → Task × World
  | 0 => (t, w)
  | fuel + 1 =>
    match t.ready? w with
    | none => (t, w)
    | some (r, w) =>
      let (t, w) := t.follow t.stagesBetween r w
      t.actFor w fuel

/-- **Lets a search act until it has to wait.** -/
def run (t : Task) (w : World) : Task × World := t.actFor w t.pausesBetween

/-- When a search wakes of itself, if it does. -/
def alarm? (t : Task) : Option Nat :=
  match t.halt with
  | .sleeping time _ => some time
  | _ => none

/-- Lets a search act before a point in time, through at most so many waits, and sets the clock to
that point unless the search ends before it. -/
def runBefore (time : Nat) (t : Task) (w : World) : Nat → Task × World
  | 0 => (t, { w with clock := time })
  | fuel + 1 =>
    let (t, w) := t.run w
    if t.isOver then (t, w)
    else
      match t.alarm? with
      | some alarm =>
        if alarm < time then runBefore time t { w with clock := max w.clock alarm } fuel
        else (t, { w with clock := time })
      | none => (t, { w with clock := time })

/-- **Lets a search act up to a point in time**, at which its neighbour goes on. If the search ends
the clock stays there. A point that has passed is no wait. -/
def runUntil (t : Task) (w : World) (time : Nat) : Task × World :=
  if time ≤ w.clock then (t, w)
  else runBefore time t w (time - w.clock + 1)

/-- Waits until a point in time while a search acts. -/
def waitUntil (t : Task) (w : World) (time : Nat) : Task × World :=
  let (t, w) := t.runUntil w time
  (t, { w with clock := max w.clock time })

/-- **Stops a search for good.** It gives up its observer. -/
def abort (t : Task) (w : World) : World :=
  if t.isOver then w
  else
    match t.state.observer with
    | none => w
    | some o => w.drop o

end Task
end ConsentWalker
