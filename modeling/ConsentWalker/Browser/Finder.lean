import ConsentWalker.Browser.Visit
import ConsentWalker.Walk.Task
/-!
# Browser — finding a dialog in bounded time

A finder starts a search on a page and looks, at a steady interval, whether the search has reported
a dialog. After the first report it gives the search a grace period; without one it leaves once the
search is over or the budget is used up. Whichever way it leaves, a search that still runs is
stopped.

Others may change the page meanwhile, each at its time. At one point in time the finder looks first,
then the others act, then the search.
-/

namespace ConsentWalker
namespace Browser

/-- What someone else does to a page, and when. -/
structure Visitor where
  time : Nat
  act : World → World

/-- A finder: the vendors it knows, its switches, its pace and its budgets. -/
structure Finder where
  vendors : List Vendor
  flags : Flags := {}
  pace : Pace := {}
  timeouts : Timeouts := {}

/-- What a finder does after a look. -/
inductive Decision where
  /-- A dialog was reported. -/
  | found (vendor : String)
  /-- There is no use in looking any longer. -/
  | leave
  /-- Look again later. -/
  | lookAgain
  deriving DecidableEq, Repr

/-- Where a finder stands. -/
inductive Watch where
  /-- It looks next at this time. -/
  | looking (next : Nat)
  /-- It has found a dialog and stays until this time. -/
  | staying (vendor : String) (wake : Nat)
  /-- It has left. -/
  | left (detected : Option String)
  deriving DecidableEq, Repr

namespace Finder

/-- The search a finder starts. -/
def search (f : Finder) (choice : Choice) : Search :=
  { vendors := f.vendors
    setting := { flags := choice.flags f.flags, pace := f.pace, policy := choice.policy } }

/-- **What a finder makes of what it sees**: a report goes before everything else. -/
def decide (f : Finder) (w : World) (isOver : Bool) : Decision :=
  match w.sightings.head? with
  | some s => .found s.vendor
  | none => if isOver || f.timeouts.detectionBudget ≤ w.clock then .leave else .lookAgain

/-- What happens around a finder: where it stands, who else will act, the search, and the page. -/
structure Scene where
  watch : Watch
  others : List Visitor
  task : Task
  world : World

/-- One look. A grace period of no time is over at once. -/
def look (f : Finder) (url : String) (t : Task) (w : World) : Watch × World :=
  match f.decide w t.isOver with
  | .found vendor =>
    let stay := f.timeouts.postDetectionWait
    (if stay = 0 then .left (some vendor) else .staying vendor (w.clock + stay),
      w.tell (.reported url vendor))
  | .leave => (.left none, w.tell (.nothingReported url))
  | .lookAgain => (.looking (w.clock + f.timeouts.detectionInterval), w)

/-- What a finder does at this time, if it need not wait. -/
def act (f : Finder) (url : String) (s : Scene) : Watch × World :=
  match s.watch with
  | .looking time => if time ≤ s.world.clock then f.look url s.task s.world else (s.watch, s.world)
  | .staying vendor time =>
    (if time ≤ s.world.clock then .left (some vendor) else s.watch, s.world)
  | .left _ => (s.watch, s.world)

/-- Lets the others act whose time has come. -/
def actOthers : List Visitor → World → List Visitor × World
  | [], w => ([], w)
  | v :: rest, w => if v.time ≤ w.clock then actOthers rest (v.act w) else (v :: rest, w)

/-- The next time at which something happens. -/
def Scene.nextTime (s : Scene) : Nat :=
  let own : Option Nat :=
    match s.watch with
    | .looking time | .staying _ time => some time
    | .left _ => none
  let times := own.toList ++ (s.others.head?.map Visitor.time).toList ++ s.task.alarm?.toList
  (times.min?).getD 0

/-- One point in time: the finder, the others, the search. Then the clock goes to the next one. -/
def instant (f : Finder) (url : String) (s : Scene) : Scene :=
  let (watch, world) := f.act url s
  match watch with
  -- once the finder has left nobody acts any more
  | .left _ => { s with watch, world }
  | _ =>
    let (others, world) := actOthers s.others world
    let (task, world) := s.task.run world
    let s : Scene := { watch, others, task, world }
    { s with world := { s.world with clock := max s.world.clock s.nextTime } }

/-- Lets time pass until the finder has left, over at most so many points in time. -/
def passTime (f : Finder) (url : String) : Nat → Scene → Scene
  | 0, s => s
  | fuel + 1, s =>
    let s := f.instant url s
    match s.watch with
    | .left _ => s
    | _ => f.passTime url fuel s

/-- A bound for the points in time of a visit: the clock goes on from one to the next. -/
def instants (f : Finder) : Nat :=
  f.timeouts.detectionBudget + f.timeouts.detectionInterval + f.timeouts.postDetectionWait + 3

/-- Stops the search, and tells how it ended if it did. -/
def leave (url : String) (t : Task) (w : World) : World :=
  match t.ended with
  | some (.ok report, _) => w.tell (.searchEnded url report.tried)
  | some (.error e, _) => w.tell (.searchFailed url e)
  | none => t.abort w

/-- **Visits a page**: what is reported, and the world the visit leaves behind. The clock counts
from the start of the visit. -/
def find (f : Finder) (url : String) (choice : Choice) (others : List Visitor) (w : World) :
    VisitResult × World :=
  let task := Task.new (f.search choice)
  let s := f.passTime url f.instants { watch := .looking w.clock, others, task, world := w }
  let detected :=
    match s.watch with
    | .left detected => detected
    | _ => none
  ({ url, choice, detected, elapsed := s.world.clock }, leave url s.task s.world)

end Finder
end Browser
end ConsentWalker
