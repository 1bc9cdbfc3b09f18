import ConsentWalker.Walk.Handling
/-!
# Walk — the search for dialogs

A search looks for the dialog of a vendor that was not tried yet, checks whether it shows, handles
it if it does and gives it up if not. While it looks, it observes the page, and a change of the page
is a reason to look again; **while it checks or handles, it observes nothing**, so that its own
changes never wake it.

`Search.step` is one stage of a search. It ends in the next stage, or stops the search: after a
handling, once the page will not change any more, or when the page refuses to be observed.
-/

namespace ConsentWalker

/-- What a search has done: the vendors handled, and all that were tried, in order. -/
structure Report where
  handled : List String := []
  tried : List String := []
  deriving DecidableEq, Repr, Inhabited

/-- A search for the dialogs of vendors. -/
structure Search where
  vendors : List Vendor := []
  setting : Setting := {}
  deriving Inhabited

namespace Search

/-- Where a search stands. -/
structure State where
  stage : Stage := .detecting
  tried : List String := []
  handled : List String := []
  observer : Option Observer := none
  deriving DecidableEq, Repr, Inhabited

/-- What follows a stage: another one, or the end. -/
inductive Next where
  | goOn (s : State)
  | stop (outcome : Except PageError Report)

instance : Inhabited Next := ⟨.goOn {}⟩

/-- The vendors from a position on that were not tried yet and whose dialogs are in the page. One
whose detection fails counts as absent. -/
def candidates (tried : List String) : Nat → List Vendor → Routine (List (Nat × String))
  | _, [] => return []
  | i, v :: rest => do
    if tried.contains v.name then candidates tried (i + 1) rest
    else
      match ← v.detect.run with
      | .ok true => do
        let more ← candidates tried (i + 1) rest
        return (i, v.name) :: more
      | .ok false => candidates tried (i + 1) rest
      | .error e =>
        tell (.detectionFailed v.name e)
        candidates tried (i + 1) rest

/-- **The first vendor to try**, in the order of the vendors. -/
def nextCandidate (x : Search) (tried : List String) : Routine (Option (Nat × String)) := do
  let found ← candidates tried 0 x.vendors
  if 1 < found.length then tell (.severalDetected (found.map Prod.snd))
  match found.head? with
  | none => return none
  | some c =>
    tell (.detected c.2)
    return some c

/-- Checks whether a dialog shows; a check that fails counts as no. -/
def shows (v : Vendor) (attempt : Nat) : Routine Bool := do
  match ← v.isShowing.run with
  | .ok true =>
    tell (.showing v.name attempt)
    return true
  | .ok false => return false
  | .error e =>
    tell (.showingFailed v.name attempt e)
    return false

/-- The wait before a check; there is none before the first. -/
def waitBefore (x : Search) (attempt : Nat) : Routine Unit :=
  if 1 < attempt then rest x.setting.pace.pollInterval else return ()

/-- **Checks whether a dialog shows**, so many times at most. -/
def poll (x : Search) (v : Vendor) : Nat → Nat → Routine Bool
  | 0, _ => return false
  | left + 1, attempt => do
    x.waitBefore attempt
    if ← shows v attempt then return true else x.poll v left (attempt + 1)

/-- The name of the vendor at a position. -/
def nameAt (x : Search) (i : Nat) : String := (x.vendors[i]?.map Vendor.name).getD ""

/-- Starts to observe the page and to look again. -/
def look (s : State) : Routine Next := do
  match ← Routine.attempt .observe with
  | .ok o => return .goOn { s with stage := .detecting, observer := some o }
  | .error e => return .stop (.error e)

/-- Gives up an observer, if there is one. -/
def stopObserving : Option Observer → Routine Unit
  | none => return ()
  | some o => .drop o (.done ())

/-- **One stage of a search.** -/
def step (x : Search) (s : State) : Routine Next := do
  tell (.stage s.stage)
  match s.stage with
  | .detecting =>
    match ← x.nextCandidate s.tried with
    | some (i, name) =>
      -- from here to the next look the page changes unobserved
      stopObserving s.observer
      return .goOn { s with stage := .polling i, tried := s.tried ++ [name], observer := none }
    | none => return .goOn { s with stage := .observing }
  | .observing =>
    match s.observer with
    | none => return .goOn { s with stage := .finished }
    | some o =>
      match ← Routine.await o .done with
      | none => return .goOn { s with stage := .finished }
      | some records =>
        tell (.changesSeen records)
        return .goOn { s with stage := .detecting }
  | .polling i =>
    match x.vendors[i]? with
    | none => return .goOn { s with stage := .finished }
    | some v =>
      if ← x.poll v x.setting.pace.pollAttempts 1 then
        return .goOn { s with stage := .handling i }
      else return .goOn { s with stage := .abandoned i }
  | .abandoned i =>
    tell (.neverShown (x.nameAt i))
    look s
  | .handling i =>
    match x.vendors[i]? with
    | none => return .goOn { s with stage := .finished }
    | some v =>
      let _ ← (v.handling x.setting).run {}
      return .goOn { s with stage := .handled i, handled := s.handled ++ [v.name] }
  | .handled i =>
    tell (.handled (x.nameAt i))
    if x.setting.pace.keepObserving then look s
    else return .goOn { s with stage := .finished }
  | .finished =>
    stopObserving s.observer
    return .stop (.ok { handled := s.handled, tried := s.tried })

/-- How a search starts. -/
def start : Routine Next := look {}

/-- The names of the vendors, in their order. -/
def names (x : Search) : List String := x.vendors.map Vendor.name

end Search

/-! ## From a catalog -/

namespace Catalog

/-- The method names passed over while a catalog is read. -/
def passedOver (c : Catalog) : List Notice :=
  c.build.flatMap fun (name, r) => r.passedOver.map fun m => .methodPassedOver name m

/-- The vendors that can be read, in their order. -/
def vendors (c : Catalog) : List Vendor := c.build.filterMap fun (_, r) => r.answer.toOption

/-- The notices about vendors that cannot be read. -/
def skipped (c : Catalog) : List Notice :=
  c.build.filterMap fun (name, r) =>
    match r.answer with
    | .ok _ => none
    | .error e => some (.vendorSkipped name e)

/-- All vendors, or the error of the first that cannot be read. -/
def vendorsStrict (c : Catalog) : Except RuleError (List Vendor) :=
  c.build.mapM fun (_, r) => r.answer

end Catalog
end ConsentWalker
