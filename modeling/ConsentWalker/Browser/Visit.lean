import ConsentWalker.Rules.Category
/-!
# Browser — visits

What a visit is asked to do, what it reports, and the time it may take. All times are whole
milliseconds.
-/

namespace ConsentWalker

/-- The notice that a dialog was handled. -/
structure Handled where
  cmpName : String
  deriving DecidableEq, Repr, Inhabited

namespace Handled

/-- The notice as an object. -/
def toJson (h : Handled) : Json := .object [("cmpName", .string h.cmpName)]

/-- Reads a notice. -/
def read : Json.Reader Handled :=
  Json.readRecord "HandledCmp"
    [{ name := "cmpName", absence := .required,
       read := fun v _ => do return { cmpName := ← Json.readText v } }]
    { cmpName := "" }

end Handled

namespace Browser

/-- One page to visit and what to do with the dialog found there. -/
structure VisitJob where
  url : String := ""
  choice : Choice := .noAction
  deriving DecidableEq, Repr

namespace VisitJob

/-- A job as an object. -/
def toJson (j : VisitJob) : Json :=
  .object [("url", .string j.url), ("cmpAction", .string j.choice.name)]

/-- Reads a job; without a choice nothing is done. -/
def read : Json.Reader VisitJob :=
  Json.readRecord "VisitJob"
    [{ name := "url", absence := .required,
       read := fun v j => do return { j with url := ← Json.readText v } },
     { name := "cmpAction", absence := .defaulted,
       read := fun v j => do return { j with choice := ← Choice.read v } }]
    {}

end VisitJob

/-- What a visit reports. -/
structure VisitResult where
  url : String := ""
  choice : Choice := .noAction
  /-- The first dialog that was reported, if any. -/
  detected : Option String := none
  elapsed : Nat := 0
  deriving DecidableEq, Repr

namespace VisitResult

/-- A report as an object. -/
def toJson (r : VisitResult) : Json :=
  .object
    [("url", .string r.url), ("cmpAction", .string r.choice.name),
     ("detected", .orNull (r.detected.map .string)), ("elapsedMs", .nat r.elapsed)]

/-- Reads a report. -/
def read : Json.Reader VisitResult :=
  Json.readRecord "VisitResult"
    [{ name := "url", absence := .required,
       read := fun v r => do return { r with url := ← Json.readText v } },
     { name := "cmpAction", absence := .required,
       read := fun v r => do return { r with choice := ← Choice.read v } },
     { name := "detected", absence := .optional,
       read := fun v r => do return { r with detected := ← Json.readOptional Json.readText v } },
     { name := "elapsedMs", absence := .required,
       read := fun v r => do return { r with elapsed := ← Json.readLong v } }]
    {}

end VisitResult

/-- How long the parts of a visit may take. -/
structure Timeouts where
  navigation : Nat := 30000
  pageStable : Nat := 15000
  checkInterval : Nat := 300
  settleDelay : Nat := 1000
  /-- How long to wait for the first handled dialog. -/
  detectionBudget : Nat := 6000
  detectionInterval : Nat := 300
  /-- How long the handling may go on after a detection. -/
  postDetectionWait : Nat := 2500
  deriving DecidableEq, Repr, Inhabited

namespace Timeouts

/-- The budgets of a quick visit. -/
def fast : Timeouts := ⟨20000, 8000, 200, 500, 3000, 200, 1000⟩

/-- The budgets of a patient visit. -/
def patient : Timeouts := ⟨60000, 30000, 500, 2000, 12000, 500, 5000⟩

/-- Sets the budget and the pace of detection. -/
def withDetection (t : Timeouts) (budget interval : Nat) : Timeouts :=
  { t with detectionBudget := budget, detectionInterval := interval }

end Timeouts
end Browser
end ConsentWalker
