import ConsentWalker.Page.Geometry
import ConsentWalker.Rules.Vendor
import ConsentWalker.Text.Quoted
/-!
# Walk — notices

What a walk tells about itself while it goes on: a `Notice` has a severity, a message and named
values. The plain steps of a walk are told as information when the visitor asked for a log, and for
diagnosis only otherwise.
-/

namespace ConsentWalker

/-- How much a notice matters, most first. -/
inductive Severity where
  | warn | info | debug
  deriving DecidableEq, Repr, Inhabited

namespace Severity

/-- The name of a severity. -/
def name : Severity → String
  | .warn => "WARN"
  | .info => "INFO"
  | .debug => "DEBUG"

/-- Severities in their order. -/
def rank : Severity → Nat
  | .warn => 0
  | .info => 1
  | .debug => 2

/-- Whether a notice is at least as severe as what is asked for. -/
def reaches (s asked : Severity) : Bool := s.rank ≤ asked.rank

end Severity

/-- Where the search for dialogs stands. -/
inductive Stage where
  /-- One pass over the vendors that were not tried yet. -/
  | detecting
  /-- Waiting for the page to change. -/
  | observing
  /-- Checking whether the dialog of a candidate shows. -/
  | polling (vendor : Nat)
  /-- The dialog of a candidate never showed. -/
  | abandoned (vendor : Nat)
  | handling (vendor : Nat)
  | handled (vendor : Nat)
  | finished
  deriving DecidableEq, Repr, Inhabited

/-- How a stage stands in a notice. -/
def Stage.text : Stage → String
  | .detecting => "Detecting"
  | .observing => "Observing"
  | .polling i => "Polling(" ++ toString i ++ ")"
  | .abandoned i => "Abandoned(" ++ toString i ++ ")"
  | .handling i => "Handling(" ++ toString i ++ ")"
  | .handled i => "Handled(" ++ toString i ++ ")"
  | .finished => "Finished"

/-- What is told about a walk. -/
inductive Notice where
  | severalMatches (selector : String) (count : Nat)
  | executing (action : String) (depth : Nat)
  | clicking (target : Handle) (selector : String) (openInTab : Bool)
  | nothingToClick (selector : String)
  | checkFailed (selector : String) (retries : Nat) (error : PageError)
  | gaveUp (selector : String) (retries : Nat)
  | settingConsent (category : Category) (current : Option Bool) (requested : Bool)
  | methodMissing (vendor : String) (method : Method)
  | methodRunning (vendor : String) (method : Method)
  | revealFailed (vendor : String) (element : Handle) (error : PageError)
  | stage (s : Stage)
  | changesSeen (records : Nat)
  | detected (vendor : String)
  | severalDetected (vendors : List String)
  | detectionFailed (vendor : String) (error : PageError)
  | showing (vendor : String) (attempt : Nat)
  | showingFailed (vendor : String) (attempt : Nat) (error : PageError)
  | neverShown (vendor : String)
  | actionsSkipped (vendor : String)
  | progressFailed (vendor : String) (error : PageError)
  | handlingFailed (vendor : String) (error : PageError)
  | progressLeft (vendor : String) (error : PageError)
  | handled (vendor : String)
  | vendorSkipped (vendor : String) (error : RuleError)
  | methodPassedOver (vendor method : String)
  | pageChanged (records observers : Nat)
  | reported (url vendor : String)
  | nothingReported (url : String)
  | searchEnded (url : String) (tried : List String)
  | searchFailed (url : String) (error : PageError)
  deriving DecidableEq, Repr

namespace Notice

/-- The severity of a notice; `log` tells whether the visitor asked for a log. -/
def severity (log : Bool) : Notice → Severity
  | .severalMatches .. | .checkFailed .. | .severalDetected _ | .detectionFailed ..
  | .showingFailed .. | .progressFailed .. | .handlingFailed .. | .progressLeft ..
  | .vendorSkipped .. | .methodPassedOver .. | .searchFailed .. => .warn
  | .clicking .. | .neverShown _ | .reported .. => .info
  | .revealFailed .. | .pageChanged .. | .nothingReported _ | .searchEnded .. => .debug
  | _ => if log then .info else .debug

/-- The wording of a notice. -/
def message : Notice → String
  | .severalMatches .. => "multiple matches for a single-target query, using the first"
  | .executing .. => "executing action"
  | .clicking .. => "clicking"
  | .nothingToClick _ => "click target not found"
  | .checkFailed .. => "waitcss check failed"
  | .gaveUp .. => "gave up waiting"
  | .settingConsent .. => "setting consent"
  | .methodMissing .. => "method not defined"
  | .methodRunning .. => "running method"
  | .revealFailed .. => "could not unhide element"
  | .stage _ => "engine state"
  | .changesSeen _ => "mutations observed"
  | .detected _ => "CMP detected"
  | .severalDetected _ => "more than one CMP detected, handling the first"
  | .detectionFailed .. => "detection failed, treating CMP as absent"
  | .showing .. => "CMP is showing"
  | .showingFailed .. => "showing check failed"
  | .neverShown _ => "CMP never showed, giving up on it"
  | .actionsSkipped _ => "skipping actions"
  | .progressFailed .. => "could not show progress indicator"
  | .handlingFailed .. => "handling failed, continuing with cleanup"
  | .progressLeft .. => "could not remove progress indicator"
  | .handled _ => "CMP handled"
  | .vendorSkipped .. => "skipping vendor with invalid rules"
  | .methodPassedOver .. => "ignoring unknown lifecycle method"
  | .pageChanged .. => "snapshot mutated"
  | .reported .. => "CMP detected"
  | .nothingReported _ => "no CMP detected within budget"
  | .searchEnded .. => "engine finished"
  | .searchFailed .. => "engine stopped with an error"

/-- A truth value in a notice. -/
def flag (b : Bool) : String := if b then "true" else "false"

/-- The named values of a notice. -/
def fields : Notice → List (String × String)
  | .severalMatches selector count => [("selector", selector), ("matches", toString count)]
  | .executing action depth => [("action", action), ("depth", toString depth)]
  | .clicking target selector openInTab =>
    [("target", target.text), ("selector", selector), ("open_in_tab", flag openInTab)]
  | .nothingToClick selector => [("selector", selector)]
  | .checkFailed selector retries error =>
    [("selector", selector), ("retries", toString retries), ("error", error.message)]
  | .gaveUp selector retries => [("selector", selector), ("retries", toString retries)]
  | .settingConsent category current requested =>
    [("category", category.code)] ++ (current.map fun b => ("current", flag b)).toList ++
      [("requested", flag requested)]
  | .methodMissing vendor method | .methodRunning vendor method =>
    [("cmp", vendor), ("method", method.name)]
  | .revealFailed vendor element error =>
    [("cmp", vendor), ("element", element.text), ("error", error.message)]
  | .stage s => [("state", s.text)]
  | .changesSeen records => [("records", toString records)]
  | .detected vendor | .neverShown vendor | .actionsSkipped vendor | .handled vendor =>
    [("cmp", vendor)]
  | .severalDetected vendors => [("candidates", Text.quotedList vendors)]
  | .detectionFailed vendor error | .progressFailed vendor error | .handlingFailed vendor error
  | .progressLeft vendor error => [("cmp", vendor), ("error", error.message)]
  | .showing vendor attempt => [("cmp", vendor), ("attempt", toString attempt)]
  | .showingFailed vendor attempt error =>
    [("cmp", vendor), ("attempt", toString attempt), ("error", error.message)]
  | .vendorSkipped vendor error => [("cmp", vendor), ("error", error.message)]
  | .methodPassedOver vendor method => [("cmp", vendor), ("method", method)]
  | .pageChanged records observers =>
    [("records", toString records), ("observers", toString observers)]
  | .reported url vendor => [("url", url), ("cmp", vendor)]
  | .nothingReported url => [("url", url)]
  | .searchEnded url tried => [("url", url), ("tried", Text.quotedList tried)]
  | .searchFailed url error => [("url", url), ("error", error.message)]

end Notice
end ConsentWalker
