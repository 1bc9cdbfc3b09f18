import ConsentWalker.Walk.Steps
/-!
# Walk — handling a dialog

What a vendor's rules do to a page: tell whether its dialog is there (`Vendor.detect`) and on screen
(`Vendor.isShowing`), run one method (`Vendor.runMethod`), and handle a dialog from end to end
(`handling`).

**A handling always ends the same way**: whatever failed in it, the dialog is reported, every
element that was hidden is shown again, and the progress message is taken away.
-/

namespace ConsentWalker

namespace Vendor

/-- The first detector whose dialog is in the page. -/
def firstPresent : List Detector → Lookup (Option Detector)
  | [] => return none
  | d :: rest => do
    if ← d.present.holds none then return some d else firstPresent rest

/-- Whether the dialog of a vendor is in the page. -/
def detect (v : Vendor) : Lookup Bool := do
  return (← firstPresent v.detectors).isSome

/-- Whether the dialog of a vendor is on screen. The detector that is asked is the one whose dialog
is in the page now. -/
def isShowing (v : Vendor) : Lookup Bool := do
  match ← firstPresent v.detectors with
  | some d => d.showing.holds none
  | none => return false

/-- Runs a method. One that the vendor does not supply only lets others act. -/
def runMethod (s : Setting) (v : Vendor) (m : Method) : Steps Unit :=
  match v.methods m with
  | none => do
    tell (.methodMissing v.name m)
    stepAside
  | some a => do
    tell (.methodRunning v.name m)
    execute s a

/-- Runs methods, up to the first that fails. -/
def runMethods (s : Setting) (v : Vendor) : List Method → Steps Unit
  | [] => return ()
  | m :: rest => do
    v.runMethod s m
    runMethods s v rest

end Vendor

/-- The methods of a handling, in their order. The dialog is hidden before its options are opened,
and again afterwards. -/
def lifecycle (f : Flags) : List Method :=
  let hide : List Method := if f.skipHideMethod then [] else [.hideCmp]
  let save : List Method := if f.skipSubmit then [] else [.saveConsent]
  hide ++ [.openOptions] ++ hide ++ [.doConsent] ++ save

/-- What is shown while a dialog is handled. -/
def progressMessage : String := "Applying your consent choices..."

/-- Acts that keep a walker and do not fail. -/
abbrev Acts := StateT Walker Routine

/-- Asks the page for something, and tells when it fails. -/
def tryTo (c : Call) (complaint : PageError → Notice) : Acts Unit := do
  match ← (liftM (Routine.attempt c) : Acts (Except PageError c.Result)) with
  | .ok _ => return ()
  | .error e => tell (complaint e)

/-- Does steps, and tells when they fail. -/
def trySteps (steps : Steps Unit) (complaint : PageError → Notice) : Acts Unit := do
  match ← steps.run with
  | .ok () => return ()
  | .error e => tell (complaint e)

namespace Vendor

/-- Shows elements again, one after another. -/
def reveal (v : Vendor) : List Handle → Acts Unit
  | [] => return ()
  | h :: rest => do
    tryTo (.setHidden h false) (.revealFailed v.name h)
    v.reveal rest

/-- Shows every element again that was hidden, and forgets them. -/
def revealAll (v : Vendor) : Acts Unit := do
  -- forgotten before the first reveal, so that none is tried twice
  let hidden := (← get).concealed
  modify fun w => { w with concealed := [] }
  v.reveal hidden

/-- Runs the methods of a handling under a progress message, and says whether it did. -/
def act (s : Setting) (v : Vendor) : Acts Bool := do
  if s.flags.skipActions then
    tell (.actionsSkipped v.name)
    return false
  else
    tryTo (.showProgress progressMessage) (.progressFailed v.name)
    trySteps (v.runMethods s (lifecycle s.flags)) (.handlingFailed v.name)
    return true

/-- Undoes what a handling leaves behind. -/
def cleanUp (v : Vendor) : Acts Unit := do
  v.revealAll
  tryTo .hideProgress (.progressLeft v.name)

/-- **Handles a dialog**, reports it and cleans up. -/
def handling (s : Setting) (v : Vendor) : Acts Unit := do
  stepAside
  let acted ← v.act s
  liftM (Routine.report v.name (.done ()))
  if acted then v.cleanUp

end Vendor
end ConsentWalker
