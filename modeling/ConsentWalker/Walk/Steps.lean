import ConsentWalker.Walk.Finding
/-!
# Walk — steps

What each kind of step does to a page. Steps run strictly one after another, and the first call that
fails ends them, except inside a wait for an element, where a failing check only counts as a check
that did not hold.

A `Walker` is what steps change besides the page: the elements that queries are resolved in, the
innermost first, and the elements hidden so far. `within` puts an element on top for the time of
some steps, and takes it away again however they end.
-/

namespace ConsentWalker

/-- What steps change besides the page. -/
structure Walker where
  /-- The bases of queries, innermost first; without one the whole page is the base. -/
  scope : List Handle := []
  /-- The elements that were to be hidden, in order. -/
  concealed : List Handle := []
  deriving DecidableEq, Repr, Inhabited

/-- Steps, which may fail and keep what they changed up to there. -/
abbrev Steps := ExceptT PageError (StateT Walker Routine)

namespace Steps

variable {α : Type}

/-- A question to the page as a step. -/
def ofLookup (q : Lookup α) : Steps α :=
  ExceptT.mk fun w => do
    let r ← q.run
    return (r, w)

/-- The base of queries. -/
def base : Steps (Option Handle) := do return (← get).scope.head?

/-- Resolves something below the base. -/
def looking (q : Option Handle → Lookup α) : Steps α := do ofLookup (q (← base))

/-- Asks the page as a step. -/
def act (c : Call) : Steps c.Result := ofLookup (ask c)

/-- **Does steps with an element as the base**, and restores the bases however they end. -/
def within (h : Handle) (steps : Steps α) : Steps α :=
  ExceptT.mk fun w => do
    let (r, after) ← steps.run { w with scope := h :: w.scope }
    return (r, { after with scope := after.scope.drop (after.scope.length - w.scope.length) })

/-- Does steps with each of some elements as the base. -/
def withinEach (steps : Steps Unit) : List Handle → Steps Unit
  | [] => return ()
  | h :: rest => do
    within h steps
    withinEach steps rest

end Steps

open Steps

/-! ## Single steps -/

/-- How a wait for an element ended: whether what was waited for came true, and how often it was
checked again. -/
structure WaitOutcome where
  satisfied : Bool
  retries : Nat
  deriving DecidableEq, Repr, Inhabited

/-- Brings an element into view when clicks are paced. -/
def approach (s : Setting) (h : Handle) : Steps Unit :=
  if s.flags.clickDelay then do
    act (.scroll h)
    act (.focus h)
  else return ()

/-- Tells of a click when clicks are traced. -/
def announceClick (s : Setting) (c : Click) (h : Handle) : Steps Unit :=
  if s.flags.debugClicks then tell (.clicking h c.target.selector c.openInTab) else return ()

/-- Clicks what a query found, if it found something. -/
def press (s : Setting) (c : Click) : Option Handle → Steps Unit
  | none => tell (.nothingToClick c.target.selector)
  | some h => do
    approach s h
    announceClick s c h
    act (.click h c.openInTab)

/-- How long the pause after a click is. -/
def Click.pause (s : Setting) (c : Click) : Nat :=
  c.timeout.getD (if s.flags.clickDelay then s.pace.clickDelay else 0)

/-- Clicks the element a query finds, if it finds one, and pauses. -/
def clickStep (s : Setting) (c : Click) : Steps Unit := do
  press s c (← looking c.target.target?)
  if c.pause s ≠ 0 then rest (c.pause s)

/-- Whether a wait is over; a failing check is told and counts as no. -/
def waitIsOver (w : WaitCss) (retries : Nat) (base : Option Handle) : Routine Bool := do
  match ← ((Matcher.css w.target).holds base).run with
  | .ok present => return present != w.negated
  | .error e =>
    tell (.checkFailed w.target.selector retries e)
    return false

/-- Checks until a wait is over, at most so many times more. -/
def waitFrom (w : WaitCss) (base : Option Handle) : Nat → Nat → Routine WaitOutcome
  | left, retries => do
    if ← waitIsOver w retries base then return ⟨true, retries⟩
    else
      match left with
      | 0 =>
        tell (.gaveUp w.target.selector retries)
        return ⟨false, retries⟩
      | left + 1 =>
        rest w.waitTime
        waitFrom w base left (retries + 1)

/-- **Waits until an element is there, or is gone.** It is checked once, and then again as often as
the rules allow. -/
def waitFor (w : WaitCss) (base : Option Handle) : Routine WaitOutcome :=
  waitFrom w base w.retries 0

/-- Hides the element a query finds; it counts as hidden even if the page fails to. -/
def hideStep (target : Query) : Steps Unit := do
  match ← looking target.target? with
  | none => return ()
  | some h =>
    -- noted first, so that a hide that fails is undone too
    modify fun w => { w with concealed := w.concealed ++ [h] }
    act (.setHidden h true)

/-- How far to drag from one rectangle to another, along an axis if one is given. -/
def Slide.distance (axis : Option Axis) (start goal : Rect) : Decimal.Binary × Decimal.Binary :=
  let dx := goal.x - start.x
  let dy := goal.y - start.y
  match axis with
  | some .x => (dx, .zero)
  | some .y => (.zero, dy)
  | none => (dx, dy)

/-- Drags one element to where another one is. -/
def slideStep (s : Setting) (slide : Slide) : Steps Unit := do
  match ← looking slide.target.target? with
  | none => return ()
  | some h =>
    match ← looking slide.dragTarget.target? with
    | none => return ()
    | some goal =>
      let origin ← act (.rect h)
      let aim ← act (.rect goal)
      let (dx, dy) := Slide.distance slide.axis origin aim
      let start := origin.center
      let stop := start.offset dx dy
      act (.pointer h .down start)
      rest s.pace.slideStep
      act (.pointer h .move stop)
      rest s.pace.slideStep
      act (.pointer h .up stop)

/-- Outlines the element of a matcher when matchers are outlined. -/
def outlineIf (s : Setting) (m : Matcher) (wanted : Bool) : Steps Unit :=
  if s.flags.paintMatchers then looking fun base => m.outline base wanted else return ()

/-! ## All steps -/

mutual

/-- **Does a step**, after telling which. -/
def execute (s : Setting) (a : Action) : Steps Unit := do
  tell (.executing a.tag (← get).scope.length)
  match a with
  | .click c => clickStep s c
  | .list steps => executeAll s steps
  | .consent cs => settleAll s cs
  | .ifCss target onTrue onFalse =>
    if ← looking (Matcher.css target).holds then executeIf s onTrue else executeIf s onFalse
  | .waitCss w =>
    let base ← base
    discard (liftM (waitFor w base) : Steps WaitOutcome)
  | .forEach target body =>
    let findings ← looking target.findAll
    withinEach (execute s body) (findings.filterMap Finding.target)
  | .hide target => hideStep target
  | .slide slide => slideStep s slide
  | .close => act .close
  | .wait time => rest time

/-- Does some steps. -/
def executeAll (s : Setting) : List Action → Steps Unit
  | [] => return ()
  | a :: rest => do
    execute s a
    executeAll s rest

/-- Does a step if there is one. -/
def executeIf (s : Setting) : Option Action → Steps Unit
  | none => return ()
  | some a => execute s a

/-- Settles some consents. -/
def settleAll (s : Setting) : List Consent → Steps Unit
  | [] => return ()
  | c :: rest => do
    settle s (s.policy.allows c.category) c
    settleAll s rest

/-- **Brings one purpose into the state that is wanted.** Where the state can be read it is toggled
only when it differs. -/
def settle (s : Setting) (wanted : Bool) : Consent → Steps Unit
  | ⟨category, _, .toggle matcher toggle⟩ => do
    let current ← looking matcher.holds
    tell (.settingConsent category (some current) wanted)
    (if current != wanted then execute s toggle else pure ())
    outlineIf s matcher wanted
  | ⟨category, _, .branch onTrue onFalse⟩ => do
    tell (.settingConsent category none wanted)
    if wanted then executeIf s onTrue else executeIf s onFalse

end
end ConsentWalker
