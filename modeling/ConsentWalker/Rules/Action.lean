import ConsentWalker.Rules.Category
import ConsentWalker.Rules.Query
/-!
# Rules — what is asked and what is done

Matchers are yes-or-no questions to a page, actions the steps of a method, and consents say how one
purpose is switched on or off. Actions and consents hold one another, so they are declared
together. All times are whole milliseconds.
-/

namespace ConsentWalker

/-- A question about the element a query finds. -/
inductive Matcher where
  /-- Is there such an element? -/
  | css (target : Query)
  /-- Is there one, and is it checked? -/
  | checkbox (target : Query)
  deriving Inhabited, Repr

namespace Matcher

/-- The element a question is about. -/
def target : Matcher → Query
  | .css target | .checkbox target => target

/-- The name of a kind of question. -/
def tag : Matcher → String
  | .css _ => "css"
  | .checkbox _ => "checkbox"

end Matcher

/-- A direction to drag in. -/
inductive Axis where
  | x | y
  deriving DecidableEq, Repr

/-- Clicks an element. -/
structure Click where
  target : Query
  openInTab : Bool := false
  /-- The pause after the click; without one the pace of the walk decides. -/
  timeout : Option Nat := none
  deriving Inhabited, Repr

/-- Waits until an element is there, or is gone. -/
structure WaitCss where
  target : Query
  negated : Bool
  retries : Nat
  waitTime : Nat
  deriving Inhabited, Repr

namespace WaitCss

/-- How often a check is repeated when the rules do not say. -/
def defaultRetries : Nat := 10

/-- How long a wait is when the rules do not say. -/
def defaultTime : Nat := 250

end WaitCss

/-- Drags an element to where another one is, along one axis if it is given. -/
structure Slide where
  target : Query
  dragTarget : Query
  axis : Option Axis
  deriving Inhabited, Repr

mutual

/-- A step of a method. -/
inductive Action where
  | click (click : Click)
  | list (steps : List Action)
  | consent (consents : List Consent)
  | ifCss (target : Query) (onTrue onFalse : Option Action)
  | waitCss (wait : WaitCss)
  | forEach (target : Query) (body : Action)
  | hide (target : Query)
  | slide (slide : Slide)
  | close
  | wait (time : Nat)

/-- How one purpose is switched. -/
inductive Consent where
  | mk (category : Category) (description : Option String) (binding : Binding)

/-- The two ways to switch a purpose. -/
inductive Binding where
  /-- Read the state, and toggle only when it differs from what is wanted. -/
  | toggle (matcher : Matcher) (toggle : Action)
  /-- Run the branch for the wanted state, whatever the page shows. -/
  | branch (onTrue onFalse : Option Action)

end

deriving instance Repr for Action, Consent, Binding

instance : Inhabited Action := ⟨.close⟩

namespace Action

/-- The name of a kind of step. -/
def tag : Action → String
  | .click _ => "click"
  | .list _ => "list"
  | .consent _ => "consent"
  | .ifCss .. => "ifcss"
  | .waitCss _ => "waitcss"
  | .forEach .. => "foreach"
  | .hide _ => "hide"
  | .slide _ => "slide"
  | .close => "close"
  | .wait _ => "wait"

/-- A plain click. -/
def clickOn (target : Query) : Action := .click { target }

end Action

namespace Consent

/-- The purpose a consent is about. -/
def category : Consent → Category
  | ⟨c, _, _⟩ => c

/-- What the rules say about it in words. -/
def description : Consent → Option String
  | ⟨_, d, _⟩ => d

/-- How it is switched. -/
def binding : Consent → Binding
  | ⟨_, _, b⟩ => b

/-- A consent that reads the state. -/
def toggle (c : Category) (m : Matcher) (a : Action) : Consent := ⟨c, none, .toggle m a⟩

/-- A consent with a branch for each state. -/
def branch (c : Category) (onTrue onFalse : Option Action) : Consent :=
  ⟨c, none, .branch onTrue onFalse⟩

end Consent
end ConsentWalker
