import ConsentWalker.Walk.Steps
/-!
# Walk — interpretations of steps

Steps are nested in lists, branches, loops and consents, and much is said of them by going through
them once. An `Interpretation` says what each kind of step comes to, given what the steps in it come
to; what whole steps come to follows (`Interpretation.action`). Doing steps is an interpretation,
`execution`, and so is whatever is read off steps alone: the purposes they mention, the waits in
them, the time they may take.

What is proved of all steps is proved of one kind after another. A relation between two
interpretations that every kind respects holds of all steps (`Interpretation.Respects.action`).
-/

namespace ConsentWalker

/-- **What steps are taken to be**: a value for each kind of step, made of the values of the steps
in it. -/
structure Interpretation (D : Type) where
  /-- Where there is no step. -/
  nothing : D
  /-- Steps one after another. -/
  andThen : D → D → D
  /-- A step, which is told before it is done. -/
  announced : String → D → D := fun _ x => x
  click : Click → D
  /-- One of two steps, as an element is there or not. -/
  ifCss : Query → D → D → D
  waitCss : WaitCss → D
  /-- A step in each of some elements. -/
  forEach : Query → D → D
  hide : Query → D
  slide : Slide → D
  close : D
  wait : Nat → D
  /-- A purpose that is switched by a step if it is not as it should be. -/
  toggle : Category → Matcher → D → D
  /-- A purpose that is switched by one of two steps. -/
  branch : Category → D → D → D

namespace Interpretation

variable {D E : Type}

section

variable (I : Interpretation D)

mutual

/-- **What a step comes to**, however steps are nested in it. -/
def action : Action → D
  | .click c => I.announced "click" (I.click c)
  | .list as => I.announced "list" (steps as)
  | .consent cs => I.announced "consent" (consents cs)
  | .ifCss target onTrue onFalse =>
    I.announced "ifcss" (I.ifCss target (option onTrue) (option onFalse))
  | .waitCss w => I.announced "waitcss" (I.waitCss w)
  | .forEach target body => I.announced "foreach" (I.forEach target (action body))
  | .hide target => I.announced "hide" (I.hide target)
  | .slide slide => I.announced "slide" (I.slide slide)
  | .close => I.announced "close" I.close
  | .wait time => I.announced "wait" (I.wait time)

/-- What some steps come to. -/
def steps : List Action → D
  | [] => I.nothing
  | a :: rest => I.andThen (action a) (steps rest)

/-- What a step comes to if there is one. -/
def option : Option Action → D
  | none => I.nothing
  | some a => action a

/-- What some consents come to. -/
def consents : List Consent → D
  | [] => I.nothing
  | c :: rest => I.andThen (consent c) (consents rest)

/-- What a consent comes to. -/
def consent : Consent → D
  | ⟨category, _, .toggle matcher toggle⟩ => I.toggle category matcher (action toggle)
  | ⟨category, _, .branch onTrue onFalse⟩ =>
    I.branch category (option onTrue) (option onFalse)

end

end

/-- **A relation that every kind of step respects**: it holds of what two interpretations make of a
step if it holds of what they make of the steps in it. -/
structure Respects (I : Interpretation D) (J : Interpretation E) (R : D → E → Prop) : Prop where
  nothing : R I.nothing J.nothing
  andThen : ∀ {x y x' y'}, R x x' → R y y' → R (I.andThen x y) (J.andThen x' y')
  announced : ∀ (tag : String) {x x'}, R x x' → R (I.announced tag x) (J.announced tag x')
  click : ∀ c, R (I.click c) (J.click c)
  ifCss : ∀ (target : Query) {x y x' y'}, R x x' → R y y' →
    R (I.ifCss target x y) (J.ifCss target x' y')
  waitCss : ∀ w, R (I.waitCss w) (J.waitCss w)
  forEach : ∀ (target : Query) {x x'}, R x x' → R (I.forEach target x) (J.forEach target x')
  hide : ∀ target, R (I.hide target) (J.hide target)
  slide : ∀ slide, R (I.slide slide) (J.slide slide)
  close : R I.close J.close
  wait : ∀ time, R (I.wait time) (J.wait time)
  toggle : ∀ (category : Category) (matcher : Matcher) (a : Action), R (I.action a) (J.action a) →
    R (I.toggle category matcher (I.action a)) (J.toggle category matcher (J.action a))
  branch : ∀ (category : Category) {x y x' y'}, R x x' → R y y' →
    R (I.branch category x y) (J.branch category x' y')

/-- A property that every kind of step has if the steps in it have it. -/
abbrev Keeps (I : Interpretation D) (P : D → Prop) : Prop := I.Respects I fun x _ => P x

namespace Respects

variable {I : Interpretation D} {J : Interpretation E} {R : D → E → Prop} (h : I.Respects J R)
include h

mutual

/-- **What every kind of step respects holds of all steps.** -/
theorem action : (a : Action) → R (I.action a) (J.action a)
  | .click c => h.announced _ (h.click c)
  | .list as => h.announced _ (steps as)
  | .consent cs => h.announced _ (consents cs)
  | .ifCss target onTrue onFalse =>
    h.announced _ (h.ifCss target (option onTrue) (option onFalse))
  | .waitCss w => h.announced _ (h.waitCss w)
  | .forEach target body => h.announced _ (h.forEach target (action body))
  | .hide target => h.announced _ (h.hide target)
  | .slide slide => h.announced _ (h.slide slide)
  | .close => h.announced _ h.close
  | .wait time => h.announced _ (h.wait time)

/-- Steps one after another are related if single steps are. -/
theorem steps : (as : List Action) → R (I.steps as) (J.steps as)
  | [] => h.nothing
  | a :: rest => h.andThen (action a) (steps rest)

/-- A step that may be missing is related if one that is there is. -/
theorem option : (a : Option Action) → R (I.option a) (J.option a)
  | none => h.nothing
  | some a => action a

/-- Consents one after another are related if single ones are. -/
theorem consents : (cs : List Consent) → R (I.consents cs) (J.consents cs)
  | [] => h.nothing
  | c :: rest => h.andThen (consent c) (consents rest)

/-- A consent is related if what it does to the element or chooses between is. -/
theorem consent : (c : Consent) → R (I.consent c) (J.consent c)
  | ⟨category, _, .toggle matcher toggle⟩ => h.toggle category matcher toggle (action toggle)
  | ⟨category, _, .branch onTrue onFalse⟩ => h.branch category (option onTrue) (option onFalse)

end

end Respects

end Interpretation

/-! ## Doing steps -/

open Steps

/-- **Doing steps**, in a setting. -/
def execution : Interpretation (Setting → Steps Unit) where
  nothing _ := return ()
  andThen x y s := do
    x s
    y s
  announced tag x s := do
    tell (.executing tag (← get).scope.length)
    x s
  click c s := clickStep s c
  ifCss target x y s := do
    if ← looking (Matcher.css target).holds then x s else y s
  waitCss w _ := do
    let base ← base
    discard (liftM (waitFor w base) : Steps WaitOutcome)
  forEach target x s := do
    let findings ← looking target.findAll
    withinEach (x s) (findings.filterMap Finding.target)
  hide target _ := hideStep target
  slide slide s := slideStep s slide
  close _ := act .close
  wait time _ := rest time
  toggle category matcher x s := do
    let wanted := s.policy.allows category
    let current ← looking matcher.holds
    tell (.settingConsent category (some current) wanted)
    (if current != wanted then x s else pure ())
    outlineIf s matcher wanted
  branch category x y s := do
    let wanted := s.policy.allows category
    tell (.settingConsent category none wanted)
    if wanted then x s else y s

section

variable (s : Setting)

mutual

/-- **A step does what the interpretation says.** -/
theorem execute_eq : (a : Action) → execute s a = execution.action a s
  | .click c | .waitCss c | .hide c | .slide c | .wait c => by
    rw [execute]
    rfl
  | .close => by
    rw [execute]
    rfl
  | .list steps => by
    rw [execute, executeAll_eq steps]
    rfl
  | .consent cs => by
    rw [execute, settleAll_eq cs]
    rfl
  | .ifCss target onTrue onFalse => by
    rw [execute, executeIf_eq onTrue, executeIf_eq onFalse]
    rfl
  | .forEach target body => by
    rw [execute, execute_eq body]
    rfl

/-- The steps of a list are run in their order, each as what it means. -/
theorem executeAll_eq : (steps : List Action) → executeAll s steps = execution.steps steps s
  | [] => rfl
  | a :: rest => by
    rw [executeAll, execute_eq a, executeAll_eq rest]
    rfl

theorem executeIf_eq : (a : Option Action) → executeIf s a = execution.option a s
  | none => rfl
  | some a => execute_eq a

/-- The consents of a list are settled in their order, each as what it means. -/
theorem settleAll_eq : (cs : List Consent) → settleAll s cs = execution.consents cs s
  | [] => rfl
  | c :: rest => by
    rw [settleAll, settle_allows_eq c, settleAll_eq rest]
    rfl

theorem settle_allows_eq : (c : Consent) →
    settle s (s.policy.allows c.category) c = execution.consent c s
  | ⟨category, _, .toggle matcher toggle⟩ => by
    rw [settle, execute_eq toggle]
    rfl
  | ⟨category, _, .branch onTrue onFalse⟩ => by
    rw [settle, executeIf_eq onTrue, executeIf_eq onFalse]
    rfl

end

end
end ConsentWalker
