import ConsentWalker.Proofs.Walk.Interpretation
import ConsentWalker.Proofs.Walk.Reading
/-!
# Walk — the courses of steps

Steps carry a walker along and may fail; `Steps.Course` is a course of theirs from one walker to
another. What holds of a walker before and after, together with what was done between, is a
relation `R`, and `Steps.Ensures R` says that it holds of every course, whichever step fails.

Beside hiding, steps do plain acts only, and these change no walker. So `execute_ensures` asks of a
relation no more than `Kept` says: what follows about all steps, however they are nested, follows
from there.
-/

namespace ConsentWalker

namespace Act

/-- The call an act is. -/
def call? : Act → Option Call
  | .call c _ => some c
  | _ => none

theorem eq_call_of_call? {a : Act} {c : Call} (h : a.call? = some c) : ∃ r, a = .call c r := by
  cases a with
  | call c' r =>
    obtain rfl : c' = c := Option.some.inj h
    exact ⟨r, rfl⟩
  | _ => cases h

end Act

/-- A call that steps make beside those that hide: it asks, it acts on an element, or it closes the
page. -/
def Call.IsPlain (c : Call) : Prop :=
  match c.kind with
  | .setHidden | .showProgress | .hideProgress | .observe => False
  | _ => True

/-- An act that steps do beside hiding. -/
def Act.IsPlain : Act → Prop
  | .call c _ => c.IsPlain
  | .note _ | .sleep _ | .pause => True
  | .await .. | .drop _ | .report _ => False

/-- One of these that does not let others act without taking time. -/
def Act.IsDirect : Act → Prop
  | .call c _ => c.IsPlain
  | .note _ | .sleep _ => True
  | .pause | .await .. | .drop _ | .report _ => False

theorem Act.IsDirect.isPlain {a : Act} (ha : a.IsDirect) : a.IsPlain := by
  cases a with
  | call | note | sleep => exact ha
  | _ => exact absurd ha id

/-- Who only looks acts directly. -/
theorem Act.IsLook.isDirect (a : Act) (ha : a.IsLook) : a.IsDirect := by
  cases a with
  | call c r => cases c <;> first | exact True.intro | cases ha
  | note => trivial
  | _ => exact absurd ha id

theorem Act.IsLook.isPlain (a : Act) (ha : a.IsLook) : a.IsPlain := (isDirect a ha).isPlain

theorem Lookup.Looks.isDirect {α : Type} {q : Lookup α} (hq : q.Looks) : q.run.Only Act.IsDirect :=
  Routine.Only.mono hq Act.IsLook.isDirect

namespace History

/-- The calls of a history, in order. -/
def calls (h : History) : List Call := h.filterMap fun m => m.act.call?

@[simp] theorem calls_cons (m : Moment) (h : History) :
    calls (m :: h) = m.act.call?.toList ++ calls h := by
  unfold calls
  rw [List.filterMap_cons]
  cases m.act.call? <;> rfl

/-- The calls of what was done one after another come one after another. -/
@[simp] theorem calls_append (h h' : History) : calls (h ++ h') = calls h ++ calls h' :=
  List.filterMap_append

/-- A call is among those of a history if one of its acts is that call. -/
theorem mem_calls {h : History} {c : Call} : c ∈ h.calls ↔ ∃ m ∈ h, m.act.call? = some c :=
  List.mem_filterMap

end History

namespace Steps

variable {α β : Type} {R : Walker → History → Walker → Prop} {P : Act → Prop}
variable {t t' t₁ : Nat} {h h₁ h₂ : History} {w w' w₁ : Walker}

/-- **A course of steps**, from a walker to an outcome and another walker. -/
def Course (x : Steps α) (w : Walker) (t : Nat) (h : History) (t' : Nat) (r : Except PageError α)
    (w' : Walker) : Prop :=
  (x.run w).Course t h t' (r, w')

/-- A course of steps that come to a value at once has no acts. -/
theorem course_pure {a : α} {r : Except PageError α} :
    (pure a : Steps α).Course w t h t' r w' ↔ h = [] ∧ t' = t ∧ r = .ok a ∧ w' = w := by
  change (Routine.done (Except.ok a, w)).Course t h t' (r, w') ↔ _
  rw [Routine.course_done, Prod.mk.injEq]

/-- Steps one after another run from the walker that the first ones leave, unless those fail. -/
theorem run_bind (x : Steps α) (f : α → Steps β) (w : Walker) :
    (x >>= f).run w = (x.run w).bind fun
      | (.ok a, w₁) => (f a).run w₁
      | (.error e, w₁) => .done (.error e, w₁) := by
  change (x.run w).bind _ = _
  congr 1
  funext ⟨r, w₁⟩
  cases r <;> rfl

/-- **The courses of compound steps**: the first ones fail and nothing else is done, or they do not
and the others follow. -/
theorem course_bind {x : Steps α} {f : α → Steps β} {r : Except PageError β} :
    (x >>= f).Course w t h t' r w' ↔
      (∃ e, x.Course w t h t' (.error e) w' ∧ r = .error e) ∨
        ∃ a w₁ t₁ h₁ h₂, x.Course w t h₁ t₁ (.ok a) w₁ ∧ (f a).Course w₁ t₁ h₂ t' r w' ∧
          h = h₁ ++ h₂ := by
  unfold Course
  rw [run_bind, Routine.course_bind]
  constructor
  · rintro ⟨⟨_ | a, w₁⟩, t₁, h₁, h₂, hx, hf, rfl⟩
    · obtain ⟨rfl, rfl, hr⟩ := Routine.course_done.1 hf
      cases hr
      exact .inl ⟨_, by simpa using hx, rfl⟩
    · exact .inr ⟨a, w₁, t₁, h₁, h₂, hx, hf, rfl⟩
  · rintro (⟨e, hx, rfl⟩ | ⟨a, w₁, t₁, h₁, h₂, hx, hf, rfl⟩)
    · exact ⟨(.error e, w'), t', h, [], hx, by simp, by simp⟩
    · exact ⟨(.ok a, w₁), t₁, h₁, h₂, hx, hf, rfl⟩

theorem run_lift (x : Routine α) (w : Walker) :
    (liftM x : Steps α).run w = x.bind fun a => .done (.ok a, w) := by
  change (x.bind fun a => .done (a, w)).bind (fun p => .done (Except.ok p.1, p.2)) = _
  rw [Routine.bind_assoc]
  rfl

/-- A lifted routine keeps the walker and does not fail. -/
theorem course_lift {x : Routine α} {r : Except PageError α} :
    (liftM x : Steps α).Course w t h t' r w' ↔ ∃ a, x.Course t h t' a ∧ r = .ok a ∧ w' = w := by
  rw [Course, run_lift, Routine.course_bind]
  constructor
  · rintro ⟨a, t₁, h₁, h₂, hx, hd, rfl⟩
    obtain ⟨rfl, rfl, hr⟩ := Routine.course_done.1 hd
    cases hr
    exact ⟨a, by simpa using hx, rfl, rfl⟩
  · rintro ⟨a, hx, rfl, rfl⟩
    exact ⟨a, t', h, [], hx, by simp, by simp⟩

/-- A lookup keeps the walker. -/
theorem course_ofLookup {q : Lookup α} {r : Except PageError α} :
    (ofLookup q).Course w t h t' r w' ↔ q.run.Course t h t' r ∧ w' = w := by
  change (q.run.bind fun a => .done (a, w)).Course t h t' (r, w') ↔ _
  rw [Routine.course_bind]
  constructor
  · rintro ⟨a, t₁, h₁, h₂, hq, hd, rfl⟩
    obtain ⟨rfl, rfl, hr⟩ := Routine.course_done.1 hd
    cases hr
    exact ⟨by simpa using hq, rfl⟩
  · rintro ⟨hq, rfl⟩
    exact ⟨r, t', h, [], hq, by simp, by simp⟩

/-- Steps with an element as the base are those steps from a walker that has it on top, and its
bases are put back. -/
theorem course_within {e : Handle} {x : Steps α} {r : Except PageError α} :
    (within e x).Course w t h t' r w' ↔
      ∃ w₁, x.Course { w with scope := e :: w.scope } t h t' r w₁ ∧
        w' = { w₁ with scope := w₁.scope.drop (w₁.scope.length - w.scope.length) } := by
  change ((x.run { w with scope := e :: w.scope }).bind fun p =>
    .done (p.1, { p.2 with scope := p.2.scope.drop (p.2.scope.length - w.scope.length) })).Course
      t h t' (r, w') ↔ _
  rw [Routine.course_bind]
  constructor
  · rintro ⟨⟨r₁, w₁⟩, t₁, h₁, h₂, hx, hd, rfl⟩
    obtain ⟨rfl, rfl, hr⟩ := Routine.course_done.1 hd
    cases hr
    exact ⟨w₁, by rw [List.append_nil]; exact hx, rfl⟩
  · rintro ⟨w₁, hx, rfl⟩
    exact ⟨(r, w₁), t', h, [], hx, by simp, by simp⟩

/-! ## What holds of every course -/

/-- A relation that holds when nothing is done and can be put together. -/
structure Accrues (R : Walker → History → Walker → Prop) : Prop where
  refl : ∀ w, R w [] w
  trans : ∀ {w w₁ w₂ h₁ h₂}, R w h₁ w₁ → R w₁ h₂ w₂ → R w (h₁ ++ h₂) w₂

/-- **A relation that every course of some steps is in**, whether they fail or not. -/
def Ensures (R : Walker → History → Walker → Prop) (x : Steps α) : Prop :=
  ∀ ⦃w t h t' r w'⦄, x.Course w t h t' r w' → R w h w'

/-- Steps that do nothing ensure whatever holds when nothing is done. -/
theorem ensures_pure (hR : Accrues R) (a : α) : Ensures R (pure a : Steps α) := by
  intro w t h t' r w' hc
  obtain ⟨rfl, -, -, rfl⟩ := course_pure.1 hc
  exact hR.refl w'

/-- A relation that can be put together is ensured by steps one after another if it is by each. -/
theorem Ensures.bind (hR : Accrues R) {x : Steps α} {f : α → Steps β} (hx : Ensures R x)
    (hf : ∀ a, Ensures R (f a)) : Ensures R (x >>= f) := by
  intro w t h t' r w' hc
  rcases course_bind.1 hc with ⟨e, hfirst, -⟩ | ⟨a, w₁, t₁, h₁, h₂, hfirst, hrest, rfl⟩
  · exact hx hfirst
  · exact hR.trans (hx hfirst) (hf a hrest)

/-- A relation that acts of one kind keep is ensured by every routine of such acts. -/
theorem ensures_lift (hP : ∀ w h, (∀ m ∈ h, P m.act) → R w h w) {x : Routine α} (hx : x.Only P) :
    Ensures R (liftM x : Steps α) := by
  intro w t h t' r w' hc
  obtain ⟨a, hlift, -, rfl⟩ := course_lift.1 hc
  exact hP _ _ (hx.leads hlift).1

/-- And by every lookup. -/
theorem ensures_ofLookup (hP : ∀ w h, (∀ m ∈ h, P m.act) → R w h w) {q : Lookup α}
    (hq : q.run.Only P) : Ensures R (ofLookup q) := by
  intro w t h t' r w' hc
  obtain ⟨hlook, rfl⟩ := course_ofLookup.1 hc
  exact hP _ _ (hq.leads hlook).1

/-- A relation that a pause keeps is ensured by letting others act. -/
theorem ensures_stepAside (hpause : ∀ w t, R w [⟨t, .pause⟩] w) :
    Ensures R (ConsentWalker.stepAside : Steps Unit) := by
  intro w t h t' r w' hc
  obtain ⟨a, hlift, -, rfl⟩ := course_lift.1 hc
  obtain ⟨h₁, rfl, hd⟩ := Routine.course_pause.1 hlift
  obtain ⟨rfl, -, -⟩ := Routine.course_done.1 hd
  exact hpause _ _

/-! ## What all steps keep

Whatever steps do beside hiding is plain: it changes no walker. So a relation that plain acts keep,
that grows by a hide as the walker does, and that does not mind a base being taken away again, is
ensured by every step. No step lets others act without taking time: only a method that is missing
does. -/

/-- A relation that **single steps keep**. -/
structure Kept (R : Walker → History → Walker → Prop) : Prop extends Accrues R where
  direct : ∀ w h, (∀ m ∈ h, m.act.IsDirect) → R w h w
  hide : ∀ w t e r,
    R w [⟨t, .call (.setHidden e true) r⟩] { w with concealed := w.concealed ++ [e] }
  within : ∀ {w h w₁} (e : Handle), R { w with scope := e :: w.scope } h w₁ →
    R w h { w₁ with scope := w₁.scope.drop (w₁.scope.length - w.scope.length) }

namespace Kept

variable (hR : Kept R)
include hR

theorem pure (a : α) : Ensures R (Pure.pure a : Steps α) := ensures_pure hR.toAccrues a

theorem bind {x : Steps α} {f : α → Steps β} (hx : Ensures R x) (hf : ∀ a, Ensures R (f a)) :
    Ensures R (x >>= f) :=
  hx.bind hR.toAccrues hf

/-- A routine of direct acts keeps what single steps keep. -/
theorem lift {x : Routine α} (hx : x.Only Act.IsDirect) : Ensures R (liftM x : Steps α) :=
  ensures_lift hR.direct hx

theorem tell (n : Notice) : Ensures R (ConsentWalker.tell n : Steps Unit) :=
  hR.lift (x := Routine.tell n) ⟨trivial, trivial⟩

theorem rest (time : Nat) : Ensures R (ConsentWalker.rest time : Steps Unit) :=
  hR.lift (x := Routine.rest time) ⟨trivial, trivial⟩

theorem get : Ensures R (MonadState.get : Steps Walker) := by
  intro w t h t' r w' hc
  obtain ⟨rfl, -, hr⟩ := Routine.course_done.1 hc
  cases hr
  exact hR.refl w

theorem base : Ensures R Steps.base :=
  hR.bind hR.get fun _ => hR.pure _

/-- Looking for something below the base keeps what single steps keep. -/
theorem looking {q : Option Handle → Lookup α} (hq : ∀ base, (q base).run.Only Act.IsDirect) :
    Ensures R (Steps.looking q) :=
  hR.bind hR.base fun base => ensures_ofLookup hR.direct (hq base)

/-- A plain call keeps what single steps keep. -/
theorem act {c : Call} (hc : c.IsPlain) : Ensures R (Steps.act c) :=
  ensures_ofLookup hR.direct fun _ => ⟨hc, trivial⟩

/-- The rounds of a loop keep what their steps do, since each round puts its base back. -/
theorem withinEach {x : Steps Unit} (hx : Ensures R x) (es : List Handle) :
    Ensures R (Steps.withinEach x es) := by
  induction es with
  | nil => exact hR.pure _
  | cons e rest ih =>
    refine hR.bind (fun w t h t' r w' hc => ?_) fun _ => ih
    obtain ⟨w₁, hc₁, rfl⟩ := course_within.1 hc
    exact hR.within e (hx hc₁)

end Kept

/-- **Every step leaves the bases as they were.** -/
theorem kept_scope : Kept fun w _ w' => w'.scope = w.scope where
  refl _ := rfl
  trans h₁ h₂ := h₂.trans h₁
  direct _ _ _ := rfl
  hide _ _ _ _ := rfl
  within {w h w₁} e hw := by
    dsimp only at *
    rw [hw]
    simp

end Steps

open Steps

/-! ### Single steps -/

section

variable {R : Walker → History → Walker → Prop} (hR : Kept R)
include hR

/-- Scrolling to an element and focusing it keeps what single steps keep. -/
theorem approach_ensures (s : Setting) (h : Handle) : Ensures R (approach s h) := by
  unfold approach
  split
  · exact hR.bind (hR.act trivial) fun _ => hR.act trivial
  · exact hR.pure _

theorem announceClick_ensures (s : Setting) (c : Click) (h : Handle) :
    Ensures R (announceClick s c h) := by
  unfold announceClick
  split
  · exact hR.tell _
  · exact hR.pure _

/-- So does pressing what was found. -/
theorem press_ensures (s : Setting) (c : Click) (found : Option Handle) :
    Ensures R (press s c found) := by
  cases found with
  | none => exact hR.tell _
  | some h =>
    exact hR.bind (approach_ensures hR s h) fun _ =>
      hR.bind (announceClick_ensures hR s c h) fun _ => hR.act trivial

theorem clickStep_ensures (s : Setting) (c : Click) : Ensures R (clickStep s c) := by
  refine hR.bind (hR.looking fun base => (c.target.target?_looks base).isDirect) fun found => ?_
  refine hR.bind (press_ensures hR s c found) fun _ => ?_
  split
  · exact hR.rest _
  · exact hR.pure _

/-- **A hide notes its element before it asks for it**, so that the note is there also when the page
fails. -/
theorem hideStep_ensures (target : Query) : Ensures R (hideStep target) := by
  refine hR.bind (hR.looking fun base => (target.target?_looks base).isDirect) fun found => ?_
  cases found with
  | none => exact hR.pure _
  | some e =>
    intro w t h t' r w' hc
    change (Routine.call (.setHidden e true) fun r => .done
      (r, { w with concealed := w.concealed ++ [e] })).Course t h t' (r, w') at hc
    obtain ⟨r₁, h₁, rfl, hd⟩ := Routine.course_call.1 hc
    obtain ⟨rfl, rfl, hr⟩ := Routine.course_done.1 hd
    cases hr
    exact hR.hide w _ e _

/-- So does a slide, with the gestures of the pointer and the rests between them. -/
theorem slideStep_ensures (s : Setting) (slide : Slide) : Ensures R (slideStep s slide) := by
  refine hR.bind (hR.looking fun base => (slide.target.target?_looks base).isDirect)
    fun found => ?_
  cases found with
  | none => exact hR.pure _
  | some e =>
    refine hR.bind (hR.looking fun base => (slide.dragTarget.target?_looks base).isDirect)
      fun goal => ?_
    cases goal with
    | none => exact hR.pure _
    | some g =>
      refine hR.bind (hR.act trivial) fun origin => ?_
      refine hR.bind (hR.act trivial) fun aim => ?_
      refine hR.bind (hR.act trivial) fun _ => ?_
      refine hR.bind (hR.rest _) fun _ => ?_
      refine hR.bind (hR.act trivial) fun _ => ?_
      exact hR.bind (hR.rest _) fun _ => hR.act trivial

end

theorem waitIsOver_isDirect (wait : WaitCss) (retries : Nat) (base : Option Handle) :
    (waitIsOver wait retries base).Only Act.IsDirect := by
  refine Routine.Only.bind ((Matcher.css wait.target).holds_looks base).isDirect fun r => ?_
  cases r with
  | ok b => trivial
  | error e => exact ⟨trivial, trivial⟩

/-- A wait looks, tells and rests, and does nothing else. -/
theorem waitFrom_isDirect (wait : WaitCss) (base : Option Handle) (left retries : Nat) :
    (waitFrom wait base left retries).Only Act.IsDirect := by
  induction left generalizing retries with
  | zero =>
    refine Routine.Only.bind (waitIsOver_isDirect wait retries base) fun ready => ?_
    split
    · trivial
    · exact ⟨trivial, trivial⟩
  | succ left ih =>
    refine Routine.Only.bind (waitIsOver_isDirect wait retries base) fun ready => ?_
    split
    · trivial
    · exact ⟨trivial, ih (retries + 1)⟩

/-- An outline looks and paints, and does nothing else. -/
theorem outline_isDirect (m : Matcher) (base : Option Handle) (wanted : Bool) :
    (m.outline base wanted).run.Only Act.IsDirect := by
  refine Lookup.only_bind (m.target.target?_looks base).isDirect fun found => ?_
  cases found with
  | none => trivial
  | some h => exact Lookup.only_bind (m.state_looks h).isDirect fun b r => ⟨trivial, trivial⟩

section

variable {R : Walker → History → Walker → Prop} (hR : Kept R)
include hR

theorem outlineIf_ensures (s : Setting) (m : Matcher) (wanted : Bool) :
    Ensures R (outlineIf s m wanted) := by
  unfold outlineIf
  split
  · exact hR.looking fun base => outline_isDirect m base wanted
  · exact hR.pure _

/-! ### All steps -/

/-- Telling first which step is done changes nothing here. -/
theorem ensures_announced {α : Type} {n : Walker → Notice} {x : Steps α} (hx : Ensures R x) :
    Ensures R (do tell (n (← get)); x : Steps α) :=
  hR.bind hR.get fun _ => hR.bind (hR.tell _) fun _ => hx

/-- Every kind of step ensures what single steps keep, if the steps in it do. -/
theorem execution_ensures (s : Setting) : execution.Keeps fun x => Ensures R (x s) where
  nothing := hR.pure ()
  andThen hx hy := hR.bind hx fun _ => hy
  announced _ _ _ hx := ensures_announced hR hx
  click c := clickStep_ensures hR s c
  ifCss target _ _ _ _ hx hy := by
    refine hR.bind (hR.looking fun base => ((Matcher.css target).holds_looks base).isDirect)
      fun present => ?_
    split
    · exact hx
    · exact hy
  waitCss w := hR.bind hR.base fun base =>
    hR.bind (hR.lift (waitFrom_isDirect w base _ _)) fun _ => hR.pure _
  forEach target _ _ hx :=
    hR.bind (hR.looking fun base => (target.findAll_looks base).isDirect) fun _ =>
      hR.withinEach hx _
  hide target := hideStep_ensures hR target
  slide slide := slideStep_ensures hR s slide
  close := hR.act trivial
  wait time := hR.rest time
  toggle category matcher a ha := by
    refine hR.bind (hR.looking fun base => (matcher.holds_looks base).isDirect)
      fun current => hR.bind (hR.tell _) fun _ => hR.bind ?_ fun _ =>
        outlineIf_ensures hR s matcher _
    split
    · exact ha
    · exact hR.pure _
  branch category _ _ _ _ hx hy := by
    refine hR.bind (hR.tell _) fun _ => ?_
    split
    · exact hx
    · exact hy

/-- **Every step ensures what single steps keep**, however steps are nested in one another. -/
theorem execute_ensures (s : Setting) (a : Action) : Ensures R (execute s a) := by
  rw [execute_eq]
  exact (execution_ensures hR s).action a

/-- **So does a method**, supplied or not, if pauses keep it too. -/
theorem Vendor.runMethod_ensures (hpause : ∀ w t, R w [⟨t, .pause⟩] w) (s : Setting) (v : Vendor)
    (m : Method) : Ensures R (v.runMethod s m) := by
  unfold Vendor.runMethod
  split
  · exact hR.bind (hR.tell _) fun _ => ensures_stepAside hpause
  · exact hR.bind (hR.tell _) fun _ => execute_ensures hR s _

end
end ConsentWalker
