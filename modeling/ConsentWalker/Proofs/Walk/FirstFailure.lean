import ConsentWalker.Proofs.Walk.Alone
import ConsentWalker.Proofs.Walk.Stepping
/-!
# Walk — the first failure

Steps run strictly one after another, and the first call that fails ends them: it is the last thing
they do, and its error is what they come to (`execute_fails_fast`). So it is with the lookups they
are made of, along the parents of a query and inside its matches.

The one exception are waits for elements, whose checks may fail without ending anything.
`Routine.Outside` goes through a course and leaves out what is done while a wait is under way.
-/

namespace ConsentWalker

/-! ## Failures -/

/-- The error a call failed with. -/
def Act.failure? : Act → Option PageError
  | .call _ (.error e) => some e
  | _ => none

/-- No call failed. -/
def History.Answered (h : History) : Prop := ∀ m ∈ h, m.act.failure? = none

/-- **What is done by who stops at the first failure**, in all and outside of waits: nothing fails,
or what fails is the last thing done and its error is the result. -/
inductive History.Stops {α : Type} : History → History → Except PageError α → Prop where
  | ok {h b : History} {a : α} : b.Answered → Stops h b (.ok a)
  | error {h b : History} {t : Nat} {c : Call} {e : PageError} : b.Answered →
      Stops (h ++ [⟨t, .call c (.error e)⟩]) (b ++ [⟨t, .call c (.error e)⟩]) (.error e)

namespace History

variable {α β : Type} {h h' b b' : History} {r : Except PageError α}

theorem answered_nil : Answered [] := fun _ hm => absurd hm List.not_mem_nil

theorem answered_act {m : Moment} (hm : m.act.failure? = none) : Answered [m] :=
  List.forall_mem_singleton.2 hm

/-- Who stops with a value had no call fail. -/
theorem Stops.answered {a : α} (hs : Stops h b (.ok a)) : b.Answered := by
  cases hs with
  | ok hb => exact hb

/-- An error is passed on as it is. -/
theorem Stops.pass {e : PageError} (hs : Stops h b (.error e : Except PageError α)) :
    Stops h b (.error e : Except PageError β) := by
  cases hs with
  | error hb => exact .error hb

/-- What stops still stops after more was done of which nothing failed. -/
theorem Answered.stops (hb : b.Answered) (hs : Stops h' b' r) : Stops (h ++ h') (b ++ b') r := by
  cases hs with
  | ok hb' => exact .ok (List.forall_mem_append.2 ⟨hb, hb'⟩)
  | error hb' =>
    rw [← List.append_assoc, ← List.append_assoc]
    exact .error (List.forall_mem_append.2 ⟨hb, hb'⟩)

end History

/-! ## Outside of waits -/

/-- **A course of a routine, and what is done in it outside of waits for elements**: where a wait
and something after it is all that is left to do, what is done in the wait is left out. -/
inductive Routine.Outside {α : Type} (ws : List WaitCss) :
    Routine α → Nat → History → History → Nat → α → Prop where
  | done (a : α) (t : Nat) : Outside ws (.done a) t [] [] t a
  | act {r r₁ : Routine α} {m : Moment} {t t₁ t' : Nat} {h b : History} {a : α} : r.Does t m t₁ r₁ →
      Outside ws r₁ t₁ h b t' a → Outside ws r t (m :: h) (m :: b) t' a
  | wait {w : WaitCss} {base : Option Handle} {f : WaitOutcome → Routine α} {t t₁ t' : Nat}
      {checks h b : History} {outcome : WaitOutcome} {a : α} : w ∈ ws →
      (waitFor w base).Course t checks t₁ outcome → Outside ws (f outcome) t₁ h b t' a →
      Outside ws ((waitFor w base).bind f) t (checks ++ h) b t' a

namespace Routine

variable {α β : Type} {ws : List WaitCss} {r : Routine α} {t t' t₁ : Nat} {h h' b b' : History}
  {a : α}

/-- Where there are no waits, everything is done outside of them. -/
theorem Course.outside (hc : r.Course t h t' a) : r.Outside ws t h h t' a := by
  induction h generalizing r t with
  | nil =>
    cases hc with
    | refl => exact .done _ _
  | cons m h ih =>
    cases hc with
    | step hd hl => exact .act hd (ih hl)

/-- What is done outside of waits by routines one after another is put together. -/
theorem Outside.bind {f : α → Routine β} {a' : β} (hr : r.Outside ws t h b t₁ a)
    (hf : (f a).Outside ws t₁ h' b' t' a') : (r.bind f).Outside ws t (h ++ h') (b ++ b') t' a' := by
  induction hr with
  | done => exact hf
  | act hd _ ih => exact .act (hd.bind f) (ih hf)
  | wait hw hc _ ih =>
    rw [bind_assoc, List.append_assoc]
    exact .wait hw hc (ih hf)

/-- What is made of a result in the end is no act. -/
theorem Outside.map {g : α → β} (hr : r.Outside ws t h b t' a) :
    (r.bind fun a => .done (g a)).Outside ws t h b t' (g a) := by
  have hbind := hr.bind (f := fun a => .done (g a)) (.done (g a) t')
  rw [List.append_nil, List.append_nil] at hbind
  exact hbind

end Routine

open History

variable {α β : Type} {ws : List WaitCss}

/-! ## Lookups -/

/-- **A lookup that ends with the first call that fails.** -/
def Lookup.FailsFast (q : Lookup α) : Prop := ∀ ⦃t h t' r⦄, q.run.Course t h t' r → Stops h h r

namespace Lookup

theorem failsFast_pure (a : α) : FailsFast (pure a : Lookup α) := by
  intro t h t' r hc
  obtain ⟨rfl, -, rfl⟩ := Routine.course_done.1 hc
  exact .ok answered_nil

theorem failsFast_ask (c : Call) : FailsFast (ask c) := by
  intro t h t' r hc
  obtain ⟨answer, h₁, rfl, hd⟩ := Routine.course_call.1 hc
  obtain ⟨rfl, -, rfl⟩ := Routine.course_done.1 hd
  cases r with
  | ok a => exact .ok (answered_act rfl)
  | error e => exact .error (h := []) answered_nil

theorem failsFast_tell (n : Notice) : FailsFast (tell n : Lookup Unit) := by
  intro t h t' r hc
  obtain ⟨h₁, rfl, hd⟩ := Routine.course_note.1 hc
  obtain ⟨rfl, -, rfl⟩ := Routine.course_done.1 hd
  exact .ok (answered_act rfl)

/-- Lookups that fail fast, one after another: if the first fails, the second is not made. -/
theorem FailsFast.bind {q : Lookup α} {f : α → Lookup β} (hq : q.FailsFast)
    (hf : ∀ a, (f a).FailsFast) :
    FailsFast (q >>= f) := by
  intro t h t' r hc
  rw [ExceptT.run_bind] at hc
  obtain ⟨x, t₁, h₁, h₂, hfirst, hrest, rfl⟩ := Routine.course_bind.1 hc
  cases x with
  | ok a => exact (hq hfirst).answered.stops (hf a hrest)
  | error e =>
    obtain ⟨rfl, -, rfl⟩ := Routine.course_done.1 hrest
    rw [List.append_nil]
    exact (hq hfirst).pass

/-- **All lookups fail fast**, since they are put together of questions. -/
theorem failsFast_hereditary : Hereditary @FailsFast where
  pure := failsFast_pure
  ask _ := failsFast_ask _
  tell := failsFast_tell
  bind := FailsFast.bind

end Lookup

open Lookup

/-- Looking for one element fails fast, along the parents of the query and inside its matches. -/
theorem Query.target?_failsFast (q : Query) (base : Option Handle) : (q.target? base).FailsFast :=
  failsFast_hereditary.target? q base

namespace Matcher

theorem state_failsFast (m : Matcher) (h : Handle) : (m.state h).FailsFast := by
  cases m with
  | css => exact failsFast_pure _
  | checkbox => exact failsFast_ask _

/-- Whether a matcher holds is found out fast or not at all. -/
theorem holds_failsFast (m : Matcher) (base : Option Handle) : (m.holds base).FailsFast := by
  refine (m.target.target?_failsFast base).bind fun found => ?_
  cases found with
  | none => exact failsFast_pure _
  | some h => exact m.state_failsFast h

/-- Outlining fails fast, so that a paint that fails ends the step that it is for. -/
theorem outline_failsFast (m : Matcher) (base : Option Handle) (wanted : Bool) :
    (m.outline base wanted).FailsFast := by
  refine (m.target.target?_failsFast base).bind fun found => ?_
  cases found with
  | none => exact failsFast_pure _
  | some h => exact (m.state_failsFast h).bind fun _ => failsFast_ask _

end Matcher

/-! ## Steps -/

/-- **Steps that end with the first call that fails**, but for what they do in waits for
elements. -/
def Steps.FailsFast (ws : List WaitCss) (x : Steps α) : Prop :=
  ∀ ⦃w t h t' r w'⦄, x.Course w t h t' r w' →
    ∃ b, (x.run w).Outside ws t h b t' (r, w') ∧ Stops h b r

namespace Steps

theorem failsFast_pure (a : α) : FailsFast ws (pure a : Steps α) := by
  intro w t h t' r w' hc
  obtain ⟨rfl, rfl, rfl, rfl⟩ := course_pure.1 hc
  exact ⟨[], .done _ _, .ok answered_nil⟩

/-- Steps that fail fast, one after another: if the first fail, the second are not done. -/
theorem FailsFast.bind {x : Steps α} {f : α → Steps β} (hx : x.FailsFast ws)
    (hf : ∀ a, (f a).FailsFast ws) : FailsFast ws (x >>= f) := by
  intro w t h t' r w' hc
  rw [run_bind]
  rcases course_bind.1 hc with ⟨e, hfirst, rfl⟩ | ⟨a, w₁, t₁, h₁, h₂, hfirst, hrest, rfl⟩
  · obtain ⟨b, hout, hstops⟩ := hx hfirst
    refine ⟨b, ?_, hstops.pass⟩
    rw [← List.append_nil h, ← List.append_nil b]
    exact hout.bind (.done _ _)
  · obtain ⟨b₁, hout₁, hstops₁⟩ := hx hfirst
    obtain ⟨b₂, hout₂, hstops₂⟩ := hf a hrest
    exact ⟨b₁ ++ b₂, hout₁.bind hout₂, hstops₁.answered.stops hstops₂⟩

/-- Steps that do no more than to look at a walker, or to change one. -/
theorem failsFast_of_done {x : Steps α} (hx : ∀ w, ∃ a w', x.run w = .done (.ok a, w')) :
    FailsFast ws x := by
  intro w t h t' r w' hc
  obtain ⟨a, w₁, hrun⟩ := hx w
  unfold Course at hc
  rw [hrun] at hc ⊢
  obtain ⟨rfl, rfl, hr⟩ := Routine.course_done.1 hc
  cases hr
  exact ⟨[], .done _ _, .ok answered_nil⟩

theorem failsFast_get : FailsFast ws (get : Steps Walker) := failsFast_of_done fun w => ⟨w, w, rfl⟩

theorem failsFast_modify (f : Walker → Walker) : FailsFast ws (modify f : Steps Unit) :=
  failsFast_of_done fun w => ⟨(), f w, rfl⟩

/-- A lookup that fails fast does so as a step. -/
theorem failsFast_ofLookup {q : Lookup α} (hq : q.FailsFast) : FailsFast ws (ofLookup q) := by
  intro w t h t' r w' hc
  obtain ⟨hcourse, rfl⟩ := course_ofLookup.1 hc
  exact ⟨h, hcourse.outside.map, hq hcourse⟩

theorem failsFast_tell (n : Notice) : FailsFast ws (tell n : Steps Unit) := by
  intro w t h t' r w' hc
  obtain ⟨a, hlift, rfl, rfl⟩ := course_lift.1 hc
  obtain ⟨h₁, rfl, hd⟩ := Routine.course_note.1 hlift
  obtain ⟨rfl, -, -⟩ := Routine.course_done.1 hd
  exact ⟨_, hc.outside, .ok (answered_act rfl)⟩

theorem failsFast_rest (time : Nat) : FailsFast ws (rest time : Steps Unit) := by
  intro w t h t' r w' hc
  obtain ⟨a, hlift, rfl, rfl⟩ := course_lift.1 hc
  obtain ⟨h₁, rfl, hd⟩ := Routine.course_sleep.1 hlift
  obtain ⟨rfl, -, -⟩ := Routine.course_done.1 hd
  exact ⟨_, hc.outside, .ok (answered_act rfl)⟩

theorem failsFast_act (c : Call) : FailsFast ws (act c) := failsFast_ofLookup (failsFast_ask c)

theorem failsFast_base : FailsFast ws base := failsFast_get.bind fun _ => failsFast_pure _

/-- Steps look for something below their base, and fail fast if that does. -/
theorem failsFast_looking {q : Option Handle → Lookup α} (hq : ∀ base, (q base).FailsFast) :
    FailsFast ws (looking q) :=
  failsFast_base.bind fun base => failsFast_ofLookup (hq base)

/-- Steps fail fast inside an element too: putting the bases back is no act. -/
theorem FailsFast.within {x : Steps α} (hx : x.FailsFast ws) (e : Handle) :
    FailsFast ws (within e x) := by
  intro w t h t' r w' hc
  obtain ⟨w₁, hc₁, rfl⟩ := course_within.1 hc
  obtain ⟨b, hout, hstops⟩ := hx hc₁
  exact ⟨b, hout.map, hstops⟩

/-- The rounds of a loop fail fast: the one that fails is the last. -/
theorem FailsFast.withinEach {x : Steps Unit} (hx : x.FailsFast ws) (es : List Handle) :
    FailsFast ws (withinEach x es) := by
  induction es with
  | nil => exact failsFast_pure _
  | cons e rest ih => exact (hx.within e).bind fun _ => ih

end Steps

open Steps

/-! ### Single steps -/

/-- Scrolling to an element and focusing it fails fast. -/
theorem approach_failsFast (s : Setting) (h : Handle) : (approach s h).FailsFast ws := by
  unfold approach
  split
  · exact (failsFast_act _).bind fun _ => failsFast_act _
  · exact Steps.failsFast_pure _

theorem announceClick_failsFast (s : Setting) (c : Click) (h : Handle) :
    (announceClick s c h).FailsFast ws := by
  unfold announceClick
  split
  · exact Steps.failsFast_tell _
  · exact Steps.failsFast_pure _

/-- Pressing what was found fails fast; where nothing was found it does nothing. -/
theorem press_failsFast (s : Setting) (c : Click) (found : Option Handle) :
    (press s c found).FailsFast ws := by
  cases found with
  | none => exact Steps.failsFast_tell _
  | some h =>
    exact (approach_failsFast s h).bind fun _ => (announceClick_failsFast s c h).bind fun _ =>
      failsFast_act _

theorem clickStep_failsFast (s : Setting) (c : Click) : (clickStep s c).FailsFast ws := by
  refine (failsFast_looking c.target.target?_failsFast).bind fun found => ?_
  refine (press_failsFast s c found).bind fun _ => ?_
  split
  · exact failsFast_rest _
  · exact Steps.failsFast_pure _

/-- Hiding fails fast, and what it has noted by then makes no difference. -/
theorem hideStep_failsFast (target : Query) : (hideStep target).FailsFast ws := by
  refine (failsFast_looking target.target?_failsFast).bind fun found => ?_
  cases found with
  | none => exact Steps.failsFast_pure _
  | some e => exact (failsFast_modify _).bind fun _ => failsFast_act _

/-- A slide fails fast, between any two of its gestures. -/
theorem slideStep_failsFast (s : Setting) (slide : Slide) : (slideStep s slide).FailsFast ws := by
  refine (failsFast_looking slide.target.target?_failsFast).bind fun found => ?_
  cases found with
  | none => exact Steps.failsFast_pure _
  | some e =>
    refine (failsFast_looking slide.dragTarget.target?_failsFast).bind fun goal => ?_
    cases goal with
    | none => exact Steps.failsFast_pure _
    | some g =>
      refine (failsFast_act _).bind fun origin => ?_
      refine (failsFast_act _).bind fun aim => ?_
      refine (failsFast_act _).bind fun _ => ?_
      refine (failsFast_rest _).bind fun _ => ?_
      refine (failsFast_act _).bind fun _ => ?_
      exact (failsFast_rest _).bind fun _ => failsFast_act _

theorem outlineIf_failsFast (s : Setting) (m : Matcher) (wanted : Bool) :
    (outlineIf s m wanted).FailsFast ws := by
  unfold outlineIf
  split
  · exact failsFast_looking fun base => m.outline_failsFast base wanted
  · exact Steps.failsFast_pure _

/-! ### All steps -/

/-- The waits for elements in steps. -/
def waiting : Interpretation (List WaitCss) where
  nothing := []
  andThen := (· ++ ·)
  click _ := []
  ifCss _ := (· ++ ·)
  waitCss wait := [wait]
  forEach _ body := body
  hide _ := []
  slide _ := []
  close := []
  wait _ := []
  toggle _ _ toggle := toggle
  branch _ := (· ++ ·)

/-- **The waits for elements in a step**, however they are nested. -/
def Action.waits (a : Action) : List WaitCss := waiting.action a

/-- Telling first which step is done fails nothing. -/
theorem failsFast_announced {n : Walker → Notice} {x : Steps α} (hx : x.FailsFast ws) :
    FailsFast ws (do tell (n (← get)); x : Steps α) :=
  failsFast_get.bind fun _ => (Steps.failsFast_tell _).bind fun _ => hx

/-- **A wait fails nothing**, whatever its checks come to. -/
theorem waitFor_failsFast {wait : WaitCss} (hw : wait ∈ ws) (base : Option Handle) :
    (liftM (waitFor wait base) : Steps WaitOutcome).FailsFast ws := by
  intro w t h t' r w' hc
  obtain ⟨outcome, hcourse, rfl, rfl⟩ := course_lift.1 hc
  have hout :=
    Routine.Outside.wait (f := fun a => .done (Except.ok (ε := PageError) a, w')) hw hcourse
      (.done _ t')
  rw [List.append_nil] at hout
  rw [run_lift]
  exact ⟨[], hout, .ok answered_nil⟩

/-- Every kind of step ends with the first call that fails, if the steps in it do. -/
theorem execution_failsFast (s : Setting) :
    execution.Respects waiting fun x waits => waits ⊆ ws → (x s).FailsFast ws where
  nothing _ := Steps.failsFast_pure _
  andThen hx hy hws := by
    obtain ⟨hfirst, hrest⟩ := List.append_subset.1 hws
    exact (hx hfirst).bind fun _ => hy hrest
  announced _ _ _ hx hws := failsFast_announced (hx hws)
  click c _ := clickStep_failsFast s c
  ifCss target _ _ _ _ hx hy hws := by
    obtain ⟨htrue, hfalse⟩ := List.append_subset.1 hws
    refine (failsFast_looking (Matcher.css target).holds_failsFast).bind fun present => ?_
    split
    · exact hx htrue
    · exact hy hfalse
  waitCss w hws := failsFast_base.bind fun base =>
    (waitFor_failsFast (hws (List.mem_singleton.2 rfl)) base).bind fun _ => Steps.failsFast_pure _
  forEach target _ _ hx hws :=
    (failsFast_looking (failsFast_hereditary.resolve true target)).bind fun _ =>
      (hx hws).withinEach _
  hide target _ := hideStep_failsFast target
  slide slide _ := slideStep_failsFast s slide
  close _ := failsFast_act _
  wait time _ := failsFast_rest time
  toggle category matcher a ha hws := by
    refine (failsFast_looking matcher.holds_failsFast).bind fun current =>
      (Steps.failsFast_tell _).bind fun _ => FailsFast.bind ?_ fun _ =>
        outlineIf_failsFast s matcher _
    split
    · exact ha hws
    · exact Steps.failsFast_pure _
  branch category _ _ _ _ hx hy hws := by
    obtain ⟨htrue, hfalse⟩ := List.append_subset.1 hws
    refine (Steps.failsFast_tell _).bind fun _ => ?_
    split
    · exact hx htrue
    · exact hy hfalse

/-- **Every step ends with the first call that fails**, however steps are nested in one another. -/
theorem execute_failsFast (s : Setting) (a : Action) (hws : a.waits ⊆ ws) :
    (execute s a).FailsFast ws := by
  rw [execute_eq]
  exact (execution_failsFast s).action a hws

/-- **Steps fail fast**, whatever the page answers and whoever else acts meanwhile. Of what is done
outside of waits for elements either nothing fails, and neither do the steps, or one call does,
after which nothing at all is done, and the steps come to its error. -/
theorem execute_fails_fast {s : Setting} {a : Action} {w w' : Walker} {t t' : Nat} {h : History}
    {r : Except PageError Unit} (hc : (execute s a).Course w t h t' r w') :
    ∃ b, ((execute s a).run w).Outside a.waits t h b t' (r, w') ∧
      (b.Answered ∧ r = .ok () ∨
      ∃ (before front : History) (t₁ : Nat) (c : Call) (e : PageError),
        h = before ++ [⟨t₁, .call c (.error e)⟩] ∧
        b = front ++ [⟨t₁, .call c (.error e)⟩] ∧ front.Answered ∧ r = .error e) := by
  obtain ⟨b, hout, hstops⟩ := execute_failsFast s a (List.Subset.refl _) hc
  refine ⟨b, hout, ?_⟩
  cases hstops with
  | ok hb => exact .inl ⟨hb, rfl⟩
  | error hb => exact .inr ⟨_, _, _, _, _, rfl, rfl, hb, rfl⟩

/-! ### A check that fails, and a step -/

/-- Waits for a dialog, hides it, and closes the page. -/
def awaitAndHide : Action :=
  .list [.waitCss { target := .new "#banner", negated := false, retries := 1, waitTime := 10 },
    .hide (.new "#banner"), .close]

/-- A page with the dialog, whose first query fails, and which cannot hide anything. -/
def thwarting : World where
  page := .ofTree (.node .document
    [.node (.element { name := "div", attributes := [("id", "banner")] }) []]) false
  faults := { planned := [⟨.query, 1, .protocol "gone"⟩, ⟨.setHidden, 1, .script "no style"⟩] }

/-- The check that fails ends nothing, and the hide that fails ends everything: the page is not
closed. -/
theorem sample_fails_fast : ∃ (h : History) (t' : Nat) (w' : Walker),
    (execute {} awaitAndHide).Course {} 0 h t' (.error (.script "no style")) w' ∧
      ∃ b, ((execute {} awaitAndHide).run {}).Outside awaitAndHide.waits 0 h b t'
          (.error (.script "no style"), w') ∧
        ∃ (before front : History) (t : Nat) (c : Call),
          h = before ++ [⟨t, .call c (.error (.script "no style"))⟩] ∧
          b = front ++ [⟨t, .call c (.error (.script "no style"))⟩] ∧ front.Answered := by
  have hfails : (World.alone ((execute {} awaitAndHide).run {}) thwarting).1.1 =
      .error (.script "no style") := by
    decide +kernel
  obtain ⟨h, hcourse⟩ := World.alone_course ((execute {} awaitAndHide).run {}) thwarting
  generalize World.alone ((execute {} awaitAndHide).run {}) thwarting = ended at hfails hcourse
  obtain ⟨⟨r, w'⟩, w₁⟩ := ended
  obtain rfl : r = .error (.script "no style") := hfails
  have hc : (execute {} awaitAndHide).Course {} 0 h w₁.clock (.error (.script "no style")) w' :=
    hcourse
  obtain ⟨b, hout, ⟨-, hok⟩ | ⟨before, front, t, c, e, hh, hb, hfront, he⟩⟩ := execute_fails_fast hc
  · cases hok
  · cases he
    exact ⟨h, _, _, hc, b, hout, before, front, t, c, hh, hb, hfront⟩

end ConsentWalker
