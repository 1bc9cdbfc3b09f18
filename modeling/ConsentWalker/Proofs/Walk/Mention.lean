import ConsentWalker.Proofs.Walk.Painting
import ConsentWalker.Proofs.Walk.Session
/-!
# Walk — purposes that are not mentioned

Steps read a policy only where they settle a consent, and then only for that consent's purpose. So
two policies that agree on the purposes mentioned anywhere in some steps, `Action.purposes`, make
them the same routine (`execute_congr`): whatever the page answers, the same is asked and told at
the same times, and it comes to the same. The same goes for the handling of a dialog, for every
stage of a search and for whole sessions.

What policies agree on is what they allow. A purpose that is left out is denied, so that leaving it
out and denying it are the same to all of them.
-/

namespace ConsentWalker

open Steps

/-! ## What is mentioned -/

/-- The purposes that are mentioned in steps. -/
def mentioning : Interpretation (List Category) where
  nothing := []
  andThen := (· ++ ·)
  click _ := []
  ifCss _ := (· ++ ·)
  waitCss _ := []
  forEach _ body := body
  hide _ := []
  slide _ := []
  close := []
  wait _ := []
  toggle category _ toggle := category :: toggle
  branch category onTrue onFalse := category :: (onTrue ++ onFalse)

/-- **The purposes that are mentioned in a step**: those of all consents in it, however they are
nested. -/
def Action.purposes (a : Action) : List Category := mentioning.action a

/-- The purposes that a vendor's rules mention. -/
def Vendor.purposes (v : Vendor) : List Category :=
  Method.all.flatMap fun m => mentioning.option (v.methods m)

/-- **Policies that agree** on some purposes: they allow the same of them. -/
def Policy.AgreesOn (cs : List Category) (p p' : Policy) : Prop :=
  ∀ c ∈ cs, p.allows c = p'.allows c

/-- What goes by another policy, and by the same in everything else. -/
def Setting.under (s : Setting) (p : Policy) : Setting := { s with policy := p }

namespace Policy

variable {cs cs' : List Category} {p p' : Policy} {c : Category}

theorem agreesOn_append : AgreesOn (cs ++ cs') p p' ↔ AgreesOn cs p p' ∧ AgreesOn cs' p p' :=
  List.forall_mem_append

theorem agreesOn_cons : AgreesOn (c :: cs) p p' ↔ p.allows c = p'.allows c ∧ AgreesOn cs p p' :=
  List.forall_mem_cons

/-- A purpose that is not among them has no part in it. -/
theorem agreesOn_set (hc : c ∉ cs) (allowed : Bool) : AgreesOn cs p (p.set c allowed) := by
  intro c' hc'
  have hne : c' ≠ c := by
    rintro rfl
    exact hc hc'
  rw [allows_set, if_neg hne]

/-- **Left out is denied**, for all purposes at once. -/
theorem agreesOn_denied (h : p.stated c = none) : AgreesOn cs p (p.set c false) := by
  intro c' _
  rw [allows_set]
  split
  · next heq =>
    rw [heq]
    unfold allows
    rw [h]
    rfl
  · rfl

end Policy

/-! ## Steps -/

section Steps

variable {p p' : Policy}

/-- Policies that agree on what a kind of step mentions make it the same, if they make the steps in
it the same. -/
theorem execution_congr (s : Setting) : execution.Respects mentioning
    fun x purposes => Policy.AgreesOn purposes p p' → x (s.under p) = x (s.under p') where
  nothing _ := rfl
  andThen hx hy h := by
    obtain ⟨hfirst, hrest⟩ := Policy.agreesOn_append.1 h
    exact congrArg₂ (fun x y : Steps Unit => do x; y) (hx hfirst) (hy hrest)
  announced tag _ _ hx h :=
    congrArg (fun x : Steps Unit => do
      let walker : Walker ← get
      tell (.executing tag walker.scope.length)
      x) (hx h)
  click _ _ := rfl
  ifCss target _ _ _ _ hx hy h := by
    obtain ⟨htrue, hfalse⟩ := Policy.agreesOn_append.1 h
    exact congrArg₂ (fun x y : Steps Unit => do
      if ← looking (Matcher.css target).holds then x else y) (hx htrue) (hy hfalse)
  waitCss _ _ := rfl
  forEach target _ _ hx h :=
    congrArg (fun x : Steps Unit => do
      withinEach x ((← looking target.findAll).filterMap Finding.target)) (hx h)
  hide _ _ := rfl
  slide _ _ := rfl
  close _ := rfl
  wait _ _ := rfl
  toggle category matcher a ha h := by
    -- what is wanted and the steps inside are all that goes by the policy
    obtain ⟨hwanted, hwithin⟩ := Policy.agreesOn_cons.1 h
    let switched (wanted : Bool) (x : Steps Unit) : Steps Unit := do
      let current ← looking matcher.holds
      tell (.settingConsent category (some current) wanted)
      (if current != wanted then x else pure ())
      outlineIf s matcher wanted
    change switched (p.allows category) _ = switched (p'.allows category) _
    rw [hwanted, ha hwithin]
  branch category _ _ _ _ hx hy h := by
    obtain ⟨hwanted, hwithin⟩ := Policy.agreesOn_cons.1 h
    obtain ⟨htrue, hfalse⟩ := Policy.agreesOn_append.1 hwithin
    let switched (wanted : Bool) (x y : Steps Unit) : Steps Unit := do
      tell (.settingConsent category none wanted)
      if wanted then x else y
    change switched (p.allows category) _ _ = switched (p'.allows category) _ _
    rw [hwanted, hx htrue, hy hfalse]

/-- **Policies that agree on what a step mentions make it the same step.** -/
theorem execute_congr (s : Setting) (a : Action) (h : Policy.AgreesOn a.purposes p p') :
    execute (s.under p) a = execute (s.under p') a := by
  rw [execute_eq, execute_eq]
  exact (execution_congr s).action a h

end Steps

/-! ## Handling a dialog -/

namespace Vendor

variable {v : Vendor} {p p' : Policy}

theorem agreesOn_method (h : Policy.AgreesOn v.purposes p p') (m : Method) :
    Policy.AgreesOn (mentioning.option (v.methods m)) p p' := by
  intro c hc
  have hm : m ∈ Method.all := by cases m <;> decide
  exact h c (List.mem_flatMap.2 ⟨m, hm, hc⟩)

theorem runMethod_congr (s : Setting) (h : Policy.AgreesOn v.purposes p p') (m : Method) :
    v.runMethod (s.under p) m = v.runMethod (s.under p') m := by
  have hmethod := agreesOn_method h m
  unfold runMethod
  cases hsupplied : v.methods m with
  | none => rfl
  | some a =>
    rw [hsupplied] at hmethod
    dsimp only
    rw [execute_congr s a hmethod]

/-- Methods do the same under policies that agree on the purposes they mention. -/
theorem runMethods_congr (s : Setting) (h : Policy.AgreesOn v.purposes p p') (ms : List Method) :
    v.runMethods (s.under p) ms = v.runMethods (s.under p') ms := by
  induction ms with
  | nil => rfl
  | cons m rest ih => rw [runMethods, runMethods, runMethod_congr s h m, ih]

/-- **A purpose that a vendor's rules do not mention has no part in the handling of its dialog.** -/
theorem handling_congr (s : Setting) (h : Policy.AgreesOn v.purposes p p') :
    v.handling (s.under p) = v.handling (s.under p') := by
  have hmethods := runMethods_congr s h (lifecycle s.flags)
  have hact : v.act (s.under p) = v.act (s.under p') := by
    unfold act
    change (if s.flags.skipActions then _ else _) = (if s.flags.skipActions then _ else _)
    congr 1
    change (do
      tryTo (.showProgress progressMessage) (.progressFailed v.name)
      trySteps (v.runMethods (s.under p) (lifecycle s.flags)) (.handlingFailed v.name)
      return true) = _
    rw [hmethods]
    rfl
  unfold handling
  rw [hact]

end Vendor

/-! ## Searches -/

namespace Search

/-- **Searches with the same stages**: from anywhere the next stage is the same routine. -/
structure SameStages (x y : Search) : Prop where
  vendors : x.vendors.length = y.vendors.length
  step : ∀ st, x.step st = y.step st

variable {vs : List Vendor} {s : Setting} {p p' : Policy}

theorem poll_congr (v : Vendor) (left attempt : Nat) :
    (Search.mk vs (s.under p)).poll v left attempt =
      (Search.mk vs (s.under p')).poll v left attempt := by
  induction left generalizing attempt with
  | zero => rfl
  | succ left ih =>
    rw [poll, poll]
    simp only [ih]
    rfl

/-- **A search has the same stages** under policies that agree on what its vendors' rules
mention. -/
theorem sameStages (h : Policy.AgreesOn (vs.flatMap Vendor.purposes) p p') :
    SameStages ⟨vs, s.under p⟩ ⟨vs, s.under p'⟩ := by
  refine ⟨rfl, fun st => ?_⟩
  obtain ⟨stage, tried, handled, observer⟩ := st
  cases stage with
  | handling i =>
    unfold step
    dsimp only
    cases hv : vs[i]? with
    | none => rfl
    | some v =>
      have hvendor : Policy.AgreesOn v.purposes p p' := fun c hc =>
        h c (List.mem_flatMap.2 ⟨v, List.mem_of_getElem? hv, hc⟩)
      dsimp only
      rw [Vendor.handling_congr s hvendor]
  | polling i =>
    unfold step
    dsimp only
    cases hv : vs[i]? with
    | none => rfl
    | some v =>
      dsimp only
      rw [poll_congr]
      rfl
  | detecting | observing | abandoned | handled | finished => rfl

variable {x y : Search} {trip : Trip} {t : Nat} {st : State}

/-- What can be done by the one can be done by the other, act by act and at the same times. -/
theorem SameStages.travels (h : SameStages x y) (hp : Travels x trip t st) :
    Travels y trip t st := by
  induction hp with
  | begin hc => exact .begin hc
  | onward _ hc ih => exact ih.onward (h.step _ ▸ hc)

end Search

/-! ## Routines amid what others do -/

namespace World

variable {α β : Type}

/-- The world some time later, after what others do up to then, and what they will do after that. No
time is no chance for others. -/
def later (time : Nat) : World → List (Nat × Deed) → World × List (Nat × Deed)
  | w, [] => ({ w with clock := time }, [])
  | w, (due, d) :: rest =>
    if due ≤ time then later time (d.act { w with clock := max w.clock due }) rest
    else ({ w with clock := time }, (due, d) :: rest)

/-- What a wait for changes comes to: changes that are there or that others make, and none if they
make none. -/
def await (o : Observer) : World → List (Nat × Deed) → Option Nat × World × List (Nat × Deed)
  | w, [] =>
    match w.collect? o with
    | some (records, w) => (records, w, [])
    | none => (none, w, [])
  | w, (due, d) :: rest =>
    match w.collect? o with
    | some (records, w) => (records, w, (due, d) :: rest)
    | none => await o (d.act { w with clock := max w.clock due }) rest

/-- **A routine amid what others do**, each of them at its time: what it comes to, what it did and
when, and the world after it. -/
def amid : Routine α → World → List (Nat × Deed) → α × History × World
  | .done a, w, _ => (a, [], w)
  | .call c next, w, others =>
    did w (.call c (w.perform c).1) (amid (next (w.perform c).1) (w.perform c).2 others)
  | .note n next, w, others => did w (.note n) (amid next (w.tell n) others)
  | .sleep 0 next, w, others => did w (.sleep 0) (amid next w others)
  | .sleep (d + 1) next, w, others =>
    let (w', others') := w.later (w.clock + (d + 1)) others
    did w (.sleep (d + 1)) (amid next w' others')
  | .pause next, w, others =>
    let (w', others') := w.later w.clock others
    did w .pause (amid next w' others')
  | .await o next, w, others =>
    let (records, w', others') := w.await o others
    did w (.await o records) (amid (next records) w' others')
  | .drop o next, w, others => did w (.drop o) (amid next (w.drop o) others)
  | .report v next, w, others => did w (.report v) (amid next (w.sight v) others)
where
  /-- What was done first, and all after it. -/
  did (w : World) (a : Act) (rest : α × History × World) : α × History × World :=
    (rest.1, ⟨w.clock, a⟩ :: rest.2.1, rest.2.2)

theorem later_clock (time : Nat) (w : World) (others : List (Nat × Deed)) :
    (w.later time others).1.clock = time := by
  induction others generalizing w with
  | nil => rfl
  | cons e rest ih =>
    obtain ⟨due, d⟩ := e
    unfold later
    split
    · exact ih _
    · rfl

theorem collect?_clock {w w' : World} {o : Observer} {records : Option Nat}
    (h : w.collect? o = some (records, w')) : w'.clock = w.clock := by
  obtain ⟨page, rfl⟩ := collect?_some h
  rfl

theorem await_clock (o : Observer) (w : World) (others : List (Nat × Deed)) :
    w.clock ≤ (w.await o others).2.1.clock := by
  induction others generalizing w with
  | nil =>
    unfold await
    cases hc : w.collect? o with
    | none => exact Nat.le_refl _
    | some p => exact Nat.le_of_eq (collect?_clock hc).symm
  | cons e rest ih =>
    obtain ⟨due, d⟩ := e
    unfold await
    cases hc : w.collect? o with
    | none =>
      refine Nat.le_trans ?_ (ih _)
      rw [Deed.act_clock]
      exact Nat.le_max_left _ _
    | some p => exact Nat.le_of_eq (collect?_clock hc).symm

/-- **What a routine did is one of its courses.** -/
theorem amid_course (r : Routine α) (w : World) (others : List (Nat × Deed)) :
    r.Course w.clock (amid r w others).2.1 (amid r w others).2.2.clock (amid r w others).1 := by
  induction r generalizing w others with
  | done a => exact .refl _ _
  | call c next ih => exact .step (.call c next _ _) (ih _ (w.perform c).2 others)
  | note n next ih => exact .step (.note n next _) (ih (w.tell n) others)
  | sleep d next ih =>
    cases d with
    | zero => exact .step (.sleep 0 next _) (ih w others)
    | succ d =>
      have hcourse :=
        ih (w.later (w.clock + (d + 1)) others).1 (w.later (w.clock + (d + 1)) others).2
      rw [later_clock] at hcourse
      exact .step (.sleep (d + 1) next _) hcourse
  | pause next ih =>
    have hcourse := ih (w.later w.clock others).1 (w.later w.clock others).2
    rw [later_clock] at hcourse
    exact .step (.pause next _) hcourse
  | await o next ih =>
    exact .step (.await o next (await_clock o w others) _) (ih _ (w.await o others).2.1 _)
  | drop o next ih => exact .step (.drop o next _) (ih (w.drop o) others)
  | report v next ih => exact .step (.report v next _) (ih (w.sight v) others)

/-- A routine whose value is only read in another way does the same amid others. -/
theorem amid_map (g : α → β) (r : Routine α) (w : World) (others : List (Nat × Deed)) :
    amid (r.bind fun a => .done (g a)) w others =
      (g (w.amid r others).1, (w.amid r others).2.1, (w.amid r others).2.2) := by
  induction r generalizing w others with
  | done a => rfl
  | call c next ih => exact congrArg (amid.did w _) (ih _ (w.perform c).2 others)
  | note n next ih => exact congrArg (amid.did w _) (ih (w.tell n) others)
  | sleep d next ih =>
    cases d with
    | zero => exact congrArg (amid.did w _) (ih w others)
    | succ d => exact congrArg (amid.did w _) (ih (w.later (w.clock + (d + 1)) others).1 _)
  | pause next ih => exact congrArg (amid.did w _) (ih (w.later w.clock others).1 _)
  | await o next ih => exact congrArg (amid.did w _) (ih _ (w.await o others).2.1 _)
  | drop o next ih => exact congrArg (amid.did w _) (ih (w.drop o) others)
  | report v next ih => exact congrArg (amid.did w _) (ih (w.sight v) others)

/-- **Where nobody else acts** one routine runs after another. -/
theorem amid_bind (r : Routine α) (f : α → Routine β) (w : World) :
    w.amid (r.bind f) [] =
      let first := w.amid r []
      let second := first.2.2.amid (f first.1) []
      (second.1, first.2.1 ++ second.2.1, second.2.2) := by
  induction r generalizing w with
  | done a => rfl
  | call c next ih => exact congrArg (amid.did w _) (ih _ (w.perform c).2)
  | note n next ih => exact congrArg (amid.did w _) (ih (w.tell n))
  | sleep d next ih =>
    cases d with
    | zero => exact congrArg (amid.did w _) (ih w)
    | succ d => exact congrArg (amid.did w _) (ih { w with clock := w.clock + (d + 1) })
  | pause next ih => exact congrArg (amid.did w _) (ih w)
  | await o next ih =>
    rw [Routine.bind, amid, amid, await]
    cases w.collect? o with
    | none => exact congrArg (amid.did w _) (ih none w)
    | some c => exact congrArg (amid.did w _) (ih c.1 c.2)
  | drop o next ih => exact congrArg (amid.did w _) (ih (w.drop o))
  | report v next ih => exact congrArg (amid.did w _) (ih (w.sight v))

end World

/-! ## Sessions -/

namespace Task

/-- The task at the same point of another search. -/
def on (t : Task) (y : Search) : Task := { t with search := y }

variable {t : Task} {y : Search} {w : World} {r : Routine Search.Next}

theorem follow_search (stages : Nat) : (t.follow stages r w).1.search = t.search := by
  induction stages generalizing t r w with
  | zero => rfl
  | succ stages ih =>
    unfold follow
    rcases w.go r with ⟨halt, w₁⟩
    cases halt with
    | finished n =>
      cases n with
      | stop outcome => rfl
      | goOn st => exact ih (t := { t with state := st })
    | sleeping | paused | waiting => rfl

/-- Tasks at the same point of searches with the same stages come to the same point. -/
theorem follow_on (h : t.search.SameStages y) (stages : Nat) :
    (t.on y).follow stages r w = ((t.follow stages r w).1.on y, (t.follow stages r w).2) := by
  induction stages generalizing t r w with
  | zero => rfl
  | succ stages ih =>
    unfold follow
    rcases w.go r with ⟨halt, w₁⟩
    cases halt with
    | finished n =>
      cases n with
      | stop outcome => rfl
      | goOn st =>
        dsimp only
        have hstep : (t.on y).search.step st = t.search.step st := (h.step st).symm
        rw [hstep]
        exact ih (t := { t with state := st }) h
    | sleeping | paused | waiting => rfl

theorem turn_search (t : Task) (w : World) : (t.turn w).1.search = t.search := by
  unfold turn
  cases t.ready? w with
  | none => rfl
  | some p => exact follow_search 1

/-- A turn is the same for searches that have the same stages. -/
theorem turn_on (h : t.search.SameStages y) (w : World) :
    (t.on y).turn w = ((t.turn w).1.on y, (t.turn w).2) := by
  have hready : (t.on y).ready? w = t.ready? w := rfl
  unfold turn
  rw [hready]
  cases t.ready? w with
  | none => rfl
  | some p => exact follow_on h 1

end Task

namespace Scene

variable {deadline : Nat} {s : Scene} {y : Search}

/-- The scene at the same point of a session of another search. -/
def on (s : Scene) (y : Search) : Scene := { s with task := s.task.on y }

theorem goOn_on (h : s.task.search.SameStages y) (time : Nat) :
    (s.on y).goOn time = (s.goOn time).on y ∧ (s.goOn time).task.search = s.task.search := by
  have hready : ((s.on y).task.ready? (s.on y).world).isSome = (s.task.ready? s.world).isSome := rfl
  have hturn : (s.on y).task.turn (s.on y).world =
      ((s.task.turn s.world).1.on y, (s.task.turn s.world).2) := Task.turn_on h s.world
  unfold goOn
  rw [hready, hturn]
  split
  · exact ⟨rfl, Task.turn_search s.task s.world⟩
  · exact ⟨rfl, rfl⟩

/-- **What happens next is the same** in sessions of searches with the same stages. -/
theorem step_on (h : s.task.search.SameStages y) :
    (s.on y).step deadline = (s.step deadline).on y ∧
      (s.step deadline).task.search = s.task.search := by
  obtain ⟨task, world, others⟩ := s
  change step deadline ⟨task.on y, world, others⟩ = _ ∧ _
  cases others with
  | nil =>
    by_cases hend : (task.isOver || decide (deadline ≤ world.clock)) = true
    · have hstays : ∀ u : Task, u.isOver = task.isOver →
          step deadline ⟨u, world, []⟩ = ⟨u, world, []⟩ :=
        fun u hu => if_pos (by rw [hu]; exact hend)
      rw [hstays task rfl, hstays (task.on y) rfl]
      exact ⟨rfl, rfl⟩
    · have hgoes : ∀ u : Task, u.isOver = task.isOver →
          step deadline ⟨u, world, []⟩ = goOn ⟨u, world, []⟩ deadline :=
        fun u hu => if_neg (by rw [hu]; exact hend)
      rw [hgoes task rfl, hgoes (task.on y) rfl]
      exact goOn_on h deadline
  | cons e rest =>
    obtain ⟨time, d⟩ := e
    by_cases htime : time ≤ world.clock
    · have hacts : ∀ u, step deadline ⟨u, world, (time, d) :: rest⟩ = ⟨u, d.act world, rest⟩ :=
        fun u => if_pos htime
      rw [hacts, hacts]
      exact ⟨rfl, rfl⟩
    · have hgoes : ∀ u, step deadline ⟨u, world, (time, d) :: rest⟩ =
          goOn ⟨u, world, (time, d) :: rest⟩ time := fun u => if_neg htime
      rw [hgoes, hgoes]
      exact goOn_on h time

/-- So are all scenes after it. -/
theorem iterate_on (h : s.task.search.SameStages y) (n : Nat) :
    (step deadline)^[n] (s.on y) = ((step deadline)^[n] s).on y ∧
      ((step deadline)^[n] s).task.search = s.task.search := by
  induction n with
  | zero => exact ⟨rfl, rfl⟩
  | succ n ih =>
    obtain ⟨hsame, hsearch⟩ := ih
    rw [Function.iterate_succ_apply', Function.iterate_succ_apply', hsame]
    have hstages : ((step deadline)^[n] s).task.search.SameStages y := hsearch.symm ▸ h
    obtain ⟨hstep, hkept⟩ := step_on hstages
    exact ⟨hstep, hkept.trans hsearch⟩

end Scene

/-- **Sessions of searches with the same stages are the same**, from the first act to the last: they
end at the same point, in the same way and at the same time, and leave the same world. -/
theorem Search.SameStages.visit {x y : Search} (h : x.SameStages y) (w : World)
    (others : List (Nat × Deed)) (deadline : Nat) :
    (Task.new y).visit w others deadline =
      (((Task.new x).visit w others deadline).1.on y,
        ((Task.new x).visit w others deadline).2) := by
  obtain ⟨s, ⟨n, hs⟩, hfinal, hvisit⟩ :=
    Scene.comes_visit (.starting rfl rfl rfl : Task.AtRest x (.new x) w) others deadline
  obtain ⟨s', ⟨m, hs'⟩, hfinal', hvisit'⟩ :=
    Scene.comes_visit (.starting rfl rfl rfl : Task.AtRest y (.new y) w) others deadline
  -- both have come to their last scene after so many steps
  have hlast : (Scene.step deadline)^[n + m] ⟨.new x, w, others⟩ = s := by
    rw [Nat.add_comm, Function.iterate_add_apply, hs]
    exact Function.iterate_fixed hfinal m
  have hlast' : (Scene.step deadline)^[n + m] ⟨.new y, w, others⟩ = s' := by
    rw [Function.iterate_add_apply, hs']
    exact Function.iterate_fixed hfinal' n
  have hstages : (Scene.mk (.new x) w others).task.search.SameStages y := h
  have hsame : (Scene.step deadline)^[n + m] ⟨.new y, w, others⟩ =
      ((Scene.step deadline)^[n + m] ⟨.new x, w, others⟩).on y :=
        (Scene.iterate_on hstages (n + m)).1
  rw [hlast] at hsame
  have heq : s' = s.on y := hlast'.symm.trans hsame
  rw [hvisit, hvisit', heq]
  rfl

/-! ## Policies that cannot be told apart -/

namespace Search

/-- **Searches that cannot be told apart**: every session of the one is that of the other, with the
same end at the same time and the same world after it, and whatever page answers, the one can do
what the other can, act by act and at the same times. -/
structure Indistinct (x y : Search) : Prop where
  session : ∀ (w : World) (others : List (Nat × Deed)) (deadline : Nat),
    (Task.new y).visit w others deadline =
      (((Task.new x).visit w others deadline).1.on y, ((Task.new x).visit w others deadline).2)
  travels : ∀ trip t st, Travels x trip t st ↔ Travels y trip t st

theorem SameStages.symm {x y : Search} (h : SameStages x y) : SameStages y x :=
  ⟨h.vendors.symm, fun st => (h.step st).symm⟩

theorem SameStages.indistinct {x y : Search} (h : SameStages x y) : Indistinct x y :=
  ⟨h.visit, fun _ _ _ => ⟨h.travels, h.symm.travels⟩⟩

end Search

namespace Policy

/-- **What is not mentioned cannot be seen.** Policies that agree on the purposes mentioned anywhere
in some steps make them come to the same amid whatever others do and whatever fails: the same
result, the same acts at the same times and the same world. So do they with the handling of a
dialog, if they agree on what the vendor's rules mention, and with whole sessions of a search, if
they agree on what the rules of its vendors mention. In no session does it make a difference whether
a purpose is left out or denied. -/
theorem unmentioned_unseen (s : Setting) (p p' : Policy) :
    (∀ a : Action, AgreesOn a.purposes p p' →
      ∀ (k : Walker) (w : World) (others : List (Nat × Deed)),
        w.amid ((execute (s.under p) a).run k) others =
          w.amid ((execute (s.under p') a).run k) others) ∧
      (∀ v : Vendor, AgreesOn v.purposes p p' →
        ∀ (k : Walker) (w : World) (others : List (Nat × Deed)),
          w.amid ((v.handling (s.under p)).run k) others =
            w.amid ((v.handling (s.under p')).run k) others) ∧
      (∀ vs : List Vendor, AgreesOn (vs.flatMap Vendor.purposes) p p' →
        Search.Indistinct ⟨vs, s.under p⟩ ⟨vs, s.under p'⟩) ∧
      ∀ (vs : List Vendor) (c : Category), p.stated c = none →
        Search.Indistinct ⟨vs, s.under p⟩ ⟨vs, s.under (p.set c false)⟩ := by
  refine ⟨fun a h k w others => ?_, fun v h k w others => ?_, fun vs h => ?_, fun vs c h => ?_⟩
  · rw [execute_congr s a h]
  · rw [Vendor.handling_congr s h]
  · exact (Search.sameStages h).indistinct
  · exact (Search.sameStages (agreesOn_denied h)).indistinct

/-! ### Nested consents -/

/-- A consent whose steps hold another one. -/
def nested : Action :=
  .consent [.mk .b none (.toggle (.checkbox (.new "#stats"))
    (.list [.wait 10, .clickOn (.new "#stats"), .consent [Search.checkbox .a "#ads"]]))]

/-- Those steps done to the dialog under a policy, while another one takes its button out. -/
def outcome (p : Policy) : (Except PageError Unit × Walker) × History × World :=
  World.amid ((execute (Setting.under {} p) nested).run {}) { page := Search.dialog }
    [(5, .remove "#save")]

/-- A purpose that is not mentioned has no part in steps that click two boxes, nor in the handling
of the dialog or in a session that comes to it; one that is mentioned has, even if it is only inside
another consent. And leaving a purpose out is to deny it. -/
theorem sample_unmentioned :
    let p := empty.set .a true
    let p' := p.set .f true
    let search : Policy → Search := fun q => ⟨Search.saving.vendors, Setting.under {} q⟩
    p.allows .f ≠ p'.allows .f ∧ outcome p = outcome p' ∧
      (outcome p).2.2.page.events.length = 2 ∧ (outcome rejectAll).2.2.page.events.length = 1 ∧
      (∀ v ∈ Search.saving.vendors, ∀ (k : Walker) (w : World) (others : List (Nat × Deed)),
        w.amid ((v.handling (Setting.under {} p)).run k) others =
          w.amid ((v.handling (Setting.under {} p')).run k) others) ∧
      ((Task.new (search p)).visit { page := Search.dialog } [] 1000).1.ended =
        some (.ok ⟨["banner"], ["banner"]⟩, 0) ∧
      (search p).Indistinct (search p') ∧
      p.stated .b = none ∧ (search p).Indistinct (search (p.set .b false)) := by
  intro p p' search
  obtain ⟨hsteps, hhandling, hsession, hdenied⟩ := unmentioned_unseen {} p p'
  have hvendors : AgreesOn (Search.saving.vendors.flatMap Vendor.purposes) p p' :=
    agreesOn_set (by decide) true
  refine ⟨by decide, ?_, by decide +kernel, by decide +kernel, ?_, by decide +kernel, ?_, rfl, ?_⟩
  · exact hsteps nested (agreesOn_set (by decide) true) {} { page := Search.dialog } _
  · intro v hv
    exact hhandling v fun c hc => hvendors c (List.mem_flatMap.2 ⟨v, hv, hc⟩)
  · exact hsession Search.saving.vendors hvendors
  · exact hdenied Search.saving.vendors .b rfl

end Policy

end ConsentWalker
