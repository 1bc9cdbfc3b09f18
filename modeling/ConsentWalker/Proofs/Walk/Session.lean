import Mathlib.Logic.Function.Iterate
import ConsentWalker.Proofs.Page.Twins
import ConsentWalker.Proofs.Walk.Waiting
/-!
# Walk — a search amid what others do

Others do something to the page at points in time (`Deed`) while a search runs as a task, up to a
deadline (`Task.visit`). A `Scene` is where such a session stands, and `Scene.step` is the least
that happens next: another one acts, the search takes one turn, or time passes. A session is its
scenes one after another, up to one after which nothing happens (`Scene.comes_visit`).
-/

namespace ConsentWalker

/-- **What others do** to a page: append markup, take elements out, close it, click an element, or
just look at it. -/
inductive Deed where
  | append (parent : String) (trees : List Tree)
  | remove (selector : String)
  | close
  | click (selector : String)
  | look

/-- The world after it. -/
def Deed.act : Deed → World → World
  | .append parent trees, w => (w.append parent trees).2
  | .remove selector, w => (w.remove selector).2
  | .close, w => (w.direct Page.close).2
  | .click selector, w => (w.direct (Page.clickFirst selector)).2
  | .look, w => w

theorem Deed.act_clock (d : Deed) (w : World) : (d.act w).clock = w.clock := by
  cases d with
  | append parent trees =>
    obtain ⟨told, hw⟩ := World.change_eq w (Page.append parent trees) true
    change (w.change (Page.append parent trees) true).2.clock = w.clock
    rw [hw]
  | remove selector =>
    obtain ⟨told, hw⟩ := World.change_eq w (Page.remove selector) false
    change (w.change (Page.remove selector) false).2.clock = w.clock
    rw [hw]
  | close | click | look => rfl

namespace Task

/-- A task while others do things, one after another, each at its time. -/
def amid (t : Task) (w : World) : List (Nat × Deed) → Task × World
  | [] => (t, w)
  | (time, d) :: rest =>
    let (t, w) := t.waitUntil w time
    t.amid (d.act w) rest

/-- **A session**: a task while others do things, and then up to a deadline, when it is stopped. -/
def visit (t : Task) (w : World) (others : List (Nat × Deed)) (deadline : Nat) : Task × World :=
  let (t, w) := t.amid w others
  let (t, w) := t.runUntil w deadline
  (t, t.abort w)

/-- **One turn of a task**: it goes on, unless it has to wait, up to its next wait or to the end of
the stage it is in. -/
def turn (t : Task) (w : World) : Task × World :=
  match t.ready? w with
  | none => (t, w)
  | some (r, w) => t.follow 1 r w

/-- When a task that waits goes on of itself, if it does before a point in time. -/
def wakesBy (t : Task) (time : Nat) : Nat :=
  if t.isOver then time
  else
    match t.alarm? with
    | some alarm => min alarm time
    | none => time

theorem wakesBy_over {t : Task} (hover : t.isOver = true) (time : Nat) : t.wakesBy time = time :=
  if_pos hover

theorem wakesBy_none {t : Task} (halarm : t.alarm? = none) (time : Nat) :
    t.wakesBy time = time := by
  unfold wakesBy
  rw [halarm]
  exact ite_self _

theorem wakesBy_some {t : Task} (hover : t.isOver = false) {alarm : Nat}
    (halarm : t.alarm? = some alarm) (time : Nat) : t.wakesBy time = min alarm time := by
  unfold wakesBy
  rw [hover, halarm]
  rfl

end Task

/-! ## Scenes -/

/-- **Where a session stands**: the task, the world, and what others will do. -/
structure Scene where
  task : Task
  world : World
  others : List (Nat × Deed)

namespace Scene

/-- Before a point in time a task takes a turn, or time passes if it has to wait. -/
def goOn (s : Scene) (time : Nat) : Scene :=
  if (s.task.ready? s.world).isSome then
    { s with task := (s.task.turn s.world).1, world := (s.task.turn s.world).2 }
  else { s with world := { s.world with clock := s.task.wakesBy time } }

/-- **What happens next.** -/
def step (deadline : Nat) (s : Scene) : Scene :=
  match s.others with
  | (time, d) :: rest =>
    if time ≤ s.world.clock then { s with world := d.act s.world, others := rest } else s.goOn time
  | [] => if s.task.isOver || deadline ≤ s.world.clock then s else s.goOn deadline

/-- Nothing happens once the task is over and nobody else is to act. -/
theorem step_over {deadline : Nat} {s : Scene} (hothers : s.others = [])
    (hover : s.task.isOver = true) :
    s.step deadline = s := by
  obtain ⟨task, world, others⟩ := s
  obtain rfl : others = [] := hothers
  exact if_pos (by dsimp only at hover ⊢; rw [hover]; rfl)

/-- A scene comes to be another one. -/
def Comes (deadline : Nat) (s s' : Scene) : Prop := ∃ n, (step deadline)^[n] s = s'

variable {deadline time : Nat} {s s₁ s₂ : Scene}

theorem Comes.refl (s : Scene) : s.Comes deadline s := ⟨0, rfl⟩

theorem Comes.trans (h : s.Comes deadline s₁) (h' : s₁.Comes deadline s₂) :
    s.Comes deadline s₂ := by
  obtain ⟨n, rfl⟩ := h
  obtain ⟨m, rfl⟩ := h'
  exact ⟨m + n, Function.iterate_add_apply _ m n s⟩

theorem Comes.step (s : Scene) : s.Comes deadline (s.step deadline) := ⟨1, rfl⟩

/-- The time at which others act next, or the deadline, is still to come. -/
def Before (deadline : Nat) (s : Scene) (time : Nat) : Prop :=
  s.world.clock < time ∧ (s.others = [] ∧ time = deadline ∨ ∃ d rest, s.others = (time, d) :: rest)

/-- **A task that is ready takes a turn.** -/
theorem step_ready (hb : s.Before deadline time) (hr : (s.task.ready? s.world).isSome = true) :
    s.step deadline =
      { s with task := (s.task.turn s.world).1, world := (s.task.turn s.world).2 } := by
  obtain ⟨task, world, others⟩ := s
  obtain ⟨hclock, ⟨hnone, rfl⟩ | ⟨d, rest, hothers⟩⟩ := hb
  · obtain rfl : others = [] := hnone
    have hover : task.isOver = false := by
      obtain ⟨p, hp⟩ := Option.isSome_iff_exists.1 hr
      exact Task.isOver_of_ready hp
    unfold step
    dsimp only
    rw [hover, Bool.false_or, if_neg (by simpa using hclock)]
    exact if_pos hr
  · obtain rfl : others = (time, d) :: rest := hothers
    unfold step
    dsimp only
    rw [if_neg (Nat.not_le_of_lt hclock)]
    exact if_pos hr

/-- **While it has to wait time passes.** -/
theorem step_held (hb : s.Before deadline time) (hr : s.task.ready? s.world = none)
    (hgoes : s.others = [] → s.task.isOver = false) :
    s.step deadline = { s with world := { s.world with clock := s.task.wakesBy time } } := by
  obtain ⟨task, world, others⟩ := s
  have hgoOn : ∀ others, Scene.goOn ⟨task, world, others⟩ time =
      ⟨task, { world with clock := task.wakesBy time }, others⟩ := by
    intro others
    exact if_neg (by dsimp only at hr ⊢; rw [hr]; exact Bool.false_ne_true)
  obtain ⟨hclock, ⟨hnone, rfl⟩ | ⟨d, rest, hothers⟩⟩ := hb
  · obtain rfl : others = [] := hnone
    have hover : task.isOver = false := hgoes rfl
    unfold step
    dsimp only
    rw [hover, Bool.false_or, if_neg (by simpa using hclock)]
    exact hgoOn []
  · obtain rfl : others = (time, d) :: rest := hothers
    unfold step
    dsimp only
    rw [if_neg (Nat.not_le_of_lt hclock)]
    exact hgoOn _

end Scene

/-! ## Turns -/

namespace Task

variable {t : Task} {w w' : World} {r : Routine Search.Next}

theorem turn_some (hr : t.ready? w = some (r, w')) : t.turn w = t.follow 1 r w' := by
  unfold turn
  rw [hr]

theorem ready?_clock (hr : t.ready? w = some (r, w')) : w'.clock = w.clock := by
  obtain ⟨-, rfl | ⟨o, records, hcollect⟩⟩ := ready?_of_meets (Halt.meets_true t.halt) hr
  · rfl
  · obtain ⟨page, rfl⟩ := World.collect?_some hcollect
    rfl

theorem follow_clock (stages : Nat) : (t.follow stages r w).2.clock = w.clock := by
  induction stages generalizing t r w with
  | zero => rfl
  | succ stages ih =>
    obtain ⟨hclock, -⟩ := World.go_halts (.refl r w.clock)
    unfold follow
    rcases hgo : w.go r with ⟨halt, w₁⟩
    rw [hgo] at hclock
    cases halt with
    | finished n =>
      cases n with
      | stop outcome => exact hclock
      | goOn s => exact ih.trans hclock
    | sleeping | paused | waiting => exact hclock

/-- Where a task that goes on stood before makes no difference. -/
theorem follow_halt (stages : Nat) (halt : Halt Search.Next) :
    ({ t with halt := halt } : Task).follow stages r w = t.follow stages r w := by
  induction stages generalizing t r w with
  | zero => rfl
  | succ stages ih =>
    unfold follow
    rcases w.go r with ⟨halt', w₁⟩
    cases halt' with
    | finished n =>
      cases n with
      | stop outcome => rfl
      | goOn s => exact ih (t := { t with state := s })
    | sleeping | paused | waiting => rfl

/-- **More stages than one are one turn, and the others after it**, if the turn has come to the end
of a stage. -/
theorem follow_turn (stages : Nat) (hover : t.isOver = false) :
    t.follow (stages + 2) r w = t.follow 1 r w ∨ ∃ r₁,
      (t.follow 1 r w).1.ready? (t.follow 1 r w).2 = some (r₁, (t.follow 1 r w).2) ∧
        t.follow (stages + 2) r w =
          (t.follow 1 r w).1.follow (stages + 1) r₁ (t.follow 1 r w).2 := by
  rcases hgo : w.go r with ⟨halt, w₁⟩
  have hstop : (∀ s, halt ≠ .finished (.goOn s)) → ∀ n, t.follow (n + 1) r w = t.follow 1 r w := by
    intro hne n
    rw [follow, follow, hgo]
    cases halt with
    | finished next =>
      cases next with
      | stop outcome => rfl
      | goOn s => exact absurd rfl (hne s)
    | sleeping | paused | waiting => rfl
  by_cases hnext : ∃ s, halt = .finished (.goOn s)
  · obtain ⟨s, rfl⟩ := hnext
    have hone : t.follow 1 r w =
        ({ t with state := s, halt := .paused (t.search.step s) },
            { w₁ with tried := s.tried }) := by
      rw [follow, hgo]
      rfl
    refine .inr ⟨t.search.step s, ?_, ?_⟩
    · rw [hone]
      unfold ready?
      rw [if_neg (by simpa [isOver] using hover)]
    · rw [hone, follow, hgo]
      exact (follow_halt (t := { t with state := s }) (stages + 1) _).symm
  · exact .inl (hstop (fun s hs => hnext ⟨s, hs⟩) _)

end Task

namespace Scene

variable {deadline time : Nat} {s : Scene} {t : Task} {w w' : World} {others : List (Nat × Deed)}
  {r : Routine Search.Next}

/-- **Several stages at once are several turns.** -/
theorem comes_follow (stages : Nat) (hb : Before deadline ⟨t, w, others⟩ time)
    (hr : t.ready? w = some (r, w')) :
    Comes deadline ⟨t, w, others⟩
      ⟨(t.follow (stages + 1) r w').1, (t.follow (stages + 1) r w').2, others⟩ := by
  induction stages generalizing t w w' r with
  | zero =>
    have hstep := step_ready hb (by dsimp only; rw [hr]; rfl)
    rw [Task.turn_some hr] at hstep
    exact hstep ▸ Comes.step _
  | succ stages ih =>
    have hstep := step_ready hb (by dsimp only; rw [hr]; rfl)
    rw [Task.turn_some hr] at hstep
    refine .trans (.step _) ?_
    rw [hstep]
    rcases Task.follow_turn (t := t) (r := r) (w := w') stages (Task.isOver_of_ready hr) with
      hsame | ⟨r₁, hr₁, hmore⟩
    · rw [hsame]
      exact .refl _
    · have hclock : (t.follow 1 r w').2.clock = w.clock := by
        rw [Task.follow_clock, Task.ready?_clock hr]
      rw [hmore]
      refine ih ⟨?_, hb.2⟩ hr₁
      dsimp only
      rw [hclock]
      exact hb.1

/-- **Acting until it has to wait is to take turns.** -/
theorem comes_actFor (fuel : Nat) (hb : Before deadline ⟨t, w, others⟩ time) :
    Comes deadline ⟨t, w, others⟩ ⟨(t.actFor w fuel).1, (t.actFor w fuel).2, others⟩ ∧
      (t.actFor w fuel).2.clock = w.clock := by
  induction fuel generalizing t w with
  | zero => exact ⟨.refl _, rfl⟩
  | succ fuel ih =>
    cases hr : t.ready? w with
    | none =>
      rw [Task.actFor_none hr]
      exact ⟨.refl _, rfl⟩
    | some p =>
      obtain ⟨r, w'⟩ := p
      obtain ⟨stages, hstages⟩ := t.exists_stagesBetween
      have hclock : (t.follow t.stagesBetween r w').2.clock = w.clock := by
        rw [Task.follow_clock, Task.ready?_clock hr]
      have hb' : Before deadline
          ⟨(t.follow t.stagesBetween r w').1, (t.follow t.stagesBetween r w').2,
          others⟩ time := by
        refine ⟨?_, hb.2⟩
        dsimp only
        rw [hclock]
        exact hb.1
      obtain ⟨hcomes, hclock'⟩ := ih hb'
      rw [Task.actFor_some hr]
      refine ⟨.trans ?_ hcomes, hclock'.trans hclock⟩
      rw [hstages]
      exact comes_follow stages hb hr

end Scene

/-! ## Sessions -/

namespace Task

variable {x : Search} {t : Task} {w : World}

/-- A task at rest that has to wait is so when time passes, as long as it need not wake. -/
theorem AtRest.pass (h : AtRest x t w) (hnone : t.ready? w = none) {time : Nat}
    (hle : w.clock ≤ time) (hwake : ∀ alarm, t.alarm? = some alarm → time ≤ alarm) :
    AtRest x t { w with clock := time } := by
  cases h with
  | ended hover => exact .ended hover
  | starting hx hstate hhalt =>
    cases hover : t.isOver with
    | true => exact .ended hover
    | false =>
      unfold ready? at hnone
      rw [hover, hhalt] at hnone
      cases hnone
  | sleeping hs hbusy hhalt =>
    refine .sleeping (hs.pass hle ?_) hbusy hhalt
    unfold LetsPass
    rw [hhalt]
    exact hwake _ (by unfold alarm?; rw [hhalt])
  | waiting hs hstage ho hhalt =>
    refine .waiting (hs.pass hle ?_) hstage ho hhalt
    unfold LetsPass
    rw [hhalt]
    trivial

/-- Others leave it at rest. -/
theorem AtRest.deed (h : AtRest x t w) (d : Deed) : AtRest x t (d.act w) := by
  have hclock := d.act_clock w
  cases h with
  | ended hover => exact .ended hover
  | starting hx hstate hhalt => exact .starting hx hstate hhalt
  | sleeping hs hbusy hhalt => exact .sleeping (hclock ▸ hs) hbusy hhalt
  | waiting hs hstage ho hhalt => exact .waiting (hclock ▸ hs) hstage ho hhalt

/-- A task that has to wait wakes later. -/
theorem clock_lt_alarm (hover : t.isOver = false) (hnone : t.ready? w = none) {alarm : Nat}
    (halarm : t.alarm? = some alarm) : w.clock < alarm := by
  unfold alarm? at halarm
  unfold ready? at hnone
  rw [hover] at hnone
  generalize t.halt = halt at halarm hnone
  cases halt with
  | sleeping wake next =>
    cases halarm
    dsimp only at hnone
    by_contra hle
    rw [if_neg Bool.false_ne_true, if_pos (Nat.le_of_not_lt hle)] at hnone
    cases hnone
  | finished | paused | waiting => cases halarm

end Task

namespace Scene

variable {deadline time : Nat} {x : Search} {t : Task} {w : World} {others : List (Nat × Deed)}

/-- While a task has to wait time passes, until it wakes or until others act. -/
theorem comes_pass (h : Task.AtRest x t w) (hb : Before deadline ⟨t, w, others⟩ time)
    (hnone : t.ready? w = none) (hgoes : others = [] → t.isOver = false) :
    Comes deadline ⟨t, w, others⟩ ⟨t, { w with clock := t.wakesBy time }, others⟩ ∧
      w.clock < t.wakesBy time ∧ Task.AtRest x t { w with clock := t.wakesBy time } := by
  have hstep := step_held hb hnone hgoes
  have hlater : w.clock < t.wakesBy time := by
    cases hover : t.isOver with
    | true => exact (Task.wakesBy_over hover time).symm ▸ hb.1
    | false =>
      cases halarm : t.alarm? with
      | none => exact (Task.wakesBy_none halarm time).symm ▸ hb.1
      | some alarm =>
        rw [Task.wakesBy_some hover halarm]
        exact Nat.lt_min.2 ⟨Task.clock_lt_alarm hover hnone halarm, hb.1⟩
  refine ⟨hstep ▸ .step _, hlater, ?_⟩
  cases hover : t.isOver with
  | true => exact .ended hover
  | false =>
    refine h.pass hnone (Nat.le_of_lt hlater) fun alarm halarm => ?_
    rw [Task.wakesBy_some hover halarm]
    exact Nat.min_le_left _ _

/-- **Acting before a point in time** comes to that point, unless the task ends before. -/
theorem comes_runBefore {fuel : Nat} (h : Task.AtRest x t w)
    (hb : Before deadline ⟨t, w, others⟩ time) (hfuel : time - w.clock < fuel) :
    Comes deadline ⟨t, w, others⟩
        ⟨(Task.runBefore time t w fuel).1, (Task.runBefore time t w fuel).2, others⟩ ∧
      Task.AtRest x (Task.runBefore time t w fuel).1 (Task.runBefore time t w fuel).2 ∧
      ((Task.runBefore time t w fuel).1.isOver = true ∧
        (Task.runBefore time t w fuel).2.clock < time ∨
        (Task.runBefore time t w fuel).2.clock = time) := by
  induction fuel generalizing t w with
  | zero => exact absurd hfuel (Nat.not_lt_zero _)
  | succ fuel ih =>
    obtain ⟨hnone, hrest⟩ := Task.run_waits h
    obtain ⟨hcomes, hclock⟩ := comes_actFor t.pausesBetween hb
    change Comes deadline _ ⟨(t.run w).1, (t.run w).2, others⟩ at hcomes
    change (t.run w).2.clock = w.clock at hclock
    unfold Task.runBefore
    generalize t.run w = p at hnone hrest hcomes hclock
    obtain ⟨t₁, w₁⟩ := p
    dsimp only at hnone hrest hcomes hclock ⊢
    have hb₁ : Before deadline ⟨t₁, w₁, others⟩ time :=
      ⟨by dsimp only; rw [hclock]; exact hb.1, hb.2⟩
    cases hover : t₁.isOver with
    | true => exact ⟨hcomes, hrest, .inl ⟨hover, hb₁.1⟩⟩
    | false =>
      obtain ⟨hpass, hlater, hrest'⟩ := comes_pass hrest hb₁ hnone fun _ => hover
      rw [if_neg Bool.false_ne_true]
      cases halarm : t₁.alarm? with
      | none =>
        rw [Task.wakesBy_none halarm] at hpass hrest'
        exact ⟨hcomes.trans hpass, hrest', .inr rfl⟩
      | some alarm =>
        rw [Task.wakesBy_some hover halarm] at hpass hrest' hlater
        dsimp only
        by_cases hearly : alarm < time
        · have hmax : max w₁.clock alarm = alarm := by omega
          have hmin : min alarm time = alarm := by omega
          rw [hmin] at hpass hrest' hlater
          rw [if_pos hearly, hmax]
          obtain ⟨hcomes', hfinal⟩ := ih hrest' ⟨hearly, hb.2⟩ (by dsimp only; omega)
          exact ⟨hcomes.trans (hpass.trans hcomes'), hfinal⟩
        · have hmin : min alarm time = time := by omega
          rw [hmin] at hpass hrest'
          rw [if_neg hearly]
          exact ⟨hcomes.trans hpass, hrest', .inr rfl⟩

/-- **Waiting while a task acts** comes to the point in time at which another one acts. -/
theorem comes_waitUntil (h : Task.AtRest x t w) (time : Nat) (d : Deed) (rest : List (Nat × Deed))
    (deadline : Nat) :
    Comes deadline ⟨t, w, (time, d) :: rest⟩
        ⟨(t.waitUntil w time).1, (t.waitUntil w time).2, (time, d) :: rest⟩ ∧
      Task.AtRest x (t.waitUntil w time).1 (t.waitUntil w time).2 ∧
      time ≤ (t.waitUntil w time).2.clock := by
  unfold Task.waitUntil Task.runUntil
  by_cases hpast : time ≤ w.clock
  · rw [if_pos hpast]
    dsimp only
    rw [Nat.max_eq_left hpast]
    exact ⟨.refl _, h, hpast⟩
  · have hlt := Nat.lt_of_not_le hpast
    have hb : Before deadline ⟨t, w, (time, d) :: rest⟩ time := ⟨hlt, .inr ⟨d, rest, rfl⟩⟩
    obtain ⟨hcomes, hrest, hend⟩ := comes_runBefore h hb (Nat.lt_succ_self _)
    rw [if_neg hpast]
    generalize Task.runBefore time t w (time - w.clock + 1) = p at hcomes hrest hend
    obtain ⟨t₁, w₁⟩ := p
    dsimp only at hcomes hrest hend ⊢
    rcases hend with ⟨hover, hearly⟩ | hthere
    · have hb₁ : Before deadline ⟨t₁, w₁, (time, d) :: rest⟩ time := ⟨hearly, .inr ⟨d, rest, rfl⟩⟩
      obtain ⟨hpass, -, hrest'⟩ := comes_pass hrest hb₁ (Task.ready?_over hover) (by simp)
      rw [Task.wakesBy_over hover] at hpass hrest'
      rw [Nat.max_eq_right (Nat.le_of_lt hearly)]
      exact ⟨hcomes.trans hpass, hrest', Nat.le_refl _⟩
    · rw [Nat.max_eq_left (Nat.le_of_eq hthere.symm)]
      exact ⟨hcomes, hrest, Nat.le_of_eq hthere.symm⟩

/-- **A task amid what others do** comes to where nobody else is to act. -/
theorem comes_amid (h : Task.AtRest x t w) (others : List (Nat × Deed)) (deadline : Nat) :
    Comes deadline ⟨t, w, others⟩ ⟨(t.amid w others).1, (t.amid w others).2, []⟩ ∧
      Task.AtRest x (t.amid w others).1 (t.amid w others).2 := by
  induction others generalizing t w with
  | nil => exact ⟨.refl _, h⟩
  | cons e rest ih =>
    obtain ⟨time, d⟩ := e
    obtain ⟨hcomes, hrest, htime⟩ := comes_waitUntil h time d rest deadline
    unfold Task.amid
    generalize t.waitUntil w time = p at hcomes hrest htime
    obtain ⟨t₁, w₁⟩ := p
    dsimp only at hcomes hrest htime ⊢
    have hstep : step deadline ⟨t₁, w₁, (time, d) :: rest⟩ = ⟨t₁, d.act w₁, rest⟩ := if_pos htime
    obtain ⟨hmore, hfinal⟩ := ih (hrest.deed d)
    exact ⟨hcomes.trans ((hstep ▸ .step _ : Comes deadline _ _).trans hmore), hfinal⟩

/-- **A session is its scenes**, one after another, up to one after which nothing happens. -/
theorem comes_visit (h : Task.AtRest x t w) (others : List (Nat × Deed)) (deadline : Nat) :
    ∃ s, Comes deadline ⟨t, w, others⟩ s ∧ s.step deadline = s ∧
      t.visit w others deadline = (s.task, s.task.abort s.world) := by
  obtain ⟨hcomes, hrest⟩ := comes_amid h others deadline
  unfold Task.visit
  generalize t.amid w others = p at hcomes hrest
  obtain ⟨t₁, w₁⟩ := p
  dsimp only at hcomes hrest ⊢
  unfold Task.runUntil
  by_cases hpast : deadline ≤ w₁.clock
  · rw [if_pos hpast]
    exact ⟨⟨t₁, w₁, []⟩, hcomes, if_pos (by simp [hpast]), rfl⟩
  · have hb : Before deadline ⟨t₁, w₁, []⟩ deadline := ⟨Nat.lt_of_not_le hpast, .inl ⟨rfl, rfl⟩⟩
    obtain ⟨hmore, -, hend⟩ := comes_runBefore hrest hb (Nat.lt_succ_self _)
    rw [if_neg hpast]
    refine ⟨⟨_, _, []⟩, hcomes.trans hmore, if_pos ?_, rfl⟩
    rcases hend with ⟨hover, -⟩ | hthere
    · simp [hover]
    · simp [hthere]

end Scene
end ConsentWalker
