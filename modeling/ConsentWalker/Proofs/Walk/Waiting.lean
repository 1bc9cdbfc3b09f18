import ConsentWalker.Proofs.Walk.Alone
import ConsentWalker.Proofs.Walk.Pauses
import ConsentWalker.Proofs.Walk.Vigil
/-!
# Walk — a task comes to wait

`Task.run` lets a search act until it has to wait, through at most so many stages and pauses. They
are enough (`Task.run_waits`): of the vendors none is tried twice, so there are only so many pauses
to come (`Ledger.pauses`), and who has looked is told of no change that it makes itself, so between
two pauses every stage brings the search nearer to a wait (`step_nearer`).
-/

namespace ConsentWalker

/-! ## Routines that pause so often at most -/

namespace Routine

variable {α : Type} {r r' : Routine α} {n : Nat} {t t' : Nat} {h : History}

/-- **A routine that pauses so often at most**, whatever comes of its acts. -/
def Pauses : Nat → Routine α → Prop
  | _, .done _ => True
  | n, .call _ next => ∀ r, (next r).Pauses n
  | n, .note _ next => next.Pauses n
  | n, .sleep _ next => next.Pauses n
  | n, .pause next => ∃ m, m < n ∧ next.Pauses m
  | n, .await _ next => ∀ r, (next r).Pauses n
  | n, .drop _ next => next.Pauses n
  | n, .report _ next => next.Pauses n

theorem Pauses.mono {m : Nat} (hr : r.Pauses m) (hle : m ≤ n) : r.Pauses n := by
  induction r with
  | done a => trivial
  | call c next ih => exact fun a => ih a (hr a)
  | note _ next ih => exact ih hr
  | sleep _ next ih => exact ih hr
  | pause next ih =>
    obtain ⟨k, hk, hnext⟩ := hr
    exact ⟨k, Nat.lt_of_lt_of_le hk hle, hnext⟩
  | await o next ih => exact fun a => ih a (hr a)
  | drop _ next ih => exact ih hr
  | report _ next ih => exact ih hr

/-- What bounds the pauses of every course does so after an act. -/
theorem course_pauses_of_does (hr : ∀ h t' a, r.Course t h t' a → h.pauses ≤ n) {r₁ : Routine α}
    {m : Moment} {t₁ : Nat} (hd : r.Does t m t₁ r₁) :
    ∀ h t' a, r₁.Course t₁ h t' a → h.pauses ≤ n :=
  fun h t' a hc => Nat.le_trans (History.pauses_le_cons m h) (hr _ t' a (.step hd hc))

/-- **The courses of a routine tell how often it pauses.** -/
theorem pauses_of_courses (hr : ∀ h t' a, r.Course t h t' a → h.pauses ≤ n) : r.Pauses n := by
  induction r generalizing n t with
  | done a => trivial
  | call c next ih => exact fun a => ih a (course_pauses_of_does hr (.call c next t a))
  | note m next ih => exact ih (course_pauses_of_does hr (.note m next t))
  | sleep d next ih => exact ih (course_pauses_of_does hr (.sleep d next t))
  | pause next ih =>
    have hone : ∀ h t' a, next.Course t h t' a → h.pauses + 1 ≤ n := by
      intro h t' a hc
      have hcount := hr _ t' a (.step (.pause next t) hc)
      rwa [History.pauses_cons] at hcount
    obtain ⟨h, t', a, hc⟩ := next.exists_course t
    have hpos := hone h t' a hc
    refine ⟨n - 1, by omega, ih (t := t) fun h t' a hc => ?_⟩
    have hcount := hone h t' a hc
    omega
  | await o next ih =>
    exact fun a => ih a (course_pauses_of_does hr (.await o next (Nat.le_refl t) a))
  | drop o next ih => exact ih (course_pauses_of_does hr (.drop o next t))
  | report v next ih => exact ih (course_pauses_of_does hr (.report v next t))

/-- What is left of a routine pauses no more often. -/
theorem Pauses.leads (hr : r.Pauses n) (hl : r.Leads t h t' r') : r'.Pauses n := by
  induction hl with
  | refl => exact hr
  | step hd _ ih =>
    refine ih ?_
    cases hd with
    | call _ _ _ a => exact hr a
    | await _ _ _ a => exact hr a
    | pause =>
      obtain ⟨k, hk, hnext⟩ := hr
      exact hnext.mono (Nat.le_of_lt hk)
    | note | sleep | drop | report => exact hr

end Routine

/-! ## Running up to a wait -/

/-- **A wait that is not over** in a world. -/
def Halt.Held {α : Type} (w : World) : Halt α → Prop
  | .sleeping wake _ => w.clock < wake
  | .waiting o _ => w.collect? o = none
  | .finished _ | .paused _ => True

namespace World

variable {α : Type} {r next : Routine α} {w w' : World} {n : Nat}

/-- **Who runs on does so up to a wait that is not over.** -/
theorem go_held (r : Routine α) (w : World) : (w.go r).1.Held (w.go r).2 := by
  induction r generalizing w with
  | done a => trivial
  | call c next ih => exact ih _ _
  | note n next ih => exact ih _
  | sleep d next ih =>
    cases d with
    | zero => exact ih w
    | succ d => exact Nat.lt_add_of_pos_right (Nat.zero_lt_succ d)
  | pause next ih => trivial
  | await o next ih =>
    cases hc : w.collect? o with
    | none =>
      rw [go_await_none hc]
      exact hc
    | some p =>
      rw [go_await_some hc]
      exact ih _ _
  | drop o next ih => exact ih _
  | report v next ih => exact ih _

/-- Who pauses has one pause less to come. -/
theorem go_paused (hr : r.Pauses n) (hgo : w.go r = (.paused next, w')) :
    ∃ m, m < n ∧ next.Pauses m := by
  induction r generalizing w with
  | done a => cases hgo
  | call c next ih => exact ih _ (hr _) hgo
  | note _ next ih => exact ih hr hgo
  | sleep d next ih =>
    cases d with
    | zero => exact ih hr hgo
    | succ d => cases hgo
  | pause next ih =>
    cases hgo
    exact hr
  | await o next ih =>
    cases hc : w.collect? o with
    | none =>
      rw [go_await_none hc] at hgo
      cases hgo
    | some p =>
      rw [go_await_some hc] at hgo
      exact ih _ (hr _) hgo
  | drop _ next ih => exact ih hr hgo
  | report _ next ih => exact ih hr hgo

/-- Who comes to an end without a wait has made a course, at one time. -/
theorem course_of_finished {r₀ : Routine α} {begun : Nat} {h : History} {a : α}
    (hl : r₀.Leads begun h w.clock r) (hgo : w.go r = (.finished a, w')) :
    w'.clock = w.clock ∧ ∃ k, r₀.Course begun k w.clock a := by
  obtain ⟨hclock, htimes⟩ := go_halts hl
  rw [hgo] at hclock htimes
  cases htimes with
  | finished hc => exact ⟨hclock, _, hc⟩

/-- **Who comes to an end without a wait comes to it alone.** -/
theorem alone_of_go {a : α} (hgo : w.go r = (.finished a, w')) : alone r w = (a, w') := by
  induction r generalizing w with
  | done b =>
    cases hgo
    rfl
  | call c next ih => exact ih _ hgo
  | note _ next ih => exact ih hgo
  | sleep d next ih =>
    cases d with
    | zero => exact ih hgo
    | succ d => cases hgo
  | pause next ih => cases hgo
  | await o next ih =>
    cases hc : w.collect? o with
    | none =>
      rw [go_await_none hc] at hgo
      cases hgo
    | some p =>
      rw [go_await_some hc] at hgo
      rw [alone_await_some hc]
      exact ih _ hgo
  | drop _ next ih => exact ih hgo
  | report _ next ih => exact ih hgo

end World

/-! ## Where a stage waits -/

namespace Search

variable {x : Search} {s s' : State} {w w' : World}

theorem go_look (w : World) (s₀ s : State) : s₀.Halts (w.go (look s)).1 := by
  unfold look Routine.attempt
  rw [Routine.bind_eq, Routine.bind, World.go_call]
  cases (w.perform .observe).1 <;> exact .finished _

theorem go_stopObserving (o : Option Observer) (n : Next) (w : World) :
    s.Halts (w.go ((stopObserving o).bind fun _ => .done n)).1 := by
  cases o <;> exact .finished _

/-- **A stage waits nowhere else.** -/
theorem step_halts (x : Search) (s : State) (w : World) : s.Halts (w.go (x.step s)).1 := by
  by_cases hb : s.IsBusy
  · exact busy_halts hb (.refl _ _)
  · obtain ⟨stage, tried, handled, observer⟩ := s
    cases stage with
    | detecting =>
      change State.Halts _ ((w.tell _).go ((x.nextCandidate tried).bind
        (afterPass ⟨.detecting, tried, handled, observer⟩))).1
      rw [World.go_bind_alone (x.nextCandidate_looks tried)]
      cases (World.alone (x.nextCandidate tried) (w.tell (.stage .detecting))).1 with
      | none => exact .finished _
      | some c => exact go_stopObserving observer _ _
    | observing =>
      cases observer with
      | none => exact .finished _
      | some o =>
        rw [step_observing rfl rfl, World.go]
        cases hc : (w.tell (.stage .observing)).collect? o with
        | none =>
          rw [World.go_await_none hc]
          exact .waiting rfl rfl
        | some p =>
          rw [World.go_await_some hc]
          cases p.1 <;> exact .finished _
    | polling i => exact absurd ⟨i, .inl rfl⟩ hb
    | handling i => exact absurd ⟨i, .inr rfl⟩ hb
    | abandoned i => exact go_look ((w.tell _).tell _) _ _
    | handled i =>
      change State.Halts _
        (((w.tell _).tell _).go (if x.setting.pace.keepObserving then _ else _)).1
      split
      · exact go_look _ _ _
      · exact .finished _
    | finished => exact go_stopObserving observer _ (w.tell _)

/-- **A search that is busy observes nothing.** -/
theorem Travels.unobserved {p : Trip} {t : Nat} (hp : x.Travels p t s) (hb : s.IsBusy) :
    s.observer = none := by
  induction hp with
  | begin hc =>
    obtain ⟨o, -, rfl⟩ := look_goOn hc
    obtain ⟨i, hi⟩ := hb
    simp at hi
  | onward _ hc ih =>
    obtain ⟨h₁, -, hturn⟩ := step_turn hc
    obtain ⟨i, hi⟩ := hb
    cases hturn with
    | found => rfl
    | shown hs _ _ => exact ih ⟨_, .inl hs⟩
    | looked _ hlook =>
      obtain ⟨o, -, rfl⟩ := look_goOn hlook
      simp at hi
    | nothing | woken | settled | hidden | handled | lost | satisfied => simp at hi

/-- What is left of a stage pauses no more often than the stage. -/
theorem leads_pauses {begun t : Nat} {h : History} {r : Routine Next}
    (hl : (x.step s).Leads begun h t r) : r.Pauses (stagePauses s.stage) :=
  (Routine.pauses_of_courses (t := 0) fun _ _ _ hc => step_pauses hc).leads hl

end Search

/-! ## Tasks that come to wait -/

namespace Task

open Search

variable {x : Search} {t : Task} {w w' : World} {r : Routine Next} {b : Nat}

/-- **Where a task stands after it acted**: at its end, at a wait that is not over, or at a pause,
and then fewer pauses are to come. -/
inductive Rests (x : Search) (b : Nat) (t : Task) (w : World) : Prop
  | ended : t.isOver = true → Rests x b t w
  | paused {next : Routine Next} {m : Nat} : t.state.IsBusy → t.halt = .paused next →
      next.Pauses m →
      m + t.state.pausesAfter x < b → Rests x b t w
  | sleeping {wake : Nat} {next : Routine Next} : t.state.IsBusy → t.halt = .sleeping wake next →
      w.clock < wake → Rests x b t w
  | waiting {o : Observer} : t.state.stage = .observing → t.state.observer = some o →
      t.halt = .waiting o (wake t.state) → w.collect? o = none → Rests x b t w

/-- A search that looks for dialogs, or waits to, is told of no change that it makes itself. -/
def Unmoved (s : State) (w : World) : Prop := s.stage ≠ .finished → s.Idle w

/-- A task comes to rest if it does once the stage it is in is over. -/
theorem follow_succ_rests {stages m : Nat} (hhalts : t.state.Halts (w.go r).1)
    (hpauses : r.Pauses m) (hb : m + t.state.pausesAfter x ≤ b)
    (hnext : ∀ s w₁, w.go r = (.finished (.goOn s), w₁) → Rests x b
      (({ t with state := s } : Task).follow stages (t.search.step s)
        { w₁ with tried := s.tried }).1
      (({ t with state := s } : Task).follow stages (t.search.step s)
        { w₁ with tried := s.tried }).2) :
    Rests x b (t.follow (stages + 1) r w).1 (t.follow (stages + 1) r w).2 := by
  have hheld := World.go_held r w
  unfold Task.follow
  rcases hgo : w.go r with ⟨halt, w₁⟩
  rw [hgo] at hhalts hheld
  cases hhalts with
  | sleeping wake next hbusy => exact .sleeping hbusy rfl hheld
  | paused next hbusy =>
    obtain ⟨k, hk, hrest⟩ := World.go_paused hpauses hgo
    exact .paused hbusy rfl hrest (by dsimp only; omega)
  | waiting hs ho => exact .waiting hs ho rfl hheld
  | finished n =>
    cases n with
    | stop outcome => exact .ended rfl
    | goOn s => exact hnext s w₁ hgo

/-- **A task that begins a stage comes to rest**, within as many stages as are left. -/
theorem follow_rests {p : Trip} {stages : Nat} (hx : t.search = x)
    (hp : x.Travels p w.clock t.state)
    (hidle : Unmoved t.state w) (hstages : t.state.remaining x < stages)
    (hb : stagePauses t.state.stage + t.state.pausesAfter x ≤ b) :
    Rests x b (t.follow stages (x.step t.state) w).1 (t.follow stages (x.step t.state) w).2 := by
  induction stages generalizing t w p with
  | zero => exact absurd hstages (Nat.not_lt_zero _)
  | succ stages ih =>
    have hpauses := leads_pauses (.refl (x.step t.state) w.clock)
    refine follow_succ_rests (step_halts x t.state w) hpauses hb fun s w₁ hgo => ?_
    obtain ⟨hclock, h, hc⟩ := World.course_of_finished (.refl _ _) hgo
    have hopen : t.state.stage ≠ .finished := by
      intro hs
      obtain ⟨h₁, -, hturn⟩ := step_turn hc
      cases hturn <;> simp_all
    have halone := World.alone_of_go hgo
    have hidle₁ : s.Idle w₁ := step_idle (hidle hopen) halone
    have hnearer := step_nearer hp.account (hidle hopen) halone
    have hfewer := hp.account.pauses hc
    have hp' : x.Travels (p.add ⟨w.clock, t.state, h, w₁.clock, s⟩) w₁.clock s := by
      rw [hclock]
      exact hp.onward hc
    have hstep : t.search.step s = x.step s := by rw [hx]
    rw [hstep]
    refine ih (t := { t with state := s }) (w := { w₁ with tried := s.tried }) hx hp'
      (fun _ => hidle₁) ?_ ?_
    · dsimp only
      omega
    · dsimp only
      omega

/-- The stages of a run are enough to come to rest, whatever stage is the first that begins. -/
theorem remaining_lt_stagesBetween (hx : t.search = x) (s : State) :
    s.remaining x + 1 < t.stagesBetween := by
  unfold State.remaining stagesBetween
  rw [hx]
  have hleft : stagesLeft s.stage ≤ 5 := by
    cases s.stage <;> simp [stagesLeft]
  omega

/-! ### Going on -/

/-- **A task at rest among others**: it has not begun yet, it waits part of the way through a stage,
or it is over. -/
inductive AtRest (x : Search) (t : Task) (w : World) : Prop
  | ended : t.isOver = true → AtRest x t w
  | starting : t.search = x → t.state = {} → t.halt = .paused start → AtRest x t w
  | sleeping {wake : Nat} {next : Routine Next} : Stands x t w.clock → t.state.IsBusy →
      t.halt = .sleeping wake next → AtRest x t w
  | waiting {o : Observer} : Stands x t w.clock → t.state.stage = .observing →
      t.state.observer = some o → t.halt = .waiting o (wake t.state) → AtRest x t w

/-- Who is over need not go on. -/
theorem ready?_over (hover : t.isOver = true) : t.ready? w = none := by
  unfold ready?
  rw [if_pos hover]

/-- Who need not wait goes on. -/
theorem actFor_some {fuel : Nat} (hready : t.ready? w = some (r, w')) :
    t.actFor w (fuel + 1) =
      (t.follow t.stagesBetween r w').1.actFor (t.follow t.stagesBetween r w').2 fuel := by
  rw [actFor, hready]

theorem actFor_none {fuel : Nat} (hnone : t.ready? w = none) : t.actFor w fuel = (t, w) := by
  cases fuel with
  | zero => rfl
  | succ fuel => rw [actFor, hnone]

/-- **A task that comes to rest has to wait, unless it pauses.** -/
theorem Rests.ready? (hr : Rests x b t w) :
    t.ready? w = none ∨ t.isOver = false ∧ t.state.IsBusy ∧ ∃ next m, t.halt = .paused next ∧
      next.Pauses m ∧ m + t.state.pausesAfter x < b := by
  cases hover : t.isOver with
  | true => exact .inl (ready?_over hover)
  | false =>
    cases hr with
    | ended hend =>
      rw [hover] at hend
      cases hend
    | paused hbusy hhalt hnext hfewer => exact .inr ⟨rfl, hbusy, _, _, hhalt, hnext, hfewer⟩
    | sleeping hbusy hhalt hlater =>
      left
      unfold Task.ready?
      rw [hover, hhalt]
      exact if_neg (Nat.not_le_of_lt hlater)
    | waiting hs ho hhalt hnone =>
      left
      unfold Task.ready?
      rw [hover, hhalt]
      change (w.collect? _).map _ = none
      rw [hnone]
      rfl

/-- Where it has to wait it is at rest. -/
theorem Rests.atRest (hr : Rests x b t w) (hs : t.isOver = true ∨ Stands x t w.clock)
    (hnone : t.ready? w = none) : AtRest x t w := by
  rcases hs with hover | hs
  · exact .ended hover
  · cases hr with
    | ended hover => exact .ended hover
    | paused hbusy hhalt _ _ =>
      cases hover : t.isOver with
      | true => exact .ended hover
      | false =>
        unfold Task.ready? at hnone
        rw [hover, hhalt] at hnone
        cases hnone
    | sleeping hbusy hhalt _ => exact .sleeping hs hbusy hhalt
    | waiting hstage ho hhalt _ => exact .waiting hs hstage ho hhalt

/-- A task whose search has come to its next stage comes to rest. -/
theorem onward_rests {p : Trip} {s : State} {stages : Nat} (hx : t.search = x)
    (hp : x.Travels p w.clock s) (hidle : Unmoved s w) (hstages : t.stagesBetween = stages + 1)
    (hb : stagePauses s.stage + s.pausesAfter x ≤ b) :
    Rests x b
      (({ t with state := s } : Task).follow stages (t.search.step s) { w with tried := s.tried }).1
      (({ t with state := s } : Task).follow stages (t.search.step s)
        { w with tried := s.tried }).2 := by
  have hleft := remaining_lt_stagesBetween hx s
  have hstep : t.search.step s = x.step s := by rw [hx]
  rw [hstep]
  exact follow_rests (t := { t with state := s }) (w := { w with tried := s.tried }) hx hp hidle
    (by dsimp only; omega) hb

theorem exists_stagesBetween (t : Task) : ∃ stages, t.stagesBetween = stages + 1 :=
  ⟨5 * t.search.vendors.length + 15, rfl⟩

/-- **A task that goes on within a stage comes to rest**, if it is told of no change when the stage
is over. -/
theorem within_rests {p : Trip} {begun : Nat} {h : History} (hx : t.search = x)
    (hp : x.Travels p begun t.state) (hl : (x.step t.state).Leads begun h w.clock r)
    (hhalts : t.state.Halts (w.go r).1)
    (hidle : ∀ s w₁, w.go r = (.finished (.goOn s), w₁) → Unmoved s w₁) {m : Nat}
    (hpauses : r.Pauses m) (hb : m + t.state.pausesAfter x ≤ b) :
    Rests x b (t.follow t.stagesBetween r w).1 (t.follow t.stagesBetween r w).2 := by
  obtain ⟨stages, hstages⟩ := t.exists_stagesBetween
  rw [hstages]
  refine follow_succ_rests hhalts hpauses hb fun s w₁ hgo => ?_
  obtain ⟨hclock, k, hc⟩ := World.course_of_finished hl hgo
  have hfewer := hp.account.pauses hc
  have hp' : x.Travels (p.add ⟨begun, t.state, k, w₁.clock, s⟩) w₁.clock s := by
    rw [hclock]
    exact hp.onward hc
  exact onward_rests hx hp' (hidle s w₁ hgo) hstages (by omega)

/-- A search that is busy observes nothing once its stage is over. -/
theorem unmoved_of_busy {p : Trip} {begun now : Nat} {h : History} {s' : State} {s : State}
    (hp : x.Travels p begun s) (hbusy : s.IsBusy) (hc : (x.step s).Course begun h now (.goOn s')) :
    Unmoved s' w := by
  have hnone := hp.unobserved hbusy
  have hnone' : s'.observer = none := by
    obtain ⟨h₁, -, hturn⟩ := step_turn hc
    obtain ⟨i, hi⟩ := hbusy
    cases hturn with
    | shown | hidden | handled | lost => exact hnone
    | looked hs _ =>
      rcases hs with hs | ⟨hs, -⟩
      · simp [hs] at hi
      · simp [hs] at hi
    | found hs _ | nothing hs _ | woken hs _ _ | settled hs _ | satisfied hs _ => simp [hs] at hi
  intro _ o ho
  rw [hnone'] at ho
  cases ho

theorem busy_rests {m : Nat} (hruns : Runs x t w.clock r) (hbusy : t.state.IsBusy)
    (hpauses : r.Pauses m) (hb : m + t.state.pausesAfter x ≤ b) :
    Rests x b (t.follow t.stagesBetween r w).1 (t.follow t.stagesBetween r w).2 := by
  cases hruns with
  | starting _ hs _ =>
    obtain ⟨i, hi⟩ := hbusy
    simp [hs] at hi
  | travelling hx hp hl =>
    refine within_rests hx hp hl (busy_halts hbusy hl) (fun s w₁ hgo => ?_) hpauses hb
    obtain ⟨-, k, hc⟩ := World.course_of_finished hl hgo
    exact unmoved_of_busy hp hbusy hc

/-- **A task that acts until it has to wait does so**, if there are as many pauses as are to
come. -/
theorem actFor_waits {fuel : Nat} (hs : t.isOver = true ∨ Stands x t w.clock) (hr : Rests x b t w)
    (hfuel : b ≤ fuel) :
    (t.actFor w fuel).1.ready? (t.actFor w fuel).2 = none ∧
      AtRest x (t.actFor w fuel).1 (t.actFor w fuel).2 := by
  induction fuel generalizing t w b with
  | zero =>
    rcases hr.ready? with hnone | ⟨-, -, next, m, -, -, hfewer⟩
    · exact ⟨hnone, hr.atRest hs hnone⟩
    · omega
  | succ fuel ih =>
    rcases hr.ready? with hnone | ⟨hover, hbusy, next, m, hhalt, hnext, hfewer⟩
    · rw [actFor_none hnone]
      exact ⟨hnone, hr.atRest hs hnone⟩
    · have hready : t.ready? w = some (next, w) := by
        unfold Task.ready?
        rw [hover, hhalt]
        rfl
      have hstands : Stands x t w.clock := hs.resolve_left (by simp [hover])
      obtain ⟨-, hruns⟩ := hstands.ready? hready
      have hstands' : Stands x (t.follow t.stagesBetween next w).1
          (t.follow t.stagesBetween next w).2.clock := hruns.follow _
      have hrests := busy_rests hruns hbusy hnext (Nat.le_refl _)
      rw [actFor_some hready]
      exact ih (.inr hstands') hrests (by omega)

/-! ### Acting until it has to wait -/

/-- Who collected changes has none left. -/
theorem collect?_taken {o : Observer} {records : Nat} (h : w.collect? o = some (some records, w')) :
    (w'.page.mailbox o).queue = [] := by
  by_cases hq : (w.page.mailbox o).queue = []
  · rw [World.collect?_empty hq] at h
    split at h <;> cases h
  · cases hm : (w.page.mailbox o).dropped with
    | true =>
      rw [World.collect?_dropped hm] at h
      cases h
    | false =>
      rw [World.collect?_batches hm hq] at h
      cases h
      dsimp only
      rw [Page.mailbox_drain hm]

/-- The pauses that are to come once a task goes on, at most: as many as of all vendors. -/
theorem pauses_le {p : Trip} {now : Nat} {s : State} (hp : x.Travels p now s) :
    stagePauses s.stage + s.pausesAfter x ≤ 6 * x.vendors.length := by
  have hle := hp.account.tried_le
  -- the vendor that is checked or handled has been tried
  have hcurrent : s.IsBusy → 0 < s.tried.length := by
    rintro ⟨i, hi⟩
    obtain ⟨v, earlier, -, htried, -⟩ := hp.account.current i hi
    rw [htried, List.length_append]
    exact Nat.lt_of_lt_of_le Nat.zero_lt_one (Nat.le_add_left _ _)
  unfold State.pausesAfter
  cases hs : s.stage with
  | polling i =>
    have htried := hcurrent ⟨i, .inl hs⟩
    simp only [stagePauses]
    omega
  | handling i =>
    have htried := hcurrent ⟨i, .inr hs⟩
    simp only [stagePauses]
    omega
  | _ =>
    simp only [stagePauses]
    omega

theorem look_pauses (s : State) (n : Nat) : (look s).Pauses n := by
  intro answer
  cases answer <;> trivial

/-- **A task that begins comes to rest.** -/
theorem start_rests (hx : t.search = x) (hstate : t.state = {}) (w : World) :
    Rests x (6 * x.vendors.length) (t.follow t.stagesBetween start w).1
      (t.follow t.stagesBetween start w).2 := by
  obtain ⟨stages, hstages⟩ := t.exists_stagesBetween
  rw [hstages]
  refine follow_succ_rests (go_look w _ {}) (look_pauses {} 0) ?_ fun s w₁ hgo => ?_
  · rw [hstate, Nat.zero_add]
    exact Nat.le_refl _
  · obtain ⟨hclock, h, hc⟩ := World.course_of_finished (.refl start w.clock) hgo
    have hidle : s.Idle w₁ := look_idle (World.alone_of_go hgo)
    have hp : x.Travels ⟨h, []⟩ w₁.clock s := by
      rw [hclock]
      exact .begin hc
    exact onward_rests hx hp (fun _ => hidle) hstages (pauses_le hp)

/-- **A task that wakes comes to rest**: of the changes it was told of none is left. -/
theorem wake_rests {p : Trip} {begun : Nat} {h : History} {o : Observer} {records : Option Nat}
    (hx : t.search = x) (hp : x.Travels p begun t.state) (ho : t.state.observer = some o)
    (hcollect : w.collect? o = some (records, w'))
    (hl : (x.step t.state).Leads begun h w'.clock (wake t.state records)) :
    Rests x (6 * x.vendors.length) (t.follow t.stagesBetween (wake t.state records) w').1
      (t.follow t.stagesBetween (wake t.state records) w').2 := by
  refine within_rests hx hp hl ?_ (fun s w₁ hgo => ?_) (leads_pauses hl) (pauses_le hp)
  · cases records <;> exact .finished _
  · cases records with
    | none =>
      cases hgo
      intro hopen
      exact absurd rfl hopen
    | some k =>
      have htaken := collect?_taken hcollect
      cases hgo
      rintro - o' ho'
      rw [ho] at ho'
      cases ho'
      exact htaken

/-- A task at rest stands somewhere. -/
theorem AtRest.stands (h : AtRest x t w) : t.isOver = true ∨ Stands x t w.clock := by
  cases h with
  | ended hover => exact .inl hover
  | starting hx hstate hhalt =>
    have hleft : start.Halts w.clock w.clock t.halt := by
      rw [hhalt]
      exact .paused (.refl _ _)
    exact .inr (.starting hx hstate hleft)
  | sleeping hs | waiting hs => exact .inr hs

/-- **A task at rest that goes on comes to rest.** -/
theorem AtRest.rests (h : AtRest x t w) (hr : t.ready? w = some (r, w')) :
    Rests x (6 * x.vendors.length) (t.follow t.stagesBetween r w').1
      (t.follow t.stagesBetween r w').2 := by
  have hover := isOver_of_ready hr
  cases h with
  | ended hend =>
    rw [hover] at hend
    cases hend
  | starting hx hstate hhalt =>
    unfold Task.ready? at hr
    rw [hover, hhalt] at hr
    cases hr
    exact start_rests hx hstate w
  | sleeping hs hbusy hhalt =>
    obtain ⟨-, hruns⟩ := hs.ready? hr
    cases hruns with
    | starting _ hstate _ =>
      obtain ⟨i, hi⟩ := hbusy
      simp [hstate] at hi
    | travelling hx hp hl =>
      exact busy_rests (.travelling hx hp hl) hbusy (leads_pauses hl) (pauses_le hp)
  | waiting hs hstage ho hhalt =>
    obtain ⟨-, hruns⟩ := hs.ready? hr
    unfold Task.ready? at hr
    rw [hover, hhalt] at hr
    obtain ⟨⟨records, w₁⟩, hcollect, hnext⟩ := Option.map_eq_some_iff.1 hr
    cases hnext
    cases hruns with
    | starting _ hstate _ => simp [hstate] at hstage
    | travelling hx hp hl => exact wake_rests hx hp ho hcollect hl

/-- **A task acts until it has to wait**: the stages and the pauses of a run are enough. -/
theorem run_waits (h : AtRest x t w) :
    (t.run w).1.ready? (t.run w).2 = none ∧ AtRest x (t.run w).1 (t.run w).2 := by
  unfold run
  cases hr : t.ready? w with
  | none =>
    rw [actFor_none hr]
    exact ⟨hr, h⟩
  | some p =>
    obtain ⟨r, w'⟩ := p
    have hover := isOver_of_ready hr
    have hstands : Stands x t w.clock := h.stands.resolve_left (by simp [hover])
    obtain ⟨-, hruns⟩ := hstands.ready? hr
    have hx : t.search = x := by
      cases hruns with
      | starting hx | travelling hx => exact hx
    have hstands' : Stands x (t.follow t.stagesBetween r w').1
        (t.follow t.stagesBetween r w').2.clock := hruns.follow _
    have hfuel : t.pausesBetween = 8 * x.vendors.length + 7 + 1 := by
      unfold pausesBetween
      rw [hx]
    rw [hfuel, actFor_some hr]
    exact actFor_waits (.inr hstands') (h.rests hr) (by omega)

end Task
end ConsentWalker
