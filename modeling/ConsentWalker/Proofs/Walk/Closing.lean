import ConsentWalker.Proofs.Walk.Closed
import ConsentWalker.Proofs.Walk.Restraint
import ConsentWalker.Proofs.Walk.Session
import ConsentWalker.Proofs.Walk.Sparing
import ConsentWalker.Proofs.Walk.Unmissed
/-!
# Walk — closing the page ends a search

A page may be closed at any time: by others while a search has to wait, or by the rules of the
dialog that it handles. From then on, whatever others do, every turn of the search that ends a stage
brings it nearer to its end, or takes changes out of a queue to which none are added any more.
`Task.WindsUp` is what it comes to: the search ends after so many turns, with the report that was
due when the page was closed.
-/

namespace ConsentWalker

open Search (State Next Ebbs stagesLeft)

/-! ## Worlds whose page is closed -/

/-- **What may befall a world**: whatever may happen to its page. Nobody plans faults. -/
structure World.Befalls (w w' : World) : Prop where
  page : w.page.Step w'.page
  faults : w'.faults = w.faults

/-- **A world whose page was closed** with a record that is complete, and that no fault stands in
for. -/
structure World.Shut (events : List PageEvent) (w : World) : Prop where
  closed : w.page.closed = true
  events : w.page.events = events
  deaf : ∀ m ∈ w.page.mailboxes, m.connected = false
  planned : w.faults.planned = []

namespace World

variable {events : List PageEvent} {w w' : World}

theorem Shut.still (h : w.Shut events) (hs : w.page.Still w'.page) (hf : w'.faults.planned = []) :
    w'.Shut events :=
  ⟨hs.closed, hs.events.trans h.events, hs.deaf h.deaf, hf⟩

theorem Shut.befalls (h : w.Shut events) (hb : w.Befalls w') :
    w'.Shut events ∧ w'.page.queued ≤ w.page.queued := by
  have hstill := hb.page.still h.closed
  exact ⟨h.still hstill (by rw [hb.faults, h.planned]), hstill.queued⟩

/-- A call to a closed page is answered by it. -/
theorem Shut.perform (h : w.Shut events) (c : Call) :
    (w.perform c).2.Shut events ∧ (w.perform c).2.page.queued ≤ w.page.queued ∧
      Act.MeetsClosed (.call c (w.perform c).1) := by
  obtain ⟨hanswer, hpage, hplanned⟩ := w.perform_eq h.planned c
  have hstill := Page.Still.perform h.closed c
  rw [← hpage] at hstill
  exact ⟨h.still hstill hplanned, hstill.queued, w.page, h.closed, hanswer⟩

/-- **Who waits for changes of a closed page waits no longer**: it takes those that were told, or
learns that there will be none. -/
theorem Shut.collects (h : w.Shut events) (o : Observer) :
    ∃ records w', w.collect? o = some (records, w') ∧ w'.Shut events ∧
      (records = none ∧ w' = w ∨ w'.page.queued < w.page.queued) := by
  by_cases hq : (w.page.mailbox o).queue = []
  · have hdeaf : (w.page.mailbox o).isLive ≠ true := by
      unfold Page.mailbox
      cases hm : w.page.mailboxes[o.index]? with
      | none => exact Bool.false_ne_true
      | some m =>
        have hconnected := h.deaf m (List.mem_of_getElem? hm)
        simp [Mailbox.isLive, hconnected]
    have hcollect := collect?_empty hq
    rw [if_neg hdeaf] at hcollect
    exact ⟨none, w, hcollect, h, .inl ⟨rfl, rfl⟩⟩
  · cases hm : (w.page.mailbox o).dropped with
    | true => exact ⟨none, w, collect?_dropped hm, h, .inl ⟨rfl, rfl⟩⟩
    | false =>
      refine ⟨_, _, collect?_batches hm hq, ?_, .inr (Page.drain_queued hq)⟩
      exact h.still (.drain h.closed o) h.planned

end World

/-! ## Tasks that wind up -/

namespace Task

variable {x : Search} {s : State} {t : Task} {w w' w₀ : World} {events : List PageEvent}
  {report : Report}
  {P : Task → World → Prop}

/-- **What may happen while a task does not act**: others change the world, and time passes. -/
inductive Idles (Others : World → World → Prop) (t : Task) (w : World) : World → Prop where
  | refl : Idles Others t w w
  | change {w₁ w₂ : World} : Idles Others t w w₁ → Others w₁ w₂ → w₂.clock = w₁.clock →
      Idles Others t w w₂
  | pass {w₁ : World} (time : Nat) : Idles Others t w w₁ → w₁.clock ≤ time → t.LetsPass time →
      Idles Others t w { w₁ with clock := time }

/-- **A task that comes to its end**, whatever others do while it does not act: it is over, or it
can always go on, now or once it wakes, and comes to its end after each turn that it may take
then. -/
inductive WindsUp (Others : World → World → Prop) (P : Task → World → Prop) :
    Task → World → Prop where
  | ended {t : Task} {w : World} : t.isOver = true → P t w → WindsUp Others P t w
  | goesOn {t : Task} {w : World} : t.isOver = false →
      (∀ w', t.Idles Others w w' → (t.ready? w').isSome = true ∨ t.alarm?.isSome = true) →
      (∀ w', t.Idles Others w w' → (t.ready? w').isSome = true →
        WindsUp Others P (t.turn w').1 (t.turn w').2) → WindsUp Others P t w

/-- A task that has ended with a report, now, on a page with such a record. -/
structure Concludes (report : Report) (events : List PageEvent) (t : Task) (w : World) : Prop where
  ended : t.ended = some (.ok report, w.clock)
  events : w.page.events = events

/-- While a task does not act a closed page stays as it is. -/
theorem Idles.shut (hi : t.Idles World.Befalls w w') (hw : w.Shut events) :
    w'.Shut events ∧ w'.page.queued ≤ w.page.queued := by
  induction hi with
  | refl => exact ⟨hw, Nat.le_refl _⟩
  | change _ hb _ ih =>
    obtain ⟨hw₂, hqueued⟩ := ih.1.befalls hb
    exact ⟨hw₂, Nat.le_trans hqueued ih.2⟩
  | pass time _ _ _ ih => exact ⟨⟨ih.1.closed, ih.1.events, ih.1.deaf, ih.1.planned⟩, ih.2⟩

/-- **A task that waits winds up** if it does whenever it goes on with what is left to do. -/
theorem windsUp_of_halt {Q : Routine Next → Prop} (hover : t.isOver = false)
    (hhalt : t.halt.Meets (fun _ => False) Q) (hw : w.Shut events)
    (hnext : ∀ r w', Q r → w'.Shut events → w'.page.queued ≤ w.page.queued →
      WindsUp World.Befalls P (t.follow 1 r w').1 (t.follow 1 r w').2) :
    WindsUp World.Befalls P t w := by
  refine .goesOn hover (fun w' hi => ?_) (fun w' hi hready => ?_)
  · -- a task that waits for changes of a closed page need not wait any longer
    obtain ⟨hw', -⟩ := hi.shut hw
    unfold ready? alarm?
    rw [hover]
    generalize t.halt = halt at hhalt
    cases halt with
    | finished a => exact absurd hhalt id
    | sleeping wake next => exact .inr rfl
    | paused next => exact .inl rfl
    | waiting o next =>
      obtain ⟨records, w₁, hcollect, -, -⟩ := hw'.collects o
      left
      change ((w'.collect? o).map _).isSome = true
      rw [hcollect]
      rfl
  · obtain ⟨hw', hqueued⟩ := hi.shut hw
    obtain ⟨⟨r, w₁⟩, hr⟩ := Option.isSome_iff_exists.1 hready
    rw [turn_some hr]
    obtain ⟨hq, rfl | ⟨o, records, hcollect⟩⟩ := ready?_of_meets hhalt hr
    · exact hnext r w₁ hq hw' hqueued
    · obtain ⟨records', w₂, hcollect', hw₂, hless⟩ := hw'.collects o
      rw [hcollect] at hcollect'
      cases hcollect'
      refine hnext r w₁ hq hw₂ ?_
      rcases hless with ⟨-, rfl⟩ | hless
      · exact hqueued
      · omega

/-- A task that is in a stage of its search. -/
def inStage (x : Search) (s : State) (halt : Halt Next) : Task := { search := x, state := s, halt }

/-- **Fewer changes wait** than so many; or no more do, and a routine comes to something if it is
told of none. -/
def Nears (n : Nat) (U : Next → Prop) (r : Routine Next) (w : World) : Prop :=
  w.page.queued < n ∨
    w.page.queued ≤ n ∧ r.Given (fun a => a.MeetsClosed ∧ a.IsUntold) U

theorem Nears.on {n : Nat} {U : Next → Prop} {r r' : Routine Next} (h : Nears n U r w)
    (hle : w'.page.queued ≤ w.page.queued)
    (hr : r.Given (fun a => a.MeetsClosed ∧ a.IsUntold) U →
      r'.Given (fun a => a.MeetsClosed ∧ a.IsUntold) U) : Nears n U r' w' := by
  rcases h with hless | ⟨hle', hu⟩
  · exact .inl (by omega)
  · exact .inr ⟨by omega, hr hu⟩

/-- **A turn of a task on a closed page** leads to the end of its stage, if not at once then through
its waits. By then changes were taken out of a queue, or none were told. -/
theorem follow_windsUp {R U : Next → Prop} {n : Nat} {r : Routine Next}
    (hstop : ∀ (outcome : Except PageError Report) (w' : World), R (.stop outcome) →
      w'.Shut events →
      P { inStage x s (.finished (.stop outcome)) with ended := some (outcome, w'.clock) } w')
    (hgoOn : ∀ (s' : State) (w' : World), R (.goOn s') → w'.Shut events →
      Nears n U (.done (.goOn s')) w' →
      WindsUp World.Befalls P (inStage x s' (.paused (x.step s'))) { w' with tried := s'.tried })
    (halt : Halt Next) (hw : w.Shut events) (hr : r.Given Act.MeetsClosed R) (hn : Nears n U r w) :
    WindsUp World.Befalls P ((inStage x s halt).follow 1 r w).1
      ((inStage x s halt).follow 1 r w).2 := by
  induction r generalizing w halt with
  | done next =>
    cases next with
    | stop outcome => exact .ended rfl (hstop outcome w hr hw)
    | goOn s' => exact hgoOn s' w hr hw hn
  | call c next ih =>
    obtain ⟨hw', hle, hmeets⟩ := hw.perform c
    exact ih _ halt hw' (hr _ hmeets) (hn.on hle fun hu => hu _ ⟨hmeets, trivial⟩)
  | note m next ih =>
    have hw' : (w.tell m).Shut events := ⟨hw.closed, hw.events, hw.deaf, hw.planned⟩
    exact ih halt hw' (hr trivial) (hn.on (Nat.le_refl _) fun hu => hu ⟨trivial, trivial⟩)
  | sleep d next ih =>
    have hnext : ∀ w' : World, w'.Shut events → w'.page.queued ≤ w.page.queued → ∀ halt,
        WindsUp World.Befalls P ((inStage x s halt).follow 1 next w').1
          ((inStage x s halt).follow 1 next w').2 := fun w' hw' hle halt =>
      ih halt hw' (hr trivial) (hn.on hle fun hu => hu ⟨trivial, trivial⟩)
    cases d with
    | zero => exact hnext w hw (Nat.le_refl _) halt
    | succ d =>
      refine windsUp_of_halt (Q := fun r => r = next) rfl rfl hw ?_
      rintro r w' rfl hw' hle
      exact hnext w' hw' hle _
  | pause next ih =>
    refine windsUp_of_halt (Q := fun r => r = next) rfl rfl hw ?_
    rintro r w' rfl hw' hle
    exact ih _ hw' (hr trivial) (hn.on hle fun hu => hu ⟨trivial, trivial⟩)
  | await o next ih =>
    obtain ⟨records, w', hcollect, hw', hless⟩ := hw.collects o
    have hgo : (inStage x s halt).follow 1 (.await o next) w =
        (inStage x s halt).follow 1 (next records) w' := by
      unfold follow
      rw [World.go_await_some hcollect]
    rw [hgo]
    refine ih records halt hw' (hr records trivial) ?_
    rcases hless with ⟨rfl, rfl⟩ | hless
    · exact hn.on (Nat.le_refl _) fun hu => hu none ⟨trivial, trivial⟩
    · rcases hn with hn | ⟨hn, -⟩
      · exact .inl (by omega)
      · exact .inl (by omega)
  | drop o next ih =>
    have hstill := Page.Still.drop hw.closed o
    have hw' : (w.drop o).Shut events := hw.still hstill hw.planned
    exact ih halt hw' (hr trivial) (hn.on hstill.queued fun hu => hu ⟨trivial, trivial⟩)
  | report v next ih =>
    have hw' : (w.sight v).Shut events := ⟨hw.closed, hw.events, hw.deaf, hw.planned⟩
    exact ih halt hw' (hr trivial) (hn.on (Nat.le_refl _) fun hu => hu ⟨trivial, trivial⟩)

/-- **A task that begins a stage on a closed page winds up.** -/
theorem step_windsUp (hw : w.Shut events) :
    WindsUp World.Befalls (Concludes (s.due x) events) (inStage x s (.paused (x.step s))) w := by
  induction hm : 2 * w.page.queued + stagesLeft s.stage using Nat.strongRecOn generalizing s w with
  | ind m ih =>
    refine windsUp_of_halt (Q := fun r => r = x.step s) rfl rfl hw ?_
    rintro r w' rfl hw' hle
    refine follow_windsUp (n := w'.page.queued) (fun outcome w₁ hebbs hw₁ => ?_)
      (fun s' w₁ hebbs hw₁ hn => ?_)
      _ hw' (x.step_given s) (.inr ⟨Nat.le_refl _, x.step_nearer_untold s⟩)
    · obtain rfl : outcome = .ok (s.due x) := hebbs.owes
      exact ⟨rfl, hw₁.events⟩
    · have hdue : s'.due x = s.due x := hebbs.owes
      have hfewer : 2 * w₁.page.queued + stagesLeft s'.stage < m := by
        rcases hn with hless | ⟨hle₁, hnearer⟩
        · rcases hebbs.nearer with hnearer | ⟨hs, hs'⟩
          · omega
          · rw [hs] at hm
            rw [hs']
            simp only [stagesLeft] at hm ⊢
            omega
        · have hnearer' := hnearer s' rfl
          omega
      have hw₂ : World.Shut events { w₁ with tried := s'.tried } :=
        ⟨hw₁.closed, hw₁.events, hw₁.deaf, hw₁.planned⟩
      rw [← hdue]
      exact ih _ hfewer hw₂ rfl

/-- **So does one that goes on with what is left of a stage.** -/
theorem left_windsUp {r : Routine Next} (halt : Halt Next) (hw : w.Shut events)
    (hr : r.Given Act.MeetsClosed (Next.Owes x report)) :
    WindsUp World.Befalls (Concludes report events) ((inStage x s halt).follow 1 r w).1
      ((inStage x s halt).follow 1 r w).2 := by
  refine follow_windsUp (n := w.page.queued + 1) (U := fun _ => True)
    (fun outcome w₁ howes hw₁ => ?_)
    (fun s' w₁ howes hw₁ _ => ?_) halt hw hr (.inl (Nat.lt_succ_self _))
  · obtain rfl : outcome = .ok report := howes
    exact ⟨rfl, hw₁.events⟩
  · obtain rfl : s'.due x = report := howes
    exact step_windsUp ⟨hw₁.closed, hw₁.events, hw₁.deaf, hw₁.planned⟩

/-! ## Wherever a task stands -/

/-- **What a task may run next**, so that it comes to what is due if the page is closed now or at a
later wait. -/
inductive Resumes (x : Search) (s : State) : Routine Next → Prop where
  | starting : s = {} → Resumes x s Search.start
  | going {r : Routine Next} : r.Given Act.MeetsClosed (x.Ebbs s) →
      r.Rests (·.Given Act.MeetsClosed (x.Ebbs s)) → Resumes x s r

theorem Resumes.step (x : Search) (s : State) : Resumes x s (x.step s) :=
  .going (x.step_given s) (x.step_rests s)

theorem Resumes.given {r : Routine Next} (hr : Resumes x s r) :
    r.Given Act.MeetsClosed (Next.Owes x (s.due x)) := by
  cases hr with
  | starting hs =>
    subst hs
    rintro r ⟨p, -, rfl⟩
    rfl
  | going hnow _ => exact hnow.mono (fun _ h => h) fun _ h => h.owes

theorem Resumes.go {r : Routine Next} (hr : Resumes x s r) (w : World) :
    (w.go r).1.Meets (fun _ => True) (Resumes x s) := by
  cases hr with
  | starting hs =>
    have hhalt := World.go_rests (Search.look_rests {} fun _ => False) w
    exact hhalt.imp (fun _ h => h) fun _ h => h.1.elim
  | going _ hlater => exact (World.go_rests hlater w).imp (fun _ h => h) fun _ h => .going h.1 h.2

/-- A task that is over, or has something left to do that it may run next. -/
def Resumable (x : Search) (t : Task) : Prop :=
  t.isOver = true ∨ t.halt.Meets (fun _ => False) (Resumes x t.state)

theorem Resumes.follow {r : Routine Next} (stages : Nat) (hx : t.search = x)
    (hr : Resumes x t.state r) :
    Resumable x (t.follow stages r w).1 := by
  induction stages generalizing t r w with
  | zero => exact .inr hr
  | succ stages ih =>
    have hhalt := hr.go w
    unfold Task.follow
    rcases hgo : w.go r with ⟨halt, w₁⟩
    rw [hgo] at hhalt
    cases halt with
    | finished n =>
      cases n with
      | stop outcome => exact .inl rfl
      | goOn s' =>
        have hnext : Resumes x s' (t.search.step s') := hx ▸ Resumes.step x s'
        exact ih (t := { t with state := s' }) hx hnext
    | sleeping | paused | waiting => exact .inr hhalt

theorem Beside.search_eq {Others : World → World → Prop} (hb : Beside x Others w₀ t w) :
    t.search = x := by
  cases hb.stands with
  | starting hx | travelling hx => exact hx

theorem Beside.resumable {Others : World → World → Prop} (hb : Beside x Others w₀ t w) :
    Resumable x t := by
  induction hb with
  | new => exact .inr (.starting rfl)
  | act stages hbefore hr ih =>
    have hhalt := ih.resolve_left (by rw [isOver_of_ready hr]; exact Bool.false_ne_true)
    exact (ready?_of_meets hhalt hr).1.follow stages hbefore.search_eq
  | change _ _ _ ih | pass _ _ _ _ ih => exact ih

end Task

/-! ## Worlds as they can come to be -/

/-- A world with a page that can have come to be, where nothing is planned to fail. -/
structure World.Genuine (w : World) : Prop where
  reached : w.page.Reached
  planned : w.faults.planned = []

namespace World

variable {w w' : World}

/-- A world that is only the page of a tree is genuine. -/
theorem Genuine.ofTree (t : Tree) (nested : Bool) : World.Genuine { page := .ofTree t nested } :=
  ⟨.ofTree t nested, rfl⟩

theorem Makes.genuine {a : Act} (h : w.Makes a w') (hw : w.Genuine) : w'.Genuine := by
  obtain ⟨hreached, hplanned⟩ := hw
  cases h with
  | call c =>
    obtain ⟨-, hpage, hplanned'⟩ := w.perform_eq hplanned c
    exact ⟨hpage ▸ hreached.step (.perform c), hplanned'⟩
  | collect hcollect =>
    rcases collect?_cases hcollect with rfl | rfl
    · exact ⟨hreached, hplanned⟩
    · exact ⟨hreached.step (.drain _), hplanned⟩
  | drop o => exact ⟨hreached.step (.drop o), hplanned⟩
  | note | rest | report => exact ⟨hreached, hplanned⟩

theorem Genuine.go {α : Type} (hw : w.Genuine) (r : Routine α) : (w.go r).2.Genuine :=
  World.go_preserves (fun _ _ _ hw h => Makes.genuine h hw) r hw

/-- Who appends, takes out or closes does what may befall a world. -/
theorem Befalls.of_mutates (h : Mutates w w') : w.Befalls w' := by
  refine ⟨?_, h.faults_eq⟩
  cases h with
  | append parent trees =>
    unfold World.append
    rw [(Mutates.change_eq w _ _).1]
    exact .append parent trees
  | remove selector =>
    unfold World.remove
    rw [(Mutates.change_eq w _ _).1]
    exact .remove selector
  | close => exact .perform .close

end World

namespace Task

variable {x : Search} {t : Task} {w w₀ : World} {r : Routine Next}

theorem follow_genuine (stages : Nat) (hw : w.Genuine) : (t.follow stages r w).2.Genuine := by
  induction stages generalizing t r w with
  | zero => exact hw
  | succ stages ih =>
    have hgenuine := hw.go r
    unfold Task.follow
    rcases hgo : w.go r with ⟨halt, w₁⟩
    rw [hgo] at hgenuine
    cases halt with
    | finished n =>
      cases n with
      | stop outcome => exact hgenuine
      | goOn s => exact ih ⟨hgenuine.reached, hgenuine.planned⟩
    | sleeping | paused | waiting => exact hgenuine

theorem Beside.genuine (hb : Beside x World.Befalls w₀ t w) (hw : w₀.Genuine) : w.Genuine := by
  induction hb with
  | new => exact hw
  | act stages hbefore hr ih =>
    refine follow_genuine stages ?_
    obtain ⟨-, rfl | ⟨o, records, hcollect⟩⟩ := ready?_of_meets (Halt.meets_true _) hr
    · exact ih
    · exact (World.Makes.collect hcollect).genuine ih
  | change _ hbefalls _ ih =>
    exact ⟨ih.reached.step hbefalls.page, by rw [hbefalls.faults, ih.planned]⟩
  | pass time _ _ _ ih => exact ⟨ih.reached, ih.planned⟩

/-- A turn is one of the acts of a task. -/
theorem Beside.turn {Others : World → World → Prop} (hb : Beside x Others w₀ t w) :
    Beside x Others w₀ (t.turn w).1 (t.turn w).2 := by
  unfold Task.turn
  split
  · exact hb
  · next r w' hr => exact hb.act 1 hr

/-- **On a closed page a task winds up.** -/
theorem Beside.windsUp (hb : Beside x World.Befalls w₀ t w) (hw : w₀.Genuine)
    (hover : t.isOver = false) (hclosed : w.page.closed = true) :
    t.WindsUp World.Befalls (Concludes (t.state.due x) w.page.events) w := by
  obtain ⟨hreached, hplanned⟩ := hb.genuine hw
  have hshut : w.Shut w.page.events := ⟨hclosed, rfl, hreached.sealed.deaf hclosed, hplanned⟩
  have hhalt := hb.resumable.resolve_left (by rw [hover]; exact Bool.false_ne_true)
  refine windsUp_of_halt hover hhalt hshut fun r w' hr hw' _ => ?_
  have ht : t = inStage x t.state t.halt := by
    obtain ⟨search, state, halt, ended⟩ := t
    obtain rfl : search = x := hb.search_eq
    obtain rfl : ended = none := Option.isSome_eq_false_iff.1 hover |> Option.isNone_iff_eq_none.1
    rfl
  have hleft := left_windsUp (s := t.state) t.halt hw' hr.given
  rw [← ht] at hleft
  exact hleft

end Task

/-! ## What may close the page -/

namespace Search

variable {x : Search} {s : State} {p : Trip} {time : Nat}

/-- **A trip that ends with a dialog that showed**: its last stage checked it up to a check that was
passed. -/
def Trip.Showed (x : Search) (p : Trip) (i : Nat) (v : Vendor) : Prop :=
  ∃ leg cs, p.legs.getLast? = some leg ∧ leg.before.stage = .polling i ∧
    Checks v x.setting.pace.pollInterval leg.start cs ∧
    leg.history.asked = (cs.flatMap fun c => c.history.asked) ∧
    Polled x.setting.pace.pollAttempts leg.start cs leg.stop true

/-- **Who handles a dialog saw it show before.** -/
theorem Travels.showed (hp : x.Travels p time s) {i : Nat} (hi : s.stage = .handling i) :
    ∃ v, x.vendors[i]? = some v ∧ p.Showed x i v := by
  cases hp with
  | begin hc =>
    rw [start_stage hc] at hi
    cases hi
  | onward hp hc =>
    obtain ⟨h₁, rfl, hturn⟩ := step_turn hc
    cases hturn with
    | @shown j v k _ hs hv hpoll =>
      obtain rfl : j = i := by simpa using hi
      obtain ⟨cs, hcs, hasked, hpolled⟩ := poll_course Nat.one_pos hpoll
      refine ⟨v, hv, _, cs, List.getLast?_concat .., hs, hcs, ?_, hpolled⟩
      rw [History.asked_cons_of_none rfl, hasked]
    | looked _ hlook =>
      obtain ⟨o, -, rfl⟩ := look_goOn hlook
      cases hi
    | _ => cases hi

end Search

namespace Task

variable {x : Search} {t : Task} {w w' w₀ : World} {r : Routine Next}

/-- A turn up to the next wait or the end of the stage leaves the page as running on does. -/
theorem follow_one_page (t : Task) (r : Routine Next) (w : World) :
    (t.follow 1 r w).2.page = (w.go r).2.page := by
  unfold follow
  rcases w.go r with ⟨halt, w₁⟩
  cases halt with
  | finished n => cases n <;> rfl
  | sleeping | paused | waiting => rfl

/-- What only asks and observes closes no page. -/
theorem follow_quiet (hr : r.Only Act.IsQuiet) :
    (t.follow 1 r w).2.page.closed = w.page.closed := by
  obtain ⟨hspared, -⟩ := World.go_spares (hr.mono Act.IsQuiet.spares) w
  obtain ⟨handles, mailboxes, hpage⟩ := hspared.page
  rw [follow_one_page, hpage]

/-- **A turn of a handling** leaves due what was due, and does not end the search. -/
theorem follow_handling {begun : Nat} {h : History} {i : Nat} (hover : t.isOver = false)
    (hi : t.state.stage = .handling i) (hl : (x.step t.state).Leads begun h w.clock r) :
    (t.follow 1 r w).1.isOver = false ∧ (t.follow 1 r w).1.state.due x = t.state.due x := by
  obtain ⟨-, hhalts⟩ := World.go_halts hl
  unfold follow
  rcases hgo : w.go r with ⟨halt, w₁⟩
  rw [hgo] at hhalts
  cases hhalts with
  | @finished _ n hc =>
    have hebbs := Search.handling_ebbs hi hc
    cases n with
    | goOn s' => exact ⟨hover, hebbs.owes⟩
    | stop outcome =>
      cases hebbs with
      | ended hs =>
        rw [hi] at hs
        cases hs
  | sleeping | paused | waiting => exact ⟨hover, rfl⟩

/-- **Only a handling closes the page**: after the turn in which it does the search goes on, and
owes the same. -/
theorem Beside.turn_closes {Others : World → World → Prop} (hb : Beside x Others w₀ t w)
    (hopen : w.page.closed = false) (hclosed : (t.turn w).2.page.closed = true) :
    (∃ i, t.state.stage = .handling i) ∧ (t.turn w).1.isOver = false ∧
      (t.turn w).1.state.due x = t.state.due x := by
  cases hr : t.ready? w with
  | none =>
    have hstays : t.turn w = (t, w) := by
      unfold Task.turn
      rw [hr]
    rw [hstays, hopen] at hclosed
    cases hclosed
  | some p =>
    obtain ⟨r, w₁⟩ := p
    rw [turn_some hr] at hclosed ⊢
    have hopen₁ : w₁.page.closed = false := by
      obtain ⟨-, rfl | ⟨o, records, hcollect⟩⟩ := ready?_of_meets (Halt.meets_true _) hr
      · exact hopen
      · obtain ⟨handles, mailboxes, hpage⟩ := (World.collect?_spared hcollect).page
        rw [hpage]
        exact hopen
    have hstays : ¬ r.Only Act.IsQuiet := by
      intro hquiet
      rw [follow_quiet hquiet, hopen₁] at hclosed
      cases hclosed
    obtain ⟨-, hruns⟩ := hb.stands.ready? hr
    cases hruns with
    | starting _ _ hl => exact absurd ((Search.look_quiet {}).leads hl).2 hstays
    | travelling _ _ hl =>
      by_cases hs : ∃ i, t.state.stage = .handling i
      · obtain ⟨i, hi⟩ := hs
        exact ⟨⟨i, hi⟩, follow_handling (isOver_of_ready hr) hi hl⟩
      · have hquiet := x.step_quiet fun i hi => hs ⟨i, hi⟩
        exact absurd (hquiet.leads hl).2 hstays

/-! ## The end of a search whose page is closed -/

/-- **Closing the page ends the search.** Wherever a task stands that is not over, among whatever
others: what it has in hand is a dialog that it saw show on its way. If the page is closed, be it by
others just now, its record ends there for good, and the task winds up: whatever others do, after so
many turns the search returns what it had tried, and what it had handled with the dialog in hand. So
it does if its next turn closes the page, and then it is from before that turn that nobody else is
tried and nobody else is handled. -/
theorem Beside.closing_ends (hb : Beside x World.Befalls w₀ t w) (hw : w₀.Genuine)
    (hover : t.isOver = false) :
    (∀ name ∈ t.state.inHand x, ∃ i v, t.state.stage = .handling i ∧ x.vendors[i]? = some v ∧
      name = v.name ∧
      (∃ p time, x.Travels p time t.state) ∧ ∀ p time, x.Travels p time t.state → p.Showed x i v) ∧
    (w.page.closed = true → Page.EndsClosed w.page.events ∧
      t.WindsUp World.Befalls (Concludes (t.state.due x) w.page.events) w) ∧
    (w.page.closed = false → .closed ∉ w.page.events ∧
      ((t.turn w).2.page.closed = true → Page.EndsClosed (t.turn w).2.page.events ∧
        (t.turn w).1.WindsUp World.Befalls (Concludes (t.state.due x) (t.turn w).2.page.events)
          (t.turn w).2)) := by
  have hsealed := (hb.genuine hw).reached.sealed
  refine ⟨fun name hname => ?_, fun hclosed => ?_,
    fun hopen => ⟨hsealed.unsaid hopen, fun hclosed => ?_⟩⟩
  · obtain ⟨i, v, hi, hv, rfl⟩ := Search.mem_inHand hname
    refine ⟨i, v, hi, hv, rfl, ?_, fun p time hp => ?_⟩
    · cases hb.stands with
      | starting _ hstate _ =>
        rw [hstate] at hi
        cases hi
      | travelling _ hp _ => exact ⟨_, _, hp⟩
    · obtain ⟨v', hv', hshowed⟩ := hp.showed hi
      obtain rfl : v = v' := Option.some.inj (hv.symm.trans hv')
      exact hshowed
  · exact ⟨hsealed.last hclosed, hb.windsUp hw hover hclosed⟩
  · obtain ⟨-, hover', hdue⟩ := hb.turn_closes hopen hclosed
    have hsealed' := (hb.turn.genuine hw).reached.sealed
    have hwinds := hb.turn.windsUp hw hover' hclosed
    rw [hdue] at hwinds
    exact ⟨hsealed'.last hclosed, hwinds⟩

/-! ### Two closings -/

/-- A search whose rules close the page. -/
def closer : Search where
  vendors := Search.sample.vendors.map fun v =>
    { v with methods := fun m => if m = .hideCmp then some .close else none }

/-- A page with its dialog. -/
def shown : World where
  page := .ofTree
    (.node .document [.node (.element { name := "div", attributes := [("id", "banner")] }) []])
    false

/-- A search that waits ends without a report when others close the page, with a change that it was
not told of yet; and one that closes the page itself has handled the dialog whose rules do so. -/
theorem sample_closing_ends :
    (∃ t w, Beside Search.sample World.Befalls bare t w ∧ w.page.closed = true ∧ w.page.queued = 1 ∧
      t.WindsUp World.Befalls (Concludes {} [.closed]) w) ∧
    ∃ t w, Beside closer World.Befalls shown t w ∧ w.page.closed = false ∧
      (t.turn w).2.page.closed = true ∧
      (t.turn w).1.WindsUp World.Befalls
        (Concludes { handled := ["banner"], tried := ["banner"] }
          [.progress progressMessage, .closed]) (t.turn w).2 := by
  constructor
  · let p₁ := (Task.new Search.sample).run bare
    let w₂ := (p₁.2.append "body" [.node (.element { name := "p" }) []]).2
    let w₃ := (w₂.direct Page.close).2
    have happend : Mutates p₁.2 w₂ := .append "body" _
    have hclose : Mutates w₂ w₃ := .close
    have hb₁ : Beside Search.sample World.Befalls bare p₁.1 p₁.2 := Beside.new.run
    have hb₂ : Beside Search.sample World.Befalls bare p₁.1 w₂ :=
      hb₁.change (.of_mutates happend) happend.clock_eq
    have hb : Beside Search.sample World.Befalls bare p₁.1 w₃ :=
      hb₂.change (.of_mutates hclose) hclose.clock_eq
    have hover : p₁.1.isOver = false := by decide +kernel
    have hclosed : w₃.page.closed = true := by decide +kernel
    have hqueued : w₃.page.queued = 1 := by decide +kernel
    have hdue : p₁.1.state.due Search.sample = {} := by decide +kernel
    have hevents : w₃.page.events = [.closed] := by decide +kernel
    obtain ⟨-, hwinds, -⟩ := Beside.closing_ends hb (.ofTree _ _ : bare.Genuine) hover
    have hwinds' := (hwinds hclosed).2
    rw [hdue, hevents] at hwinds'
    exact ⟨p₁.1, w₃, hb, hclosed, hqueued, hwinds'⟩
  · let p₀ := (Task.new closer).turn shown
    let p₁ := p₀.1.turn p₀.2
    let p₂ := p₁.1.turn p₁.2
    let p₃ := p₂.1.turn p₂.2
    have hb : Beside closer World.Befalls shown p₃.1 p₃.2 := Beside.new.turn.turn.turn.turn
    have hover : p₃.1.isOver = false := by decide +kernel
    have hopen : p₃.2.page.closed = false := by decide +kernel
    have hclosed : (p₃.1.turn p₃.2).2.page.closed = true := by decide +kernel
    have hdue : p₃.1.state.due closer = { handled := ["banner"], tried := ["banner"] } := by
      decide +kernel
    have hevents : (p₃.1.turn p₃.2).2.page.events = [.progress progressMessage, .closed] := by
      decide +kernel
    obtain ⟨-, -, hwinds⟩ := Beside.closing_ends hb (.ofTree _ _ : shown.Genuine) hover
    have hwinds' := ((hwinds hopen).2 hclosed).2
    rw [hdue, hevents] at hwinds'
    exact ⟨p₃.1, p₃.2, hb, hopen, hclosed, hwinds'⟩

end Task
end ConsentWalker
