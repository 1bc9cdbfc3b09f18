import ConsentWalker.Proofs.Walk.Vigil
/-!
# Walk — a task that watches among others

Others may append to the page, take out of it and close it (`Mutates`), whenever the search has to
wait. All of that reaches the observers, so the watch a search keeps between two stages carries over
to every state its task can come to: `Poised` is the invariant, and `Beside.misses_nothing` reads it
off where the task waits for changes.
-/

namespace ConsentWalker

open Search

/-! ## What others do -/

/-- **What others may do to a page**: append markup, take elements out, close it. -/
inductive Mutates (w : World) : World → Prop where
  | append (parent : String) (trees : List Tree) : Mutates w (w.append parent trees).2
  | remove (selector : String) : Mutates w (w.remove selector).2
  | close : Mutates w (w.direct Page.close).2

namespace Mutates

variable {w w' : World}

/-- A change past the faults is one of the page alone. -/
theorem change_eq (w : World) (op : Page.Op Nat) (always : Bool) :
    (w.change op always).2.page = (op.run.run w.page).2 ∧
      (w.change op always).2.faults = w.faults ∧ (w.change op always).2.clock = w.clock := by
  obtain ⟨told, heq⟩ := World.change_eq w op always
  rw [heq]
  exact ⟨rfl, rfl, rfl⟩

/-- **Every change is told.** -/
theorem told (hm : Mutates w w') {o : Observer} (ho : w.page.Hears o) :
    Page.Told o w.page w'.page := by
  cases hm with
  | append parent trees =>
    unfold World.append
    rw [(change_eq w _ _).1]
    exact Page.append_told parent trees ho
  | remove selector =>
    unfold World.remove
    rw [(change_eq w _ _).1]
    exact Page.remove_told selector ho
  | close => exact Page.close_told ho

/-- A change plans no faults. -/
theorem faults_eq (hm : Mutates w w') : w'.faults = w.faults := by
  cases hm with
  | append | remove => exact (change_eq w _ _).2.1
  | close => rfl

/-- A change takes no time. -/
theorem clock_eq (hm : Mutates w w') : w'.clock = w.clock := by
  cases hm with
  | append | remove => exact (change_eq w _ _).2.2
  | close => rfl

end Mutates

/-! ## A task that waits -/

namespace Task

variable {x : Search} {t : Task} {w w' : World} {r : Routine Next}

/-- A routine a task may run next. -/
inductive Ready (x : Search) (s : State) (p : Page) (now : Nat) : Routine Next → Prop where
  | starting : Ready x s p now start
  | between : x.Watches s p → ¬ s.IsBusy → Ready x s p now (x.step s)
  | busy {begun : Nat} {h : History} {r : Routine Next} : s.IsBusy →
      (x.step s).Leads begun h now r → Ready x s p now r
  | woken {o : Observer} (records : Option Nat) : s.observer = some o → p.Hears o →
      Ready x s p now (wake s records)

/-- **What a task may run next lands.** -/
theorem Ready.lands {s : State} (hr : Ready x s w.page w.clock r) (hw : w.faults.planned = []) :
    Lands x s (w.go r).2.page (w.go r).1 := by
  cases hr with
  | starting => exact look_lands _ hw
  | between hwatch hbusy => exact step_lands hwatch hw hbusy
  | busy hb hl => exact busy_lands hb hl
  | woken records ho hhears => exact wake_lands ho hhears records

/-- **A task that waits where it may, or is at its end.** -/
inductive Poised (x : Search) (t : Task) (w : World) : Prop where
  | ended {a : Next} : t.halt = .finished a → Poised x t w
  | paused {r : Routine Next} : t.isOver = false → t.halt = .paused r →
      Ready x t.state w.page w.clock r → Poised x t w
  | landed : t.isOver = false → Lands x t.state w.page t.halt → Poised x t w

/-- **A task that acts comes to be poised**, through however many stages. -/
theorem Ready.follow (stages : Nat) (hr : Ready x t.state w.page w.clock r) (hx : t.search = x)
    (hover : t.isOver = false) (hw : w.faults.planned = []) :
    Poised x (t.follow stages r w).1 (t.follow stages r w).2 ∧
      (t.follow stages r w).2.faults.planned = [] := by
  induction stages generalizing t r w with
  | zero => exact ⟨.paused hover rfl hr, hw⟩
  | succ stages ih =>
    have hlands := hr.lands hw
    have hplanned := (w.go_planned r).trans hw
    unfold Task.follow
    rcases hgo : w.go r with ⟨halt, w₁⟩
    rw [hgo] at hlands hplanned
    dsimp only at hlands hplanned
    cases hlands with
    | @goOn s hwatch =>
      have hnext : Ready x s w₁.page w₁.clock (t.search.step s) := by
        rw [hx]
        by_cases hb : s.IsBusy
        · exact .busy hb (.refl _ _)
        · exact .between hwatch hb
      exact ih (t := { t with state := s }) (w := { w₁ with tried := s.tried }) hnext hx hover
        hplanned
    | stop outcome => exact ⟨.ended rfl, hplanned⟩
    | sleeping time next hb => exact ⟨.landed hover (.sleeping time next hb), hplanned⟩
    | paused next hb => exact ⟨.landed hover (.paused next hb), hplanned⟩
    | waiting hstage ho hwatch => exact ⟨.landed hover (.waiting hstage ho hwatch), hplanned⟩

/-- **A task that is poised goes on with what it may run**, once it need not wait. -/
theorem Poised.ready (hp : Poised x t w) (hs : Stands x t w.clock)
    (hr : t.ready? w = some (r, w')) :
    Ready x t.state w'.page w'.clock r ∧ t.isOver = false ∧ w'.faults = w.faults := by
  obtain ⟨-, hruns⟩ := hs.ready? hr
  -- a search that is busy goes on with its stage
  have busy : t.state.IsBusy → Ready x t.state w'.page w'.clock r := by
    intro hb
    cases hruns with
    | starting _ hstate _ =>
      obtain ⟨i, hi⟩ := hb
      simp [hstate] at hi
    | travelling _ _ hl => exact .busy hb hl
  unfold Task.ready? at hr
  split at hr
  · cases hr
  · cases hp with
    | ended ha =>
      rw [ha] at hr
      cases hr
    | paused hover hhalt hready =>
      rw [hhalt] at hr
      cases hr
      exact ⟨hready, hover, rfl⟩
    | landed hover hlands =>
      generalize t.halt = halt at hlands hr
      cases hlands with
      | goOn | stop => cases hr
      | sleeping time next hb =>
        dsimp only at hr
        split at hr
        · cases hr
          exact ⟨busy hb, hover, rfl⟩
        · cases hr
      | paused next hb =>
        cases hr
        exact ⟨busy hb, hover, rfl⟩
      | waiting hstage ho hwatch =>
        obtain ⟨⟨records, w₁⟩, hcollect, hnext⟩ := Option.map_eq_some_iff.1 hr
        cases hnext
        obtain ⟨o', ho', hhears, -⟩ := hwatch (.inr hstage)
        rw [ho] at ho'
        cases ho'
        have hhears' := hears_of_collect hhears hcollect
        obtain ⟨page, rfl⟩ := World.collect?_some hcollect
        exact ⟨.woken records ho hhears', hover, rfl⟩

/-- **A task stays poised while others change the page.** -/
theorem Poised.change (hp : Poised x t w) (hm : Mutates w w') (hclock : w'.clock = w.clock) :
    Poised x t w' := by
  cases hp with
  | ended ha => exact .ended ha
  | paused hover hhalt hready =>
    refine .paused hover hhalt ?_
    rw [hclock]
    cases hready with
    | starting => exact .starting
    | between hwatch hbusy => exact .between (hwatch.told fun _ => hm.told) hbusy
    | busy hb hl => exact .busy hb hl
    | woken records ho hhears => exact .woken records ho (hm.told hhears).hears
  | landed hover hlands =>
    refine .landed hover ?_
    generalize t.halt = halt at hlands
    cases hlands with
    | goOn hwatch => exact .goOn (hwatch.told fun _ => hm.told)
    | stop outcome => exact .stop outcome
    | sleeping time next hb => exact .sleeping time next hb
    | paused next hb => exact .paused next hb
    | waiting hstage ho hwatch => exact .waiting hstage ho (hwatch.told fun _ => hm.told)

/-- Others may change the page whenever the task waits. -/
theorem Beside.mutated {w₀ : World} (hb : Beside x Mutates w₀ t w) (hm : Mutates w w') :
    Beside x Mutates w₀ t w' :=
  hb.change hm hm.clock_eq

/-- **Wherever a task stands among others, it is poised.** -/
theorem Beside.poised {w₀ : World} (hb : Beside x Mutates w₀ t w) (hw : w₀.faults.planned = []) :
    Poised x t w ∧ w.faults.planned = [] := by
  induction hb with
  | new => exact ⟨.paused rfl rfl .starting, hw⟩
  | act stages hbefore hr ih =>
    obtain ⟨hp, hplanned⟩ := ih
    obtain ⟨hready, hover, hfaults⟩ := hp.ready hbefore.stands hr
    refine hready.follow stages ?_ hover (by rw [hfaults, hplanned])
    cases hbefore.stands with
    | starting hx => exact hx
    | travelling hx => exact hx
  | change _ hm hclock ih => exact ⟨ih.1.change hm hclock, by rw [hm.faults_eq, ih.2]⟩
  | pass time _ _ hpass ih =>
    obtain ⟨hp, hplanned⟩ := ih
    refine ⟨?_, hplanned⟩
    cases hp with
    | ended ha => exact .ended ha
    | paused _ hhalt =>
      unfold LetsPass at hpass
      rw [hhalt] at hpass
      exact absurd hpass id
    | landed hover hlands => exact .landed hover hlands

/-! ## Waking -/

/-- **A routine ends a stage of a task**, and the next begins. -/
def Turns (t : Task) (r : Routine Next) (w : World) (s : State) (w' : World) : Prop :=
  ∀ stages, t.follow (stages + 1) r w =
    ({ t with state := s } : Task).follow stages (t.search.step s) w'

theorem turns_of_go {s : State} (hgo : w.go r = (.finished (.goOn s), w')) :
    t.Turns r w s { w' with tried := s.tried } := by
  intro stages
  rw [Task.follow, hgo]

/-- **Where a pass leaves a task**: it checks a vendor it found, or waits for the next change,
unless there will be none. -/
inductive Passed (t : Task) (o : Observer) (s : State) (w : World) : Prop where
  | found (i : Nat) (name : String) :
      s = { t.state with
        stage := .polling i, tried := t.state.tried ++ [name], observer := none } →
      Passed t o s w
  | waits : s = { t.state with stage := .observing } → (w.page.mailbox o).queue = [] →
      (∀ stages, ({ t with state := s } : Task).follow (stages + 1) (t.search.step s) w =
        ({ t with state := s, halt := .waiting o (wake s) }, w.tell (.stage .observing))) →
      Passed t o s w
  | ends : s = { t.state with stage := .observing } → w.page.closed = true →
      ({ t with state := s } : Task).Turns (t.search.step s) w { s with stage := .finished }
        { w.tell (.stage .observing) with tried := s.tried } → Passed t o s w

/-- **A task that woke looks once**: the routine it wakes to leads to one pass, and that to a wait
or to a check. -/
def LooksOnce (t : Task) (o : Observer) (r : Routine Next) (w : World) : Prop :=
  let s₁ : State := { t.state with stage := .detecting }
  ∃ w₁ s₂ w₂, t.Turns r w s₁ w₁ ∧
    ({ t with state := s₁ } : Task).Turns (t.search.step s₁) w₁ s₂ w₂ ∧ Passed t o s₂ w₂

/-- **Who collected every change looks once for all of them.** -/
theorem looksOnce {o : Observer} (ho : t.state.observer = some o) (hhears : w.page.Hears o)
    (hq : (w.page.mailbox o).queue = []) (hw : w.faults.planned = []) (records : Nat) :
    t.LooksOnce o (wake t.state (some records)) w := by
  let s₁ : State := { t.state with stage := .detecting }
  let s₂ : State := { t.state with stage := .observing }
  have hwoken : t.Turns (wake t.state (some records)) w s₁
      { w.tell (.changesSeen records) with tried := s₁.tried } := turns_of_go rfl
  obtain ⟨w₂, -, ⟨hgo, hgrows, -⟩ | ⟨i, name, hgo⟩⟩ := go_detecting (x := t.search) (s := s₁)
    (w := { w.tell (.changesSeen records) with tried := s₁.tried }) rfl ho hw
  · let w₃ : World := { w₂ with tried := s₂.tried }
    have hhears₃ : w₃.page.Hears o := (Page.Grows.told hgrows hhears).hears
    have hq₃ : (w₃.page.mailbox o).queue = [] := by
      rw [← hq]
      exact congrArg Mailbox.queue (hgrows.mailbox_eq o)
    refine ⟨_, s₂, w₃, hwoken, turns_of_go hgo, ?_⟩
    rcases go_observing (x := t.search) (s := s₂) rfl ho hhears₃ hq₃ with hwait | ⟨hclosed, hend⟩
    · refine .waits rfl hq₃ fun stages => ?_
      rw [Task.follow, hwait]
    · exact .ends rfl hclosed (turns_of_go hend)
  · exact ⟨_, _, _, hwoken, turns_of_go hgo, .found i name rfl⟩

/-- **No dialog is missed.** Where a task waits for changes and none was told of, no vendor it has
not tried would be detected in the page as it is. Where changes were told of, it takes them all at
once, and looks once for all of them. -/
theorem Beside.misses_nothing {w₀ : World} (hb : Beside x Mutates w₀ t w)
    (hw : w₀.faults.planned = []) {o : Observer} {next : Option Nat → Routine Next}
    (hhalt : t.halt = .waiting o next) :
    t.state.stage = .observing ∧ t.state.observer = some o ∧
      ((w.page.mailbox o).queue = [] → ∀ v ∈ x.vendors, v.name ∉ t.state.tried →
        (World.alone v.detect.run w).1 ≠ .ok true) ∧
      ((w.page.mailbox o).queue ≠ [] → ∃ w₁,
        t.ready? w = some (next (some (w.page.drain o).1), w₁) ∧
          (w₁.page.mailbox o).queue = [] ∧
          t.LooksOnce o (next (some (w.page.drain o).1)) w₁) := by
  obtain ⟨hp, hplanned⟩ := hb.poised hw
  cases hp with
  | ended ha =>
    rw [hhalt] at ha
    cases ha
  | paused _ hpaused =>
    rw [hhalt] at hpaused
    cases hpaused
  | landed hover hlands =>
    rw [hhalt] at hlands
    cases hlands with
    | waiting hstage ho hwatch =>
      obtain ⟨o', ho', hhears, hsettled⟩ := hwatch (.inr hstage)
      rw [ho] at ho'
      cases ho'
      refine ⟨hstage, ho, fun hq v hv hnew => ?_, fun hq => ?_⟩
      · rw [World.alone_of_looks v.detect_looks hplanned]
        exact hsettled hstage hq _ (.refl _) v hv hnew
      · obtain ⟨w₁, hcollect, hempty, hplanned₁⟩ : ∃ w₁ : World,
            w.collect? o = some (some (w.page.drain o).1, w₁) ∧
              (w₁.page.mailbox o).queue = [] ∧ w₁.faults.planned = [] := by
          refine ⟨_, World.collect?_batches hhears.kept hq, ?_, hplanned⟩
          dsimp only
          rw [Page.mailbox_drain hhears.kept]
        have hready : t.ready? w = some (wake t.state (some (w.page.drain o).1), w₁) := by
          unfold Task.ready?
          rw [hhalt, hover]
          dsimp only
          rw [hcollect]
          rfl
        have hhears₁ := hears_of_collect hhears hcollect
        exact ⟨w₁, hready, hempty, looksOnce ho hhears₁ hempty hplanned₁ _⟩

/-- A page without a dialog. -/
def bare : World where
  page := .ofTree (.node .document [.node (.element { name := "body" }) []]) false

/-- It misses nothing where others append a paragraph while it waits: it wakes, looks and waits
again. -/
theorem sample_misses_nothing : ∃ t w next, Beside sample Mutates bare t w ∧
    t.halt = .waiting ⟨0⟩ next ∧ (w.page.mailbox ⟨0⟩).queue = [] ∧
      ∀ v ∈ sample.vendors, v.name ∉ t.state.tried → (World.alone v.detect.run w).1 ≠ .ok true := by
  let p₁ := (Task.new sample).run bare
  let w₂ := (p₁.2.append "body" [.node (.element { name := "p" }) []]).2
  let p₃ := p₁.1.run w₂
  have hb₂ : Beside sample Mutates bare p₁.1 w₂ := Beside.new.run.mutated (.append "body" _)
  have hb₃ : Beside sample Mutates bare p₃.1 p₃.2 := hb₂.run
  have hwaits : (match p₃.1.halt with | .waiting o _ => some o | _ => none) = some ⟨0⟩ := by
    decide +kernel
  obtain ⟨next, hhalt⟩ : ∃ next, p₃.1.halt = .waiting ⟨0⟩ next := by
    split at hwaits
    · next o next hh =>
      cases hwaits
      exact ⟨next, hh⟩
    · cases hwaits
  have hq : (p₃.2.page.mailbox ⟨0⟩).queue = [] := by decide +kernel
  obtain ⟨-, -, hmissed, -⟩ := Beside.misses_nothing hb₃ rfl hhalt
  exact ⟨p₃.1, p₃.2, next, hb₃, hhalt, hq, hmissed hq⟩

end Task
end ConsentWalker
