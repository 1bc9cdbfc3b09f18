import ConsentWalker.Proofs.Walk.Beside
import ConsentWalker.Proofs.Walk.Settled
/-!
# Walk — no dialog is missed

A search subscribes before it looks, and looks again whenever it was told of a change. So while it
waits for changes and none was told of, what its last pass has settled still holds. `Watches` is the
invariant between two stages, and `Lands` says where a stage comes to.
-/

namespace ConsentWalker

/-! ## Looking at a world -/

namespace World

variable {α : Type} {w w' : World}

/-- Without faults the page itself answers, and nothing else is done. -/
theorem perform_run (hw : w.faults.planned = []) (c : Call) : ∃ faults : Faults,
    faults.planned = [] ∧ w.perform c = ((w.page.perform c).1,
      { w with faults, page := (w.page.perform c).2 }) := by
  have hnext : w.faults.next? c.kind = none := by
    unfold Faults.next?
    rw [hw]
    rfl
  refine ⟨{ w.faults with made := c.kind :: w.faults.made }, hw, ?_⟩
  unfold perform Faults.perform
  rw [hnext]

theorem perform_eq (hw : w.faults.planned = []) (c : Call) :
    (w.perform c).1 = (w.page.perform c).1 ∧ (w.perform c).2.page = (w.page.perform c).2 ∧
      (w.perform c).2.faults.planned = [] := by
  obtain ⟨faults, hplanned, hrun⟩ := perform_run hw c
  rw [hrun]
  exact ⟨rfl, rfl, hplanned⟩

/-- **A routine that only looks does not wait**: it runs on to what it comes to alone. -/
theorem go_bind_alone {β : Type} {r : Routine α} (hr : r.Only Act.IsLook) (w : World)
    (f : α → Routine β) : w.go (r.bind f) = (alone r w).2.go (f (alone r w).1) := by
  induction r generalizing w with
  | done a => rfl
  | call c next ih => exact ih _ (hr _).2 _
  | note n next ih => exact ih hr.2 _
  | sleep | pause | drop | report => exact absurd hr.1 id
  | await => exact absurd (hr none).1 id

theorem go_of_looks {r : Routine α} (hr : r.Only Act.IsLook) (w : World) :
    w.go r = (.finished (alone r w).1, (alone r w).2) := by
  have hgo := go_bind_alone hr w .done
  rw [Routine.bind_done] at hgo
  exact hgo

/-- **Where nobody else acts and nothing fails** a routine that does steps comes to what it comes to
on the page. -/
theorem alone_of_steps {r : Routine α} (hr : r.Only Act.IsStep) (hw : w.faults.planned = []) :
    (World.alone r w).1 = (r.readOn w.page).1 ∧ (World.alone r w).2.page = (r.readOn w.page).2 ∧
      (World.alone r w).2.faults.planned = [] := by
  induction r generalizing w with
  | done a => exact ⟨rfl, rfl, hw⟩
  | call c next ih =>
    obtain ⟨hanswer, hpage, hplanned⟩ := perform_eq hw c
    have hrest := ih (w.perform c).1 (hr _).2 hplanned
    rw [hpage, hanswer] at hrest
    unfold alone
    dsimp only
    rw [hanswer]
    exact hrest
  | note n next ih => exact ih (w := w.tell n) hr.2 hw
  | sleep d next ih => exact ih (w := { w with clock := w.clock + d }) hr.2 hw
  | pause next ih => exact ih hr.2 hw
  | await o next ih => exact absurd trivial (Act.IsStep.not_waits (hr none).1)
  | drop o next ih =>
    rcases hr.1 with hplain | ⟨e, r, hhide⟩
    · exact absurd hplain id
    · cases hhide
  | report v next ih =>
    rcases hr.1 with hplain | ⟨e, r, hhide⟩
    · exact absurd hplain id
    · cases hhide

/-- **Looking without faults** comes to what the page says, and does not wait. -/
theorem go_bind_of_looks {r : Routine α} (hr : r.Only Act.IsLook) (hw : w.faults.planned = []) :
    ∃ w' : World, w'.page = (r.readOn w.page).2 ∧ w'.faults.planned = [] ∧
      ∀ {β : Type} (f : α → Routine β), w.go (r.bind f) = w'.go (f (r.readOn w.page).1) := by
  have hsteps : r.Only Act.IsStep := hr.mono fun a ha => .inl (Act.IsLook.isPlain a ha)
  obtain ⟨hanswer, hpage, hplanned⟩ := alone_of_steps hsteps hw
  refine ⟨(alone r w).2, hpage, hplanned, fun f => ?_⟩
  rw [go_bind_alone hr, hanswer]

/-- So does a routine that only looks. -/
theorem alone_of_looks {r : Routine α} (hr : r.Only Act.IsLook) (hw : w.faults.planned = []) :
    (World.alone r w).1 = (r.readOn w.page).1 :=
  (alone_of_steps (hr.mono fun a ha => .inl (Act.IsLook.isPlain a ha)) hw).1

theorem perform_planned (w : World) (c : Call) :
    (w.perform c).2.faults.planned = w.faults.planned := by
  unfold perform Faults.perform
  cases w.faults.next? c.kind <;> rfl

/-- Faults do not come up on the way. -/
theorem go_planned (r : Routine α) (w : World) : (w.go r).2.faults.planned = w.faults.planned := by
  refine go_preserves (P := fun w' => w'.faults.planned = w.faults.planned) ?_ r rfl
  intro a w₁ w₂ hw hm
  cases hm with
  | call c => exact (perform_planned w₁ c).trans hw
  | collect hcollect =>
    obtain ⟨page, rfl⟩ := collect?_some hcollect
    exact hw
  | note | rest | drop | report => exact hw

end World

/-! ## Between two stages -/

namespace Search

variable {x : Search} {s s' : State} {p p' : Page} {w w' : World}

/-- **A search that looks for dialogs watches the page**: its observer hears of every change, and
while it waits for one, what its last pass has settled holds unless it was told of one. -/
def Watches (x : Search) (s : State) (p : Page) : Prop :=
  s.stage = .detecting ∨ s.stage = .observing → ∃ o, s.observer = some o ∧ p.Hears o ∧
    (s.stage = .observing → (p.mailbox o).queue = [] → x.Settled s.tried p)

/-- In all other stages there is nothing to watch for. -/
theorem watches_of_not (hd : s.stage ≠ .detecting) (ho : s.stage ≠ .observing) : x.Watches s p := by
  rintro (h | h)
  · exact absurd h hd
  · exact absurd h ho

/-- **Who watches goes on watching while others change the page**, as long as changes are told. -/
theorem Watches.told (hw : x.Watches s p) (ht : ∀ o, p.Hears o → Page.Told o p p') :
    x.Watches s p' := by
  intro hs
  obtain ⟨o, ho, hhears, hsettled⟩ := hw hs
  have htold := ht o hhears
  refine ⟨o, ho, htold.hears, fun hobs hq => ?_⟩
  obtain ⟨hq', hgrows | hclosed⟩ := htold.missed hq
  · exact (hsettled hobs hq').grows hgrows
  · exact settled_of_closed hclosed

/-! ## The stages of a watch -/

/-- What a search does once it was told of changes, or that there will be none. -/
def wake (s : State) : Option Nat → Routine Next
  | none => .done (.goOn { s with stage := .finished })
  | some records => .note (.changesSeen records) (.done (.goOn { s with stage := .detecting }))

/-- A stage in which a search may have to wait beside waiting for changes. -/
def State.IsBusy (s : State) : Prop := ∃ i, s.stage = .polling i ∨ s.stage = .handling i

/-- **Where a stage comes to**: the next stage, which watches if it looks for dialogs, the end, a
rest while the search is busy, or the wait for changes of one that watches. -/
inductive Lands (x : Search) (s : State) (p : Page) : Halt Next → Prop where
  | goOn {s' : State} : x.Watches s' p → Lands x s p (.finished (.goOn s'))
  | stop (outcome : Except PageError Report) : Lands x s p (.finished (.stop outcome))
  | sleeping (time : Nat) (next : Routine Next) : s.IsBusy → Lands x s p (.sleeping time next)
  | paused (next : Routine Next) : s.IsBusy → Lands x s p (.paused next)
  | waiting {o : Observer} : s.stage = .observing → s.observer = some o → x.Watches s p →
      Lands x s p (.waiting o (wake s))

/-- **Who looks hears of every change from then on.** -/
theorem look_lands (s : State) {s₀ : State} (hw : w.faults.planned = []) :
    Lands x s₀ (w.go (look s)).2.page (w.go (look s)).1 := by
  obtain ⟨hanswer, hpage, -⟩ := w.perform_eq hw .observe
  have hgo : w.go (look s) = (.finished (.goOn
      { s with stage := .detecting, observer := some ⟨w.page.mailboxes.length⟩ }),
      (w.perform .observe).2) := by
    unfold look Routine.attempt
    rw [Routine.bind_eq, Routine.bind, World.go_call, hanswer]
    rfl
  rw [hgo]
  refine .goOn fun _ => ⟨_, rfl, ?_, fun h => by cases h⟩
  dsimp only
  rw [hpage]
  -- a page that is open connects a new observer
  have hbox : Page.mailbox { w.page with
      mailboxes := w.page.mailboxes ++ [{ connected := ! w.page.closed }] }
      ⟨w.page.mailboxes.length⟩ = { connected := ! w.page.closed } := by
    unfold Page.mailbox
    dsimp only
    rw [List.getElem?_append_right (Nat.le_refl _), Nat.sub_self]
    rfl
  change Page.Hears { w.page with
    mailboxes := w.page.mailboxes ++ [{ connected := ! w.page.closed }] } _
  refine ⟨by rw [hbox], ?_⟩
  rw [hbox]
  cases hclosed : w.page.closed with
  | true => exact .inl rfl
  | false => exact .inr rfl

/-- What a search does after a pass: it checks the vendor that was found, or waits for changes. -/
def afterPass (s : State) : Option (Nat × String) → Routine Next
  | some (i, name) => (stopObserving s.observer).bind fun _ =>
      .done (.goOn { s with stage := .polling i, tried := s.tried ++ [name], observer := none })
  | none => .done (.goOn { s with stage := .observing })

/-- **A pass finds a vendor to check, or settles that there is nothing to find.** -/
theorem go_detecting {o : Observer} (hs : s.stage = .detecting) (ho : s.observer = some o)
    (hw : w.faults.planned = []) : ∃ w' : World, w'.faults.planned = [] ∧
      ((w.go (x.step s) = (.finished (.goOn { s with stage := .observing }), w') ∧
          w.page.Grows w'.page ∧ x.Settled s.tried w'.page) ∨
        ∃ i name, w.go (x.step s) = (.finished (.goOn { s with
          stage := .polling i, tried := s.tried ++ [name], observer := none }), w')) := by
  obtain ⟨stage, tried, handled, observer⟩ := s
  obtain rfl : stage = .detecting := hs
  obtain rfl : observer = some o := ho
  obtain ⟨w', hpage, hplanned, hgo⟩ := World.go_bind_of_looks (w := w.tell (.stage .detecting))
    (x.nextCandidate_looks tried) hw
  change w'.page = ((x.nextCandidate tried).readOn w.page).2 at hpage
  obtain ⟨hgrows, hsettled⟩ := x.nextCandidate_settled tried w.page
  rw [← hpage] at hgrows hsettled
  have hstep : w.go (x.step { stage := .detecting, tried, handled, observer := some o }) =
      w'.go (afterPass { stage := .detecting, tried, handled, observer := some o }
        ((x.nextCandidate tried).readOn w.page).1) := hgo _
  rw [hstep]
  cases hc : ((x.nextCandidate tried).readOn w.page).1 with
  | none => exact ⟨w', hplanned, .inl ⟨rfl, hgrows, hsettled hc⟩⟩
  | some c => exact ⟨w'.drop o, hplanned, .inr ⟨c.1, c.2, rfl⟩⟩

/-- A stage that waits for changes wakes as told. -/
theorem step_observing {o : Observer} (hs : s.stage = .observing) (ho : s.observer = some o) :
    x.step s = .note (.stage .observing) (.await o (wake s)) := by
  obtain ⟨stage, tried, handled, observer⟩ := s
  obtain rfl : stage = .observing := hs
  obtain rfl : observer = some o := ho
  change Routine.note _ (Routine.await o _) = _
  congr 2

/-- Who wakes looks again if it was told of changes. -/
theorem wake_lands {o : Observer} (ho : s.observer = some o) (hhears : w.page.Hears o)
    (records : Option Nat) {s₀ : State} :
    Lands x s₀ (w.go (wake s records)).2.page (w.go (wake s records)).1 := by
  cases records with
  | none => exact .goOn (watches_of_not Stage.noConfusion Stage.noConfusion)
  | some k => exact .goOn fun _ => ⟨o, ho, hhears, Stage.noConfusion⟩

/-- An observer that took its batches hears of the next. -/
theorem hears_of_collect {o : Observer} (hhears : w.page.Hears o) {records : Option Nat}
    (h : w.collect? o = some (records, w')) : w'.page.Hears o := by
  by_cases hq : (w.page.mailbox o).queue = []
  · rw [World.collect?_empty hq] at h
    split at h
    · cases h
    · cases h
      exact hhears
  · rw [World.collect?_batches hhears.kept hq] at h
    cases h
    have hbox := Page.mailbox_drain hhears.kept
    dsimp only
    refine ⟨?_, ?_⟩
    · rw [hbox]
      exact hhears.kept
    · rw [hbox]
      exact hhears.delivers

/-- **Every stage lands**, if it watches where it has to. -/
theorem step_lands (hp : x.Watches s w.page) (hw : w.faults.planned = [])
    (hbusy : ¬ s.IsBusy) : Lands x s (w.go (x.step s)).2.page (w.go (x.step s)).1 := by
  cases hs : s.stage with
  | detecting =>
    obtain ⟨o, ho, hhears, -⟩ := hp (.inl hs)
    obtain ⟨w', -, ⟨hgo, hgrows, hsettled⟩ | ⟨i, name, hgo⟩⟩ := go_detecting (x := x) hs ho hw
    · rw [hgo]
      exact .goOn fun _ => ⟨o, ho, (hgrows.told hhears).hears, fun _ _ => hsettled⟩
    · rw [hgo]
      exact .goOn (watches_of_not Stage.noConfusion Stage.noConfusion)
  | observing =>
    obtain ⟨o, ho, hhears, -⟩ := hp (.inr hs)
    rw [step_observing hs ho, World.go]
    cases hc : (w.tell (.stage .observing)).collect? o with
    | none =>
      rw [World.go_await_none hc]
      exact .waiting hs ho hp
    | some p =>
      obtain ⟨records, w₁⟩ := p
      rw [World.go_await_some hc]
      exact wake_lands ho (hears_of_collect (w := w.tell _) hhears hc) records
  | polling i => exact absurd ⟨i, .inl hs⟩ hbusy
  | handling i => exact absurd ⟨i, .inr hs⟩ hbusy
  | abandoned i =>
    obtain ⟨stage, tried, handled, observer⟩ := s
    obtain rfl : stage = .abandoned i := hs
    exact look_lands (w := (w.tell _).tell _) _ hw
  | handled i =>
    obtain ⟨stage, tried, handled, observer⟩ := s
    obtain rfl : stage = .handled i := hs
    have hstep : x.step { stage := .handled i, tried, handled, observer } =
        .note (.stage (.handled i)) (.note (.handled (x.nameAt i))
          (if x.setting.pace.keepObserving then
            look { stage := .handled i, tried, handled, observer }
          else .done (.goOn { stage := .finished, tried, handled, observer }))) := rfl
    rw [hstep]
    by_cases hk : x.setting.pace.keepObserving = true
    · rw [if_pos hk]
      exact look_lands (w := (w.tell _).tell _) _ hw
    · rw [if_neg hk]
      exact .goOn (watches_of_not Stage.noConfusion Stage.noConfusion)
  | finished =>
    obtain ⟨stage, tried, handled, observer⟩ := s
    obtain rfl : stage = .finished := hs
    cases observer with
    | none => exact .stop _
    | some o => exact .stop _

/-- A search that is busy never waits for changes. -/
theorem busy_unheld (hb : s.IsBusy) {t t' : Nat} {h : History} {n : Next}
    (hc : (x.step s).Course t h t' n) : ∀ m ∈ h, ¬ m.act.Waits := by
  obtain ⟨h₁, rfl, hturn⟩ := step_turn hc
  have hrest : ∀ m ∈ h₁, ¬ m.act.Waits := by
    obtain ⟨i, hi⟩ := hb
    cases hturn with
    | shown _ _ hpoll | hidden _ _ hpoll =>
      have honly := poll_only Act.IsLook.isPlain (fun _ => trivial) x
      exact fun m hm => (((honly _ _ _).leads hpoll).1 m hm).not_waits
    | handled _ _ hhandling => exact Vendor.handling_unheld hhandling
    | lost => simp
    | looked hs _ =>
      rcases hs with hs | ⟨hs, -⟩
      · simp [hs] at hi
      · simp [hs] at hi
    | found hs _ | nothing hs _ | woken hs _ _ | settled hs _ | satisfied hs _ | ended hs =>
      simp [hs] at hi
  intro m hm
  rcases List.mem_cons.1 hm with rfl | hm
  · exact id
  · exact hrest m hm

/-- **Nor does it come to look for dialogs right away.** -/
theorem busy_next (hb : s.IsBusy) {t t' : Nat} {h : History}
    (hc : (x.step s).Course t h t' (.goOn s')) : x.Watches s' p := by
  obtain ⟨h₁, rfl, hturn⟩ := step_turn hc
  obtain ⟨i, hi⟩ := hb
  cases hturn with
  | shown | hidden | handled | lost =>
    exact watches_of_not Stage.noConfusion Stage.noConfusion
  | looked hs _ =>
    rcases hs with hs | ⟨hs, -⟩
    · simp [hs] at hi
    · simp [hs] at hi
  | found hs _ | nothing hs _ | woken hs _ _ | settled hs _ | satisfied hs _ =>
    simp [hs] at hi

/-- **Where a stage can stand**: its end, a rest or a pause if the search is busy, or the wait for
changes. -/
inductive State.Halts (s : State) : Halt Next → Prop where
  | finished (n : Next) : s.Halts (.finished n)
  | sleeping (wake : Nat) (next : Routine Next) : s.IsBusy → s.Halts (.sleeping wake next)
  | paused (next : Routine Next) : s.IsBusy → s.Halts (.paused next)
  | waiting {o : Observer} : s.stage = .observing → s.observer = some o →
      s.Halts (.waiting o (wake s))

/-- A search that is busy does not wait for changes. -/
theorem busy_halts (hb : s.IsBusy) {begun : Nat} {h : History} {r : Routine Next}
    (hl : (x.step s).Leads begun h w.clock r) : s.Halts (w.go r).1 := by
  obtain ⟨-, hhalts⟩ := World.go_halts hl
  generalize (w.go r).1 = halt at hhalts
  cases hhalts with
  | finished => exact .finished _
  | sleeping => exact .sleeping _ _ hb
  | paused => exact .paused _ hb
  | @waiting h t o next hl hle =>
    -- a course goes on from there, and has the wait in it
    obtain ⟨k, t', n, hc⟩ := Routine.exists_course (next none) t
    have hcourse := (hl.snoc (.await o next (Nat.le_refl t) none)).trans hc
    have hnot := busy_unheld hb hcourse ⟨t, .await o none⟩ (by simp)
    exact absurd trivial hnot

/-- **A search that is busy lands**, from wherever in its stage it is. -/
theorem busy_lands (hb : s.IsBusy) {begun : Nat} {h : History} {r : Routine Next}
    (hl : (x.step s).Leads begun h w.clock r) :
    Lands x s (w.go r).2.page (w.go r).1 := by
  have hhalts := busy_halts hb hl
  obtain ⟨-, htimes⟩ := World.go_halts hl
  generalize (w.go r).1 = halt at hhalts htimes
  cases hhalts with
  | finished n =>
    cases htimes with
    | finished hc =>
      cases n with
      | goOn s' => exact .goOn (busy_next hb hc)
      | stop outcome => exact .stop outcome
  | sleeping => exact .sleeping _ _ hb
  | paused => exact .paused _ hb
  | waiting hs ho =>
    obtain ⟨i, hi⟩ := hb
    simp [hs] at hi

/-- **A search that found nothing waits for changes**, unless there will be none. -/
theorem go_observing {o : Observer} (hs : s.stage = .observing) (ho : s.observer = some o)
    (hhears : w.page.Hears o) (hq : (w.page.mailbox o).queue = []) :
    w.go (x.step s) = (.waiting o (wake s), w.tell (.stage .observing)) ∨
      w.page.closed = true ∧
        w.go (x.step s) = (.finished (.goOn { s with stage := .finished }),
          w.tell (.stage .observing)) := by
  have hcollect := World.collect?_empty (w := w.tell (.stage .observing)) hq
  rw [step_observing hs ho, World.go]
  cases hlive : (w.page.mailbox o).isLive with
  | true =>
    have hnone := hcollect.trans (if_pos hlive)
    exact .inl (World.go_await_none hnone)
  | false =>
    have hended := hcollect.trans (if_neg (Bool.eq_false_iff.1 hlive))
    refine .inr ⟨?_, World.go_await_some hended⟩
    rcases hhears.delivers with hclosed | hconnected
    · exact hclosed
    · unfold Mailbox.isLive at hlive
      rw [hconnected, hhears.kept] at hlive
      cases hlive

end Search
end ConsentWalker
