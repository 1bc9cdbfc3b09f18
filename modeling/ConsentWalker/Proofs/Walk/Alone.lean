import ConsentWalker.Proofs.Page.Subscribers
import ConsentWalker.Proofs.Walk.Ledger
import ConsentWalker.Proofs.Walk.Running
/-!
# Walk — a search that is alone

Where nobody else acts a routine comes to one end (`World.alone`), by one of its courses
(`alone_course`). `Search.Ends` puts the stages of a search together: the end of a search that is
alone. There is one and no other, whatever the page answers (`exists_ends`, `Ends.unique`).

That it ends is no matter of course, since a search looks again whenever the page has changed. But
it tries every vendor once, and nobody tells it of a change that it makes itself.
-/

namespace ConsentWalker
namespace World

variable {α β : Type} {w w' : World}

/-- One routine after another. -/
theorem alone_bind (r : Routine α) (f : α → Routine β) (w : World) :
    alone (r.bind f) w = alone (f (alone r w).1) (alone r w).2 := by
  induction r generalizing w with
  | done a => rfl
  | call c next ih => exact ih _ _
  | note n next ih => exact ih _
  | sleep d next ih => exact ih _
  | pause next ih => exact ih _
  | await o next ih =>
    rw [Routine.bind, alone, alone]
    cases w.collect? o with
    | none => exact ih _ _
    | some p => exact ih _ _
  | drop o next ih => exact ih _
  | report v next ih => exact ih _

/-- Who waits in vain learns that there will be no changes. -/
theorem alone_await_none {o : Observer} {next : Option Nat → Routine α} (h : w.collect? o = none) :
    alone (.await o next) w = alone (next none) w := by
  rw [alone, h]

theorem alone_await_some {o : Observer} {next : Option Nat → Routine α} {records : Option Nat}
    (h : w.collect? o = some (records, w')) :
    alone (.await o next) w = alone (next records) w' := by
  rw [alone, h]

/-- Who was told of nothing waits in vain, or not at all. -/
theorem alone_await_idle {o : Observer} (hq : (w.page.mailbox o).queue = [])
    (next : Option Nat → Routine α) : alone (.await o next) w = alone (next none) w := by
  have hcollect := collect?_empty (w := w) hq
  cases hlive : (w.page.mailbox o).isLive with
  | true =>
    rw [hlive] at hcollect
    exact alone_await_none hcollect
  | false =>
    rw [hlive] at hcollect
    exact alone_await_some hcollect

/-- **What a routine comes to alone is an end of one of its courses.** -/
theorem alone_course (r : Routine α) (w : World) :
    ∃ h, r.Course w.clock h (alone r w).2.clock (alone r w).1 := by
  induction r generalizing w with
  | done a => exact ⟨[], .refl _ _⟩
  | call c next ih =>
    obtain ⟨h, hc⟩ := ih (w.perform c).1 (w.perform c).2
    exact ⟨_, .step (.call c next _ _) hc⟩
  | note n next ih =>
    obtain ⟨h, hc⟩ := ih (w.tell n)
    exact ⟨_, .step (.note n next _) hc⟩
  | sleep d next ih =>
    obtain ⟨h, hc⟩ := ih { w with clock := w.clock + d }
    exact ⟨_, .step (.sleep d next _) hc⟩
  | pause next ih =>
    obtain ⟨h, hc⟩ := ih w
    exact ⟨_, .step (.pause next _) hc⟩
  | await o next ih =>
    cases hcollect : w.collect? o with
    | none =>
      obtain ⟨h, hc⟩ := ih none w
      rw [alone_await_none hcollect]
      exact ⟨_, .step (.await o next (Nat.le_refl _) none) hc⟩
    | some p =>
      obtain ⟨records, w₁⟩ := p
      have hclock : w₁.clock = w.clock := by
        obtain ⟨page, rfl⟩ := collect?_some hcollect
        rfl
      obtain ⟨h, hc⟩ := ih records w₁
      rw [hclock] at hc
      rw [alone_await_some hcollect]
      exact ⟨_, .step (.await o next (Nat.le_refl _) records) hc⟩
  | drop o next ih =>
    obtain ⟨h, hc⟩ := ih (w.drop o)
    exact ⟨_, .step (.drop o next _) hc⟩
  | report v next ih =>
    obtain ⟨h, hc⟩ := ih (w.sight v)
    exact ⟨_, .step (.report v next _) hc⟩

theorem course_of_alone {r : Routine α} {a : α} (h : alone r w = (a, w')) :
    ∃ t k t', r.Course t k t' a := by
  obtain ⟨k, hc⟩ := alone_course r w
  rw [h] at hc
  exact ⟨_, k, _, hc⟩

/-- **What every act and the passing of time keep is kept up to the end.** -/
theorem alone_preserves {P : World → Prop} (hmakes : ∀ a w w', P w → w.Makes a w' → P w')
    (hrest : ∀ w time, P w → P { w with clock := time }) (r : Routine α) (hw : P w) :
    P (alone r w).2 := by
  induction r generalizing w with
  | done a => exact hw
  | call c next ih => exact ih _ (hmakes _ _ _ hw (.call c))
  | note n next ih => exact ih (hmakes _ _ _ hw (.note n))
  | sleep d next ih => exact ih (hrest w _ hw)
  | pause next ih => exact ih hw
  | await o next ih =>
    cases hcollect : w.collect? o with
    | none =>
      rw [alone_await_none hcollect]
      exact ih none hw
    | some p =>
      rw [alone_await_some hcollect]
      exact ih p.1 (hmakes _ _ _ hw (.collect hcollect))
  | drop o next ih => exact ih (hmakes _ _ _ hw (.drop o))
  | report v next ih => exact ih (hmakes _ _ _ hw (.report v))

/-- **What was told before makes no difference** to what a routine comes to. -/
theorem alone_told (r : Routine α) (w : World) (told : List Notice) : ∃ told',
    alone r { w with told := told } = ((alone r w).1, { (alone r w).2 with told := told' }) := by
  induction r generalizing w told with
  | done a => exact ⟨told, rfl⟩
  | call c next ih => exact ih (w.perform c).1 (w.perform c).2 told
  | note n next ih => exact ih (w.tell n) (n :: told)
  | sleep d next ih => exact ih { w with clock := w.clock + d } told
  | pause next ih => exact ih w told
  | await o next ih =>
    have hbox : w.page.mailbox o = { w with told := told }.page.mailbox o := rfl
    rcases collect?_agree hbox with
      ⟨h, h'⟩ | ⟨records, ⟨h, h'⟩ | ⟨h, h'⟩⟩
    · rw [alone_await_none h, alone_await_none h']
      exact ih none w told
    · rw [alone_await_some h, alone_await_some h']
      exact ih records w told
    · rw [alone_await_some h, alone_await_some h']
      exact ih records { w with page := (w.page.drain o).2 } told
  | drop o next ih => exact ih (w.drop o) told
  | report v next ih => exact ih (w.sight v) told

/-- A queue that is cleared, of whichever observer. -/
theorem queue_of_cleared {p : Page} {o : Observer} (hq : (p.mailbox o).queue = []) (o' : Observer)
    {f : Mailbox → Mailbox} (hf : ∀ m, (f m).queue = []) :
    ((p.updateMailbox o' f).mailbox o).queue = [] := by
  by_cases hsame : o = o'
  · subst hsame
    by_cases ho : o.index < p.mailboxes.length
    · rw [Page.mailbox_updateMailbox_self ho]
      exact hf _
    · unfold Page.mailbox Page.updateMailbox
      rw [List.getElem?_modify_eq, List.getElem?_eq_none (Nat.le_of_not_lt ho)]
      rfl
  · rw [Page.mailbox_updateMailbox_of_ne hsame]
    exact hq

/-- **Where nobody else acts a queue that is empty stays so.** -/
theorem alone_queue {o : Observer} (hq : (w.page.mailbox o).queue = []) (r : Routine α) :
    ((alone r w).2.page.mailbox o).queue = [] := by
  refine alone_preserves (P := fun w => (w.page.mailbox o).queue = []) ?_ (fun _ _ h => h) r hq
  intro a w₁ w₂ hq hm
  cases hm with
  | call c =>
    rcases w₁.perform_or c with ⟨e, faults, h⟩ | ⟨faults, h⟩
    · rw [h]
      exact hq
    · rw [h]
      exact Page.perform_queue hq c
  | collect h =>
    rcases collect?_cases h with rfl | rfl
    · exact hq
    · exact queue_of_cleared hq _ fun _ => rfl
  | drop o' => exact queue_of_cleared hq _ fun _ => rfl
  | note | rest | report => exact hq

end World

namespace Search

variable {x : Search} {s s' : State} {r : Routine Next} {w w' : World}
  {outcome outcome' : Except PageError Report}

/-- **The end of a search that is alone**, from a routine of it on. -/
inductive Ends (x : Search) : Routine Next → World → Except PageError Report → World → Prop where
  | stop {r : Routine Next} {w w' : World} {outcome : Except PageError Report} :
      World.alone r w = (.stop outcome, w') → Ends x r w outcome w'
  | goOn {r : Routine Next} {s : State} {w w₁ w' : World} {outcome : Except PageError Report} :
      World.alone r w = (.goOn s, w₁) → Ends x (x.step s) { w₁ with tried := s.tried } outcome w' →
        Ends x r w outcome w'

/-- **A search that is alone ends in one way.** -/
theorem Ends.unique (h : Ends x r w outcome w') {w'' : World} (h' : Ends x r w outcome' w'') :
    outcome = outcome' ∧ w' = w'' := by
  induction h with
  | stop hstop =>
    cases h' with
    | stop hstop' =>
      cases hstop.symm.trans hstop'
      exact ⟨rfl, rfl⟩
    | goOn hgo' _ => cases hstop.symm.trans hgo'
  | goOn hgo _ ih =>
    cases h' with
    | stop hstop' => cases hgo.symm.trans hstop'
    | goOn hgo' hrest' =>
      cases hgo.symm.trans hgo'
      exact ih hrest'

/-- The end of a search that is alone, if it comes within so many stages. -/
def endOf? (x : Search) : Nat → Routine Next → World → Option (Except PageError Report × World)
  | 0, _, _ => none
  | stages + 1, r, w =>
    match World.alone r w with
    | (.stop outcome, w') => some (outcome, w')
    | (.goOn s, w₁) => endOf? x stages (x.step s) { w₁ with tried := s.tried }

/-- **The end that is found is the end.** -/
theorem ends_of_endOf? {stages : Nat} (h : x.endOf? stages r w = some (outcome, w')) :
    Ends x r w outcome w' := by
  induction stages generalizing r w with
  | zero => cases h
  | succ stages ih =>
    rw [endOf?] at h
    cases hrun : World.alone r w with
    | mk next w₁ =>
      rw [hrun] at h
      cases next with
      | stop outcome =>
        cases h
        exact .stop hrun
      | goOn s => exact .goOn hrun (ih h)

/-! ## That it ends -/

/-- A search that was told of no change that it does not know of. -/
def State.Idle (s : State) (w : World) : Prop :=
  ∀ o, s.observer = some o → (w.page.mailbox o).queue = []

/-- **Who looks again is told of nothing at first.** -/
theorem look_idle (h : World.alone (look s) w = (.goOn s', w')) : s'.Idle w' := by
  rcases w.perform_or .observe with ⟨e, faults, hobserve⟩ | ⟨faults, hobserve⟩
  · have hlook : World.alone (look s) w = (.stop (.error e), { w with faults }) := by
      unfold look Routine.attempt
      rw [Routine.bind_eq, Routine.bind, World.alone, hobserve]
      rfl
    rw [hlook] at h
    cases h
  · have hlook : World.alone (look s) w =
        (.goOn { s with stage := .detecting, observer := some ⟨w.page.mailboxes.length⟩ },
          { w with faults, page := (w.page.perform .observe).2 }) := by
      unfold look Routine.attempt
      rw [Routine.bind_eq, Routine.bind, World.alone, hobserve]
      rfl
    rw [hlook] at h
    cases h
    rintro o ⟨⟩
    -- there was no mailbox of that number before
    refine Page.perform_queue ?_ .observe
    unfold Page.mailbox
    rw [List.getElem?_eq_none (Nat.le_refl _)]
    rfl

/-- **A search that waits in vain finishes.** -/
theorem observing_finishes (hs : s.stage = .observing) (hidle : s.Idle w) :
    ∃ w', World.alone (x.step s) w = (.goOn { s with stage := .finished }, w') := by
  obtain ⟨stage, tried, handled, observer⟩ := s
  obtain rfl : stage = .observing := hs
  cases observer with
  | none => exact ⟨_, rfl⟩
  | some o =>
    have hq : ((w.tell (.stage .observing)).page.mailbox o).queue = [] := hidle o rfl
    refine ⟨w.tell (.stage .observing), ?_⟩
    exact World.alone_await_idle hq _

/-- A search that goes on after a handling looks again. -/
theorem step_handled {i : Nat} (hs : s.stage = .handled i)
    (hkeep : x.setting.pace.keepObserving = true) :
    x.step s = .note (.stage s.stage) (.note (.handled (x.nameAt i)) (look s)) := by
  obtain ⟨stage, tried, handled, observer⟩ := s
  obtain rfl : stage = .handled i := hs
  unfold step
  dsimp only
  rw [if_pos hkeep]
  rfl

/-- **A stage tells a search of no change.** -/
theorem step_idle (hidle : s.Idle w) (h : World.alone (x.step s) w = (.goOn s', w')) :
    s'.Idle w' := by
  have kept : s'.observer = s.observer ∨ s'.observer = none → s'.Idle w' := by
    rintro (hsame | hnone) o ho
    · have hq := World.alone_queue (hidle o (hsame ▸ ho)) (x.step s)
      rw [h] at hq
      exact hq
    · rw [hnone] at ho
      cases ho
  obtain ⟨t, k, t', hc⟩ := World.course_of_alone h
  obtain ⟨k₁, -, hturn⟩ := step_turn hc
  cases hturn with
  | found => exact kept (.inr rfl)
  | nothing | woken | settled | shown | hidden | handled | lost | satisfied => exact kept (.inl rfl)
  | looked hstage hlook =>
    obtain ⟨stage, tried, handled, observer⟩ := s
    rcases hstage with hstage | ⟨hstage, hkeep⟩
    · obtain rfl : stage = .abandoned _ := hstage
      exact look_idle (w := (w.tell _).tell _) h
    · obtain rfl : stage = .handled _ := hstage
      rw [step_handled rfl hkeep] at h
      exact look_idle (w := (w.tell _).tell _) h

/-- How far a stage is from the end of a search that tries no more vendors. -/
def stagesLeft : Stage → Nat
  | .polling _ => 5
  | .abandoned _ | .handling _ => 4
  | .handled _ => 3
  | .detecting => 2
  | .observing => 1
  | .finished => 0

/-- How far a search is from its end: all stages for every vendor that it has not tried. -/
def State.remaining (x : Search) (s : State) : Nat :=
  4 * (x.vendors.length - s.tried.length) + stagesLeft s.stage

/-- **Every stage brings a search nearer to its end.** -/
theorem step_nearer (hl : Ledger x s) (hidle : s.Idle w)
    (h : World.alone (x.step s) w = (.goOn s', w')) : s'.remaining x < s.remaining x := by
  obtain ⟨t, k, t', hc⟩ := World.course_of_alone h
  have hl' := hl.step hc
  obtain ⟨k₁, -, hturn⟩ := step_turn hc
  unfold State.remaining
  cases hturn with
  | found hstage _ =>
    -- no vendor is tried twice
    have hcount := hl'.tried_le
    simp only [List.length_append, List.length_singleton] at hcount
    simp only [hstage, stagesLeft, List.length_append, List.length_singleton]
    omega
  | nothing hstage _ => simp [hstage, stagesLeft]
  | woken hstage _ _ =>
    obtain ⟨w'', hfinishes⟩ := observing_finishes (x := x) hstage hidle
    rw [h] at hfinishes
    cases hfinishes
  | settled hstage _ => simp [hstage, stagesLeft]
  | shown hstage _ _ | hidden hstage _ _ | handled hstage _ _ | satisfied hstage _ =>
    simp [hstage, stagesLeft]
  | lost hstage _ => rcases hstage with hstage | hstage <;> simp [hstage, stagesLeft]
  | looked hstage hlook =>
    obtain ⟨o, -, rfl⟩ := look_goOn hlook
    rcases hstage with hstage | ⟨hstage, -⟩ <;> simp [hstage, stagesLeft]

/-- **A search that is alone comes to its end**, from any stage on. -/
theorem step_ends (hl : Ledger x s) (hidle : s.Idle w) :
    ∃ outcome w', Ends x (x.step s) w outcome w' := by
  induction hn : s.remaining x using Nat.strongRecOn generalizing s w with
  | ind n ih =>
    cases hstep : World.alone (x.step s) w with
    | mk next w₁ =>
      cases next with
      | stop outcome => exact ⟨outcome, w₁, .stop hstep⟩
      | goOn s₁ =>
        obtain ⟨t, k, t', hc⟩ := World.course_of_alone hstep
        have hidle₁ : s₁.Idle w₁ := step_idle hidle hstep
        have hnearer := step_nearer hl hidle hstep
        obtain ⟨outcome, w', hends⟩ := ih _ (hn ▸ hnearer) (hl.step hc)
          (w := { w₁ with tried := s₁.tried }) hidle₁ rfl
        exact ⟨outcome, w', .goOn hstep hends⟩

/-- **A search that is alone comes to its end**, on whatever page and whatever fails. -/
theorem exists_ends (x : Search) (w : World) : ∃ outcome w', Ends x start w outcome w' := by
  cases hstart : World.alone start w with
  | mk next w₁ =>
    cases next with
    | stop outcome => exact ⟨outcome, w₁, .stop hstart⟩
    | goOn s =>
      obtain ⟨t, k, t', hc⟩ := World.course_of_alone hstart
      obtain ⟨o, -, rfl⟩ := look_goOn hc
      have hidle : State.Idle ⟨.detecting, [], [], some o⟩ w₁ := look_idle (s := {}) hstart
      obtain ⟨outcome, w', hends⟩ := step_ends (x := x) (w := { w₁ with tried := [] })
        (ledger_start o) hidle
      exact ⟨outcome, w', .goOn hstart hends⟩

end Search
end ConsentWalker
