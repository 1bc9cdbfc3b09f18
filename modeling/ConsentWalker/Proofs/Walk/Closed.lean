import ConsentWalker.Proofs.Page.Closing
import ConsentWalker.Proofs.Walk.Alone
import ConsentWalker.Proofs.Walk.Settled
/-!
# Walk — stages on a closed page

What a search can still come to once its page was closed. No dialog is found any more and none
shows, so a stage comes to nothing but a few others (`Search.Ebbs`), which lead to the end: a search
looks in vain, waits in vain, gives up whom it checks, and ends the handling it is in.

A page may be closed while a stage has to wait. `Routine.Rests` is about what is then left of the
stage: it comes to the same as the whole (`Search.step_rests`), since a check that passes is one
without a wait in it.
-/

namespace ConsentWalker

/-! ## What a routine comes to under a condition -/

namespace Routine

variable {α β : Type} {A A' : Act → Prop} {P P' : α → Prop} {t t' : Nat} {h : History}

/-- **What a routine comes to if all of its acts are of one kind.** -/
def Given (A : Act → Prop) (P : α → Prop) : Routine α → Prop
  | .done a => P a
  | .call c next => ∀ r, A (.call c r) → (next r).Given A P
  | .note n next => A (.note n) → next.Given A P
  | .sleep d next => A (.sleep d) → next.Given A P
  | .pause next => A .pause → next.Given A P
  | .await o next => ∀ r, A (.await o r) → (next r).Given A P
  | .drop o next => A (.drop o) → next.Given A P
  | .report v next => A (.report v) → next.Given A P

theorem Given.mono {r : Routine α} (hr : r.Given A P) (hA : ∀ a, A' a → A a)
    (hP : ∀ a, P a → P' a) :
    r.Given A' P' := by
  induction r with
  | done a => exact hP a hr
  | call c next ih => exact fun r hm => ih r (hr r (hA _ hm))
  | note n next ih => exact fun hm => ih (hr (hA _ hm))
  | sleep d next ih => exact fun hm => ih (hr (hA _ hm))
  | pause next ih => exact fun hm => ih (hr (hA _ hm))
  | await o next ih => exact fun r hm => ih r (hr r (hA _ hm))
  | drop o next ih => exact fun hm => ih (hr (hA _ hm))
  | report v next ih => exact fun hm => ih (hr (hA _ hm))

theorem Given.bind {P' : β → Prop} {f : α → Routine β} {r : Routine α} (hr : r.Given A P)
    (hf : ∀ a, P a → (f a).Given A P') : (r.bind f).Given A P' := by
  induction r with
  | done a => exact hf a hr
  | call c next ih => exact fun r hm => ih r (hr r hm)
  | note n next ih => exact fun hm => ih (hr hm)
  | sleep d next ih => exact fun hm => ih (hr hm)
  | pause next ih => exact fun hm => ih (hr hm)
  | await o next ih => exact fun r hm => ih r (hr r hm)
  | drop o next ih => exact fun hm => ih (hr hm)
  | report v next ih => exact fun hm => ih (hr hm)

/-- **What all courses come to a routine comes to**, under any condition. -/
theorem given_of_courses {r : Routine α} (hr : ∀ h t' a, r.Course t h t' a → P a) :
    r.Given A P := by
  induction r generalizing t with
  | done a => exact hr [] t a (.refl _ _)
  | call c next ih => exact fun r _ => ih r fun h t' a hc => hr _ t' a (.step (.call c next t r) hc)
  | note n next ih => exact fun _ => ih fun h t' a hc => hr _ t' a (.step (.note n next t) hc)
  | sleep d next ih => exact fun _ => ih fun h t' a hc => hr _ t' a (.step (.sleep d next t) hc)
  | pause next ih => exact fun _ => ih fun h t' a hc => hr _ t' a (.step (.pause next t) hc)
  | await o next ih =>
    exact fun r _ => ih r fun h t' a hc => hr _ t' a (.step (.await o next (Nat.le_refl t) r) hc)
  | drop o next ih => exact fun _ => ih fun h t' a hc => hr _ t' a (.step (.drop o next t) hc)
  | report v next ih => exact fun _ => ih fun h t' a hc => hr _ t' a (.step (.report v next t) hc)

/-! ## What is left at a wait -/

/-- **What holds of what is left of a routine at each of its waits.** -/
def Rests (Q : Routine α → Prop) : Routine α → Prop
  | .done _ => True
  | .call _ next => ∀ r, (next r).Rests Q
  | .note _ next => next.Rests Q
  | .sleep _ next => Q next ∧ next.Rests Q
  | .pause next => Q next ∧ next.Rests Q
  | .await _ next => ∀ r, Q (next r) ∧ (next r).Rests Q
  | .drop _ next => next.Rests Q
  | .report _ next => next.Rests Q

theorem Rests.bind {Q' : Routine α → Prop} {Q : Routine β → Prop} {f : α → Routine β}
    {r : Routine α} (hr : r.Rests Q') (hQ : ∀ r, Q' r → Q (r.bind f)) (hf : ∀ a, (f a).Rests Q) :
    (r.bind f).Rests Q := by
  induction r with
  | done a => exact hf a
  | call c next ih => exact fun r => ih r (hr r)
  | note n next ih => exact ih hr
  | sleep d next ih => exact ⟨hQ next hr.1, ih hr.2⟩
  | pause next ih => exact ⟨hQ next hr.1, ih hr.2⟩
  | await o next ih => exact fun r => ⟨hQ _ (hr r).1, ih r (hr r).2⟩
  | drop o next ih => exact ih hr
  | report v next ih => exact ih hr

/-- What never waits leaves all waits to what comes after it. -/
theorem Rests.after {Q : Routine β → Prop} {f : α → Routine β} {r : Routine α}
    (hr : r.Rests fun _ => False) (hf : ∀ a, (f a).Rests Q) : (r.bind f).Rests Q :=
  hr.bind (fun _ => False.elim) hf

/-- A routine that only looks never waits. -/
theorem Only.rests {r : Routine α} (hr : r.Only Act.IsLook) (Q : Routine α → Prop) : r.Rests Q := by
  induction r with
  | done a => trivial
  | call c next ih => exact fun r => ih r (hr r).2
  | note n next ih => exact ih hr.2
  | sleep | pause | drop | report => exact absurd hr.1 id
  | await => exact absurd (hr none).1 id

/-- What holds wherever a routine can come to holds at its waits. -/
theorem rests_of_leads {Q : Routine α → Prop} {r : Routine α}
    (hr : ∀ h t' r', r.Leads t h t' r' → Q r') : r.Rests Q := by
  induction r generalizing t with
  | done a => trivial
  | call c next ih => exact fun r => ih r fun h t' r' hl => hr _ t' r' (.step (.call c next t r) hl)
  | note n next ih => exact ih fun h t' r' hl => hr _ t' r' (.step (.note n next t) hl)
  | sleep d next ih =>
    have hslept := Does.sleep d next t
    exact ⟨hr _ _ _ (.step hslept (.refl _ _)), ih fun h t' r' hl => hr _ t' r' (.step hslept hl)⟩
  | pause next ih =>
    have hpaused := Does.pause next t
    exact ⟨hr _ _ _ (.step hpaused (.refl _ _)), ih fun h t' r' hl => hr _ t' r' (.step hpaused hl)⟩
  | await o next ih =>
    intro r
    have hwoken := Does.await o next (Nat.le_refl t) r
    exact ⟨hr _ _ _ (.step hwoken (.refl _ _)), ih r fun h t' r' hl => hr _ t' r' (.step hwoken hl)⟩
  | drop o next ih => exact ih fun h t' r' hl => hr _ t' r' (.step (.drop o next t) hl)
  | report v next ih => exact ih fun h t' r' hl => hr _ t' r' (.step (.report v next t) hl)

end Routine

/-- **Where a routine has to wait, what is left of it is as it was said.** -/
theorem World.go_rests {α : Type} {Q : Routine α → Prop} {r : Routine α} (hr : r.Rests Q)
    (w : World) :
    (w.go r).1.Meets (fun _ => True) fun next => Q next ∧ next.Rests Q := by
  induction r generalizing w with
  | done a => trivial
  | call c next ih => exact ih _ (hr _) _
  | note n next ih => exact ih hr _
  | sleep d next ih =>
    cases d with
    | zero => exact ih hr.2 w
    | succ d => exact hr
  | pause next ih => exact hr
  | await o next ih =>
    cases hc : w.collect? o with
    | none =>
      rw [go_await_none hc]
      exact hr
    | some p =>
      rw [go_await_some hc]
      exact ih _ (hr _).2 _
  | drop o next ih => exact ih hr _
  | report v next ih => exact ih hr _

/-! ## Acts on a closed page -/

/-- An act that meets a closed page: if it is a call, one answers it. -/
def Act.MeetsClosed : Act → Prop
  | .call c r => ∃ p : Page, p.closed = true ∧ r = (p.perform c).1
  | _ => True

/-- An act that is not told of changes. -/
def Act.IsUntold : Act → Prop
  | .await _ (some _) => False
  | _ => True

/-- **All closed pages look the same.** -/
theorem Routine.Only.given_readOn {α : Type} {r : Routine α} (hr : r.Only Act.IsLook) {p : Page}
    (hp : p.closed = true) : r.Given Act.MeetsClosed fun a => a = (r.readOn p).1 := by
  induction r generalizing p with
  | done a => rfl
  | call c next ih =>
    rintro r ⟨p', hp', rfl⟩
    have hread : c.isRead = true := (hr (.error .closed)).1
    have hsame : (p'.perform c).1 = (p.perform c).1 := by
      rw [Page.perform_read_closed hp' hread, Page.perform_read_closed hp hread]
    have hclosed := (Page.Still.perform hp c).closed
    rw [hsame]
    exact ih _ (hr _).2 hclosed
  | note n next ih => exact fun _ => ih hr.2 hp
  | sleep | pause | drop | report => exact absurd hr.1 id
  | await => exact absurd (hr none).1 id

/-- A question that no closed page answers yes. -/
theorem Lookup.Looks.given_no {q : Lookup Bool} (hq : q.Looks)
    (hno : ∀ p : Page, p.closed = true → (q.run.readOn p).1 ≠ .ok true) :
    q.run.Given Act.MeetsClosed fun a => a ≠ .ok true := by
  let p : Page := { (default : Page) with closed := true }
  refine (Routine.Only.given_readOn hq (p := p) rfl).mono (fun _ h => h) fun a ha => ?_
  rw [ha]
  exact hno p rfl

namespace Search

variable {x : Search} {s s' : State} {n : Next}

/-- On a closed page nobody is found. -/
theorem candidates_given (tried : List String) (i : Nat) (vs : List Vendor) :
    (candidates tried i vs).Given Act.MeetsClosed fun found => found = [] := by
  induction vs generalizing i with
  | nil => rfl
  | cons v vs ih =>
    rw [candidates]
    split
    · exact ih (i + 1)
    · have hno := v.detect_looks.given_no fun p hp => v.detect_closed hp
      refine Routine.Given.bind hno fun a ha => ?_
      rcases a with e | _ | _
      · exact fun _ => ih (i + 1)
      · exact ih (i + 1)
      · exact absurd rfl ha

theorem nextCandidate_given (x : Search) (tried : List String) :
    (x.nextCandidate tried).Given Act.MeetsClosed fun c => c = none := by
  refine Routine.Given.bind (candidates_given tried 0 x.vendors) ?_
  rintro found rfl
  rfl

/-- On a closed page nobody shows. -/
theorem shows_given (v : Vendor) (attempt : Nat) :
    (shows v attempt).Given Act.MeetsClosed fun b => b = false := by
  have hno := v.isShowing_looks.given_no fun p hp => v.isShowing_closed hp
  refine Routine.Given.bind hno fun a ha => ?_
  rcases a with e | _ | _
  · exact fun _ => rfl
  · rfl
  · exact absurd rfl ha

/-- A check, and those after it if it is not passed. -/
def checkOn (x : Search) (v : Vendor) (left attempt : Nat) : Routine Bool :=
  (shows v attempt).bind fun b => if b then .done true else x.poll v left (attempt + 1)

theorem poll_succ (x : Search) (v : Vendor) (left attempt : Nat) :
    x.poll v (left + 1) attempt = (x.waitBefore attempt).bind fun _ => x.checkOn v left attempt :=
  rfl

/-- **However often it is checked, a dialog does not show on a closed page.** -/
theorem poll_given (x : Search) (v : Vendor) (left attempt : Nat) :
    (x.poll v left attempt).Given Act.MeetsClosed fun b => b = false := by
  induction left generalizing attempt with
  | zero => rfl
  | succ left ih =>
    have hchecks : (x.checkOn v left attempt).Given Act.MeetsClosed fun b => b = false := by
      refine Routine.Given.bind (shows_given v attempt) ?_
      rintro b rfl
      exact ih (attempt + 1)
    rw [poll_succ]
    unfold waitBefore
    split
    · exact fun _ => hchecks
    · exact hchecks

/-- **Nor if the page is closed between two checks.** -/
theorem poll_rests (x : Search) (v : Vendor) (left attempt : Nat) :
    (x.poll v left attempt).Rests (·.Given Act.MeetsClosed fun b => b = false) := by
  induction left generalizing attempt with
  | zero => trivial
  | succ left ih =>
    have hchecks : (x.checkOn v left attempt).Rests
        (·.Given Act.MeetsClosed fun b => b = false) := by
      refine Routine.Rests.after ((shows_looks v attempt).rests _) fun b => ?_
      cases b with
      | true => trivial
      | false => exact ih (attempt + 1)
    rw [poll_succ]
    unfold waitBefore
    split
    · next hlater =>
      -- what is left after the wait is the check before which it was
      have hgiven := x.poll_given v (left + 1) attempt
      rw [poll_succ, waitBefore, if_pos hlater] at hgiven
      exact ⟨hgiven trivial, hchecks⟩
    · exact hchecks

/-- **What a stage comes to on a closed page.** -/
inductive Ebbs (x : Search) (s : State) : Next → Prop where
  | nothing : s.stage = .detecting → Ebbs x s (.goOn { s with stage := .observing })
  | woken : s.stage = .observing → Ebbs x s (.goOn { s with stage := .detecting })
  | settled : s.stage = .observing → Ebbs x s (.goOn { s with stage := .finished })
  | hidden {i : Nat} : s.stage = .polling i → Ebbs x s (.goOn { s with stage := .abandoned i })
  | handled {i : Nat} {v : Vendor} : s.stage = .handling i → x.vendors[i]? = some v →
      Ebbs x s (.goOn { s with stage := .handled i, handled := s.handled ++ [v.name] })
  | lost {i : Nat} : s.stage = .polling i ∨ s.stage = .handling i → x.vendors[i]? = none →
      Ebbs x s (.goOn { s with stage := .finished })
  | looked {i : Nat} (o : Observer) : s.stage = .abandoned i ∨ s.stage = .handled i →
      Ebbs x s (.goOn { s with stage := .detecting, observer := some o })
  | satisfied {i : Nat} : s.stage = .handled i → Ebbs x s (.goOn { s with stage := .finished })
  | ended : s.stage = .finished →
      Ebbs x s (.stop (.ok { handled := s.handled, tried := s.tried }))

/-- Looking again leads to another look, since a page that is closed is observed all the same. -/
theorem look_given (s₀ : State) {i : Nat} (hs : s₀.stage = .abandoned i ∨ s₀.stage = .handled i) :
    (look s₀).Given Act.MeetsClosed (Ebbs x s₀) := by
  rintro r ⟨p, -, rfl⟩
  exact .looked _ hs

theorem stopObserving_given (o : Option Observer) :
    (stopObserving o).Given Act.MeetsClosed fun _ => True := by
  cases o with
  | none => trivial
  | some o => exact fun _ => trivial

/-- A handling ends as it would, whatever fails in it. -/
theorem handling_ebbs {i : Nat} (hi : s.stage = .handling i) {t t' : Nat} {h : History}
    (hc : (x.step s).Course t h t' n) : x.Ebbs s n := by
  obtain ⟨h₁, -, hturn⟩ := step_turn hc
  cases hturn with
  | handled hs hv _ => exact .handled hs hv
  | lost hs hv => exact .lost hs hv
  | looked hs _ => simp [hi] at hs
  | found hs _ | nothing hs _ | woken hs _ _ | settled hs _ | shown hs _ _ | hidden hs _ _
  | satisfied hs _ | ended hs => simp [hi] at hs

/-- **On a closed page every stage ebbs away.** -/
theorem step_given (x : Search) (s : State) : (x.step s).Given Act.MeetsClosed (x.Ebbs s) := by
  by_cases hs : ∃ i, s.stage = .handling i
  · obtain ⟨i, hi⟩ := hs
    exact Routine.given_of_courses (t := 0) fun h t' n hc => handling_ebbs hi hc
  · intro _
    obtain ⟨stage, tried, handled, observer⟩ := s
    cases stage with
    | detecting =>
      change ((x.nextCandidate tried).bind _).Given _ _
      refine Routine.Given.bind (x.nextCandidate_given tried) ?_
      rintro c rfl
      exact .nothing rfl
    | observing =>
      cases observer with
      | none => exact .settled rfl
      | some o =>
        intro records _
        cases records with
        | none => exact .settled rfl
        | some k => exact fun _ => .woken rfl
    | polling i =>
      dsimp only [Routine.bind]
      cases hv : x.vendors[i]? with
      | none => exact .lost (.inl rfl) hv
      | some v =>
        refine Routine.Given.bind (x.poll_given v _ _) ?_
        rintro b rfl
        exact .hidden rfl
    | abandoned i => exact fun _ => look_given _ (.inl rfl)
    | handling i => exact absurd ⟨i, rfl⟩ hs
    | handled i =>
      intro _
      change Routine.Given _ _ (if x.setting.pace.keepObserving then _ else _)
      split
      · exact look_given _ (.inr rfl)
      · exact .satisfied rfl
    | finished =>
      change ((stopObserving observer).bind _).Given _ _
      exact Routine.Given.bind (stopObserving_given observer) fun _ _ => .ended rfl

/-- Looking again, and giving up an observer, is done without a wait. -/
theorem look_rests (s : State) (Q : Routine Next → Prop) : (look s).Rests Q := by
  intro r
  cases r <;> trivial

theorem stopObserving_rests (o : Option Observer) (Q : Routine Unit → Prop) :
    (stopObserving o).Rests Q := by
  cases o <;> trivial

/-- **So does what is left of a stage at each of its waits.** -/
theorem step_rests (x : Search) (s : State) :
    (x.step s).Rests (·.Given Act.MeetsClosed (x.Ebbs s)) := by
  by_cases hs : ∃ i, s.stage = .handling i
  · obtain ⟨i, hi⟩ := hs
    refine Routine.rests_of_leads (t := 0) fun h t' r' hl => ?_
    exact Routine.given_of_courses (t := t') fun k t₂ n hc => handling_ebbs hi (hl.trans hc)
  · obtain ⟨stage, tried, handled, observer⟩ := s
    cases stage with
    | detecting =>
      change ((x.nextCandidate tried).bind _).Rests _
      refine Routine.Rests.after ((x.nextCandidate_looks tried).rests _) fun c => ?_
      cases c with
      | none => trivial
      | some c =>
        exact Routine.Rests.after (stopObserving_rests observer _) fun _ => trivial
    | observing =>
      cases observer with
      | none => trivial
      | some o =>
        intro records
        cases records with
        | none => exact ⟨.settled rfl, trivial⟩
        | some k => exact ⟨fun _ => .woken rfl, trivial⟩
    | polling i =>
      unfold step
      refine Routine.Rests.after trivial fun _ => ?_
      dsimp only
      cases x.vendors[i]? with
      | none => trivial
      | some v =>
        refine Routine.Rests.bind (x.poll_rests v _ _) (fun r hr => ?_) fun b => ?_
        · refine Routine.Given.bind hr ?_
          rintro b rfl
          exact .hidden rfl
        · cases b <;> trivial
    | abandoned i => exact look_rests _ _
    | handling i => exact absurd ⟨i, rfl⟩ hs
    | handled i =>
      change Routine.Rests _ (if x.setting.pace.keepObserving then _ else _)
      split
      · exact look_rests _ _
      · trivial
    | finished =>
      change ((stopObserving observer).bind _).Rests _
      exact Routine.Rests.after (stopObserving_rests observer _) fun _ => trivial

/-! ## What a search comes to once its page is closed -/

/-- The name of the dialog that a search is handling, if it is. -/
def State.inHand (x : Search) (s : State) : List String :=
  match s.stage with
  | .handling i => (x.vendors[i]?.map Vendor.name).toList
  | _ => []

theorem mem_inHand {name : String} (h : name ∈ s.inHand x) :
    ∃ i v, s.stage = .handling i ∧ x.vendors[i]? = some v ∧ name = v.name := by
  unfold State.inHand at h
  split at h
  · next i hi =>
    obtain ⟨v, hv, rfl⟩ := Option.map_eq_some_iff.1 (Option.mem_toList.1 h)
    exact ⟨i, v, hi, hv, rfl⟩
  · exact absurd h List.not_mem_nil

/-- **The report that is due** where nobody is tried any more: with the dialog that is being
handled. -/
def State.due (x : Search) (s : State) : Report :=
  { handled := s.handled ++ s.inHand x, tried := s.tried }

/-- Who goes on owes a report, and who stops gives it. -/
def Next.Owes (x : Search) (report : Report) : Next → Prop
  | .goOn s => s.due x = report
  | .stop outcome => outcome = .ok report

/-- **What is due stays due**: who is in hand is handled when the stage is over, and nobody else
is. -/
theorem Ebbs.owes (h : x.Ebbs s n) : n.Owes x (s.due x) := by
  -- no stage comes to a handling, so what is due then is what was handled
  have settled : ∀ s' : State, (∀ i, s'.stage ≠ .handling i) →
      s'.handled = s.handled ++ s.inHand x →
      s'.tried = s.tried → s'.due x = s.due x := by
    intro s' hs' hhandled htried
    have hnone : s'.inHand x = [] := by
      unfold State.inHand
      split
      · next i hi => exact absurd hi (hs' i)
      · rfl
    unfold State.due
    rw [hnone, List.append_nil, hhandled, htried]
  cases h with
  | nothing hs | woken hs | settled hs | hidden hs | satisfied hs =>
    refine settled _ (fun i => Stage.noConfusion) ?_ rfl
    simp [State.inHand, hs]
  | handled hs hv =>
    refine settled _ (fun i => Stage.noConfusion) ?_ rfl
    simp [State.inHand, hs, hv]
  | lost hs hv =>
    refine settled _ (fun i => Stage.noConfusion) ?_ rfl
    rcases hs with hs | hs <;> simp [State.inHand, hs, hv]
  | looked _ hs =>
    refine settled _ (fun i => Stage.noConfusion) ?_ rfl
    rcases hs with hs | hs <;> simp [State.inHand, hs]
  | ended hs =>
    unfold Next.Owes State.due
    simp [State.inHand, hs]

/-- **Every stage brings the end nearer**, unless changes are told. -/
theorem Ebbs.nearer (h : x.Ebbs s (.goOn s')) : stagesLeft s'.stage < stagesLeft s.stage ∨
    s.stage = .observing ∧ s'.stage = .detecting := by
  cases h with
  | woken hs => exact .inr ⟨hs, rfl⟩
  | lost hs _ => left; rcases hs with hs | hs <;> simp [hs, stagesLeft]
  | looked _ hs => left; rcases hs with hs | hs <;> simp [hs, stagesLeft]
  | nothing hs | settled hs | hidden hs | handled hs _ | satisfied hs => left; simp [hs, stagesLeft]

/-- A stage that is told of no changes brings the end nearer. -/
theorem step_nearer_untold (x : Search) (s : State) :
    (x.step s).Given (fun a => a.MeetsClosed ∧ a.IsUntold) fun n =>
      ∀ s', n = .goOn s' → stagesLeft s'.stage < stagesLeft s.stage := by
  by_cases hs : s.stage = .observing
  · obtain ⟨stage, tried, handled, observer⟩ := s
    obtain rfl : stage = .observing := hs
    have hfinished : ∀ s', Next.goOn (⟨.finished, tried, handled, observer⟩ : State) = .goOn s' →
        stagesLeft s'.stage < stagesLeft .observing := by
      rintro s' ⟨⟩
      exact Nat.zero_lt_one
    intro _
    cases observer with
    | none => exact hfinished
    | some o =>
      rintro records ⟨-, huntold⟩
      cases records with
      | none => exact hfinished
      | some k => exact absurd huntold id
  · refine (x.step_given s).mono (fun a ha => ha.1) ?_
    rintro n hebbs s' rfl
    exact hebbs.nearer.resolve_right fun hwoken => hs hwoken.1

end Search
end ConsentWalker
