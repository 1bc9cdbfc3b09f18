import Mathlib.Data.List.Dedup
import ConsentWalker.Proofs.Walk.Alone
import ConsentWalker.Proofs.Walk.Failing
/-!
# Walk — how often a search looks for dialogs

A search that has looked in vain waits, and looks again when the page has changed. It also looks
again without any wait, once it has given a dialog up or, if it keeps observing, handled one.
Nothing in its stages counts down, and yet it cannot go round for ever: **every pass but the first
is paid for**, by the vendor that was tried before it and is never tried again, or by the change
that woke the search. `step_pays` says so of one stage, and `Tally` is the account of a whole trip.

`Surroundings` are whatever a search may meet on its way. If they wake it only so often, it has come
to its end after so many stages.
-/

namespace ConsentWalker

/-! ## What is counted -/

/-- An act by which a search is woken: a wait that ends with changes. -/
@[simp] def Act.isWake : Act → Bool
  | .await _ (some _) => true
  | _ => false

namespace History

/-- How often a search was woken. -/
def wakes (h : History) : Nat := h.countP fun m => m.act.isWake

@[simp] theorem wakes_nil : wakes [] = 0 := rfl

@[simp] theorem wakes_append (h h' : History) : wakes (h ++ h') = wakes h + wakes h' :=
  List.countP_append

@[simp] theorem wakes_cons (m : Moment) (h : History) :
    wakes (m :: h) = wakes h + m.act.isWake.toNat := by
  unfold wakes
  rw [List.countP_cons]
  cases m.act.isWake <;> rfl

end History

namespace Stage

/-- The stage that checks whether a dialog shows. -/
@[simp] def isPolling : Stage → Bool
  | .polling _ => true
  | _ => false

/-- The stage that is one pass over the vendors. -/
@[simp] def isDetecting : Stage → Bool
  | .detecting => true
  | _ => false

/-- The stages between the pass that found a vendor and the next one. -/
@[simp] def hasVendor : Stage → Bool
  | .polling _ | .abandoned _ | .handling _ | .handled _ => true
  | .detecting | .observing | .finished => false

end Stage

namespace Search

/-- The stages of a trip, in order. -/
def Trip.stages (p : Trip) : List Stage := p.legs.map fun leg => leg.before.stage

@[simp] theorem Trip.stages_add (p : Trip) (leg : Leg) :
    (p.add leg).stages = p.stages ++ [leg.before.stage] := by
  simp [Trip.stages]

@[simp] theorem Trip.history_opening (h : History) : Trip.history ⟨h, []⟩ = h := List.append_nil h

/-- **A search at any point of its way**, also part of the way through a stage: the stages that it
has entered, the last of them the one it is in, all that it did, and the time. -/
inductive Enters (x : Search) : List Stage → History → Nat → Prop where
  | starting {t t' : Nat} {h : History} {r : Routine Next} :
      start.Leads t h t' r → Enters x [] h t'
  | amid {p : Trip} {t t' : Nat} {s : State} {h : History} {r : Routine Next} :
      Travels x p t s → (x.step s).Leads t h t' r →
        Enters x (p.stages ++ [s.stage]) (p.history ++ h) t'

variable {x : Search} {p : Trip} {s s' : State} {t t' : Nat} {h H : History} {stages : List Stage}

/-! ## The account -/

/-- **What a stage costs**, and what it is paid for with: vendors that are tried, changes that wake
the search, and the way that is left to its next wait. -/
structure Pays (s : State) (h : History) (s' : State) : Prop where
  /-- To check a dialog is to try its vendor. -/
  poll : [s'.stage].countP Stage.isPolling + s.tried.length ≤ s'.tried.length
  /-- A pass uses up the vendor in hand, or a change. -/
  pass : [s'.stage].countP Stage.isDetecting + s'.stage.hasVendor.toNat + s.tried.length ≤
    s'.tried.length + s.stage.hasVendor.toNat + h.wakes
  stage : 1 + stagesLeft s'.stage + 4 * s.tried.length ≤
    stagesLeft s.stage + 4 * s'.tried.length + 2 * h.wakes

/-- **Every stage pays for the next one.** -/
theorem step_pays (hc : (x.step s).Course t h t' (.goOn s')) : Pays s h s' := by
  obtain ⟨h₁, rfl, hturn⟩ := step_turn hc
  cases hturn with
  | found hstage _ =>
    -- the vendor is tried now, and is in hand up to the next pass
    constructor <;> simp [hstage, stagesLeft] <;> omega
  | woken hstage _ _ => constructor <;> simp [hstage, stagesLeft] <;> omega
  | nothing hstage _ | settled hstage _ | shown hstage _ _ | hidden hstage _ _ | handled hstage _ _
  | satisfied hstage _ =>
    constructor <;> simp [hstage, stagesLeft] <;> omega
  | lost hstage _ =>
    rcases hstage with hstage | hstage <;> constructor <;> simp [hstage, stagesLeft]
  | looked hstage hlook =>
    obtain ⟨o, -, rfl⟩ := look_goOn hlook
    rcases hstage with hstage | ⟨hstage, -⟩ <;> constructor <;> simp [hstage, stagesLeft] <;> omega

/-- **The account of the stages that a search has entered**, the one it is in among them. -/
structure Tally (stages : List Stage) (h : History) (s : State) : Prop where
  polls : stages.countP Stage.isPolling ≤ s.tried.length
  passes : stages.countP Stage.isDetecting + s.stage.hasVendor.toNat ≤ s.tried.length + h.wakes + 1
  length : stages.length + stagesLeft s.stage ≤ 4 * s.tried.length + 2 * h.wakes + 3

theorem Tally.begin (hc : start.Course t h t' (.goOn s)) : Tally [s.stage] h s := by
  obtain ⟨o, rfl, rfl⟩ := look_goOn hc
  constructor <;> simp [stagesLeft]

/-- **A stage keeps the account.** -/
theorem Tally.step (ht : Tally stages H s) (hc : (x.step s).Course t h t' (.goOn s')) :
    Tally (stages ++ [s'.stage]) (H ++ h) s' := by
  obtain ⟨hpoll, hpass, hstage⟩ := step_pays hc
  obtain ⟨hpolls, hpasses, hlength⟩ := ht
  constructor
  · rw [List.countP_append]
    omega
  · rw [List.countP_append, History.wakes_append]
    omega
  · rw [List.length_append, List.length_singleton, History.wakes_append]
    omega

/-- **So the account holds of every trip.** -/
theorem Travels.tally (hp : x.Travels p t s) : Tally (p.stages ++ [s.stage]) p.history s := by
  induction hp with
  | @begin t t' h s hc =>
    rw [Trip.history_opening]
    exact .begin hc
  | onward _ hc ih =>
    rw [Trip.stages_add, Trip.history_add]
    exact ih.step hc

/-- No vendor is tried twice under one name. -/
theorem Ledger.tried_le_names (hl : Ledger x s) : s.tried.length ≤ x.names.dedup.length :=
  (List.subperm_of_subset hl.nodup fun name hname =>
    List.mem_dedup.2 (hl.configured name hname)).length_le

/-- **At any point of its way a search has checked and looked only so often.** -/
theorem Enters.bounded (he : x.Enters stages H t) :
    stages.countP Stage.isPolling ≤ x.names.dedup.length ∧
      stages.countP Stage.isDetecting ≤ x.names.dedup.length + H.wakes + 1 := by
  cases he with
  | starting => exact ⟨Nat.zero_le _, Nat.zero_le _⟩
  | amid hp _ =>
    obtain ⟨hpolls, hpasses, -⟩ := hp.tally
    have hnames := hp.account.tried_le_names
    rw [History.wakes_append]
    exact ⟨Nat.le_trans hpolls hnames, by omega⟩

/-- Who looks again stops only because it is refused. -/
theorem look_stop {outcome : Except PageError Report}
    (hc : (look s).Course t h t' (.stop outcome)) :
    ∃ e, outcome = .error e := by
  obtain ⟨-, r, -, ⟨o, -, hgo⟩ | ⟨e, -, hstop⟩⟩ := look_course hc
  · cases hgo
  · exact ⟨e, Next.stop.inj hstop⟩

/-- **How a search ends**: finished, or refused an observer by the last of its acts. -/
theorem Finishes.finished_or_refused {outcome : Except PageError Report}
    (hf : x.Finishes s H t outcome) :
    s.stage = .finished ∧ outcome = .ok { handled := s.handled, tried := s.tried } ∨
      ∃ before e, H = before ++ [⟨t, .call .observe (.error e)⟩] ∧ outcome = .error e := by
  have hending := hf.ending
  generalize hn : Next.stop outcome = n at hending
  cases hending with
  | onward => cases hn
  | told =>
    cases hn
    refine .inl ⟨?_, rfl⟩
    cases hf with
    | refused hc =>
      obtain ⟨e, he⟩ := look_stop hc
      cases he
    | stopped hp hc =>
      obtain ⟨h₁, -, hturn⟩ := step_turn hc
      cases hturn with
      | ended hstage => exact hstage
      | looked _ hlook =>
        obtain ⟨e, he⟩ := look_stop hlook
        cases he
  | refused =>
    cases hn
    exact .inr ⟨_, _, rfl, rfl⟩

end Search

/-! ## Surroundings -/

/-- **What a search may meet**: an answer to every call, and an end of every wait, each after
whatever was done before. So they may be a page that fails, or that others change. -/
structure Surroundings where
  answer : History → Nat → (c : Call) → Except PageError c.Result
  /-- How long a wait for changes takes, and what it ends with. -/
  wait : History → Nat → Observer → Nat × Option Nat

namespace Surroundings

variable {α : Type} {e : Surroundings} {b : Nat}

/-- **Surroundings that wake nobody more often than this.** After that a wait ends without changes,
as one does when there will be no more. -/
def FallsSilent (e : Surroundings) (b : Nat) : Prop :=
  ∀ h t o, b ≤ h.wakes → (e.wait h t o).2 = none

/-- **A routine in its surroundings**, from a history and a time on: what it comes to, all that was
done then, and the time. -/
def run (e : Surroundings) : Routine α → History → Nat → α × History × Nat
  | .done a, h, t => (a, h, t)
  | .call c next, h, t => e.run (next (e.answer h t c)) (h ++ [⟨t, .call c (e.answer h t c)⟩]) t
  | .note n next, h, t => e.run next (h ++ [⟨t, .note n⟩]) t
  | .sleep d next, h, t => e.run next (h ++ [⟨t, .sleep d⟩]) (t + d)
  | .pause next, h, t => e.run next (h ++ [⟨t, .pause⟩]) t
  | .await o next, h, t =>
    e.run (next (e.wait h t o).2) (h ++ [⟨t, .await o (e.wait h t o).2⟩]) (t + (e.wait h t o).1)
  | .drop o next, h, t => e.run next (h ++ [⟨t, .drop o⟩]) t
  | .report v next, h, t => e.run next (h ++ [⟨t, .report v⟩]) t

/-- **What a routine does in any surroundings is a course of it.** -/
theorem run_course (e : Surroundings) (r : Routine α) (h : History) (t : Nat) :
    ∃ k, (e.run r h t).2.1 = h ++ k ∧ r.Course t k (e.run r h t).2.2 (e.run r h t).1 := by
  -- one act more, and then the rest
  have after : ∀ {r r₁ : Routine α} {m : Moment} {h : History} {t t₁ : Nat}, r.Does t m t₁ r₁ →
      e.run r h t = e.run r₁ (h ++ [m]) t₁ →
      (∃ k, (e.run r₁ (h ++ [m]) t₁).2.1 = h ++ [m] ++ k ∧
        r₁.Course t₁ k (e.run r₁ (h ++ [m]) t₁).2.2 (e.run r₁ (h ++ [m]) t₁).1) →
      ∃ k, (e.run r h t).2.1 = h ++ k ∧ r.Course t k (e.run r h t).2.2 (e.run r h t).1 := by
    rintro r r₁ m h t t₁ hd heq ⟨k, hk, hc⟩
    rw [heq]
    exact ⟨m :: k, by rw [hk, List.append_assoc]; rfl, .step hd hc⟩
  induction r generalizing h t with
  | done a => exact ⟨[], (List.append_nil h).symm, .refl _ _⟩
  | call c next ih => exact after (.call c next t _) rfl (ih _ _ _)
  | note n next ih => exact after (.note n next t) rfl (ih _ _)
  | sleep d next ih => exact after (.sleep d next t) rfl (ih _ _)
  | pause next ih => exact after (.pause next t) rfl (ih _ _)
  | await o next ih => exact after (.await o next (Nat.le_add_right t _) _) rfl (ih _ _ _)
  | drop o next ih => exact after (.drop o next t) rfl (ih _ _)
  | report v next ih => exact after (.report v next t) rfl (ih _ _)

/-- **Whoever falls silent wakes a routine no more often than that.** -/
theorem FallsSilent.run (he : e.FallsSilent b) (r : Routine α) {h : History} (hh : h.wakes ≤ b)
    (t : Nat) :
    (e.run r h t).2.1.wakes ≤ b := by
  induction r generalizing h t with
  | done a => exact hh
  | call c next ih => exact ih _ (by simpa using hh) t
  | note n next ih | pause next ih | drop o next ih | report v next ih =>
    exact ih (by simpa using hh) t
  | sleep d next ih => exact ih (by simpa using hh) _
  | await o next ih =>
    refine ih _ ?_ _
    by_cases hlast : b ≤ h.wakes
    · rw [he h t o hlast]
      simpa using hh
    · cases (e.wait h t o).2 with
      | none => simpa using hh
      | some records =>
        simp
        omega

/-- How far a search has come: the stages it has entered, all that it did, the time, and what
follows. -/
structure Progress where
  stages : List Stage
  history : History
  time : Nat
  next : Search.Next

/-- **How far a search comes in its surroundings** within so many stages. -/
def progress (e : Surroundings) (x : Search) : Nat → Progress
  | 0 =>
    let (next, h, t) := e.run Search.start [] 0
    ⟨[], h, t, next⟩
  | k + 1 =>
    let p := e.progress x k
    match p.next with
    | .stop _ => p
    | .goOn s =>
      let (next, h, t) := e.run (x.step s) p.history p.time
      ⟨p.stages ++ [s.stage], h, t, next⟩

open Search (Travels Finishes Enters)

/-- What a search has come to after so many stages: it is on a trip of them, or at its end. -/
inductive Progress.Of (x : Search) (k : Nat) : Progress → Prop where
  | goesOn {p : Search.Trip} {t : Nat} {s : Search.State} :
      Travels x p t s → p.legs.length = k → Of x k ⟨p.stages, p.history, t, .goOn s⟩
  | ended {stages : List Stage} {h : History} {t : Nat} {s : Search.State}
      {outcome : Except PageError Report} :
      Enters x stages h t → Finishes x s h t outcome → Of x k ⟨stages, h, t, .stop outcome⟩

variable {x : Search}

/-- **What a search comes to in any surroundings is one of its ways.** -/
theorem progress_of (e : Surroundings) (x : Search) (k : Nat) : (e.progress x k).Of x k := by
  induction k with
  | zero =>
    obtain ⟨h, hh, hc⟩ := e.run_course Search.start [] 0
    rw [progress]
    generalize e.run Search.start [] 0 = run at hh hc
    obtain ⟨next, h', t⟩ := run
    obtain rfl : h' = h := hh
    cases next with
    | goOn s =>
      have hof : Progress.Of x 0 ⟨[], Search.Trip.history ⟨h', []⟩, t, .goOn s⟩ :=
        .goesOn (.begin hc) rfl
      rwa [Search.Trip.history_opening] at hof
    | stop outcome => exact .ended (.starting hc) (.refused hc)
  | succ k ih =>
    rw [progress]
    generalize e.progress x k = p at ih
    cases ih with
    | ended henters hf => exact .ended henters hf
    | @goesOn p t s hp hk =>
      obtain ⟨h, hh, hc⟩ := e.run_course (x.step s) p.history t
      dsimp only
      generalize e.run (x.step s) p.history t = run at hh hc
      obtain ⟨next, h', t'⟩ := run
      obtain rfl : h' = p.history ++ h := hh
      cases next with
      | goOn s' =>
        have hof := Progress.Of.goesOn (k := k + 1) (Travels.onward hp hc) (by simp [hk])
        rwa [Search.Trip.stages_add, Search.Trip.history_add] at hof
      | stop outcome => exact .ended (.amid hp hc) (.stopped hp hc)

theorem FallsSilent.progress (he : e.FallsSilent b) (x : Search) (k : Nat) :
    (e.progress x k).history.wakes ≤ b := by
  induction k with
  | zero => exact he.run Search.start (h := []) (Nat.zero_le b) 0
  | succ k ih =>
    rw [Surroundings.progress]
    generalize e.progress x k = p at ih
    obtain ⟨stages, h, t, next⟩ := p
    cases next with
    | stop outcome => exact ih
    | goOn s => exact he.run (x.step s) ih t

end Surroundings

namespace Search

/-- **A search cannot spin.** At any point of its way, whatever it met, it has begun to check a
dialog once at most for every name of a vendor, and begun a pass over the vendors once at most for
every name and for every time that it was woken, and one more time. So where it is woken only so
often it comes to its end, after a number of stages that depends on nothing else: it has finished,
with its account, unless the page refused to be observed before. -/
theorem cannot_spin (x : Search) :
    (∀ stages H t, x.Enters stages H t →
      stages.countP Stage.isPolling ≤ x.names.dedup.length ∧
        stages.countP Stage.isDetecting ≤ x.names.dedup.length + H.wakes + 1) ∧
      ∀ (e : Surroundings) (b : Nat), e.FallsSilent b →
        ∃ stages H t s outcome,
          e.progress x (4 * x.names.dedup.length + 2 * b + 3) = ⟨stages, H, t, .stop outcome⟩ ∧
            x.Enters stages H t ∧ x.Finishes s H t outcome ∧ H.wakes ≤ b ∧
            (s.stage = .finished ∧ outcome = .ok { handled := s.handled, tried := s.tried } ∨
              ∃ before e, H = before ++ [⟨t, .call .observe (.error e)⟩] ∧ outcome = .error e) := by
  refine ⟨fun stages H t he => he.bounded, fun e b he => ?_⟩
  have hwakes := he.progress x (4 * x.names.dedup.length + 2 * b + 3)
  have hof := e.progress_of x (4 * x.names.dedup.length + 2 * b + 3)
  generalize e.progress x (4 * x.names.dedup.length + 2 * b + 3) = last at hwakes hof
  cases hof with
  | @goesOn p t s hp hlegs =>
    -- so many stages are more than it can pay for
    have hlength := hp.tally.length
    have hnames := hp.account.tried_le_names
    have hstages : p.stages.length = p.legs.length := List.length_map _
    rw [List.length_append, List.length_singleton, hstages, hlegs] at hlength
    dsimp only at hwakes
    omega
  | @ended stages H t s outcome henters hf =>
    exact ⟨stages, H, t, s, outcome, rfl, henters, hf, hwakes, hf.finished_or_refused⟩

/-! ### Woken twice -/

/-- A page on which there is always what is asked for, and which changes twice. -/
def lively : Surroundings where
  answer := fun _ _ c =>
    match c with
    | .observe => .ok ⟨0⟩
    | .query _ _ => .ok [⟨0⟩]
    | _ => .error .closed
  wait := fun h _ _ => (10, if h.wakes < 2 then some 1 else none)

/-- A search for one dialog that keeps observing uses its bounds up there: it checks once, makes
four passes, and finishes with the last stage that it can pay for. -/
theorem watchful_finishes :
    let last := lively.progress watchful 11
    last.stages =
      [.detecting, .polling 0, .handling 0, .handled 0, .detecting, .observing, .detecting,
        .observing, .detecting, .observing, .finished] ∧
      watchful.names.dedup.length = 1 ∧ lively.FallsSilent 2 ∧ last.history.wakes = 2 ∧
      last.stages.countP Stage.isPolling ≤ 1 ∧ last.stages.countP Stage.isDetecting ≤ 1 + 2 + 1 ∧
      ∃ s, watchful.Finishes s last.history last.time
        (.ok { handled := ["banner"], tried := s.tried }) ∧ s.stage = .finished := by
  have hnames : watchful.names.dedup.length = 1 := by decide
  have hsilent : lively.FallsSilent 2 := fun h t o hb => if_neg (Nat.not_lt.2 hb)
  have hstages : (lively.progress watchful 11).stages =
      [.detecting, .polling 0, .handling 0, .handled 0, .detecting, .observing, .detecting,
        .observing, .detecting, .observing, .finished] := by
    decide +kernel
  have hwakes : (lively.progress watchful 11).history.wakes = 2 := by decide +kernel
  have hreports : (lively.progress watchful 11).history.reports = ["banner"] := by decide +kernel
  have hrefusals : (lively.progress watchful 11).history.refusals.length = 0 := by decide +kernel
  obtain ⟨hbounded, hends⟩ := watchful.cannot_spin
  obtain ⟨stages, H, t, s, outcome, hlast, henters, hf, -, hend⟩ := hends lively 2 hsilent
  rw [hnames] at hlast hbounded
  change lively.progress watchful 11 = _ at hlast
  rw [hlast] at hstages hwakes hreports hrefusals ⊢
  obtain ⟨hpolls, hpasses⟩ := hbounded _ _ _ henters
  obtain ⟨hfinished, rfl⟩ | ⟨before, e, rfl, -⟩ := hend
  · have hhandled : s.handled = ["banner"] := hf.reports.symm.trans hreports
    rw [hhandled] at hf
    rw [hwakes] at hpasses
    exact ⟨hstages, hnames, hsilent, hwakes, hpolls, hpasses, s, hf, hfinished⟩
  · rw [History.refusals_append, List.length_append] at hrefusals
    cases Nat.add_eq_zero_iff.1 hrefusals |>.2

end Search
end ConsentWalker
