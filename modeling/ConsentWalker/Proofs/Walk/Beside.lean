import ConsentWalker.Proofs.Walk.Running
import ConsentWalker.Proofs.Walk.Trip
import ConsentWalker.Walk.Task
/-!
# Walk — a search among others

A search that runs as a task acts whenever it need not wait; while it waits, others change the world
and time passes. `Task.Beside` is every state a task and its world can come to in this way, whoever
the others are. `Beside.stands` ties it to what was said about searches on their way: wherever a
task stands, its search is on a trip, part of the way through a stage.
-/

namespace ConsentWalker

open Search (Travels start)

/-! ## Tasks among others -/

namespace Task

/-- Who goes on is not over. -/
theorem isOver_of_ready {t : Task} {w w' : World} {r : Routine Search.Next}
    (hr : t.ready? w = some (r, w')) : t.isOver = false := by
  cases hover : t.isOver with
  | false => rfl
  | true =>
    unfold Task.ready? at hr
    rw [if_pos hover] at hr
    cases hr

/-- **Who need not wait goes on with what was left to do**, perhaps after collecting changes. -/
theorem ready?_of_meets {t : Task} {w w' : World} {r : Routine Search.Next}
    {P : Search.Next → Prop} {Q : Routine Search.Next → Prop} (hhalt : t.halt.Meets P Q)
    (hr : t.ready? w = some (r, w')) :
    Q r ∧ (w' = w ∨ ∃ o records, w.collect? o = some (records, w')) := by
  unfold Task.ready? at hr
  split at hr
  · cases hr
  · generalize t.halt = halt at hhalt hr
    cases halt with
    | finished a => cases hr
    | sleeping time next =>
      dsimp only at hr
      split at hr
      · cases hr
        exact ⟨hhalt, .inl rfl⟩
      · cases hr
    | paused next =>
      cases hr
      exact ⟨hhalt, .inl rfl⟩
    | waiting o next =>
      obtain ⟨⟨records, w₁⟩, hcollect, hnext⟩ := Option.map_eq_some_iff.1 hr
      cases hnext
      exact ⟨hhalt records, .inr ⟨o, records, hcollect⟩⟩

/-- **What a task comes to by acting until it has to wait**: either it need not act at all, or
whatever it did last came to it. -/
theorem run_comes {P Q : Task → World → Prop}
    (hstays : ∀ t w, P t w → t.ready? w = none → Q t w)
    (hfollows : ∀ t w r w', P t w → t.ready? w = some (r, w') →
      P (t.follow t.stagesBetween r w').1 (t.follow t.stagesBetween r w').2 ∧
        Q (t.follow t.stagesBetween r w').1 (t.follow t.stagesBetween r w').2)
    {t : Task} {w : World} (h : P t w) : Q (t.run w).1 (t.run w).2 := by
  have hact : ∀ fuel t w, P t w → (fuel = 0 → Q t w) →
      Q (t.actFor w fuel).1 (t.actFor w fuel).2 := by
    intro fuel
    induction fuel with
    | zero => exact fun _ _ _ hq => hq rfl
    | succ fuel ih =>
      intro t w h _
      unfold actFor
      cases hr : t.ready? w with
      | none => exact hstays t w h hr
      | some p =>
        obtain ⟨hp, hq⟩ := hfollows t w p.1 p.2 h hr
        exact ih _ _ hp fun _ => hq
  exact hact t.pausesBetween t w h fun hnone => absurd hnone (Nat.succ_ne_zero _)

/-- What a task keeps whenever it goes on is kept by acting until it has to wait. -/
theorem run_keeps {P : Task → World → Prop}
    (hfollows : ∀ t w r w', P t w → t.ready? w = some (r, w') →
      P (t.follow t.stagesBetween r w').1 (t.follow t.stagesBetween r w').2)
    {t : Task} {w : World} (h : P t w) : P (t.run w).1 (t.run w).2 := by
  refine run_comes (fun _ _ h _ => h) (fun t w r w' h hr => ?_) h
  exact ⟨hfollows t w r w' h hr, hfollows t w r w' h hr⟩

/-- A task that lets time pass up to a point: who sleeps does so until it wakes. -/
def LetsPass (t : Task) (time : Nat) : Prop :=
  match t.halt with
  | .sleeping wake _ => time ≤ wake
  | .waiting .. => True
  | .paused _ | .finished _ => False

/-- **A task among others**, who change the world while it waits: every state it can come to, and
the world it comes to there. -/
inductive Beside (x : Search) (Others : World → World → Prop) (w₀ : World) :
    Task → World → Prop where
  | new : Beside x Others w₀ (.new x) w₀
  | act {t : Task} {w w' : World} {r : Routine Search.Next} (stages : Nat) :
      Beside x Others w₀ t w → t.ready? w = some (r, w') →
        Beside x Others w₀ (t.follow stages r w').1 (t.follow stages r w').2
  | change {t : Task} {w w' : World} :
      Beside x Others w₀ t w → Others w w' → w'.clock = w.clock → Beside x Others w₀ t w'
  | pass {t : Task} {w : World} (time : Nat) :
      Beside x Others w₀ t w → w.clock ≤ time → t.LetsPass time →
        Beside x Others w₀ t { w with clock := time }

variable {x : Search} {Others : World → World → Prop} {w₀ : World}

/-- **Letting a task act keeps it among the states it can come to.** -/
theorem Beside.run {t : Task} {w : World} (hb : Beside x Others w₀ t w) :
    Beside x Others w₀ (t.run w).1 (t.run w).2 :=
  run_keeps (fun t _ _ _ hb hr => hb.act t.stagesBetween hr) hb

/-- **A task that runs a routine**: it has not yet begun to look, or it is part of the way through a
stage of a trip. -/
inductive Runs (x : Search) (t : Task) (now : Nat) (r : Routine Search.Next) : Prop where
  | starting {begun : Nat} {h : History} :
      t.search = x → t.state = {} → start.Leads begun h now r → Runs x t now r
  | travelling {p : Search.Trip} {begun : Nat} {h : History} :
      t.search = x → Travels x p begun t.state → (x.step t.state).Leads begun h now r →
        Runs x t now r

/-- A task that stands where it has to wait, or at its end. -/
inductive Stands (x : Search) (t : Task) (now : Nat) : Prop where
  | starting {begun : Nat} :
      t.search = x → t.state = {} → start.Halts begun now t.halt → Stands x t now
  | travelling {p : Search.Trip} {begun : Nat} :
      t.search = x → Travels x p begun t.state → (x.step t.state).Halts begun now t.halt →
        Stands x t now

/-- **A task that runs comes to stand**, on the trip its stages make. -/
theorem Runs.follow {t : Task} {r : Routine Search.Next} (stages : Nat) {w : World}
    (hr : Runs x t w.clock r) :
    Stands x (t.follow stages r w).1 (t.follow stages r w).2.clock := by
  induction stages generalizing t r w with
  | zero =>
    cases hr with
    | starting hx hs hl => exact .starting hx hs (.paused hl)
    | travelling hx hp hl => exact .travelling hx hp (.paused hl)
  | succ stages ih =>
    -- the same for a look and for a stage: what it comes to, and what follows its end
    have going : ∀ {r₀ : Routine Search.Next} {begun : Nat} {h : History}, t.search = x →
        r₀.Leads begun h w.clock r →
        (∀ k s, r₀.Course begun k w.clock (.goOn s) → ∃ p, Travels x p w.clock s) →
        (∀ u : Task, u.search = x → u.state = t.state → r₀.Halts begun w.clock u.halt →
          Stands x u w.clock) →
        Stands x (t.follow (stages + 1) r w).1 (t.follow (stages + 1) r w).2.clock := by
      intro r₀ begun h hx hl hon hstands
      obtain ⟨hclock, hhalts⟩ := World.go_halts hl
      unfold Task.follow
      rcases hgo : w.go r with ⟨halt, w₁⟩
      rw [hgo] at hclock hhalts
      dsimp only at hclock hhalts
      cases halt with
      | finished a =>
        cases a with
        | stop outcome =>
          dsimp only
          rw [hclock]
          exact hstands _ hx rfl hhalts
        | goOn s =>
          cases hhalts with
          | finished hc =>
            obtain ⟨p, hp⟩ := hon _ s hc
            rw [← hclock] at hp
            have hrefl : (x.step s).Leads w₁.clock [] w₁.clock (t.search.step s) := by
              rw [hx]
              exact .refl _ _
            exact ih (.travelling hx hp hrefl)
      | sleeping | paused | waiting =>
        dsimp only
        rw [hclock]
        exact hstands _ hx rfl hhalts
    cases hr with
    | starting hx hs hl =>
      exact going hx hl (fun _ s hc => ⟨_, .begin hc⟩) fun u hu hs' hh =>
        .starting hu (hs'.trans hs) hh
    | travelling hx hp hl =>
      exact going hx hl (fun _ s hc => ⟨_, hp.onward hc⟩) fun u hu hs hh =>
        .travelling hu (hs ▸ hp) (hs ▸ hh)

/-- A task that need not wait runs on from where it stands. -/
theorem Stands.ready? {t : Task} {w w' : World} {r : Routine Search.Next}
    (hs : Stands x t w.clock) (hr : t.ready? w = some (r, w')) :
    w'.clock = w.clock ∧ Runs x t w'.clock r := by
  -- where a halt leads on, once it is over
  have on : ∀ {r₀ : Routine Search.Next} {begun : Nat}, r₀.Halts begun w.clock t.halt →
      w'.clock = w.clock ∧ ∃ h, r₀.Leads begun h w'.clock r := by
    intro r₀ begun hh
    unfold Task.ready? at hr
    split at hr
    · cases hr
    · generalize t.halt = halt at hh hr
      cases hh with
      | finished hc => cases hr
      | @sleeping h wake next hl hle =>
        dsimp only at hr
        split at hr
        · next hwake =>
          cases hr
          obtain rfl : wake = w.clock := Nat.le_antisymm hwake hle
          exact ⟨rfl, h, hl⟩
        · cases hr
      | @paused h next hl =>
        cases hr
        exact ⟨rfl, h, hl⟩
      | @waiting h begun' o next hl hle =>
        obtain ⟨⟨records, w₁⟩, hcollect, hnext⟩ := Option.map_eq_some_iff.1 hr
        cases hnext
        obtain ⟨page, rfl⟩ := World.collect?_some hcollect
        exact ⟨rfl, _, hl.snoc (.await o next hle records)⟩
  cases hs with
  | starting hx hs hh =>
    obtain ⟨hclock, h, hl⟩ := on hh
    exact ⟨hclock, .starting hx hs hl⟩
  | travelling hx hp hh =>
    obtain ⟨hclock, h, hl⟩ := on hh
    exact ⟨hclock, .travelling hx hp hl⟩

/-- Time that passes while a task waits changes nothing about where it stands. -/
theorem Stands.pass {t : Task} {now time : Nat} (hs : Stands x t now) (hle : now ≤ time)
    (hpass : t.LetsPass time) : Stands x t time := by
  have on : ∀ {r₀ : Routine Search.Next} {begun : Nat}, r₀.Halts begun now t.halt →
      r₀.Halts begun time t.halt := by
    intro r₀ begun hh
    unfold LetsPass at hpass
    generalize t.halt = halt at hh hpass
    cases hh with
    | finished hc => exact absurd hpass id
    | sleeping hl _ => exact .sleeping hl hpass
    | paused hl => exact absurd hpass id
    | waiting hl hle' => exact .waiting hl (Nat.le_trans hle' hle)
  cases hs with
  | starting hx hs hh => exact .starting hx hs (on hh)
  | travelling hx hp hh => exact .travelling hx hp (on hh)

/-- **Wherever a task stands, its search is on its way**: on a trip up to the stage it is in, and
part of the way through that stage. -/
theorem Beside.stands {t : Task} {w : World} (hb : Beside x Others w₀ t w) :
    Stands x t w.clock := by
  induction hb with
  | new => exact .starting rfl rfl (.paused (.refl _ _))
  | act stages _ hr ih => exact ((ih.ready? hr).2).follow stages
  | change _ _ hclock ih => rw [hclock]; exact ih
  | pass time _ hle hpass ih => exact ih.pass hle hpass

end Task
end ConsentWalker
