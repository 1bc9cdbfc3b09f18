import ConsentWalker.Proofs.Walk.Ledger
/-!
# Walk — how often a search lets others act

A pause lets others act and takes no time, so a search that paused for ever would never come to
wait. It pauses before it handles a dialog and for every method that is missing, and nowhere else:
no step does (`handling_pauses`). And no vendor is handled twice, so there are at most so many
pauses to come wherever a search stands (`Ledger.pauses`).
-/

namespace ConsentWalker

/-- An act that lets others act without taking time. -/
def Act.isPause : Act → Bool
  | .pause => true
  | _ => false

/-- How many of them there are. -/
def History.pauses (h : History) : Nat := h.countP fun m => m.act.isPause

namespace History

@[simp] theorem pauses_nil : pauses [] = 0 := rfl

/-- Pauses made one after another add up. -/
@[simp] theorem pauses_append (h h' : History) : pauses (h ++ h') = pauses h + pauses h' :=
  List.countP_append

theorem pauses_cons (m : Moment) (h : History) :
    pauses (m :: h) = pauses h + m.act.isPause.toNat := by
  unfold pauses
  rw [List.countP_cons]
  cases m.act.isPause <;> rfl

theorem pauses_le_cons (m : Moment) (h : History) : pauses h ≤ pauses (m :: h) := by
  rw [pauses_cons]
  exact Nat.le_add_right _ _

theorem pauses_eq_zero {h : History} (hh : ∀ m ∈ h, m.act.isPause = false) : h.pauses = 0 :=
  List.countP_eq_zero.2 fun m hm => by rw [hh m hm]; exact Bool.false_ne_true

end History

theorem Act.IsDirect.isPause {a : Act} (ha : a.IsDirect) : a.isPause = false := by
  cases a with
  | pause => exact absurd ha id
  | _ => rfl

theorem Act.IsBrief.isPause {a : Act} (ha : a.IsBrief) : a.isPause = false := by
  cases a with
  | pause => exact absurd ha id
  | _ => rfl

/-! ## In a handling -/

/-- No step pauses. -/
theorem kept_unpaused : Steps.Kept fun _ h _ => h.pauses = 0 where
  refl _ := rfl
  trans h₁ h₂ := by rw [History.pauses_append, h₁, h₂]
  direct _ _ hh := History.pauses_eq_zero fun m hm => (hh m hm).isPause
  hide _ _ _ _ := rfl
  within _ h := h

namespace Vendor

variable {s : Setting} {v : Vendor} {t t' : Nat} {h : History} {w w' : Walker}

/-- **A method pauses at most once**, when it is missing. -/
theorem runMethod_pauses {m : Method} {r : Except PageError Unit}
    (hc : (v.runMethod s m).Course w t h t' r w') : h.pauses ≤ 1 := by
  unfold runMethod at hc
  cases hm : v.methods m with
  | none =>
    rw [hm] at hc
    rcases Steps.course_bind.1 hc with ⟨e, htell, -⟩ | ⟨_, w₁, t₁, h₁, h₂, htell, hpause, rfl⟩
    · rw [kept_unpaused.tell _ htell]
      exact Nat.zero_le 1
    · obtain ⟨_, hlift, -, -⟩ := Steps.course_lift.1 hpause
      obtain ⟨h₃, rfl, hd⟩ := Routine.course_pause.1 hlift
      obtain ⟨rfl, -, -⟩ := Routine.course_done.1 hd
      rw [History.pauses_append, kept_unpaused.tell _ htell]
      exact Nat.le_refl 1
  | some a =>
    rw [hm] at hc
    have hsteps := kept_unpaused.bind (kept_unpaused.tell (.methodRunning v.name m)) fun _ =>
      execute_ensures kept_unpaused s a
    rw [hsteps hc]
    exact Nat.zero_le 1

/-- Methods pause at most once each. -/
theorem Runs.pauses {runs : List MethodRun} (hr : v.Runs s w t runs t' w') :
    History.pauses (runs.flatMap MethodRun.history) ≤ runs.length := by
  induction hr with
  | nil => exact Nat.le_refl 0
  | cons hc _ ih =>
    rw [List.flatMap_cons, History.pauses_append, List.length_cons]
    have hone := runMethod_pauses hc
    omega

/-- A handling runs five methods at most. -/
theorem lifecycle_length (f : Flags) : (lifecycle f).length ≤ 5 := by
  unfold lifecycle
  cases f.skipHideMethod <;> cases f.skipSubmit <;> simp

/-- **A handling pauses once, and once for every method that is missing.** -/
theorem handling_pauses (hc : (v.handling s).Course w t h t' () w') : h.pauses ≤ 6 := by
  obtain ⟨acted, w₁, t₁, h₁, h₂, hact, hclean, rfl⟩ := handling_course hc
  have brief : ∀ {k : History}, (∀ m ∈ k, m.act.IsBrief) → k.pauses = 0 := fun hk =>
    History.pauses_eq_zero fun m hm => (hk m hm).isPause
  have hparts : h₁.pauses ≤ 5 ∧ h₂.pauses = 0 := by
    cases hskip : s.flags.skipActions with
    | true =>
      obtain ⟨rfl, htalk, -, -⟩ := act_skipped hskip hact
      obtain ⟨rfl, -, -, -⟩ := Acts.course_pure.1 hclean
      rw [brief htalk.isBrief]
      exact ⟨Nat.zero_le 5, rfl⟩
    | false =>
      obtain ⟨rfl, shown, runs, talk, a, -, hshown, hruns, hstopped, htalk, rfl⟩ :=
        act_course hskip hact
      have hcount : runs.length ≤ 5 := by
        have hle := hstopped.order.length_le
        rw [List.length_map] at hle
        exact Nat.le_trans hle (lifecycle_length _)
      have hmethods := hruns.pauses
      rw [History.pauses_append, History.pauses_append, brief hshown, brief htalk.isBrief]
      exact ⟨by omega, brief (cleanUp_course hclean).2.1⟩
  rw [History.pauses_cons, History.pauses_append, History.pauses_cons, hparts.2]
  change h₁.pauses + (0 + 0) + 1 ≤ 6
  omega

end Vendor

/-! ## In a stage -/

namespace Search

variable {x : Search} {s s' : State} {t t' : Nat} {h : History} {n : Next}

/-- The pauses of a stage, at most. -/
def stagePauses : Stage → Nat
  | .handling _ => 6
  | _ => 0

/-- **Only a handling pauses.** -/
theorem step_pauses (hc : (x.step s).Course t h t' n) : h.pauses ≤ stagePauses s.stage := by
  obtain ⟨h₁, rfl, hturn⟩ := step_turn hc
  have looks : ∀ {α : Type} {r : Routine α} {k : History} {t t' : Nat} {a : α}, r.Only Act.IsLook →
      r.Course t k t' a → k.pauses = 0 := fun hr hk =>
    History.pauses_eq_zero fun m hm => (Act.IsLook.isDirect _ ((hr.leads hk).1 m hm)).isPause
  have drops : ∀ (o : Option Observer) (t : Nat),
      History.pauses (o.toList.map fun o => ⟨t, .drop o⟩) = 0 := by
    rintro (_ | o) t <;> rfl
  have hturned : History.pauses h₁ ≤ stagePauses s.stage := by
    cases hturn with
    | found hs hpass =>
      rw [History.pauses_append, looks (x.nextCandidate_looks _) hpass, drops]
      exact Nat.zero_le _
    | nothing hs hpass =>
      rw [looks (x.nextCandidate_looks _) hpass]
      exact Nat.zero_le _
    | shown hs _ hpoll | hidden hs _ hpoll =>
      have honly := poll_only Act.IsLook.isDirect (fun _ => trivial) x
      rw [History.pauses_eq_zero fun m hm => (((honly _ _ _).leads hpoll).1 m hm).isPause]
      exact Nat.zero_le _
    | handled hs _ hhandling =>
      rw [hs]
      exact Vendor.handling_pauses hhandling
    | settled hs hawaits =>
      rw [History.pauses_eq_zero fun m hm => by obtain ⟨o, ho⟩ := hawaits m hm; rw [ho]; rfl]
      exact Nat.zero_le _
    | looked hs hlook =>
      obtain ⟨-, r, rfl, -⟩ := look_course hlook
      exact Nat.zero_le _
    | ended =>
      rw [drops]
      exact Nat.zero_le _
    | woken | lost | satisfied => exact Nat.zero_le _
  rw [History.pauses_cons]
  exact hturned

/-- The pauses that are to come once a stage is over, at most: those of all vendors that were not
tried yet, and of the one that is checked. -/
def State.pausesAfter (x : Search) (s : State) : Nat :=
  6 * (x.vendors.length - s.tried.length) + match s.stage with
    | .polling _ => 6
    | _ => 0

/-- **The pauses to come grow less**: those of the next stage, and those after it, were to come. -/
theorem Ledger.pauses (hl : Ledger x s) (hc : (x.step s).Course t h t' (.goOn s')) :
    stagePauses s'.stage + s'.pausesAfter x ≤ s.pausesAfter x := by
  have hl' := hl.step hc
  have hle := hl'.tried_le
  obtain ⟨h₁, -, hturn⟩ := step_turn hc
  unfold State.pausesAfter
  cases hturn with
  | found hs _ =>
    simp only [List.length_append, List.length_singleton] at hle
    simp only [hs, stagePauses, List.length_append, List.length_singleton]
    omega
  | shown hs _ _ =>
    simp only [hs, stagePauses]
    omega
  | nothing hs _ | woken hs _ _ | settled hs _ | hidden hs _ _ | handled hs _ _ | satisfied hs _ =>
    simp [hs, stagePauses]
  | lost hs _ => rcases hs with hs | hs <;> simp [hs, stagePauses]
  | looked hs hlook =>
    obtain ⟨o, -, rfl⟩ := look_goOn hlook
    rcases hs with hs | ⟨hs, -⟩ <;> simp [hs, stagePauses]

end Search
end ConsentWalker
