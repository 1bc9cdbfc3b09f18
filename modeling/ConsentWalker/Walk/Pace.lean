/-!
# Walk — the pace of a walk

How often and how long a walk waits. The polling budget is the sum of the gaps between the checks
of a dialog that never shows: one gap fewer than there are checks, and none without checks.
-/

namespace ConsentWalker

/-- The times of a walk, in milliseconds. -/
structure Pace where
  /-- How often a dialog is checked before it is given up. -/
  pollAttempts : Nat := 10
  pollInterval : Nat := 250
  /-- The pause after a click that names none, when clicks are paced. -/
  clickDelay : Nat := 250
  /-- The gap between the pointer events of a slide. -/
  slideStep : Nat := 10
  /-- Go on looking for dialogs after one was handled. -/
  keepObserving : Bool := false
  deriving DecidableEq, Repr, Inhabited

namespace Pace

/-- Sets how often and how far apart a dialog is checked. -/
def withPolling (p : Pace) (attempts interval : Nat) : Pace :=
  { p with pollAttempts := attempts, pollInterval := interval }

/-- The largest number of whole seconds a time may have. -/
def secondsLimit : Nat := 18446744073709551615

/-- The complaint about a time that is too long. -/
def overflowMessage : String := "overflow when multiplying duration by scalar"

/-- The time spent on a dialog that never shows, unless it is too long for a time. -/
def pollBudget? (p : Pace) : Option Nat :=
  let budget := p.pollInterval * (p.pollAttempts - 1)
  if budget / 1000 ≤ secondsLimit then some budget else none

theorem pollBudget?_eq_some_iff {p : Pace} {t : Nat} :
    p.pollBudget? = some t ↔
      t = p.pollInterval * (p.pollAttempts - 1) ∧ t / 1000 ≤ secondsLimit := by
  unfold pollBudget?
  constructor
  · intro h
    by_cases hb : p.pollInterval * (p.pollAttempts - 1) / 1000 ≤ secondsLimit
    · simp only [hb, if_true, Option.some.injEq] at h
      exact ⟨h.symm, h ▸ hb⟩
    · simp [hb] at h
  · rintro ⟨rfl, h⟩
    simp [h]

end Pace
end ConsentWalker
