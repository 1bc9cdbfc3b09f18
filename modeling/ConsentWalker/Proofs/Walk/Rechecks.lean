import ConsentWalker.Proofs.Walk.Checks
import ConsentWalker.Proofs.Walk.Mention
/-!
# Walk — waits for an element

A wait for an element checks at once, and then again at fixed intervals, up to the first check that
is met. It comes to an end whatever happens meanwhile: with the number of the check that was met, at
the instant of that check, or with the last check the rules allow (`WaitCss.Settled`). A check that
fails is never met, whether the element is waited for or its absence is.

Rules give the number of rechecks with 32 bits. `waitCounting` is the wait with a counter that has
no more than these, and it is the same (`waitFor_eq_counting`): the counter stops at the number the
rules give, and so it does not overflow.
-/

namespace ConsentWalker

open Search (Check)

namespace WaitCss

variable {w : WaitCss} {base : Option Handle} {t t' left n : Nat} {h : History} {cs : List Check}
  {o : WaitOutcome}

/-- **What a wait is for**: a check that succeeds, and finds the element or, if the wait is for it
to go, does not. -/
def MetBy (w : WaitCss) (r : Except PageError Bool) : Prop :=
  ∃ present, r = .ok present ∧ present ≠ w.negated

theorem not_metBy_error (e : PageError) : ¬ w.MetBy (.error e) := by
  rintro ⟨present, h, -⟩
  cases h

theorem metBy_ok {present : Bool} : w.MetBy (.ok present) ↔ present ≠ w.negated := by
  constructor
  · rintro ⟨_, h, hne⟩
    cases h
    exact hne
  · exact fun hne => ⟨present, rfl, hne⟩

/-- **Checks of a wait**, the first at a time and each so much later than the one before, each by a
course of its own. -/
structure Checks (w : WaitCss) (base : Option Handle) (first : Nat) (cs : List Check) : Prop where
  spaced : ∀ (j : Nat) (c : Check), cs[j]? = some c → c.time = first + j * w.waitTime
  genuine : ∀ c ∈ cs,
    ((Matcher.css w.target).holds base).run.Course c.time c.history c.time c.answer

theorem Checks.nil : w.Checks base t [] := ⟨by simp, by simp⟩

theorem Checks.cons {r : Except PageError Bool}
    (hc : ((Matcher.css w.target).holds base).run.Course t h t r)
    (hcs : w.Checks base (t + w.waitTime) cs) : w.Checks base t (⟨t, h, r⟩ :: cs) := by
  refine ⟨Check.spaced_cons rfl hcs.spaced, fun c hmem => ?_⟩
  rcases List.mem_cons.1 hmem with rfl | hmem
  · exact hc
  · exact hcs.genuine c hmem

/-- **The end of a wait** that may check so many times more and has checked again so many times:
right after the first check that is met, or after the last one. -/
inductive Ends (w : WaitCss) : (left n t : Nat) → List Check → Nat → WaitOutcome → Prop where
  | met {left n t : Nat} {cs : List Check} {c : Check} : cs.length ≤ left →
      (∀ d ∈ cs, ¬ w.MetBy d.answer) → w.MetBy c.answer →
        Ends w left n t (cs ++ [c]) (t + cs.length * w.waitTime) ⟨true, n + cs.length⟩
  | spent {left n t : Nat} {cs : List Check} : cs.length = left + 1 →
      (∀ d ∈ cs, ¬ w.MetBy d.answer) →
      Ends w left n t cs (t + left * w.waitTime) ⟨false, n + left⟩

/-- A first check that is met ends the wait at once. -/
theorem Ends.first {c : Check} (hc : w.MetBy c.answer) : w.Ends left n t [c] t ⟨true, n⟩ := by
  have hend : w.Ends left n t ([] ++ [c]) (t + 0 * w.waitTime) ⟨true, n + 0⟩ :=
    .met (Nat.zero_le left) (fun _ hd => absurd hd List.not_mem_nil) hc
  rw [Nat.zero_mul] at hend
  exact hend

/-- So does one that is not, if it is the last one. -/
theorem Ends.last {c : Check} (hc : ¬ w.MetBy c.answer) : w.Ends 0 n t [c] t ⟨false, n⟩ := by
  have hend : w.Ends 0 n t [c] (t + 0 * w.waitTime) ⟨false, n + 0⟩ := .spent rfl (by simpa using hc)
  rw [Nat.zero_mul] at hend
  exact hend

/-- One more check in front, which was not met. -/
theorem Ends.cons (he : w.Ends left (n + 1) (t + w.waitTime) cs t' o) {c : Check}
    (hc : ¬ w.MetBy c.answer) :
    w.Ends (left + 1) n t (c :: cs) t' o := by
  -- both the times and the numbers are counted from one check later
  have htime : ∀ k, t + w.waitTime + k * w.waitTime = t + (k + 1) * w.waitTime := by
    intro k
    rw [Nat.succ_mul]
    omega
  cases he with
  | met hle hno hmet =>
    rw [htime, Nat.add_right_comm n 1]
    exact .met (Nat.succ_le_succ hle) (List.forall_mem_cons.2 ⟨hc, hno⟩) hmet
  | spent hlen hno =>
    rw [htime, Nat.add_right_comm n 1]
    exact .spent (congrArg Nat.succ hlen) (List.forall_mem_cons.2 ⟨hc, hno⟩)

theorem Ends.time_le (he : w.Ends left n t cs t' o) : t' ≤ t + left * w.waitTime := by
  cases he with
  | met hle => exact Nat.add_le_add_left (Nat.mul_le_mul_right _ hle) _
  | spent => exact Nat.le_refl _

end WaitCss

open WaitCss

section

variable {w : WaitCss} {base : Option Handle} {t t' : Nat} {h : History}

/-- One check, which takes no time: it ends the wait if it is met. -/
theorem waitIsOver_course {n : Nat} {b : Bool} (hc : (waitIsOver w n base).Course t h t' b) :
    t' = t ∧ ∃ k r, ((Matcher.css w.target).holds base).run.Course t k t r ∧
      (b = true ↔ w.MetBy r) ∧
      h.asked = k.asked := by
  obtain ⟨r, t₁, h₁, h₂, hask, hrest, rfl⟩ := Routine.course_bind.1 hc
  obtain rfl := (Routine.Only.time_eq ((Matcher.css w.target).holds_looks base) hask).1
  cases r with
  | ok present =>
    obtain ⟨rfl, rfl, rfl⟩ := Routine.course_done.1 hrest
    exact ⟨rfl, h₁, _, hask, by rw [metBy_ok, bne_iff_ne], by rw [List.append_nil]⟩
  | error e =>
    obtain ⟨k, rfl, hd⟩ := Routine.course_note.1 hrest
    obtain ⟨rfl, rfl, rfl⟩ := Routine.course_done.1 hd
    refine ⟨rfl, h₁, _, hask, iff_of_false Bool.false_ne_true (not_metBy_error e), ?_⟩
    rw [History.asked_append]
    exact List.append_nil _

/-- **A wait checks at fixed intervals up to the first check that is met.** -/
theorem waitFrom_course {left n : Nat} {o : WaitOutcome}
    (hc : (waitFrom w base left n).Course t h t' o) :
    ∃ cs, w.Checks base t cs ∧ h.asked = (cs.flatMap fun c => c.history.asked) ∧
      w.Ends left n t cs t' o := by
  induction left generalizing n t h with
  | zero =>
    obtain ⟨b, t₁, h₁, h₂, hcheck, hrest, rfl⟩ := Routine.course_bind.1 hc
    obtain ⟨rfl, k, r, hask, hmet, hasked⟩ := waitIsOver_course hcheck
    cases b with
    | true =>
      obtain ⟨rfl, rfl, rfl⟩ := Routine.course_done.1 hrest
      exact ⟨[⟨t', k, r⟩], .cons hask .nil, by simp [hasked], .first (hmet.1 rfl)⟩
    | false =>
      obtain ⟨k', rfl, hd⟩ := Routine.course_note.1 hrest
      obtain ⟨rfl, rfl, rfl⟩ := Routine.course_done.1 hd
      have hno : ¬ w.MetBy r := fun hr => Bool.false_ne_true (hmet.2 hr)
      refine ⟨[⟨t', k, r⟩], .cons hask .nil, ?_, .last hno⟩
      rw [History.asked_append, History.asked_cons_of_none rfl, hasked]
      rfl
  | succ left ih =>
    obtain ⟨b, t₁, h₁, h₂, hcheck, hrest, rfl⟩ := Routine.course_bind.1 hc
    obtain ⟨rfl, k, r, hask, hmet, hasked⟩ := waitIsOver_course hcheck
    cases b with
    | true =>
      obtain ⟨rfl, rfl, rfl⟩ := Routine.course_done.1 hrest
      exact ⟨[⟨t', k, r⟩], .cons hask .nil, by simp [hasked], .first (hmet.1 rfl)⟩
    | false =>
      obtain ⟨k', rfl, hmore⟩ := Routine.course_sleep.1 hrest
      have hno : ¬ w.MetBy r := fun hr => Bool.false_ne_true (hmet.2 hr)
      obtain ⟨cs, hcs, hasked', hend⟩ := ih hmore
      refine ⟨⟨t₁, k, r⟩ :: cs, .cons hask hcs, ?_, hend.cons hno⟩
      rw [History.asked_append, hasked, History.asked_cons_of_none rfl, hasked', List.flatMap_cons]

end

/-! ## A counter of 32 bits -/

/-- A number of 32 bits that is below another one is below the largest. -/
theorem toNat_succ_of_not_le {limit retries : UInt32} (h : ¬ limit ≤ retries) :
    (retries + 1).toNat = retries.toNat + 1 ∧ retries.toNat < limit.toNat := by
  have hlt : retries.toNat < limit.toNat := Nat.not_le.1 fun hle => h (UInt32.le_iff_toNat_le.2 hle)
  have hbound := limit.toNat_lt
  refine ⟨?_, hlt⟩
  rw [UInt32.toNat_add, UInt32.toNat_one]
  exact Nat.mod_eq_of_lt (by omega)

/-- **The wait with a counter of 32 bits**, which starts again from zero after the largest
number. -/
def waitCounting (w : WaitCss) (base : Option Handle) (limit retries : UInt32) :
    Routine WaitOutcome := do
  if ← waitIsOver w retries.toNat base then return ⟨true, retries.toNat⟩
  else if limit ≤ retries then
    tell (.gaveUp w.target.selector retries.toNat)
    return ⟨false, retries.toNat⟩
  else
    rest w.waitTime
    waitCounting w base limit (retries + 1)
termination_by limit.toNat - retries.toNat
decreasing_by
  obtain ⟨hsucc, hlt⟩ := toNat_succ_of_not_le ‹_›
  omega

/-- Below the limit the counter counts on, and so the two waits go on alike. -/
theorem waitFrom_eq_counting (w : WaitCss) (base : Option Handle) {left : Nat}
    {limit retries : UInt32} (h : retries.toNat + left = limit.toNat) :
    waitFrom w base left retries.toNat = waitCounting w base limit retries := by
  induction left generalizing retries with
  | zero =>
    have hle : limit ≤ retries := UInt32.le_iff_toNat_le.2 (by omega)
    rw [waitFrom, waitCounting]
    simp only [if_pos hle]
  | succ left ih =>
    have hlt : ¬ limit ≤ retries := fun hle => by
      have := UInt32.le_iff_toNat_le.1 hle
      omega
    obtain ⟨hsucc, -⟩ := toNat_succ_of_not_le hlt
    rw [waitFrom, waitCounting]
    simp only [if_neg hlt]
    rw [← hsucc, ih (by omega)]

theorem waitFor_eq_counting {w : WaitCss} {limit : UInt32} (h : w.retries = limit.toNat)
    (base : Option Handle) :
    waitFor w base = waitCounting w base limit 0 := by
  have hcount : (0 : UInt32).toNat + w.retries = limit.toNat := by
    rw [h, UInt32.toNat_zero, Nat.zero_add]
  exact waitFrom_eq_counting w base hcount

/-! ## How waits end -/

namespace WaitCss

/-- **How a wait ends**, and when, with the checks it made: right after the first check that is met,
or after the last one that the rules allow. -/
def Settled (w : WaitCss) (base : Option Handle) (t : Nat) (h : History) (t' : Nat)
    (o : WaitOutcome) : Prop :=
  ∃ cs, w.Checks base t cs ∧ h.asked = (cs.flatMap fun c => c.history.asked) ∧
    ((∃ k c, k ≤ w.retries ∧ cs[k]? = some c ∧ w.MetBy c.answer ∧
        (∀ j d, j < k → cs[j]? = some d → ¬ w.MetBy d.answer) ∧
        o = ⟨true, k⟩ ∧ t' = t + k * w.waitTime ∧ cs.length = k + 1) ∨
      ((∀ c ∈ cs, ¬ w.MetBy c.answer) ∧
        o = ⟨false, w.retries⟩ ∧ t' = t + w.retries * w.waitTime ∧ cs.length = w.retries + 1))

theorem settled_of_course {w : WaitCss} {base : Option Handle} {t t' : Nat} {h : History}
    {o : WaitOutcome} (hc : (waitFor w base).Course t h t' o) : w.Settled base t h t' o := by
  obtain ⟨cs, hcs, hasked, hend⟩ := waitFrom_course hc
  refine ⟨cs, hcs, hasked, ?_⟩
  cases hend with
  | @met cs c hle hno hmet =>
    refine .inl ⟨cs.length, c, hle, ?_, hmet, fun j d hj hd => ?_, ?_, rfl, List.length_append⟩
    · exact List.getElem?_concat_length
    · rw [List.getElem?_append_left hj] at hd
      exact hno d (List.mem_of_getElem? hd)
    · rw [Nat.zero_add]
  | spent hlen hno => exact .inr ⟨hno, by rw [Nat.zero_add], rfl, hlen⟩

end WaitCss

/-- **A wait for an element comes to an end**, whatever the page answers and whatever others do
meanwhile: it ends with the first check that is met, at the instant of that check, or unmet after
the last one. A check that fails is not met. And the counter of the rechecks never gets past the
number that the rules allow, so that 32 bits are enough for it if they are for that number. -/
theorem waitFor_settles (w : WaitCss) (base : Option Handle) :
    (∀ ⦃t h t' o⦄, (waitFor w base).Course t h t' o → w.Settled base t h t' o) ∧
    (∀ (v : World) (others : List (Nat × Deed)),
      let run := v.amid (waitFor w base) others
      w.Settled base v.clock run.2.1 run.2.2.clock run.1) ∧
    (∀ e, ¬ w.MetBy (.error e)) ∧
    ∀ limit : UInt32, w.retries = limit.toNat → waitFor w base = waitCounting w base limit 0 :=
  ⟨fun _ _ _ _ hc => settled_of_course hc,
    fun v others => settled_of_course (v.amid_course _ others),
    not_metBy_error, fun _ h => waitFor_eq_counting h base⟩

/-- A wait for a button to go. Its first check fails, which does not mean that the button is gone;
another one takes it out after the second check, and the third one is met. -/
example :
    let run := World.amid (waitFor ⟨.new "#save", true, 5, 10⟩ none)
      { page := Search.dialog, faults := ⟨[⟨.query, 1, .script "gone"⟩], []⟩ }
        [(15, .remove "#save")]
    run.1 = ⟨true, 2⟩ ∧ run.2.2.clock = 20 := by
  decide +kernel

end ConsentWalker
