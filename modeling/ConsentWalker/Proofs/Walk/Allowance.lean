import ConsentWalker.Proofs.Walk.Account
import ConsentWalker.Proofs.Walk.Rechecks
/-!
# Walk — how long steps take

Steps take time only where they rest: after a click, in a wait, between the checks for an element,
and while they drag. `Action.allowance` is read off the steps, and the number of elements that a
loop may go through is the only thing it takes from the page. No course of the steps takes longer
(`execute_timely`), however they end: a step that fails ends early, and what is not found is not
waited for.
-/

namespace ConsentWalker

open Steps

/-! ## The time that is allowed -/

/-- The time that steps may take, in milliseconds, if no loop goes through more than so many
elements. -/
def timing (s : Setting) (most : Nat) : Interpretation Nat where
  nothing := 0
  andThen := (· + ·)
  click c := c.timeout.getD (if s.flags.clickDelay then s.pace.clickDelay else 0)
  ifCss _ := max
  waitCss wait := wait.retries * wait.waitTime
  forEach _ body := most * body
  hide _ := 0
  slide _ := 2 * s.pace.slideStep
  close := 0
  wait time := time
  toggle _ _ toggle := toggle
  branch _ := max

/-- **The time a step may take**, however steps are nested in it. -/
def Action.allowance (s : Setting) (most : Nat) (a : Action) : Nat := (timing s most).action a

/-! ## What takes no time -/

theorem Act.IsSwift.isBrief {a : Act} (ha : a.IsSwift) : a.IsBrief := by
  cases a with
  | call | note => trivial
  | _ => exact absurd ha id

theorem Act.IsLook.isBrief (a : Act) (ha : a.IsLook) : a.IsBrief := by
  cases a with
  | call | note => trivial
  | _ => exact absurd ha id

/-- Where nothing but brief acts are done it stays at its time. -/
theorem Routine.Leads.time_eq_of_brief {α : Type} {r r' : Routine α} {t t' : Nat} {h : History}
    (hl : r.Leads t h t' r') (hh : ∀ m ∈ h, m.act.IsBrief) : t' = t := by
  induction hl with
  | refl => rfl
  | step hd _ ih =>
    obtain ⟨hm, hrest⟩ := List.forall_mem_cons.1 hh
    rw [ih hrest]
    cases hd with
    | call | note => rfl
    | _ => exact absurd hm id

theorem outline_isBrief (m : Matcher) (base : Option Handle) (wanted : Bool) :
    (m.outline base wanted).run.Only Act.IsBrief := by
  refine Lookup.only_bind ((m.target.target?_looks base).mono Act.IsLook.isBrief) fun found => ?_
  cases found with
  | none => trivial
  | some h =>
    exact Lookup.only_bind ((m.state_looks h).mono Act.IsLook.isBrief) fun b r => ⟨trivial, trivial⟩

/-! ## Steps that take no longer -/

/-- No loop among these goes through more than so many elements. -/
def Sought.AtMost (most : Nat) (made : List Sought) : Prop :=
  ∀ l ∈ made, ∀ n, l.results = some n → n ≤ most

namespace Traced

variable {α β : Type} {most cost cost' : Nat}

/-- **Steps that take no longer** than so much, if no loop among their lookups goes through more
than so many elements. -/
def Lasts (most cost : Nat) (x : Traced α) : Prop :=
  ∀ ⦃w t h t' r w' made⦄, x.Course w t h t' r w' made → Sought.AtMost most made → t' ≤ t + cost

theorem Lasts.mono {x : Traced α} (hx : Lasts most cost x) (hle : cost ≤ cost') :
    Lasts most cost' x := by
  intro w t h t' r w' made hc hmade
  exact Nat.le_trans (hx hc hmade) (Nat.add_le_add_left hle t)

theorem lasts_pure (a : α) : Lasts most 0 (pure a : Traced α) := by
  intro w t h t' r w' made hc _
  obtain ⟨-, rfl, -⟩ := course_pure.1 hc
  exact Nat.le_refl _

/-- Steps one after another last as long as both together. -/
theorem Lasts.bind {x : Traced α} {f : α → Traced β} (hx : Lasts most cost x)
    (hf : ∀ a, Lasts most cost' (f a)) :
    Lasts most (cost + cost') (x >>= f) := by
  intro w t h t' r w' made hc hmade
  rcases course_bind.1 hc with
    ⟨e, hfirst, -⟩ | ⟨a, w₁, t₁, h₁, h₂, made₁, made₂, hfirst, hrest, -, rfl⟩
  · -- the first steps fail, and the others take no time at all
    have := hx hfirst hmade
    omega
  · obtain ⟨hmade₁, hmade₂⟩ := List.forall_mem_append.1 hmade
    have := hx hfirst hmade₁
    have := hf a hrest hmade₂
    omega

/-- After steps that take no time. -/
theorem Lasts.bind_of_zero {x : Traced α} {f : α → Traced β} (hx : Lasts most 0 x)
    (hf : ∀ a, Lasts most cost (f a)) : Lasts most cost (x >>= f) :=
  (hx.bind hf).mono (Nat.le_of_eq (Nat.zero_add cost))

theorem lasts_swift {x : Steps α} (hx : Ensures Swift x) : Lasts most 0 (plain x) := by
  intro w t h t' r w' made hc _
  obtain ⟨hcourse, -⟩ := course_plain.1 hc
  exact Nat.le_of_eq (hcourse.time_eq_of_brief fun m hm => ((hx hcourse).2 m hm).isBrief)

theorem lasts_rest (time : Nat) : Lasts most time (plain (rest time)) := by
  intro w t h t' r w' made hc _
  obtain ⟨hcourse, -⟩ := course_plain.1 hc
  obtain ⟨_, hsleep, -, -⟩ := course_lift.1 hcourse
  obtain ⟨k, -, hd⟩ := Routine.course_sleep.1 hsleep
  obtain ⟨-, rfl, -⟩ := Routine.course_done.1 hd
  exact Nat.le_refl _

/-- A lookup lasts as long as what is done to resolve it, below whatever base. -/
theorem lasts_seekCounting {results : Except PageError α → Option Nat} {rounds : List Handle}
    {q : Option Handle → Lookup α}
    (hq : ∀ base ⦃t h t' r⦄, (q base).run.Course t h t' r → t' ≤ t + cost) :
    Lasts most cost (seekCounting results rounds q) := by
  intro w t h t' r w' made hc _
  exact hq _ (course_seekCounting.1 hc).1

/-- Looking for something takes no time. -/
theorem lasts_seek {rounds : List Handle} {q : Option Handle → Lookup α}
    (hq : ∀ base, (q base).run.Only Act.IsBrief) : Lasts most 0 (seek rounds q) :=
  lasts_seekCounting fun base _ _ _ _ hc =>
    Nat.le_of_eq (hc.time_eq_of_brief ((hq base).leads hc).1)

theorem lasts_look {rounds : List Handle} {q : Option Handle → Lookup α}
    (hq : ∀ base, (q base).Looks) :
    Lasts most 0 (seek rounds q) :=
  lasts_seek fun base => (hq base).mono Act.IsLook.isBrief

theorem Lasts.within {e : Handle} {x : Traced α} (hx : Lasts most cost x) :
    Lasts most cost (within e x) := by
  intro w t h t' r w' made hc hmade
  obtain ⟨w₁, hcourse, -⟩ := course_within.1 hc
  exact hx hcourse hmade

/-- The rounds of a loop last as long as one does, as many times as there are. -/
theorem Lasts.inRounds {x : Handle → Traced Unit} (hx : ∀ e, Lasts most cost (x e))
    (es : List Handle) :
    Lasts most (es.length * cost) (inRounds x es) := by
  induction es with
  | nil => exact (lasts_pure ()).mono (Nat.zero_le _)
  | cons e rest ih =>
    rw [List.length_cons, Nat.succ_mul, Nat.add_comm]
    exact (hx e).within.bind fun _ => ih

/-- **A loop takes as long as its rounds**, of which there are no more than elements that were
found. -/
theorem Lasts.forEach {x : Handle → Traced Unit} (hx : ∀ e, Lasts most cost (x e))
    (rounds : List Handle) (target : Query) :
    Lasts most (most * cost)
      (seekAll rounds target >>=
        fun findings => Traced.inRounds x (findings.filterMap Finding.target)) := by
  have hlook : ∀ base ⦃t h t' r⦄, (target.findAll base).run.Course t h t' r → t' ≤ t + 0 :=
    fun base _ _ _ _ hc => Nat.le_of_eq (Routine.Only.time_eq (target.findAll_looks base) hc).1
  intro w t h t' r w' made hc hmade
  rcases course_bind.1 hc with
    ⟨e, hfirst, -⟩ | ⟨findings, w₁, t₁, h₁, h₂, made₁, made₂, hfirst, hrest, -, rfl⟩
  · have := lasts_seekCounting hlook hfirst hmade
    omega
  · obtain ⟨hmade₁, hmade₂⟩ := List.forall_mem_append.1 hmade
    have hbegun := lasts_seekCounting hlook hfirst hmade₁
    have hdone := Lasts.inRounds hx _ hrest hmade₂
    obtain ⟨-, -, rfl⟩ := course_seekCounting.1 hfirst
    have hfew : findings.length ≤ most := hmade₁ _ List.mem_cons_self _ rfl
    have hrounds : (findings.filterMap Finding.target).length * cost ≤ most * cost :=
      Nat.mul_le_mul_right cost (Nat.le_trans (List.length_filterMap_le _ _) hfew)
    omega

end Traced

open Traced

section

variable (s : Setting) {most : Nat}

/-- A click lasts for its pause. -/
theorem tracedClick_lasts (rounds : List Handle) (c : Click) :
    Lasts most (c.pause s) (tracedClick s rounds c) := by
  refine (lasts_look fun base => c.target.target?_looks base).bind_of_zero fun found =>
    (lasts_swift (swift_press s c found)).bind_of_zero fun _ => ?_
  split
  · exact lasts_rest _
  · exact (lasts_pure ()).mono (Nat.zero_le _)

theorem tracedHide_lasts (rounds : List Handle) (target : Query) :
    Lasts most 0 (tracedHide rounds target) := by
  refine (lasts_look fun base => target.target?_looks base).bind_of_zero fun found => ?_
  cases found with
  | none => exact lasts_pure ()
  | some e =>
    exact (lasts_swift (swift_conceal e)).bind_of_zero fun _ => lasts_swift (swift_act rfl)

/-- A slide rests twice, and not at all if one of its elements is missing. -/
theorem tracedSlide_lasts (rounds : List Handle) (slide : Slide) :
    Lasts most (2 * s.pace.slideStep) (tracedSlide s rounds slide) := by
  refine (lasts_look fun base => slide.target.target?_looks base).bind_of_zero fun found => ?_
  cases found with
  | none => exact (lasts_pure ()).mono (Nat.zero_le _)
  | some e =>
    refine (lasts_look fun base => slide.dragTarget.target?_looks base).bind_of_zero fun goal => ?_
    cases goal with
    | none => exact (lasts_pure ()).mono (Nat.zero_le _)
    | some g =>
      have hact : ∀ c : Call, (c.kind == .query) = false → Lasts most 0 (plain (act c)) :=
        fun c hc => lasts_swift (swift_act hc)
      have hrest : Lasts most s.pace.slideStep (plain (rest s.pace.slideStep)) := lasts_rest _
      rw [Nat.two_mul]
      refine (hact (.rect e) rfl).bind_of_zero fun origin =>
        (hact (.rect g) rfl).bind_of_zero fun aim => ?_
      refine (hact (.pointer e .down _) rfl).bind_of_zero fun _ => hrest.bind fun _ => ?_
      refine (hact (.pointer e .move _) rfl).bind_of_zero fun _ => ?_
      change Lasts most (s.pace.slideStep + 0) _
      exact hrest.bind fun _ => hact (.pointer e .up _) rfl

theorem tracedOutline_lasts (rounds : List Handle) (m : Matcher) (wanted : Bool) :
    Lasts most 0 (tracedOutline s rounds m wanted) := by
  unfold tracedOutline
  split
  · exact lasts_seek fun base => outline_isBrief m base wanted
  · exact lasts_pure ()

/-- A wait rests between its checks, and not after the last one. -/
theorem tracedWait_lasts (rounds : List Handle) (wait : WaitCss) :
    Lasts most (wait.retries * wait.waitTime)
    (seek rounds fun base => (liftM (waitFor wait base) : Lookup WaitOutcome)) := by
  refine lasts_seekCounting fun base t h t' r hc => ?_
  obtain ⟨o, t₁, h₁, h₂, hwait, hd, rfl⟩ := Routine.course_bind.1 hc
  obtain ⟨-, rfl, -⟩ := Routine.course_done.1 hd
  obtain ⟨cs, -, -, hend⟩ := waitFrom_course hwait
  exact hend.time_le

/-- Telling first which step is done takes no time. -/
theorem lasts_announced {cost : Nat} {n : Walker → Notice} {x : Traced Unit}
    (hx : Lasts most cost x) :
    Lasts most cost (do plain (do tell (n (← get))); x) :=
  (lasts_swift (swift_announce n)).bind_of_zero fun _ => hx

/-- Every kind of step takes no longer than it may, if the steps in it do not. -/
theorem accounting_timing : (accounting s).Respects (timing s most)
    fun x cost => ∀ rounds, Lasts most cost (x rounds) where
  nothing _ := lasts_pure ()
  andThen hx hy rounds := (hx rounds).bind fun _ => hy rounds
  announced _ _ _ hx rounds := lasts_announced (hx rounds)
  click c rounds := tracedClick_lasts s rounds c
  ifCss target _ _ _ _ hx hy rounds := by
    refine (lasts_look fun base => (Matcher.css target).holds_looks base).bind_of_zero fun b => ?_
    split
    · exact (hx rounds).mono (Nat.le_max_left _ _)
    · exact (hy rounds).mono (Nat.le_max_right _ _)
  waitCss w rounds := (tracedWait_lasts rounds w).bind fun _ => lasts_pure ()
  forEach target _ _ hx rounds := Lasts.forEach (fun e => hx (e :: rounds)) rounds target
  hide target rounds := tracedHide_lasts rounds target
  slide slide rounds := tracedSlide_lasts s rounds slide
  close _ := lasts_swift (swift_act rfl)
  wait time _ := lasts_rest time
  toggle category matcher a ha rounds := by
    refine (lasts_look fun base => matcher.holds_looks base).bind_of_zero fun current =>
      (lasts_swift (swift_tell _)).bind_of_zero fun _ => ?_
    refine Lasts.bind ?_ fun _ => tracedOutline_lasts s rounds matcher _
    split
    · exact ha rounds
    · exact (lasts_pure ()).mono (Nat.zero_le _)
  branch category _ _ _ _ hx hy rounds := by
    refine (lasts_swift (swift_tell _)).bind_of_zero fun _ => ?_
    split
    · exact (hx rounds).mono (Nat.le_max_left _ _)
    · exact (hy rounds).mono (Nat.le_max_right _ _)

/-- **A step takes no longer than it may**, however steps are nested in one another. -/
theorem traced_lasts (rounds : List Handle) (a : Action) :
    Lasts most (a.allowance s most) (traced s rounds a) :=
  (accounting_timing s).action a rounds

end

/-! ## Amid what others do -/

/-- **Steps do not stall.** Whatever the page answers, whatever others do to it, whichever call
fails: steps take no longer than they may, where loops go through as many elements at most as a
lookup on their course has found. Every course of the steps has an account that says so; and amid
what others do to a page the steps come to an end within that time. -/
theorem execute_timely (s : Setting) (a : Action) (w : Walker) :
    (∀ ⦃t h t' r w'⦄, (execute s a).Course w t h t' r w' →
      ∃ made, (traced s [] a).Course w t h t' r w' made ∧
      ∀ most, Sought.AtMost most made → t' ≤ t + a.allowance s most) ∧
    ∀ (v : World) (others : List (Nat × Deed)),
      let run := v.amid (traced s [] a w) others
      v.amid ((execute s a).run w) others = (run.1.1, run.2.1, run.2.2) ∧
        ∀ most, Sought.AtMost most run.1.2 → run.2.2.clock ≤ v.clock + a.allowance s most := by
  refine ⟨fun t h t' r w' hc => ?_, fun v others => ⟨?_, fun most hmade => ?_⟩⟩
  · obtain ⟨made, hmade⟩ := (traced_erases s [] a).course.1 hc
    exact ⟨made, hmade, fun most hmost => traced_lasts s [] a hmade hmost⟩
  · rw [← traced_erases s [] a w, World.amid_map]
  · exact traced_lasts s [] a (v.amid_course _ others) hmade

/-- A wait in vain and a pause after a click, for each of two boxes: all the time that is allowed is
taken. -/
example :
    let steps : Action := .forEach (.new "input")
      (.list [.waitCss ⟨.new "b", false, 2, 5⟩,
        .click { target := .new "#save", timeout := some 20 }])
    steps.allowance {} 2 = 60 ∧
      (World.amid ((execute {} steps).run {}) { page := Search.dialog } []).2.2.clock = 60 := by
  decide +kernel

end ConsentWalker
