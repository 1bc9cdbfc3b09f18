import ConsentWalker.Proofs.Browser.Abstaining
/-!
# Browser — the end of a visit

A finder that looks at an interval comes to leave: from one point in time to the next the clock goes
on, and never past the point the finder waits for. `OnTime` is the invariant, `passTime_ends` says
that the points in time there are suffice. What made the finder leave is still to be seen then
(`Watch.IsFounded`): a report, a search that is over, or a budget that is used up.
-/

namespace ConsentWalker

/-! ## What takes no time -/

/-- **A world in which no time has passed** and no report was unmade. -/
structure World.Onward (w w' : World) : Prop where
  clock : w'.clock = w.clock
  sightings : w.sightings <+: w'.sightings

namespace World

variable {w w₁ w' : World}

namespace Onward

theorem refl (w : World) : w.Onward w := ⟨rfl, List.prefix_rfl⟩

theorem of_eq (hclock : w'.clock = w.clock) (hsightings : w'.sightings = w.sightings) :
    w.Onward w' :=
  ⟨hclock, hsightings ▸ List.prefix_rfl⟩

theorem trans (h₁ : w.Onward w₁) (h₂ : w₁.Onward w') : w.Onward w' :=
  ⟨h₂.clock.trans h₁.clock, h₁.sightings.trans h₂.sightings⟩

/-- What was reported stays reported. -/
theorem reported (h : w.Onward w') (hw : w.sightings ≠ []) : w'.sightings ≠ [] := by
  intro hnil
  have hprefix := h.sightings
  rw [hnil, List.prefix_nil] at hprefix
  exact hw hprefix

end Onward

theorem collect?_onward {o : Observer} {records : Option Nat}
    (h : w.collect? o = some (records, w')) : w.Onward w' := by
  obtain ⟨page, rfl⟩ := collect?_some h
  exact .of_eq rfl rfl

/-- Running on takes no time and unmakes no report. -/
theorem go_onward {α : Type} (r : Routine α) (w : World) : w.Onward (w.go r).2 := by
  refine go_preserves (P := w.Onward) ?_ r (.refl w)
  intro a w₁ w₂ hw hm
  refine hw.trans ?_
  cases hm with
  | collect hcollect => exact collect?_onward hcollect
  | report v => exact ⟨rfl, List.prefix_append _ _⟩
  | call | note | rest | drop => exact .of_eq rfl rfl

/-- **Who comes to sleep wakes later.** -/
theorem go_wakes {α : Type} (r : Routine α) (w : World) (wake : Nat) (next : Routine α)
    (h : (w.go r).1 = .sleeping wake next) : (w.go r).2.clock < wake := by
  induction r generalizing w with
  | done | pause => cases h
  | call c rest ih => exact ih (w.perform c).1 (w.perform c).2 h
  | note n rest ih => exact ih (w.tell n) h
  | sleep d rest ih =>
    cases d with
    | zero => exact ih w h
    | succ d =>
      cases h
      exact Nat.lt_add_of_pos_right (Nat.succ_pos d)
  | await o rest ih =>
    cases hc : w.collect? o with
    | none =>
      rw [go_await_none hc] at h
      cases h
    | some p =>
      obtain ⟨records, w₁⟩ := p
      rw [go_await_some hc] at h ⊢
      exact ih records w₁ h
  | drop o rest ih => exact ih (w.drop o) h
  | report v rest ih => exact ih (w.sight v) h

end World

namespace Task

variable {t : Task} {w : World}

/-- A task that sets no alarm once it is over. -/
def IsSane (t : Task) : Prop := t.isOver = true → t.alarm? = none

/-- A task whose alarm, if it set one, is yet to come. -/
def WakesLater (t : Task) (w : World) : Prop := ∀ time, t.alarm? = some time → w.clock < time

/-- Who set no alarm wakes late enough. -/
theorem wakesLater_of_none (h : t.alarm? = none) : t.WakesLater w := by
  intro time halarm
  rw [h] at halarm
  cases halarm

/-- Who has nothing to do now wakes later, if at all. -/
theorem wakesLater_of_not_ready (ht : t.IsSane) (hr : t.ready? w = none) : t.WakesLater w := by
  intro time halarm
  have hover : t.isOver = false := by
    cases hover : t.isOver with
    | false => rfl
    | true =>
      rw [ht hover] at halarm
      cases halarm
  unfold ready? at hr
  rw [if_neg (by simp [hover])] at hr
  unfold alarm? at halarm
  generalize t.halt = halt at hr halarm
  cases halt with
  | sleeping wake next =>
    cases halarm
    dsimp only at hr
    split at hr
    · cases hr
    · omega
  | finished | paused | waiting => cases halarm

theorem follow_onward (stages : Nat) (r : Routine Search.Next) (hover : t.isOver = false)
    (w : World) : w.Onward (t.follow stages r w).2 ∧ (t.follow stages r w).1.IsSane ∧
      (t.follow stages r w).1.WakesLater (t.follow stages r w).2 := by
  induction stages generalizing t r w with
  | zero => exact ⟨.refl w, fun _ => rfl, wakesLater_of_none rfl⟩
  | succ stages ih =>
    have hon := World.go_onward r w
    have hwakes := World.go_wakes r w
    unfold follow
    rcases hgo : w.go r with ⟨halt, w₁⟩
    rw [hgo] at hon hwakes
    cases halt with
    | finished a =>
      cases a with
      | stop outcome => exact ⟨hon, fun _ => rfl, wakesLater_of_none rfl⟩
      | goOn s =>
        obtain ⟨hrest, hsane, hlater⟩ := ih (t := { t with state := s }) (t.search.step s) hover
          { w₁ with tried := s.tried }
        have hshown : w₁.Onward { w₁ with tried := s.tried } := .of_eq rfl rfl
        exact ⟨hon.trans (hshown.trans hrest), hsane, hlater⟩
    | sleeping wake next =>
      refine ⟨hon, fun h => ?_, fun time halarm => ?_⟩
      · rw [show t.isOver = true from h] at hover
        cases hover
      · cases halarm
        exact hwakes wake next rfl
    | paused | waiting => exact ⟨hon, fun _ => rfl, wakesLater_of_none rfl⟩

/-- **Letting a task act takes no time**, and it wakes later, if at all. -/
theorem run_onward (ht : t.IsSane) (w : World) :
    w.Onward (t.run w).2 ∧ (t.run w).1.IsSane ∧ (t.run w).1.WakesLater (t.run w).2 := by
  refine run_comes (P := fun t w' => w.Onward w' ∧ t.IsSane)
    (Q := fun t w' => w.Onward w' ∧ t.IsSane ∧ t.WakesLater w') ?_ ?_ ⟨.refl w, ht⟩
  · rintro t w₁ ⟨hon, ht⟩ hr
    exact ⟨hon, ht, wakesLater_of_not_ready ht hr⟩
  · rintro t w₁ r w₂ ⟨hbefore, -⟩ hr
    have hready : w₁.Onward w₂ := by
      obtain ⟨-, rfl | ⟨o, records, hcollect⟩⟩ := ready?_of_meets t.halt.meets_true hr
      · exact .refl w₂
      · exact World.collect?_onward hcollect
    obtain ⟨hon, hsane, hlater⟩ := follow_onward t.stagesBetween r (isOver_of_ready hr) w₂
    have hall := hbefore.trans (hready.trans hon)
    exact ⟨⟨hall, hsane⟩, hall, hsane, hlater⟩

end Task

namespace Browser

/-! ## The times of a watch -/

/-- The time by which a finder has left. -/
def Finder.deadline (f : Finder) : Nat :=
  f.timeouts.detectionBudget + f.timeouts.detectionInterval + f.timeouts.postDetectionWait

namespace Watch

/-- When a finder acts next, as long as it has not left. -/
def wake? : Watch → Option Nat
  | .looking time | .staying _ time => some time
  | .left _ => none

/-- **A watch that keeps its times**: it waits for a time to come that is not too late. -/
def Within (f : Finder) (now : Nat) : Watch → Prop
  | .looking time =>
    now ≤ time ∧ time < f.timeouts.detectionBudget + f.timeouts.detectionInterval
  | .staying _ time => now ≤ time ∧ time < f.deadline
  | .left _ => now < f.deadline

/-- **A watch that has its reasons**: a report was made if the finder stays or leaves with one; if
it leaves without, the search is over or the budget is used up. -/
def IsFounded (f : Finder) (isOver : Bool) (w : World) : Watch → Prop
  | .looking _ => True
  | .staying .. | .left (some _) => w.sightings ≠ []
  | .left none => isOver = true ∨ f.timeouts.detectionBudget ≤ w.clock

variable {f : Finder} {watch : Watch}

/-- Who has not left waits for a time. -/
theorem exists_wake (hstays : ∀ detected, watch ≠ .left detected) :
    ∃ wake, watch.wake? = some wake := by
  cases watch with
  | looking time => exact ⟨time, rfl⟩
  | staying vendor time => exact ⟨time, rfl⟩
  | left detected => exact absurd rfl (hstays detected)

/-- Its time has not run out. -/
theorem Within.lt_deadline {now : Nat} (h : watch.Within f now) : now < f.deadline := by
  cases watch with
  | looking time =>
    obtain ⟨hle, hlt⟩ := h
    exact Nat.lt_of_lt_of_le (Nat.lt_of_le_of_lt hle hlt) (Nat.le_add_right _ _)
  | staying vendor time => exact Nat.lt_of_le_of_lt h.1 h.2
  | left detected => exact h

/-- A watch keeps its times up to the time it waits for. -/
theorem Within.until {now now' wake : Nat} (h : watch.Within f now)
    (hwake : watch.wake? = some wake) (hle : now' ≤ wake) : watch.Within f now' := by
  cases watch with
  | looking time =>
    cases hwake
    exact ⟨hle, h.2⟩
  | staying vendor time =>
    cases hwake
    exact ⟨hle, h.2⟩
  | left detected => cases hwake

/-- The reasons to stay last. -/
theorem IsFounded.stays {isOver isOver' : Bool} {w w' : World} (h : watch.IsFounded f isOver w)
    (hstays : ∀ detected, watch ≠ .left detected)
    (hw : w.sightings ≠ [] → w'.sightings ≠ []) : watch.IsFounded f isOver' w' := by
  cases watch with
  | looking => trivial
  | staying => exact hw h
  | left detected => exact absurd rfl (hstays detected)

end Watch

namespace Finder

variable {f : Finder} {url : String} {s : Scene} {n : Nat}

/-- **What a look comes to**: a report makes the finder stay or leave, else it leaves if there is a
reason to and looks again if there is none. -/
theorem look_cases (f : Finder) (url : String) (t : Task) (w : World) :
    (w.sightings ≠ [] ∧ ∃ vendor,
      (f.look url t w).1 = .left (some vendor) ∨
      0 < f.timeouts.postDetectionWait ∧
        (f.look url t w).1 = .staying vendor (w.clock + f.timeouts.postDetectionWait)) ∨
    ((t.isOver = true ∨ f.timeouts.detectionBudget ≤ w.clock) ∧ (f.look url t w).1 = .left none) ∨
    (w.clock < f.timeouts.detectionBudget ∧
      (f.look url t w).1 = .looking (w.clock + f.timeouts.detectionInterval)) := by
  unfold look decide
  cases hsightings : w.sightings with
  | cons first rest =>
    left
    refine ⟨nofun, first.vendor, ?_⟩
    by_cases hstay : f.timeouts.postDetectionWait = 0
    · exact .inl (if_pos hstay)
    · exact .inr ⟨Nat.pos_of_ne_zero hstay, if_neg hstay⟩
  | nil =>
    right
    dsimp only [List.head?_nil]
    by_cases hleave : t.isOver = true ∨ f.timeouts.detectionBudget ≤ w.clock
    · refine .inl ⟨hleave, ?_⟩
      rw [if_pos (by simpa using hleave)]
    · refine .inr ⟨Nat.not_le.1 fun h => hleave (.inr h), ?_⟩
      rw [if_neg (by simpa using hleave)]

/-- A look that is not too late has the finder wait for a later time that is not, if it stays. -/
theorem look_within (url : String) (t : Task) {w : World} (hpos : 0 < f.timeouts.detectionInterval)
    (hnow : w.clock < f.timeouts.detectionBudget + f.timeouts.detectionInterval) :
    (f.look url t w).1.Within f w.clock ∧
      ∀ time, (f.look url t w).1.wake? = some time → w.clock < time := by
  have hlate : w.clock < f.deadline := Nat.lt_of_lt_of_le hnow (Nat.le_add_right _ _)
  rcases look_cases f url t w with
    ⟨-, vendor, hlook | ⟨hstay, hlook⟩⟩ | ⟨-, hlook⟩ | ⟨hbudget, hlook⟩
  · rw [hlook]
    exact ⟨hlate, nofun⟩
  · rw [hlook]
    refine ⟨⟨Nat.le_add_right _ _, Nat.add_lt_add_right hnow _⟩, fun time htime => ?_⟩
    cases htime
    exact Nat.lt_add_of_pos_right hstay
  · rw [hlook]
    exact ⟨hlate, nofun⟩
  · rw [hlook]
    refine ⟨⟨Nat.le_add_right _ _, Nat.add_lt_add_right hbudget _⟩, fun time htime => ?_⟩
    cases htime
    exact Nat.lt_add_of_pos_right hpos

/-- **What a finder does at a time keeps its times**: it waits for a later one, if it stays. -/
theorem act_within (url : String) (hpos : 0 < f.timeouts.detectionInterval)
    (hw : s.watch.Within f s.world.clock) : (f.act url s).1.Within f s.world.clock ∧
      ∀ time, (f.act url s).1.wake? = some time → s.world.clock < time := by
  -- a time that has not come is a later one
  have still : ∀ {time : Nat}, ¬ time ≤ s.world.clock →
      ∀ wake, some time = some wake → s.world.clock < wake := by
    intro time hdue wake hwake
    rw [← Option.some.inj hwake]
    exact Nat.not_le.1 hdue
  unfold act
  cases hwatch : s.watch with
  | left detected =>
    rw [hwatch] at hw
    exact ⟨hw, nofun⟩
  | staying vendor time =>
    rw [hwatch] at hw
    dsimp only
    by_cases hdue : time ≤ s.world.clock
    · rw [if_pos hdue]
      exact ⟨Nat.lt_of_le_of_lt hw.1 hw.2, nofun⟩
    · rw [if_neg hdue]
      exact ⟨hw, still hdue⟩
  | looking time =>
    rw [hwatch] at hw
    dsimp only
    by_cases hdue : time ≤ s.world.clock
    · rw [if_pos hdue]
      exact look_within url s.task hpos (Nat.lt_of_le_of_lt hw.1 hw.2)
    · rw [if_neg hdue]
      exact ⟨hw, still hdue⟩

/-- It takes no time and makes no report. -/
theorem act_unmoved (f : Finder) (url : String) (s : Scene) :
    (f.act url s).2.clock = s.world.clock ∧ (f.act url s).2.sightings = s.world.sightings := by
  rcases act_eq f url s with h | ⟨n, h⟩
  · rw [h]
    exact ⟨rfl, rfl⟩
  · rw [h]
    exact ⟨rfl, rfl⟩

/-- And it has its reasons. -/
theorem act_founded (url : String) (hw : s.watch.IsFounded f s.task.isOver s.world) :
    (f.act url s).1.IsFounded f s.task.isOver (f.act url s).2 := by
  obtain ⟨hclock, hsightings⟩ := act_unmoved f url s
  have hreasons : (f.act url s).1.IsFounded f s.task.isOver s.world := by
    unfold act
    cases hwatch : s.watch with
    | left detected =>
      rw [hwatch] at hw
      exact hw
    | staying vendor time =>
      rw [hwatch] at hw
      dsimp only
      split <;> exact hw
    | looking time =>
      dsimp only
      split
      · rcases look_cases f url s.task s.world with
          ⟨hseen, vendor, hlook | ⟨-, hlook⟩⟩ | ⟨hleave, hlook⟩ | ⟨-, hlook⟩
        · rw [hlook]
          exact hseen
        · rw [hlook]
          exact hseen
        · rw [hlook]
          exact hleave
        · rw [hlook]
          trivial
      · trivial
  unfold Watch.IsFounded at hreasons ⊢
  rw [hsightings, hclock]
  exact hreasons

/-! ## From one point in time to the next -/

/-- Others who take no time take none together, and who is left comes later. -/
theorem actOthers_onward (vs : List Visitor) (hvs : ∀ v ∈ vs, ∀ w : World, w.Onward (v.act w))
    (w : World) : w.Onward (actOthers vs w).2 ∧ (∀ v ∈ (actOthers vs w).1, v ∈ vs) ∧
      ∀ v, (actOthers vs w).1.head? = some v → (actOthers vs w).2.clock < v.time := by
  induction vs generalizing w with
  | nil => exact ⟨.refl w, fun _ => id, nofun⟩
  | cons v rest ih =>
    unfold actOthers
    by_cases hdue : v.time ≤ w.clock
    · rw [if_pos hdue]
      have hact := hvs v List.mem_cons_self w
      obtain ⟨hrest, hsub, hlater⟩ := ih (fun u hu => hvs u (List.mem_cons_of_mem v hu)) (v.act w)
      exact ⟨hact.trans hrest, fun u hu => List.mem_cons_of_mem v (hsub u hu), hlater⟩
    · rw [if_neg hdue]
      refine ⟨.refl w, fun _ => id, fun u hu => ?_⟩
      cases hu
      exact Nat.not_le.1 hdue

/-- **The next time is later than now**, and no later than the finder's own. -/
theorem nextTime_between {wake : Nat} (hwake : s.watch.wake? = some wake)
    (hown : s.world.clock < wake)
    (hothers : ∀ v, s.others.head? = some v → s.world.clock < v.time)
    (htask : s.task.WakesLater s.world) : s.world.clock < s.nextTime ∧ s.nextTime ≤ wake := by
  let times := s.watch.wake?.toList ++ (s.others.head?.map Visitor.time).toList ++
    s.task.alarm?.toList
  have hnext : s.nextTime = times.min?.getD 0 := by
    unfold Scene.nextTime Watch.wake? at *
    cases hw : s.watch <;> simp only [times, Watch.wake?, hw]
  have hmem : wake ∈ times := by simp [times, hwake]
  have hlater : ∀ time ∈ times, s.world.clock < time := by
    intro time htime
    rcases List.mem_append.1 htime with htime | htime
    · rcases List.mem_append.1 htime with htime | htime
      · rw [hwake] at htime
        rw [List.mem_singleton.1 htime]
        exact hown
      · obtain ⟨v, hv, rfl⟩ := Option.map_eq_some_iff.1 (Option.mem_toList.1 htime)
        exact hothers v hv
    · exact htask time (Option.mem_toList.1 htime)
  cases hmin : times.min? with
  | none =>
    rw [List.min?_eq_none_iff.1 hmin] at hmem
    cases hmem
  | some m =>
    obtain ⟨hm, hleast⟩ := List.min?_eq_some_iff.1 hmin
    rw [hnext, hmin]
    exact ⟨hlater m hm, hleast wake hmem⟩

/-- **A scene that goes by the clock**, at which so many milliseconds have passed at least. -/
structure OnTime (f : Finder) (n : Nat) (s : Scene) : Prop where
  task : s.task.IsSane
  others : ∀ v ∈ s.others, ∀ w : World, w.Onward (v.act w)
  begun : n ≤ s.world.clock
  within : s.watch.Within f s.world.clock
  founded : s.watch.IsFounded f s.task.isOver s.world

/-- **Each point in time is later than the one before**, as long as the finder has not left. -/
theorem OnTime.instant (url : String) (hs : f.OnTime n s)
    (hpos : 0 < f.timeouts.detectionInterval) :
    (∃ detected, (f.instant url s).watch = .left detected) ∧ f.OnTime n (f.instant url s) ∨
      (∀ detected, (f.instant url s).watch ≠ .left detected) ∧
        f.OnTime (n + 1) (f.instant url s) := by
  obtain ⟨hwithin, hlater⟩ := act_within url hpos hs.within
  have hfounded := act_founded url hs.founded
  obtain ⟨hclock, hsightings⟩ := act_unmoved f url s
  have hacted : s.world.Onward (f.act url s).2 := .of_eq hclock hsightings
  rcases instant_cases f url s with ⟨detected, hleft, hinstant⟩ | ⟨s', hs', hstays, hinstant⟩
  · left
    rw [hinstant]
    rw [hleft] at hwithin hfounded
    refine ⟨⟨detected, rfl⟩, hs.task, hs.others, ?_, ?_, hfounded⟩
    · exact Nat.le_trans hs.begun (Nat.le_of_eq hacted.clock.symm)
    · dsimp only
      rw [hacted.clock]
      exact hwithin
  · right
    obtain ⟨hothers, hsub, hdue⟩ := actOthers_onward s.others hs.others (f.act url s).2
    obtain ⟨hrun, hsane, hwakes⟩ := Task.run_onward hs.task (actOthers s.others (f.act url s).2).2
    rw [hinstant]
    -- the scene once all have acted, at the same time
    have hwatch : s'.watch = (f.act url s).1 := by rw [hs']; rfl
    have hworld : (f.act url s).2.Onward s'.world := by rw [hs']; exact hothers.trans hrun
    have hclock : s'.world.clock = s.world.clock := hworld.clock.trans hacted.clock
    rw [← hwatch] at hwithin hlater hfounded
    obtain ⟨wake, hwake⟩ := Watch.exists_wake hstays
    obtain ⟨hnext, hle⟩ : s'.world.clock < s'.nextTime ∧ s'.nextTime ≤ wake := by
      refine nextTime_between hwake (hclock ▸ hlater wake hwake) (fun v hv => ?_) ?_
      · rw [hs'] at hv ⊢
        exact Nat.lt_of_le_of_lt (Nat.le_of_eq hrun.clock) (hdue v hv)
      · rw [hs']
        exact hwakes
    rw [Nat.max_eq_right (Nat.le_of_lt hnext)]
    refine ⟨hstays, ?_, ?_, ?_, hwithin.until hwake hle, hfounded.stays hstays hworld.reported⟩
    · rw [hs']
      exact hsane
    · rw [hs']
      exact fun v hv => hs.others v (hsub v hv)
    · exact Nat.le_trans (Nat.succ_le_succ hs.begun) (hclock ▸ hnext)

/-- **The points in time suffice**: with as many left as milliseconds to the deadline, the finder
comes to leave, and it does so on time. -/
theorem passTime_ends (url : String) (hs : f.OnTime n s)
    (hpos : 0 < f.timeouts.detectionInterval) (fuel : Nat) (hfuel : f.deadline ≤ n + fuel) :
    (∃ detected, (f.passTime url fuel s).watch = .left detected) ∧
      f.OnTime n (f.passTime url fuel s) := by
  induction fuel generalizing n s with
  | zero =>
    have hbegun := hs.begun
    have hbefore := hs.within.lt_deadline
    omega
  | succ fuel ih =>
    unfold passTime
    dsimp only
    rcases hs.instant url hpos with ⟨⟨detected, hleft⟩, hon⟩ | ⟨hstays, hon⟩
    · rw [hleft]
      exact ⟨⟨detected, hleft⟩, hon⟩
    · obtain ⟨hleft, hontime⟩ := ih hon (by omega)
      cases hw : (f.instant url s).watch with
      | left detected => exact absurd hw (hstays detected)
      | looking | staying =>
        exact ⟨hleft, { hontime with begun := Nat.le_of_succ_le hontime.begun }⟩

/-! ## The end -/

/-- The scene a visit ends in. -/
def ending (f : Finder) (url : String) (choice : Choice) (others : List Visitor) (w : World) :
    Scene :=
  f.passTime url f.instants
    { watch := .looking w.clock, others, task := .new (f.search choice), world := w }

/-- **Every visit comes to its end**, within the times the finder was given: it has left, for a
reason, and reports what made it leave. -/
theorem find_ends (url : String) (choice : Choice) {others : List Visitor} {w : World}
    (hpos : 0 < f.timeouts.detectionInterval) (hclock : w.clock = 0)
    (hothers : ∀ v ∈ others, ∀ w : World, w.Onward (v.act w)) :
    (f.ending url choice others w).watch = .left (f.find url choice others w).1.detected ∧
      (f.find url choice others w).1.elapsed < f.deadline ∧
      (f.ending url choice others w).watch.IsFounded f (f.ending url choice others w).task.isOver
        (f.ending url choice others w).world := by
  let s : Scene := { watch := .looking w.clock, others, task := .new (f.search choice), world := w }
  have hbegin : f.OnTime 0 s := by
    refine ⟨fun _ => rfl, hothers, Nat.zero_le _, ⟨Nat.le_refl _, ?_⟩, trivial⟩
    rw [hclock]
    exact Nat.add_pos_right _ hpos
  obtain ⟨⟨detected, hleft⟩, hontime⟩ := passTime_ends url hbegin hpos f.instants
    (by unfold deadline instants; omega)
  change (f.ending url choice others w).watch = .left detected at hleft
  have hdetected : (f.find url choice others w).1.detected = detected := by
    unfold ending at hleft
    unfold find
    dsimp only
    rw [hleft]
  exact ⟨hdetected ▸ hleft, hontime.within.lt_deadline, hontime.founded⟩

end Finder
end Browser
end ConsentWalker
