import Mathlib.Logic.Function.Iterate
import ConsentWalker.Proofs.Browser.Ending
/-!
# Browser — when a finder stops looking

A finder looks at multiples of its interval and at no other time: each look sets the next one, and
the clock never goes past it (`OnTime.instant`). The look that is the last is made before the budget
is used up, but for one interval at most (`Looks`). What had been reported by then decides how long
it stays and what it leaves with (`Stopped`); later reports change nothing about that, because they
come after the first.
-/

namespace ConsentWalker
namespace Browser

/-- Whether a finder still looks for a report. -/
def Watch.isLooking : Watch → Bool
  | .looking _ => true
  | _ => false

/-- The vendor that was reported first, if one was reported yet. -/
def firstReported (w : World) : Option String := w.sightings.head?.map Sighting.vendor

/-- Who was reported first stays so. -/
theorem firstReported_of_prefix {w w' : World} (h : w.sightings <+: w'.sightings) {vendor : String}
    (hfirst : firstReported w = some vendor) : firstReported w' = some vendor := by
  unfold firstReported at *
  obtain ⟨s, hs, rfl⟩ := Option.map_eq_some_iff.1 hfirst
  obtain ⟨more, hmore⟩ := h
  cases hw : w.sightings with
  | nil =>
    rw [hw] at hs
    cases hs
  | cons first rest =>
    rw [hw] at hs hmore
    cases hs
    rw [← hmore]
    rfl

namespace Finder

variable {f : Finder} {url : String} {choice : Choice} {others : List Visitor} {w : World}
  {s s₀ : Scene} {n k : Nat}

/-! ## Scene by scene -/

/-- The scene a visit begins with. -/
def opening (f : Finder) (choice : Choice) (others : List Visitor) (w : World) : Scene where
  watch := .looking w.clock
  others := others
  task := .new (f.search choice)
  world := w

/-- The scene of a visit after so many points in time. -/
def scene (f : Finder) (url : String) (choice : Choice) (others : List Visitor) (w : World)
    (n : Nat) : Scene :=
  Nat.iterate (f.instant url) n (f.opening choice others w)

/-- **The finder stops looking at the point in time after a scene**, for which it had looked up to
then. -/
def StopsAt (f : Finder) (url : String) (choice : Choice) (others : List Visitor) (w : World)
    (n : Nat) : Prop :=
  (∀ m ≤ n, (f.scene url choice others w m).watch.isLooking = true) ∧
    (f.scene url choice others w (n + 1)).watch.isLooking = false

theorem scene_succ (n : Nat) :
    f.scene url choice others w (n + 1) = f.instant url (f.scene url choice others w n) :=
  Function.iterate_succ_apply' _ _ _

/-- Once the finder has left nothing happens any more. -/
theorem instant_of_left {detected : Option String} (h : s.watch = .left detected) :
    f.instant url s = s := by
  obtain ⟨watch, others, task, world⟩ := s
  obtain rfl : watch = .left detected := h
  rfl

/-- So letting time pass is going on from scene to scene. -/
theorem passTime_eq_iterate (fuel : Nat) (s : Scene) :
    f.passTime url fuel s = Nat.iterate (f.instant url) fuel s := by
  induction fuel generalizing s with
  | zero => rfl
  | succ fuel ih =>
    unfold passTime
    rw [Function.iterate_succ_apply]
    dsimp only
    cases hwatch : (f.instant url s).watch with
    | left detected => exact (Function.iterate_fixed (instant_of_left hwatch) fuel).symm
    | looking | staying => exact ih _

theorem ending_eq_scene : f.ending url choice others w = f.scene url choice others w f.instants :=
  passTime_eq_iterate f.instants _

/-! ## What one point in time comes to -/

theorem instant_watch (f : Finder) (url : String) (s : Scene) :
    (f.instant url s).watch = (f.act url s).1 := by
  rcases instant_cases f url s with ⟨detected, hleft, hinstant⟩ | ⟨s', rfl, -, hinstant⟩
  · rw [hinstant, hleft]
  · rw [hinstant]
    rfl

/-- **A finder that leaves does so at once**, before anybody else acts. -/
theorem instant_leaves {detected : Option String} (h : (f.act url s).1 = .left detected) :
    (f.instant url s).watch = .left detected ∧ (f.instant url s).world.clock = s.world.clock ∧
      firstReported (f.instant url s).world = firstReported s.world := by
  obtain ⟨hclock, hsightings⟩ := act_unmoved f url s
  refine ⟨(instant_watch f url s).trans h, ?_⟩
  rcases instant_cases f url s with ⟨detected, -, hinstant⟩ | ⟨s', rfl, hstays, -⟩
  · rw [hinstant]
    exact ⟨hclock, by unfold firstReported; rw [hsightings]⟩
  · exact absurd h (hstays detected)

/-- No report is unmade from one point in time to the next. -/
theorem OnTime.sightings (hs : f.OnTime n s) :
    s.world.sightings <+: (f.instant url s).world.sightings := by
  obtain ⟨hclock, hsightings⟩ := act_unmoved f url s
  have hacted : s.world.Onward (f.act url s).2 := .of_eq hclock hsightings
  rcases instant_cases f url s with ⟨detected, -, hinstant⟩ | ⟨s', rfl, -, hinstant⟩
  · rw [hinstant]
    exact hacted.sightings
  · rw [hinstant]
    have hothers := (actOthers_onward s.others hs.others (f.act url s).2).1
    have hrun := (Task.run_onward hs.task (actOthers s.others (f.act url s).2).2).1
    exact (hacted.trans (hothers.trans hrun)).sightings

/-- **What a look comes to**: the first report decides, else whether there is a use in looking
again. -/
theorem look_report (f : Finder) (url : String) (t : Task) (w : World) :
    (∃ vendor, firstReported w = some vendor ∧ (f.look url t w).1 =
      if f.timeouts.postDetectionWait = 0 then .left (some vendor)
      else .staying vendor (w.clock + f.timeouts.postDetectionWait)) ∨
    (firstReported w = none ∧ (f.look url t w).1 = .left none) ∨
    (w.clock < f.timeouts.detectionBudget ∧
      (f.look url t w).1 = .looking (w.clock + f.timeouts.detectionInterval)) := by
  unfold look decide firstReported
  cases w.sightings.head? with
  | some first => exact .inl ⟨first.vendor, rfl, rfl⟩
  | none =>
    dsimp only
    right
    by_cases hleave : t.isOver = true ∨ f.timeouts.detectionBudget ≤ w.clock
    · left
      rw [if_pos (by simpa using hleave)]
      exact ⟨rfl, rfl⟩
    · right
      rw [if_neg (by simpa using hleave)]
      exact ⟨Nat.not_le.1 fun h => hleave (.inr h), rfl⟩

/-! ## Looking and staying -/

/-- **A finder that looks at a multiple of its interval**, which is not a whole interval past its
budget. -/
def Looks (f : Finder) (k : Nat) (s : Scene) : Prop :=
  s.watch = .looking (k * f.timeouts.detectionInterval) ∧
    (k = 0 ∨ (k - 1) * f.timeouts.detectionInterval < f.timeouts.detectionBudget)

/-- **A finder that has stopped looking** in another scene. It stays if there was a report by then,
and leaves with it after its time; if there was none it has left at once. -/
inductive Stopped (f : Finder) (s₀ s : Scene) : Prop where
  | staying {vendor : String} : firstReported s₀.world = some vendor →
      s₀.world.sightings <+: s.world.sightings →
      s.watch = .staying vendor (s₀.world.clock + f.timeouts.postDetectionWait) → Stopped f s₀ s
  | left : s.watch = .left (firstReported s₀.world) →
      s.world.clock = s₀.world.clock +
        (if (firstReported s₀.world).isSome then f.timeouts.postDetectionWait else 0) →
      firstReported s.world = firstReported s₀.world → Stopped f s₀ s

theorem Stopped.isLooking (h : f.Stopped s₀ s) : s.watch.isLooking = false := by
  cases h with
  | staying _ _ hwatch | left hwatch =>
    rw [hwatch]
    rfl

/-- **One point in time of a finder that looks**: it looks at the same time or the next multiple, or
it looks now and stops. -/
theorem Looks.instant (url : String) (hl : f.Looks k s) (hs : f.OnTime n s) :
    (∃ k', f.Looks k' (f.instant url s)) ∨
      s.world.clock = k * f.timeouts.detectionInterval ∧ f.Stopped s (f.instant url s) := by
  obtain ⟨hwatch, hbudget⟩ := hl
  have hwithin := hs.within
  rw [hwatch] at hwithin
  have hnext := instant_watch f url s
  unfold act at hnext
  rw [hwatch] at hnext
  dsimp only at hnext
  by_cases hdue : k * f.timeouts.detectionInterval ≤ s.world.clock
  · have hnow : s.world.clock = k * f.timeouts.detectionInterval := Nat.le_antisymm hwithin.1 hdue
    rw [if_pos hdue] at hnext
    have leaves : ∀ {detected : Option String}, (f.look url s.task s.world).1 = .left detected →
        (f.instant url s).watch = .left detected ∧ (f.instant url s).world.clock = s.world.clock ∧
          firstReported (f.instant url s).world = firstReported s.world :=
      fun hlook => instant_leaves ((instant_watch f url s).symm.trans (hnext.trans hlook))
    rcases look_report f url s.task s.world with
      ⟨vendor, hfirst, hlook⟩ | ⟨hnone, hlook⟩ | ⟨hless, hlook⟩
    · refine .inr ⟨hnow, ?_⟩
      by_cases hwait : f.timeouts.postDetectionWait = 0
      · -- a time of nothing is over at once
        rw [if_pos hwait] at hlook
        obtain ⟨hleft, hclock, hsame⟩ := leaves hlook
        exact .left (hfirst ▸ hleft) (by rw [hclock, hwait, ite_self, Nat.add_zero]) hsame
      · rw [if_neg hwait] at hlook
        exact .staying hfirst hs.sightings (hnext.trans hlook)
    · obtain ⟨hleft, hclock, hsame⟩ := leaves hlook
      refine .inr ⟨hnow, .left (hnone ▸ hleft) ?_ hsame⟩
      rw [hclock, hnone]
      rfl
    · refine .inl ⟨k + 1, ?_, .inr ?_⟩
      · rw [hnext, hlook, hnow, Nat.add_mul, Nat.one_mul]
      · rw [Nat.add_sub_cancel, ← hnow]
        exact hless
  · rw [if_neg hdue] at hnext
    exact .inl ⟨k, hnext, hbudget⟩

/-- **One point in time of a finder that has stopped looking**: it stays until its time, and has
left then. -/
theorem Stopped.instant (url : String) (h : f.Stopped s₀ s) (hs : f.OnTime n s) :
    f.Stopped s₀ (f.instant url s) := by
  cases h with
  | left hwatch hclock hfirst =>
    rw [instant_of_left hwatch]
    exact .left hwatch hclock hfirst
  | @staying vendor hfirst hsightings hwatch =>
    have hwithin := hs.within
    rw [hwatch] at hwithin
    have hact : (f.act url s).1 = if s₀.world.clock + f.timeouts.postDetectionWait ≤ s.world.clock
        then .left (some vendor) else s.watch := by
      unfold act
      rw [hwatch]
    by_cases hdue : s₀.world.clock + f.timeouts.postDetectionWait ≤ s.world.clock
    · rw [if_pos hdue] at hact
      obtain ⟨hleft, hclock, hsame⟩ := instant_leaves hact
      have hnow : s.world.clock = s₀.world.clock + f.timeouts.postDetectionWait :=
        Nat.le_antisymm hwithin.1 hdue
      refine .left (hfirst ▸ hleft) ?_ ?_
      · rw [hclock, hnow, hfirst]
        rfl
      · rw [hsame, hfirst]
        exact firstReported_of_prefix hsightings hfirst
    · rw [if_neg hdue] at hact
      exact .staying hfirst (hsightings.trans hs.sightings)
        ((instant_watch f url s).trans (hact.trans hwatch))

/-! ## A whole visit -/

/-- **The scenes of a visit**: the finder looks, or it has stopped looking at a multiple of its
interval. -/
theorem scene_spec (url : String) (choice : Choice) (hpos : 0 < f.timeouts.detectionInterval)
    (hclock : w.clock = 0) (hothers : ∀ v ∈ others, ∀ w : World, w.Onward (v.act w)) (n : Nat) :
    f.OnTime 0 (f.scene url choice others w n) ∧
      (((∀ m ≤ n, (f.scene url choice others w m).watch.isLooking = true) ∧
          ∃ k, f.Looks k (f.scene url choice others w n)) ∨
        ∃ m k, f.StopsAt url choice others w m ∧ f.Looks k (f.scene url choice others w m) ∧
          (f.scene url choice others w m).world.clock = k * f.timeouts.detectionInterval ∧
          f.Stopped (f.scene url choice others w m) (f.scene url choice others w n)) := by
  induction n with
  | zero =>
    refine ⟨⟨fun _ => rfl, hothers, Nat.zero_le _, ⟨Nat.le_refl _, ?_⟩, trivial⟩,
      .inl ⟨fun m hm => ?_, 0, ?_⟩⟩
    · rw [hclock]
      exact Nat.add_pos_right _ hpos
    · obtain rfl := Nat.le_zero.1 hm
      rfl
    · refine ⟨?_, .inl rfl⟩
      rw [Nat.zero_mul]
      exact congrArg Watch.looking hclock
  | succ n ih =>
    obtain ⟨hontime, hscene⟩ := ih
    have hontime' : f.OnTime 0 (f.scene url choice others w (n + 1)) := by
      rw [scene_succ]
      rcases hontime.instant url hpos with ⟨-, h⟩ | ⟨-, h⟩
      · exact h
      · exact { h with begun := Nat.zero_le _ }
    refine ⟨hontime', ?_⟩
    rcases hscene with ⟨hlooking, k, hlooks⟩ | ⟨m, k, hstops, hlooks, hnow, hstopped⟩
    · rcases hlooks.instant url hontime with ⟨k', hlooks'⟩ | ⟨hnow, hstopped⟩
      · rw [← scene_succ] at hlooks'
        refine .inl ⟨fun m hm => ?_, k', hlooks'⟩
        rcases Nat.le_succ_iff.1 hm with hm | rfl
        · exact hlooking m hm
        · rw [hlooks'.1]
          rfl
      · rw [← scene_succ] at hstopped
        exact .inr ⟨n, k, ⟨hlooking, hstopped.isLooking⟩, hlooks, hnow, hstopped⟩
    · have hstopped' := hstopped.instant url hontime
      rw [← scene_succ] at hstopped'
      exact .inr ⟨m, k, hstops, hlooks, hnow, hstopped'⟩

/-- Leaving unmakes no report and makes none. -/
theorem leave_sightings (url : String) (t : Task) (w : World) :
    (leave url t w).sightings = w.sightings := by
  unfold leave
  split
  · rfl
  · rfl
  · unfold Task.abort
    split
    · rfl
    · split <;> rfl

/-- **When a visit stops looking, and what it comes to.** The finder stops at a multiple of its
interval, the first one or one that comes after another at which the budget was not used up. It
leaves with what had been reported first by then, after its time if there was a report and at once
if there was none. Nothing that was reported at all is missed. -/
theorem find_timed (url : String) (choice : Choice) {others : List Visitor} {w : World}
    (hpos : 0 < f.timeouts.detectionInterval) (hclock : w.clock = 0)
    (hothers : ∀ v ∈ others, ∀ w : World, w.Onward (v.act w)) :
    ∃ n k, f.StopsAt url choice others w n ∧
      (f.scene url choice others w n).world.clock = k * f.timeouts.detectionInterval ∧
      (k = 0 ∨ (k - 1) * f.timeouts.detectionInterval < f.timeouts.detectionBudget) ∧
      (f.find url choice others w).1.detected =
        firstReported (f.scene url choice others w n).world ∧
      (f.find url choice others w).1.elapsed = k * f.timeouts.detectionInterval +
        (if (f.find url choice others w).1.detected.isSome
          then f.timeouts.postDetectionWait else 0) ∧
      firstReported (f.find url choice others w).2 = (f.find url choice others w).1.detected := by
  obtain ⟨hleft, -, -⟩ := find_ends (f := f) url choice hpos hclock hothers
  have helapsed : (f.find url choice others w).1.elapsed =
      (f.ending url choice others w).world.clock := rfl
  have hreported : firstReported (f.find url choice others w).2 =
      firstReported (f.ending url choice others w).world := by
    unfold firstReported
    exact congrArg _ (congrArg List.head? (leave_sightings url _ _))
  rw [ending_eq_scene] at hleft helapsed hreported
  obtain ⟨-, ⟨hlooking, -⟩ | ⟨n, k, hstops, hlooks, hnow, hstopped⟩⟩ :=
    scene_spec url choice hpos hclock hothers f.instants
  · have hlast := hlooking f.instants (Nat.le_refl _)
    rw [hleft] at hlast
    cases hlast
  · cases hstopped with
    | staying _ _ hstays =>
      rw [hleft] at hstays
      cases hstays
    | left hleft' hclock' hfirst =>
      have hdetected := Watch.left.inj (hleft.symm.trans hleft')
      refine ⟨n, k, hstops, hnow, hlooks.2, hdetected, ?_, ?_⟩
      · rw [helapsed, hclock', hnow, hdetected]
      · rw [hreported, hfirst, hdetected]

/-- Someone who puts a dialog on a page after a while. -/
def lateBanner : Visitor where
  time := 150
  act w := (w.change (Page.append "body"
    [.node (.element { name := "div", attributes := [("id", "banner")] }) []]) false).2

/-- The sample finder in a hurry. -/
def hurried : Finder :=
  { Finder.sample with
    timeouts := { detectionBudget := 250, detectionInterval := 100, postDetectionWait := 30 } }

/-- A page without a dialog. -/
def blankWorld : World where
  page := .ofTree (.node .document [.node (.element { name := "body" }) []]) false

/-- A dialog that comes between two looks is found at the later one. -/
theorem hurried_timed :
    (hurried.find "" .noAction [lateBanner] blankWorld).1.detected = some "banner" ∧
      ∃ n, hurried.StopsAt "" .noAction [lateBanner] blankWorld n ∧
        (hurried.scene "" .noAction [lateBanner] blankWorld n).world.clock = 200 := by
  have hothers : ∀ v ∈ [lateBanner], ∀ w : World, w.Onward (v.act w) := by
    intro v hv w
    obtain rfl := List.mem_singleton.1 hv
    obtain ⟨told, htold⟩ := w.change_eq (Page.append "body"
      [.node (.element { name := "div", attributes := [("id", "banner")] }) []]) false
    have hact : lateBanner.act w = _ := htold
    rw [hact]
    exact .of_eq rfl rfl
  have hdetected :
      (hurried.find "" .noAction [lateBanner] blankWorld).1.detected = some "banner" := by
    decide +kernel
  have helapsed : (hurried.find "" .noAction [lateBanner] blankWorld).1.elapsed = 230 := by
    decide +kernel
  obtain ⟨n, k, hstops, hnow, -, -, htimes, -⟩ :=
    find_timed (f := hurried) (w := blankWorld) "" .noAction (by decide) rfl hothers
  refine ⟨hdetected, n, hstops, ?_⟩
  rw [helapsed, hdetected] at htimes
  change 230 = k * 100 + 30 at htimes
  change (hurried.scene "" .noAction [lateBanner] blankWorld n).world.clock = k * 100 at hnow
  omega

end Finder
end Browser
end ConsentWalker
