import ConsentWalker.Proofs.Browser.Ending
import ConsentWalker.Proofs.Walk.Uncovering
/-!
# Browser — how a visit leaves a page

A visit that reported a dialog leaves its page tidy: the progress message is gone, and no element of
the page is hidden any more. The report is made once the methods are done, and the clean-up follows
on it without a wait, so that whoever sees the report finds the page cleaned up (`leaves_tidy`).

A search is stopped amid a handling only where its time is up: before anything was reported, when
the budget is used up, or in the handling of another dialog, if the search goes on to look for more.
`leaves_untidy` has a visit for each.
-/

namespace ConsentWalker

/-! ## Others who leave a page open -/

namespace World

variable {w w' : World}

/-- **What others may do to a world but for closing its page**: append, take out, look for elements,
click them, one after another. -/
inductive Meddles (w : World) : World → Prop where
  | nothing : Meddles w w
  | append {w' : World} (parent : String) (trees : List Tree) :
      Meddles w w' → Meddles w (w'.append parent trees).2
  | remove {w' : World} (selector : String) : Meddles w w' → Meddles w (w'.remove selector).2
  | select {w' : World} (selector : String) :
      Meddles w w' → Meddles w (w'.direct (Page.select none selector)).2
  | click {w' : World} (h : Handle) (openInTab : Bool) :
      Meddles w w' → Meddles w (w'.direct (Page.click h openInTab)).2

/-- **They cover nothing**, and take no time, report nothing and plan no faults. -/
structure Disturbed (w w' : World) : Prop where
  page : w.page.Leaves w'.page
  sightings : w'.sightings = w.sightings
  planned : w'.faults.planned = w.faults.planned
  clock : w'.clock = w.clock

theorem Disturbed.onward (h : w.Disturbed w') : w.Onward w' := .of_eq h.clock h.sightings

theorem Meddles.disturbed (h : w.Meddles w') : w.Disturbed w' := by
  -- a change past the faults does to the page what it does, and may be told
  have change : ∀ {w₁ : World} (op : Page.Op Nat) (always : Bool), w.Disturbed w₁ →
      w₁.page.Leaves (op.run.run w₁.page).2 → w.Disturbed (w₁.change op always).2 := by
    intro w₁ op always hw hop
    obtain ⟨told, heq⟩ := w₁.change_eq op always
    rw [heq]
    exact ⟨hw.page.trans hop, hw.sightings, hw.planned, hw.clock⟩
  induction h with
  | nothing => exact ⟨.refl _, rfl, rfl, rfl⟩
  | append parent trees _ ih => exact change _ true ih (Page.append_leaves parent trees _)
  | remove selector _ ih => exact change _ false ih (Page.remove_leaves selector _)
  | @select w₁ selector _ ih =>
    have hselects : w₁.page.Leaves ((Page.select none selector).run.run w₁.page).2 :=
      Page.perform_leaves (.query none selector) rfl _
    exact ⟨ih.page.trans hselects, ih.sightings, ih.planned, ih.clock⟩
  | @click w₁ h openInTab _ ih =>
    have hclicks : w₁.page.Leaves ((Page.click h openInTab).run.run w₁.page).2 :=
      Page.perform_leaves (.click h openInTab) rfl _
    exact ⟨ih.page.trans hclicks, ih.sightings, ih.planned, ih.clock⟩

/-- **A world a visit begins in**: a page as it can come to be, with nothing covered, and nothing
planned to fail. -/
structure Untouched (w : World) : Prop where
  reached : w.page.Reached
  hidden : w.page.hidden = []
  progress : w.page.progress = none
  planned : w.faults.planned = []
  sightings : w.sightings = []
  clock : w.clock = 0

theorem Untouched.covered (hw : w.Untouched) : w.page.CoveredBy w.page {} := by
  refine ⟨hw.reached.sound, ?_, fun h => ⟨h, hw.hidden, hw.progress⟩, .inr ⟨?_, .inl hw.progress⟩⟩
  · rw [hw.hidden]
    simp
  · rw [hw.hidden]
    simp

end World

namespace Browser
namespace Finder

variable {f : Finder} {url : String} {s : Scene} {x : Search} {p₀ : Page}

/-- **A scene in which the search tidies up** among others who leave the page open. -/
structure Tidies (x : Search) (p₀ : Page) (s : Scene) : Prop where
  task : s.task.Tidies x p₀ s.world
  others : ∀ v ∈ s.others, ∀ w : World, w.Meddles (v.act w)

/-- Others who leave the page open do not keep a search from tidying up. -/
theorem actOthers_tidies {t : Task} (vs : List Visitor)
    (hvs : ∀ v ∈ vs, ∀ w : World, w.Meddles (v.act w)) {w : World} (ht : t.Tidies x p₀ w) :
    t.Tidies x p₀ (actOthers vs w).2 := by
  induction vs generalizing w with
  | nil => exact ht
  | cons v rest ih =>
    unfold actOthers
    split
    · have hdisturbed := (hvs v List.mem_cons_self w).disturbed
      exact ih (fun u hu => hvs u (List.mem_cons_of_mem v hu))
        (ht.leaves hdisturbed.page hdisturbed.sightings hdisturbed.planned)
    · exact ht

/-- **From one point in time to the next** the search goes on tidying up. -/
theorem Tidies.instant (hs : Tidies x p₀ s) : Tidies x p₀ (f.instant url s) := by
  have hacted : s.task.Tidies x p₀ (f.act url s).2 := by
    rcases act_eq f url s with h | ⟨n, h⟩
    · rw [h]
      exact hs.task
    · rw [h]
      exact hs.task.leaves (.refl _) rfl rfl
  rcases instant_cases f url s with ⟨detected, -, hleft⟩ | ⟨s', rfl, -, hon⟩
  · rw [hleft]
    exact ⟨hacted, hs.others⟩
  · rw [hon]
    have hrun := (actOthers_tidies s.others hs.others hacted).run
    obtain ⟨-, hsub, -⟩ := actOthers_onward s.others
      (fun v hv w => (hs.others v hv w).disturbed.onward) (f.act url s).2
    exact ⟨hrun.leaves (.refl _) rfl rfl, fun v hv => hs.others v (hsub v hv)⟩

/-- **Stopping a search leaves covers as they are.** -/
theorem leave_leaves (url : String) (t : Task) (w : World) :
    w.page.Leaves (leave url t w).page := by
  unfold leave
  split
  · exact .refl _
  · exact .refl _
  · unfold Task.abort
    split
    · exact .refl _
    · split
      · exact .refl _
      · exact Page.updateMailbox_leaves _ _ _

/-- **A visit leaves its page tidy.** It comes to its end, and then no progress message is shown and
no element of the page is hidden, unless the rules closed the page, or the search was stopped amid a
handling because its time was up: nothing was reported and the budget was used up, or a dialog was
and the search went on to handle another. -/
theorem leaves_tidy (f : Finder) (url : String) (choice : Choice) {others : List Visitor}
    {w : World} (hpos : 0 < f.timeouts.detectionInterval) (hw : w.Untouched)
    (hothers : ∀ v ∈ others, ∀ w : World, w.Meddles (v.act w)) :
    (f.ending url choice others w).watch = .left (f.find url choice others w).1.detected ∧
    ((f.find url choice others w).2.page.Uncovered ∨
      w.page.closed = false ∧ (f.find url choice others w).2.page.closed = true ∨
      (∃ i, (f.ending url choice others w).task.state.stage = .handling i) ∧
        (f.ending url choice others w).task.isOver = false ∧
        (choice.flags f.flags).skipActions = false ∧
        ((f.find url choice others w).1.detected = none ∧
            f.timeouts.detectionBudget ≤ (f.find url choice others w).1.elapsed ∨
          (f.find url choice others w).1.detected ≠ none ∧ f.pace.keepObserving = true)) := by
  obtain ⟨hleft, -, hfounded⟩ := find_ends (f := f) url choice hpos hw.clock
    fun v hv w => (hothers v hv w).disturbed.onward
  refine ⟨hleft, ?_⟩
  have hbegin : Tidies (f.search choice) w.page
      { watch := .looking w.clock, others, task := .new (f.search choice), world := w } :=
    ⟨Task.tidies_new hw.covered hw.sightings hw.planned, hothers⟩
  have hend : Tidies (f.search choice) w.page (f.ending url choice others w) :=
    passTime_keeps (fun _ hs => Tidies.instant hs) f.instants hbegin
  have hstopped := leave_leaves url (f.ending url choice others w).task
    (f.ending url choice others w).world
  rcases hend.task.covered with hcovered | ⟨hover, i, hi, hskip, honce⟩
  · rcases (hcovered.leaves hstopped).uncovered with huncovered | hclosed
    · exact .inl huncovered
    · exact .inr (.inl hclosed)
  · refine .inr (.inr ⟨⟨i, hi⟩, hover, hskip, ?_⟩)
    rw [hleft, hover] at hfounded
    cases hdetected : (f.find url choice others w).1.detected with
    | none =>
      rw [hdetected] at hfounded
      exact .inl ⟨rfl, hfounded.resolve_left Bool.false_ne_true⟩
    | some vendor =>
      rw [hdetected] at hfounded
      refine .inr ⟨nofun, ?_⟩
      cases hk : f.pace.keepObserving with
      | true => rfl
      | false => exact absurd (honce hk) hfounded

/-! ### Visits to a page with a dialog -/

/-- The rules for a dialog: it is hidden, and then something is done about consent. -/
def banner (consent : Action) : Vendor where
  name := "banner"
  detectors := [⟨.css { selector := "#banner" }, .css { selector := "#banner" }⟩]
  methods := fun m =>
    if m = .hideCmp then some (.hide { selector := "#banner" })
    else if m = .doConsent then some consent else none

/-- A finder that has ten milliseconds, and five more after a report. -/
def hasty (vendors : List Vendor) (keepObserving : Bool) : Finder where
  vendors := vendors
  pace := { keepObserving := keepObserving }
  timeouts := { detectionBudget := 10, detectionInterval := 3, postDetectionWait := 5 }

/-- A visit of theirs. -/
def visit (f : Finder) (others : List Visitor) : VisitResult × World :=
  f.find "" .rejectAll others { page := Search.samplePage }

theorem untouched_sample : World.Untouched { page := Search.samplePage } := by
  have hreached : Search.samplePage.Reached := .ofTree _ _
  exact ⟨hreached, rfl, rfl, rfl, rfl, rfl⟩

/-- A dialog is handled in time, and taken out meanwhile: its element cannot be shown again, but it
is not in the page any more. -/
theorem sample_leaves_tidy :
    let others : List Visitor := [⟨4, fun w => (w.remove "#banner").2⟩]
    (visit (hasty [banner (.wait 7)] false) others).1.detected = some "banner" ∧
      (visit (hasty [banner (.wait 7)] false) others).2.page.hidden = [⟨0⟩] ∧
      (visit (hasty [banner (.wait 7)] false) others).2.page.Uncovered := by
  intro others
  have hothers : ∀ v ∈ others, ∀ w : World, w.Meddles (v.act w) := by
    intro v hv w
    rw [List.mem_singleton.1 hv]
    exact .remove "#banner" .nothing
  have hdetected : (visit (hasty [banner (.wait 7)] false) others).1.detected = some "banner" := by
    decide +kernel
  refine ⟨hdetected, by decide +kernel, ?_⟩
  rcases (leaves_tidy (hasty [banner (.wait 7)] false) "" .rejectAll (by decide) untouched_sample
    hothers).2 with huncovered | ⟨-, hclosed⟩ | ⟨-, -, -, ⟨hnone, -⟩ | ⟨-, hkeep⟩⟩
  · exact huncovered
  · have hopen : (visit (hasty [banner (.wait 7)] false) others).2.page.closed = false := by
      decide +kernel
    rw [visit, hclosed] at hopen
    cases hopen
  · rw [visit, hnone] at hdetected
    cases hdetected
  · cases hkeep

/-- **A visit may leave its page untidy**: where a handling takes longer than the budget, where
another dialog is being handled when the time after the first is up, and where the rules close the
page. -/
theorem leaves_untidy :
    let slow := banner (.wait 20)
    let quick : Vendor := { slow with name := "quick", methods := fun _ => none }
    World.Untouched { page := Search.samplePage } ∧
    (¬ (visit (hasty [slow] false) []).2.page.Uncovered ∧
      (visit (hasty [slow] false) []).1.detected = none) ∧
    (¬ (visit (hasty [quick, slow] true) []).2.page.Uncovered ∧
      (visit (hasty [quick, slow] true) []).1.detected = some "quick") ∧
    (¬ (visit (hasty [banner .close] false) []).2.page.Uncovered ∧
      (visit (hasty [banner .close] false) []).1.detected = some "banner") := by
  refine ⟨untouched_sample, ?_⟩
  decide +kernel

end Finder
end Browser
end ConsentWalker
