import ConsentWalker.Proofs.Walk.Bystander
import ConsentWalker.Proofs.Walk.Session
/-!
# Walk — vendors are isolated from one another

A vendor whose dialog is never found in a session might as well not be there. The scenes of a
session with it and of one without it are twins at every step (`Scene.Twins.step`): the tasks stand
at the same point, and the pages are the same but for the numbers of handles, since to ask for a
dialog gives some out. So the sessions come to the same (`Search.isolated`), up to one renumbering
of all handles.
-/

namespace ConsentWalker
namespace Task

open Search (Shifted Overlooks)

variable {t u : Task} {w w' : World} {before extra after : List Vendor}

/-- A task that is about to make a pass over the vendors. -/
def Passing (t : Task) : Prop :=
  t.state.stage = .detecting ∧ t.halt = .paused (t.search.step t.state)

/-- **Tasks that stand at the same point**, but for handles and for the vendors that one of them
knows more. -/
structure Twins (before extra after : List Vendor) (t u : Task) (w w' : World) : Prop where
  worlds : w.Twins w'
  adds : t.search.Adds u.search before extra after
  state : t.state = u.state.shift before.length extra.length
  ended : t.ended = u.ended
  halt : t.Passing ∧ u.Passing ∨
    t.halt.Twin (Shifted before.length extra.length) (w.tables w') u.halt

namespace Twins

theorem isOver_eq (h : Twins before extra after t u w w') : t.isOver = u.isOver :=
  congrArg Option.isSome h.ended

theorem tried_eq (h : Twins before extra after t u w w') : t.state.tried = u.state.tried := by
  rw [h.state]
  rfl

theorem handled_eq (h : Twins before extra after t u w w') : t.state.handled = u.state.handled := by
  rw [h.state]
  rfl

theorem observer_eq (h : Twins before extra after t u w w') :
    t.state.observer = u.state.observer := by
  rw [h.state]
  rfl

/-- **Where the two stand at the same wait they are ready at the same time**, to do the same. -/
theorem ready? (hw : w.Twins w') (hended : t.ended = u.ended)
    (hhalt : t.halt.Twin (Shifted before.length extra.length) (w.tables w') u.halt) :
    (t.ready? w = none ∧ u.ready? w' = none) ∨ ∃ r r' w₁ w₁',
      t.ready? w = some (r, w₁) ∧ u.ready? w' = some (r', w₁') ∧ w₁.Twins w₁' ∧
        w.tables w' = w₁.tables w₁' ∧
        r.Twin (Shifted before.length extra.length) (w.tables w') r' := by
  have hover : t.isOver = u.isOver := congrArg Option.isSome hended
  cases hu : u.isOver with
  | true => exact .inl ⟨ready?_over (hover.trans hu), ready?_over hu⟩
  | false =>
    unfold Task.ready?
    rw [hover, hu]
    generalize t.halt = halt at hhalt
    generalize u.halt = halt' at hhalt
    cases hhalt with
    | finished => exact .inl ⟨rfl, rfl⟩
    | sleeping wake hnext =>
      by_cases hwake : wake ≤ w.clock
      · have hwake' : wake ≤ w'.clock := hw.clock ▸ hwake
        exact .inr ⟨_, _, w, w', if_pos hwake, if_pos hwake', hw, rfl, hnext⟩
      · have hwake' : ¬ wake ≤ w'.clock := hw.clock ▸ hwake
        exact .inl ⟨if_neg hwake, if_neg hwake'⟩
    | paused hnext => exact .inr ⟨_, _, w, w', rfl, rfl, hw, rfl, hnext⟩
    | waiting o hnext =>
      rcases hw.collect? o with ⟨hnone, hnone'⟩ | ⟨records, w₁, w₁', hsome, hsome', htwins, htables⟩
      · refine .inl ⟨?_, ?_⟩
        · change (w.collect? o).map _ = none
          rw [hnone]
          rfl
        · change (w'.collect? o).map _ = none
          rw [hnone']
          rfl
      · refine .inr ⟨_, _, w₁, w₁', ?_, ?_, htwins, htables, hnext records⟩
        · change (w.collect? o).map _ = _
          rw [hsome]
          rfl
        · change (w'.collect? o).map _ = _
          rw [hsome']
          rfl

/-- **Who lands at the same point stands at the same point.** -/
theorem follow (hadds : t.search.Adds u.search before extra after)
    (hstate : t.state = u.state.shift before.length extra.length) (hended : t.ended = u.ended)
    {r r' : Routine Search.Next} {w₀ w₀' : World}
    (hlands : World.Lands (Shifted before.length extra.length) w₀ w₀' (w.go r) (w'.go r')) :
    Twins before extra after (t.follow 1 r w).1 (u.follow 1 r' w').1 (t.follow 1 r w).2
      (u.follow 1 r' w').2 := by
  unfold Task.follow
  generalize w.go r = x at hlands
  generalize w'.go r' = y at hlands
  obtain ⟨halt, w₁⟩ := x
  obtain ⟨halt', w₁'⟩ := y
  obtain ⟨htwins, -, hhalt⟩ := hlands
  cases hhalt with
  | @finished next next' hsame =>
    obtain rfl : next = next'.shift before.length extra.length := hsame
    cases next' with
    | stop outcome =>
      have hclock : w₁.clock = w₁'.clock := htwins.clock
      refine ⟨htwins, hadds, hstate, ?_, .inr (.finished rfl)⟩
      change some (outcome, w₁.clock) = some (outcome, w₁'.clock)
      rw [hclock]
    | goOn s =>
      refine ⟨htwins.having_tried s.tried, hadds, rfl, hended, ?_⟩
      by_cases hs : s.stage = .detecting
      · refine .inl ⟨⟨?_, rfl⟩, hs, rfl⟩
        change s.stage.shift before.length extra.length = .detecting
        rw [hs]
        rfl
      · exact .inr (.paused (Search.step_twin hadds hs))
  | sleeping wake hnext => exact ⟨htwins, hadds, hstate, hended, .inr (.sleeping wake hnext)⟩
  | paused hnext => exact ⟨htwins, hadds, hstate, hended, .inr (.paused hnext)⟩
  | waiting o hnext => exact ⟨htwins, hadds, hstate, hended, .inr (.waiting o hnext)⟩

/-- **A turn keeps tasks at the same point**, if the vendors that one of them knows more are
overlooked when it makes a pass. -/
theorem turn (h : Twins before extra after t u w w')
    (hover : t.isOver = false → t.Passing → Overlooks before extra t.state.tried w) :
    Twins before extra after (t.turn w).1 (u.turn w').1 (t.turn w).2 (u.turn w').2 := by
  obtain ⟨hw, hadds, hstate, hended, hhalt⟩ := h
  rcases hhalt with ⟨hpass, hpass'⟩ | hhalt
  · have hsame : t.isOver = u.isOver := congrArg Option.isSome hended
    cases hu : u.isOver with
    | true =>
      unfold Task.turn
      rw [ready?_over (hsame.trans hu), ready?_over hu]
      exact ⟨hw, hadds, hstate, hended, .inl ⟨hpass, hpass'⟩⟩
    | false =>
      have hready : t.ready? w = some (t.search.step t.state, w) := by
        unfold Task.ready?
        rw [hsame, hu, hpass.2]
        rfl
      have hready' : u.ready? w' = some (u.search.step u.state, w') := by
        unfold Task.ready?
        rw [hu, hpass'.2]
        rfl
      have hoverlooks : Overlooks before extra u.state.tried w := by
        have := hover (hsame.trans hu) hpass
        rwa [hstate] at this
      unfold Task.turn
      rw [hready, hready', hstate]
      exact follow hadds hstate hended
        (Search.step_lands_overlooking hadds hpass'.1 hw hoverlooks)
  · rcases Twins.ready? hw hended hhalt with ⟨hnone, hnone'⟩ |
      ⟨r, r', w₁, w₁', hsome, hsome', htwins, htables, hnext⟩
    · unfold Task.turn
      rw [hnone, hnone']
      exact ⟨hw, hadds, hstate, hended, .inr hhalt⟩
    · unfold Task.turn
      rw [hsome, hsome']
      exact follow hadds hstate hended
        (htwins.go hnext (fun _ _ _ _ _ h => h) (le_of_eq htables))

/-- **They are ready at the same time.** -/
theorem isSome_ready?_eq (h : Twins before extra after t u w w') :
    (t.ready? w).isSome = (u.ready? w').isSome := by
  obtain ⟨hw, hadds, hstate, hended, hhalt⟩ := h
  rcases hhalt with ⟨hpass, hpass'⟩ | hhalt
  · have hsame : t.isOver = u.isOver := congrArg Option.isSome hended
    unfold Task.ready?
    rw [hsame, hpass.2, hpass'.2]
    cases u.isOver <;> rfl
  · rcases Twins.ready? hw hended hhalt with ⟨hnone, hnone'⟩ | ⟨r, r', w₁, w₁', hsome, hsome', -⟩
    · rw [hnone, hnone']
    · rw [hsome, hsome']
      rfl

/-- **They wake at the same time.** -/
theorem wakesBy_eq (h : Twins before extra after t u w w') (time : Nat) :
    t.wakesBy time = u.wakesBy time := by
  have halarm : t.alarm? = u.alarm? := by
    unfold alarm?
    rcases h.halt with ⟨hpass, hpass'⟩ | hhalt
    · rw [hpass.2, hpass'.2]
    · generalize t.halt = halt at hhalt
      generalize u.halt = halt' at hhalt
      cases hhalt <;> rfl
  unfold wakesBy
  rw [h.isOver_eq, halarm]

/-- They stay at the same point while the world changes in the same way. -/
theorem changed (h : Twins before extra after t u w w') {w₁ w₁' : World} (hw : w₁.Twins w₁')
    (hle : w.tables w' ≤ w₁.tables w₁') : Twins before extra after t u w₁ w₁' :=
  ⟨hw, h.adds, h.state, h.ended, h.halt.imp id fun hhalt =>
    hhalt.mono (fun _ _ _ _ _ h => h) hle⟩

/-- A task that has not begun stands at the same point with vendors more. -/
theorem new (hw : w.Twins w') {x y : Search} (hadds : x.Adds y before extra after) :
    Twins before extra after (.new x) (.new y) w w' :=
  ⟨hw, hadds, rfl, rfl, .inr (.paused (Search.look_twin rfl))⟩

end Twins
end Task

/-! ## Sessions -/

/-- **What others do they do to both.** -/
theorem World.Twins.deed {w w' : World} (hw : w.Twins w') (d : Deed) :
    (d.act w).Twins (d.act w') ∧ w.tables w' ≤ (d.act w).tables (d.act w') := by
  cases d with
  | append parent trees => exact hw.change true (Page.append_twin parent trees)
  | remove selector => exact hw.change false (Page.remove_twin selector)
  | close => exact hw.direct (Page.answer_twin .close)
  | click selector => exact hw.direct (Page.clickFirst_twin selector)
  | look => exact ⟨hw, le_refl _⟩

namespace Scene

variable {s s' : Scene} {before extra after : List Vendor} {deadline : Nat}

/-- **A scene at which some vendors are overlooked**, if a pass over the vendors begins there. -/
def Overlooks (before extra : List Vendor) (s : Scene) : Prop :=
  s.task.isOver = false → s.task.Passing → Search.Overlooks before extra s.task.state.tried s.world

/-- Scenes whose tasks stand at the same point, and at which others will do the same. -/
structure Twins (before extra after : List Vendor) (s s' : Scene) : Prop where
  others : s.others = s'.others
  task : Task.Twins before extra after s.task s'.task s.world s'.world

/-- **What happens next happens in both**, if the vendors that one of them knows more are
overlooked. -/
theorem Twins.step (h : s.Twins before extra after s') (hover : s.Overlooks before extra) :
    (s.step deadline).Twins before extra after (s'.step deadline) := by
  obtain ⟨t, w, others⟩ := s
  obtain ⟨u, w', others'⟩ := s'
  obtain ⟨hothers, htask⟩ := h
  obtain rfl : others = others' := hothers
  dsimp only at htask
  have hclock : w.clock = w'.clock := htask.worlds.clock
  have hgoOn : ∀ time, (Scene.goOn ⟨t, w, others⟩ time).Twins before extra after
      (Scene.goOn ⟨u, w', others⟩ time) := by
    intro time
    unfold goOn
    dsimp only
    rw [htask.isSome_ready?_eq]
    split
    · exact ⟨rfl, htask.turn hover⟩
    · rw [htask.wakesBy_eq]
      exact ⟨rfl, htask.changed (htask.worlds.at_clock _) (le_refl _)⟩
  unfold Scene.step
  cases others with
  | nil =>
    dsimp only
    rw [htask.isOver_eq, hclock]
    split
    · exact ⟨rfl, htask⟩
    · exact hgoOn deadline
  | cons e rest =>
    obtain ⟨time, d⟩ := e
    dsimp only
    rw [hclock]
    split
    · obtain ⟨hdone, hgrow⟩ := htask.worlds.deed d
      exact ⟨rfl, htask.changed hdone hgrow⟩
    · exact hgoOn time

/-- **So it goes on as long as they are overlooked.** -/
theorem Twins.steps (h : s.Twins before extra after s') (n : Nat)
    (hover : ∀ k < n, ((Scene.step deadline)^[k] s).Overlooks before extra) :
    ((Scene.step deadline)^[n] s).Twins before extra after ((Scene.step deadline)^[n] s') := by
  induction n with
  | zero => exact h
  | succ n ih =>
    rw [Function.iterate_succ_apply', Function.iterate_succ_apply']
    exact (ih fun k hk => hover k (Nat.lt_succ_of_lt hk)).step (hover n (Nat.lt_succ_self n))

end Scene

/-! ### What they come to -/

/-- **Worlds that agree up to a renumbering of handles** that takes each to that of the same node:
in the page with its checked states and its message, in what was recorded of it, and in the reports
that were made, each with what could be seen then. -/
structure World.Agrees (ρ : Equiv.Perm Handle) (w w' : World) : Prop where
  follows : (w.tables w').Follows ρ
  clock : w.clock = w'.clock
  tried : w.tried = w'.tried
  root : w.page.root = w'.page.root
  checked : ∀ place, w.page.isCheckedAt place = w'.page.isCheckedAt place
  progress : w.page.progress = w'.page.progress
  closed : w.page.closed = w'.page.closed
  observers : w.page.observerCount = w'.page.observerCount
  events : w'.page.events = w.page.events.map (PageEvent.renumber ρ)
  painted : w'.page.painted = w.page.painted.map fun x => (ρ x.1, x.2)
  hidden : ∀ h, ρ h ∈ w'.page.hidden ↔ h ∈ w.page.hidden
  sightings : List.Forall₂ (fun s s' => s.vendor = s'.vendor ∧ s.time = s'.time ∧
    s.progress = s'.progress ∧ s.tried = s'.tried ∧ ∀ h, ρ h ∈ s'.hidden ↔ h ∈ s.hidden)
      w.sightings w'.sightings

/-- Twins agree. -/
theorem World.Twins.agrees {w w' : World} (hw : w.Twins w') : ∃ ρ, w.Agrees ρ w' := by
  obtain ⟨ρ, hρ⟩ :=
    Tables.exists_renumbering (L := w.tables w') hw.page.sound.named hw.page.sound'.named
  refine ⟨ρ, hρ, hw.clock, hw.tried, hw.page.root_eq, hw.page.isCheckedAt_eq, hw.page.progress_eq,
    hw.page.closed_eq, ?_, hρ.events_eq hw.page.events, hρ.marks_eq hw.page.painted,
    hρ.mem_iff hw.page.hidden, ?_⟩
  · unfold Page.observerCount
    rw [hw.page.mailboxes_eq]
  · exact hw.sightings.imp fun s s' hs =>
      ⟨hs.vendor, hs.time, hs.progress, hs.tried, hρ.mem_iff hs.hidden⟩

/-- **Sessions that come to the same**: their searches tried and handled the same and ended the same
way at the same time, if they ended, and their worlds agree. -/
structure Task.Agrees (x y : Task × World) : Prop where
  ended : x.1.ended = y.1.ended
  tried : x.1.state.tried = y.1.state.tried
  handled : x.1.state.handled = y.1.state.handled
  worlds : ∃ ρ, x.2.Agrees ρ y.2

namespace Task

variable {t u : Task} {w w' : World} {before extra after : List Vendor}

/-- Tasks that stand at the same point are stopped in the same way. -/
theorem Twins.abort (h : Twins before extra after t u w w') : (t.abort w).Twins (u.abort w') := by
  unfold Task.abort
  rw [h.isOver_eq, h.observer_eq]
  split
  · exact h.worlds
  · split
    · exact h.worlds
    · exact h.worlds.drop _

/-- **Sessions come to the same as long as the vendors that one search knows more are
overlooked.** -/
theorem visit_agrees {x y : Search} (hx : x.Adds y before extra after) (hw : w.Twins w')
    (others : List (Nat × Deed)) (deadline : Nat)
    (hover : ∀ n, ((Scene.step deadline)^[n] ⟨.new x, w, others⟩).Overlooks before extra) :
    Agrees ((Task.new x).visit w others deadline) ((Task.new y).visit w' others deadline) := by
  obtain ⟨s, ⟨n, hs⟩, hfinal, hvisit⟩ :=
    Scene.comes_visit (.starting rfl rfl rfl : AtRest x (.new x) w) others deadline
  obtain ⟨s', ⟨m, hs'⟩, hfinal', hvisit'⟩ :=
    Scene.comes_visit (.starting rfl rfl rfl : AtRest y (.new y) w') others deadline
  -- after so many steps nothing happens in either any more
  have htwins : s.Twins before extra after s' := by
    have hstart : Scene.Twins before extra after ⟨.new x, w, others⟩ ⟨.new y, w', others⟩ :=
      ⟨rfl, .new hw hx⟩
    have hboth := hstart.steps (n + m) fun k _ => hover k
    have hstays : (Scene.step deadline)^[m] s = s := Function.iterate_fixed hfinal m
    have hstays' : (Scene.step deadline)^[n] s' = s' := Function.iterate_fixed hfinal' n
    rw [Nat.add_comm n m, Function.iterate_add_apply, hs, hstays, Nat.add_comm m n,
      Function.iterate_add_apply, hs', hstays'] at hboth
    exact hboth
  have htask := htwins.task
  rw [hvisit, hvisit']
  exact ⟨htask.ended, htask.tried_eq, htask.handled_eq, htask.abort.agrees⟩

end Task

namespace Catalog

/-- The vendors of a catalog are those of its entries. -/
theorem vendors_append (es es' : List (String × Json)) :
    vendors ⟨es ++ es'⟩ = vendors ⟨es⟩ ++ vendors ⟨es'⟩ := by
  unfold vendors build
  rw [List.map_append, List.filterMap_append]

/-- An entry that cannot be read makes no vendor. -/
theorem vendors_refused (before after : List (String × Json)) {name : String} {node : Json}
    {e : RuleError} (he : (Vendor.read name node).answer = .error e) :
    vendors ⟨before ++ (name, node) :: after⟩ = vendors ⟨before ++ after⟩ := by
  have hcons : vendors ⟨(name, node) :: after⟩ = vendors ⟨after⟩ := by
    unfold vendors build
    rw [List.map_cons, List.filterMap_cons_none]
    dsimp only
    rw [he]
    rfl
  rw [vendors_append, vendors_append, hcons]

end Catalog

namespace Search

/-- **Vendors are isolated from one another.** On a page without faults, amid whatever others do and
up to whatever deadline, it makes no difference whether a search knows a vendor more, wherever it
stands among the others, as long as no detector of that vendor says that its dialog is in the page
whenever it is asked; nor does an entry of a catalog that cannot be read. The session with it and
the one without it try and handle the same, end in the same way at the same time, make the same
reports at the same times and, up to one renumbering of all handles, do the same to the page. -/
theorem isolated {p : Page} (hp : p.Reached) (setting : Setting) (told told' : List Notice)
    (others : List (Nat × Deed)) (deadline : Nat) :
    (∀ (before after : List Vendor) (v : Vendor),
      (∀ n, ((Scene.step deadline)^[n] ⟨.new ⟨before ++ v :: after, setting⟩,
        { page := p, told := told }, others⟩).Overlooks before [v]) →
      Task.Agrees
        ((Task.new ⟨before ++ v :: after, setting⟩).visit
          { page := p, told := told } others deadline)
        ((Task.new ⟨before ++ after, setting⟩).visit
          { page := p, told := told' } others deadline)) ∧
    ∀ (before after : List (String × Json)) (name : String) (node : Json) (e : RuleError),
      (Vendor.read name node).answer = .error e →
      Task.Agrees
        ((Task.new ⟨Catalog.vendors ⟨before ++ (name, node) :: after⟩, setting⟩).visit
          { page := p, told := told } others deadline)
        ((Task.new ⟨Catalog.vendors ⟨before ++ after⟩, setting⟩).visit
          { page := p, told := told' } others deadline) := by
  have hw : World.Twins { page := p, told := told } { page := p, told := told' } :=
    ⟨hp.twins, rfl, rfl, rfl, rfl, .nil⟩
  refine ⟨fun before after v hover => ?_, fun before after name node e he => ?_⟩
  · have hadds : Adds ⟨before ++ v :: after, setting⟩ ⟨before ++ after, setting⟩ before [v] after :=
      ⟨rfl, rfl, rfl⟩
    exact Task.visit_agrees hadds hw others deadline hover
  · rw [Catalog.vendors_refused before after he]
    let x : Search := ⟨Catalog.vendors ⟨before ++ after⟩, setting⟩
    have hadds : x.Adds x [] [] x.vendors := ⟨rfl, rfl, rfl⟩
    exact Task.visit_agrees hadds hw others deadline fun _ _ _ => trivial

/-! ### A stranger -/

/-- A vendor that asks for a text that is not in the page. -/
def stranger : Vendor where
  name := "stranger"
  detectors :=
    [⟨.css { selector := "p", textFilter := some (.one "offer") }, .css { selector := "p" }⟩]

/-- A page without a dialog, into which others put one. -/
def plainPage : Page :=
  .ofTree (.node .document [.node (.element { name := "body" })
    [.node (.element { name := "p" }) [.node (.text "Hello") []]]]) false

def bannerLater : List (Nat × Deed) :=
  [(100, .append "body" [.node (.element { name := "div", attributes := [("id", "banner")] }) []])]

/-- The scenes of a session of a search that knows the stranger. -/
def strangerScene (n : Nat) : Scene :=
  (Scene.step 1000)^[n] ⟨.new ⟨stranger :: sample.vendors, {}⟩, { page := plainPage }, bannerLater⟩

/-- In all of them the stranger is overlooked: after fifteen the search is over. -/
theorem stranger_overlooked (n : Nat) : (strangerScene n).Overlooks [] [stranger] := by
  have hearly : ∀ n < 15, (strangerScene n).task.state.stage = .detecting → Overlooks [] [stranger]
      (strangerScene n).task.state.tried (strangerScene n).world := by decide +kernel
  intro hgoes hpass
  by_cases hn : n < 15
  · exact hearly n hn hpass.1
  · have hothers : (strangerScene 15).others = [] :=
      List.eq_nil_of_length_eq_zero (by decide +kernel)
    have hover : (strangerScene 15).task.isOver = true := by decide +kernel
    have hlater : strangerScene n = strangerScene 15 := by
      obtain ⟨k, rfl⟩ := Nat.exists_eq_add_of_le' (Nat.le_of_not_lt hn)
      have hstays : (strangerScene 15).step 1000 = strangerScene 15 := Scene.step_over hothers hover
      exact (Function.iterate_add_apply _ k 15 _).trans (Function.iterate_fixed hstays k)
    rw [hlater, hover] at hgoes
    cases hgoes

/-- The rules of a vendor whose dialog is in the page as long as the banner is. -/
def bannerRules : Json :=
  let banner : Json :=
    .object [("type", .string "css"), ("target", .object [("selector", .string "#banner")])]
  .object [("detectors", .array [.object [("presentMatcher", banner), ("showingMatcher", banner)]])]

/-- The stranger gets the first handle that is given out, so that the handles of the others are
numbered differently; but for that both sessions handle the dialog that others put into the page, at
the same time. So do the sessions of a catalog with an entry that cannot be read and of the one
without it. -/
theorem sample_isolated :
    let session := fun vendors =>
      (Task.new ⟨vendors, {}⟩).visit { page := plainPage } bannerLater 1000
    let strange := session (stranger :: sample.vendors)
    let plain := session sample.vendors
    let refused := session (Catalog.vendors ⟨[("stranger", .null), ("banner", bannerRules)]⟩)
    let accepted := session (Catalog.vendors ⟨[("banner", bannerRules)]⟩)
    strange.1.ended = some (.ok ⟨["banner"], ["banner"]⟩, 100) ∧
      PageEvent.hidden ⟨2⟩ true ∈ strange.2.page.events ∧
        PageEvent.hidden ⟨1⟩ true ∈ plain.2.page.events ∧
      Task.Agrees strange plain ∧
      refused.1.ended = some (.ok ⟨["banner"], ["banner"]⟩, 100) ∧
        Task.Agrees refused accepted := by
  have hpage : plainPage.Reached := .ofTree _ _
  have hisolated := isolated hpage {} [] [] bannerLater 1000
  refine ⟨by decide +kernel, by decide +kernel, by decide +kernel, ?_, by decide +kernel, ?_⟩
  · exact hisolated.1 [] sample.vendors stranger stranger_overlooked
  · exact hisolated.2 [] [("banner", bannerRules)] "stranger" .null
      (.missingField "cmp" "detectors") rfl

end Search
end ConsentWalker
