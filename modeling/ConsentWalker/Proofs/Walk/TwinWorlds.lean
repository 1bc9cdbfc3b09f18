import ConsentWalker.Proofs.Walk.TwinSteps
import ConsentWalker.Proofs.Walk.Vigil
/-!
# Walk — worlds whose pages are twins

In worlds whose pages are twins (`World.Twins`) routines that do the same run on to the same wait or
the same end, and leave twins behind (`Twins.go`). What others do to both pages keeps them twins
too.
-/

namespace ConsentWalker

/-- Reports that are the same but for handles. -/
structure Sighting.Links (L : Tables) (s s' : Sighting) : Prop where
  vendor : s.vendor = s'.vendor
  time : s.time = s'.time
  progress : s.progress = s'.progress
  hidden : L.LinksAll s.hidden s'.hidden
  tried : s.tried = s'.tried

theorem Sighting.Links.mono {L M : Tables} {s s' : Sighting} (h : s.Links L s') (hle : L ≤ M) :
    s.Links M s' :=
  ⟨h.vendor, h.time, h.progress, h.hidden.mono hle, h.tried⟩

namespace World

variable {α β : Type} {w w' w₁ w₁' : World} {R : Tables → α → β → Prop} {L : Tables}

/-- The handles of the pages of two worlds. -/
def tables (w w' : World) : Tables := w.page.tables w'.page

/-- **Worlds without faults that are the same but for handles**, and for what was told. -/
structure Twins (w w' : World) : Prop where
  page : w.page.Twins w'.page
  planned : w.faults.planned = []
  planned' : w'.faults.planned = []
  clock : w.clock = w'.clock
  tried : w.tried = w'.tried
  sightings : List.Forall₂ (Sighting.Links (w.tables w')) w.sightings w'.sightings

namespace Twins

/-- Twins whose pages became others, with more handles. -/
theorem of_page (h : w.Twins w') {faults faults' : Faults} {page page' : Page}
    {told told' : List Notice} (hpage : page.Twins page') (hgrow : w.tables w' ≤ page.tables page')
    (hplanned : faults.planned = []) (hplanned' : faults'.planned = []) :
    ({ w with page := page, faults := faults, told := told } : World).Twins
      { w' with page := page', faults := faults', told := told' } :=
  ⟨hpage, hplanned, hplanned', h.clock, h.tried, h.sightings.imp fun _ _ hs => hs.mono hgrow⟩

/-- **Calls that are linked are answered alike.** -/
theorem perform (h : w.Twins w') {c d : Call} (hl : c.Links (w.tables w') d) :
    (w.perform c).2.Twins (w'.perform d).2 ∧
      w.tables w' ≤ (w.perform c).2.tables (w'.perform d).2 ∧
      Call.Answered ((w.perform c).2.tables (w'.perform d).2) c d (w.perform c).1
        (w'.perform d).1 := by
  have hlands := Page.answer_twin hl w.page w'.page h.page (le_refl _)
  obtain ⟨faults, hplanned, hc⟩ := perform_run h.planned c
  obtain ⟨faults', hplanned', hd⟩ := perform_run h.planned' d
  rw [hc, hd]
  refine ⟨h.of_page hlands.twins hlands.grow hplanned hplanned', hlands.grow, hlands.paired, ?_⟩
  rintro rfl
  exact ⟨_, rfl⟩

/-- **Who collects learns the same.** -/
theorem collect? (h : w.Twins w') (o : Observer) :
    (w.collect? o = none ∧ w'.collect? o = none) ∨ ∃ records w₁ w₁',
      w.collect? o = some (records, w₁) ∧ w'.collect? o = some (records, w₁') ∧ w₁.Twins w₁' ∧
        w.tables w' = w₁.tables w₁' := by
  rcases collect?_agree (h.page.mailbox_eq o) with
    hnone | ⟨records, ⟨hsome, hsome'⟩ | ⟨hsome, hsome'⟩⟩
  · exact .inl hnone
  · exact .inr ⟨records, w, w', hsome, hsome', h, rfl⟩
  · refine .inr ⟨records, _, _, hsome, hsome', ?_, rfl⟩
    exact h.of_page (h.page.updateMailbox o _) (le_refl _) h.planned h.planned'

theorem tell (h : w.Twins w') (n n' : Notice) : (w.tell n).Twins (w'.tell n') :=
  h.of_page h.page (le_refl _) h.planned h.planned'

/-- What is told in one of them is told. -/
theorem tell_left (h : w.Twins w') (n : Notice) : (w.tell n).Twins w' :=
  h.of_page h.page (le_refl _) h.planned h.planned'

theorem drop (h : w.Twins w') (o : Observer) : (w.drop o).Twins (w'.drop o) :=
  h.of_page (h.page.updateMailbox o _) (le_refl _) h.planned h.planned'

theorem sight (h : w.Twins w') (vendor : String) : (w.sight vendor).Twins (w'.sight vendor) where
  page := h.page
  planned := h.planned
  planned' := h.planned'
  clock := h.clock
  tried := h.tried
  sightings := List.rel_append h.sightings
    (.cons ⟨rfl, h.clock, h.page.progress_eq, h.page.hidden, h.tried⟩ .nil)

theorem at_clock (h : w.Twins w') (time : Nat) :
    ({ w with clock := time } : World).Twins { w' with clock := time } :=
  ⟨h.page, h.planned, h.planned', rfl, h.tried, h.sightings⟩

theorem having_tried (h : w.Twins w') (tried : List String) :
    ({ w with tried := tried } : World).Twins { w' with tried := tried } :=
  ⟨h.page, h.planned, h.planned', h.clock, rfl, h.sightings⟩

/-! ### Changes by others -/

/-- What somebody else does to both pages does the same to twins. -/
theorem direct (h : w.Twins w') {op : Page.Op α} {op' : Page.Op β}
    (hop : Page.Op.Twin R (w.tables w') op op') :
    (w.direct op).2.Twins (w'.direct op').2 ∧
      w.tables w' ≤ (w.direct op).2.tables (w'.direct op').2 := by
  have hlands := hop w.page w'.page h.page (le_refl _)
  exact ⟨h.of_page hlands.twins hlands.grow h.planned h.planned', hlands.grow⟩

/-- A change by somebody else does the same to twins, and is told to the same observers. -/
theorem change (h : w.Twins w') {op : Page.Op Nat} (always : Bool)
    (hop : Page.Op.Twin (fun _ => (· = ·)) (w.tables w') op op) :
    (w.change op always).2.Twins (w'.change op always).2 ∧
      w.tables w' ≤ (w.change op always).2.tables (w'.change op always).2 := by
  have hlands := hop w.page w'.page h.page (le_refl _)
  obtain ⟨told, hw⟩ := World.change_eq w op always
  obtain ⟨told', hw'⟩ := World.change_eq w' op always
  rw [hw, hw']
  exact ⟨h.of_page hlands.twins hlands.grow h.planned h.planned', hlands.grow⟩

end Twins
end World

/-! ## Running on -/

/-- **Waits and ends that are the same**, from some tables of handles on. -/
inductive Halt.Twin {α β : Type} (R : Tables → α → β → Prop) (L : Tables) :
    Halt α → Halt β → Prop where
  | finished {a : α} {b : β} : R L a b → Twin R L (.finished a) (.finished b)
  | sleeping {next : Routine α} {next' : Routine β} (wake : Nat) : next.Twin R L next' →
      Twin R L (.sleeping wake next) (.sleeping wake next')
  | paused {next : Routine α} {next' : Routine β} : next.Twin R L next' →
      Twin R L (.paused next) (.paused next')
  | waiting {next : Option Nat → Routine α} {next' : Option Nat → Routine β} (o : Observer) :
      (∀ records, (next records).Twin R L (next' records)) →
      Twin R L (.waiting o next) (.waiting o next')

/-- Halts that pair still do after more handles were given out. -/
theorem Halt.Twin.mono {α β : Type} {R : Tables → α → β → Prop} {L M : Tables} {halt : Halt α}
    {halt' : Halt β} (h : halt.Twin R L halt') (hR : Routine.Lasts R) (hle : L ≤ M) :
    halt.Twin R M halt' := by
  cases h with
  | finished hab => exact .finished (hR _ _ _ _ hle hab)
  | sleeping wake hnext => exact .sleeping wake (hnext.mono hR hle)
  | paused hnext => exact .paused (hnext.mono hR hle)
  | waiting o hnext => exact .waiting o fun records => (hnext records).mono hR hle

namespace World

variable {α β : Type} {w w' : World} {R : Tables → α → β → Prop} {L : Tables}

/-- What running on comes to in two worlds: twins with more handles, and waits or ends that are the
same. -/
structure Lands (R : Tables → α → β → Prop) (w w' : World) (x : Halt α × World)
    (y : Halt β × World) : Prop where
  twins : x.2.Twins y.2
  grow : w.tables w' ≤ x.2.tables y.2
  halt : x.1.Twin R (x.2.tables y.2) y.1

theorem Lands.later {w₁ w₁' : World} {x : Halt α × World} {y : Halt β × World}
    (h : Lands R w₁ w₁' x y) (hle : w.tables w' ≤ w₁.tables w₁') : Lands R w w' x y :=
  ⟨h.twins, le_trans hle h.grow, h.halt⟩

/-- **Routines that do the same to twins run on to the same.** -/
theorem Twins.go (hw : w.Twins w') {r : Routine α} {r' : Routine β} (h : r.Twin R L r')
    (hR : Routine.Lasts R) (hle : L ≤ w.tables w') : Lands R w w' (w.go r) (w'.go r') := by
  induction h generalizing w w' with
  | done hab => exact ⟨hw, le_refl _, .finished (hR _ _ _ _ hle hab)⟩
  | @call L c d next next' hl _ ih =>
    obtain ⟨hafter, hgrow, hanswered⟩ := hw.perform (hl.mono hle)
    rw [go_call, go_call]
    exact (ih _ _ _ (le_trans hle hgrow) hanswered hafter (le_refl _)).later hgrow
  | note n n' _ ih => exact (ih (hw.tell n n') hle).later (le_refl _)
  | @sleep L next next' time h ih =>
    cases time with
    | zero => exact (ih hw hle).later (le_refl _)
    | succ time =>
      have hwake : w.clock + (time + 1) = w'.clock + (time + 1) :=
        congrArg (· + (time + 1)) hw.clock
      refine ⟨hw, le_refl _, ?_⟩
      change Halt.Twin R (w.tables w') (.sleeping (w.clock + (time + 1)) next)
        (.sleeping (w'.clock + (time + 1)) next')
      rw [hwake]
      exact .sleeping _ (h.mono hR hle)
  | pause h _ => exact ⟨hw, le_refl _, .paused (h.mono hR hle)⟩
  | await o h ih =>
    rcases hw.collect? o with ⟨hnone, hnone'⟩ | ⟨records, w₁, w₁', hsome, hsome', htwins, htables⟩
    · rw [go_await_none hnone, go_await_none hnone']
      exact ⟨hw, le_refl _, .waiting o fun records => (h records).mono hR hle⟩
    · rw [go_await_some hsome, go_await_some hsome']
      exact (ih records htwins (htables ▸ hle)).later (le_of_eq htables)
  | drop o _ ih => exact (ih (hw.drop o) hle).later (le_refl _)
  | report v _ ih => exact (ih (hw.sight v) hle).later (le_refl _)

/-! ## Looking -/

/-- What two routines come to in two worlds: twins with more handles, and values that are
related. -/
structure Comes (R : Tables → α → β → Prop) (w w' : World) (x : α × World) (y : β × World) :
    Prop where
  twins : x.2.Twins y.2
  grow : w.tables w' ≤ x.2.tables y.2
  value : R (x.2.tables y.2) x.1 y.1

theorem Comes.later {w₁ w₁' : World} {x : α × World} {y : β × World} (h : Comes R w₁ w₁' x y)
    (hle : w.tables w' ≤ w₁.tables w₁') : Comes R w w' x y :=
  ⟨h.twins, le_trans hle h.grow, h.value⟩

/-- Looking comes to the same, and leaves twins. -/
theorem Twins.alone (hw : w.Twins w') {r : Routine α} {r' : Routine β} (h : r.Twin R L r')
    (hlooks : r.Only Act.IsLook) (hlooks' : r'.Only Act.IsLook) (hR : Routine.Lasts R)
    (hle : L ≤ w.tables w') : Comes R w w' (alone r w) (alone r' w') := by
  have hlands := hw.go h hR hle
  rw [go_of_looks hlooks, go_of_looks hlooks'] at hlands
  obtain ⟨htwins, hgrow, hhalt⟩ := hlands
  cases hhalt with
  | finished hab => exact ⟨htwins, hgrow, hab⟩

/-- **Looking in one of two twins leaves them twins**: it gives out handles at most. -/
theorem Twins.alone_left (hw : w.Twins w') {r : Routine α} (hr : r.Only Act.IsLook) :
    (World.alone r w).2.Twins w' ∧ w.tables w' ≤ (World.alone r w).2.tables w' := by
  induction r generalizing w with
  | done a => exact ⟨hw, le_refl _⟩
  | call c next ih =>
    obtain ⟨faults, hplanned, hc⟩ := perform_run hw.planned c
    have hgrows : w.page.Grows (w.page.perform c).2 := Page.perform_grows (hr (.error .closed)).1 _
    have hpage : (w.page.perform c).2.Twins w'.page :=
      hw.page.grow hgrows (.refl _) (hw.page.sound.perform c) hw.page.sound'
    have htables : w.tables w' ≤ (w.page.perform c).2.tables w'.page := by
      obtain ⟨more, hpage'⟩ := hgrows
      rw [hpage']
      exact ⟨List.prefix_append _ _, List.prefix_rfl⟩
    have hasked : (w.perform c).2.Twins w' := by
      rw [hc]
      exact hw.of_page hpage htables hplanned hw.planned'
    obtain ⟨htwins, hgrow⟩ := ih (w.perform c).1 hasked (hr _).2
    refine ⟨htwins, le_trans ?_ hgrow⟩
    rw [hc]
    exact htables
  | note n next ih => exact ih (hw.tell_left n) hr.2
  | sleep | pause | drop | report => exact absurd hr.1 id
  | await => exact absurd (hr none).1 id

end World
end ConsentWalker
