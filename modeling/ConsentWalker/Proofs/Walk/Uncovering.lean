import ConsentWalker.Proofs.Page.Cover
import ConsentWalker.Proofs.Walk.Ledger
import ConsentWalker.Proofs.Walk.Sparing
import ConsentWalker.Proofs.Walk.Vigil
/-!
# Walk — what a search leaves covered

A search covers a page only while it handles a dialog, and a handling that comes to its end has
uncovered all of it (`Opens.cover`). So where a search waits outside of a handling nothing is
covered. Inside one it has reported nothing yet, since it waits for nothing once it has reported
(`Opens.reports`): who is told of a dialog finds its clean-up done.

`Amid` ties a world to what was done of a stage, `Task.Tidies` to where a task stands.
-/

namespace ConsentWalker

/-! ## The account of a history -/

/-- What may still be covered after a history that began with nothing covered. -/
def History.cover (h : History) : Cover := Cover.afterAll {} h.calls

theorem History.cover_snoc (h : History) (m : Moment) :
    (h ++ [m] : History).cover = h.cover.afterAll m.act.call?.toList := by
  unfold History.cover
  rw [History.calls_append, Cover.afterAll_append, History.calls_cons]
  exact congrArg (Cover.afterAll _) (List.append_nil _)

namespace Cover

variable {h : History}

/-- What spares a page covers nothing. -/
theorem afterAll_of_spares (c : Cover) (hh : ∀ m ∈ h, m.act.Spares) : c.afterAll h.calls = c := by
  induction h with
  | nil => rfl
  | cons m h ih =>
    obtain ⟨hm, hrest⟩ := List.forall_mem_cons.1 hh
    have hone : c.afterAll m.act.call?.toList = c := by
      cases hact : m.act with
      | call call r =>
        rw [hact] at hm
        cases call with
        | setHidden | showProgress | hideProgress => cases hm
        | _ => rfl
      | _ => rfl
    rw [History.calls_cons, afterAll_append, hone, ih hrest]

/-- Steps cover what they hide. -/
theorem afterAll_of_steps (c : Cover) (hh : ∀ m ∈ h, m.act.IsStep) :
    c.afterAll h.calls = { c with hidden := c.hidden ++ h.hides } := by
  induction h generalizing c with
  | nil => simp [afterAll, History.calls]
  | cons m h ih =>
    obtain ⟨hm, hrest⟩ := List.forall_mem_cons.1 hh
    have hone : c.afterAll m.act.call?.toList =
        { c with hidden := c.hidden ++ History.hides [m] } := by
      rcases hm with hplain | ⟨e, r, hhide⟩
      · rw [History.hides_eq_nil (by simpa using hplain), List.append_nil]
        cases hact : m.act with
        | call call r =>
          rw [hact] at hplain
          cases call with
          | setHidden | showProgress | hideProgress => exact absurd hplain id
          | _ => rfl
        | _ => rfl
      · unfold History.hides History.calls
        simp [hhide, Act.call?, Call.hide?, afterAll, after]
    rw [History.calls_cons, afterAll_append, hone, ih _ hrest, List.append_assoc,
      ← History.hides_append, List.singleton_append]

/-- What is shown again is covered no longer. -/
theorem afterAll_reveals (c : Cover) (es : List Handle) :
    c.afterAll (es.map (Call.setHidden · false)) =
      { c with hidden := c.hidden.filter (· ∉ es) } := by
  induction es generalizing c with
  | nil => simp [afterAll]
  | cons e es ih =>
    rw [List.map_cons, afterAll, List.foldl_cons]
    change (c.after (.setHidden e false)).afterAll _ = _
    rw [ih, after, List.filter_filter]
    congr 2
    funext k
    simp [Bool.and_comm]

end Cover

/-- The calls of a handling: one to show its message, those of its methods, and those that undo
them. -/
theorem Vendor.Conducts.calls {s : Setting} {v : Vendor} {t t' : Nat} {c : Conduct}
    (hc : v.Conducts s t t' c) (vendor : String) (reported : Nat) :
    (c.history vendor reported).calls = .showProgress progressMessage ::
      (c.lifecycle.calls ++
        (c.lifecycle.hides.map (Call.setHidden · false) ++ [.hideProgress])) := by
  have hreported : History.calls (⟨reported, .report vendor⟩ :: c.closing) = c.closing.calls := rfl
  unfold Conduct.history
  simp only [History.calls_append, List.append_assoc, List.cons_append, List.nil_append, hreported,
    hc.opening, hc.complaint.calls, hc.closing]

/-- **A handling leaves nothing covered**, whatever fails in it. -/
theorem Vendor.Conducts.cover {s : Setting} {v : Vendor} {t t' : Nat} {c : Conduct}
    (hc : v.Conducts s t t' c) (vendor : String) (reported : Nat) :
    (c.history vendor reported).cover = {} := by
  -- the message and what the methods hide are covered, and then uncovered
  unfold History.cover
  rw [hc.calls, ← List.singleton_append]
  simp only [Cover.afterAll_append]
  rw [Cover.afterAll_of_steps _ hc.brief.2.1, Cover.afterAll_reveals]
  have hnone : c.lifecycle.hides.filter (· ∉ c.lifecycle.hides) = [] := by
    rw [List.filter_eq_nil_iff]
    simp
  simp only [Cover.afterAll, Cover.after, List.foldl_cons, List.foldl_nil, List.nil_append, hnone]

/-! ## Stages -/

theorem Act.IsBrief.not_wait {a : Act} (ha : a.IsBrief) : ¬ a.IsWait := by
  cases a with
  | call | note => exact id
  | _ => exact absurd ha id

namespace Search

variable {x : Search} {s s' : State} {r₀ r : Routine Next} {t t' : Nat} {h : History} {n : Next}

/-- **A routine that a search goes by in a state**: its first look, or the stage it is in. -/
inductive Opens (x : Search) : State → Routine Next → Prop where
  | start : Opens x {} start
  | step {s : State} : x.Ledger s → Opens x s (x.step s)

namespace Opens

variable (ho : x.Opens s r₀)
include ho

/-- Only a handling does anything to a page. -/
theorem spares (hs : x.setting.flags.skipActions = true ∨ ∀ i, s.stage ≠ .handling i) :
    r₀.Only Act.Spares := by
  cases ho with
  | start => exact start_spares
  | step =>
    rcases hs with hskip | hs
    · exact step_spares hskip s
    · exact (x.step_quiet hs).mono Act.IsQuiet.spares

/-- Only a handling reports. -/
theorem reports_of_not_handling (hs : ∀ i, s.stage ≠ .handling i) (hl : r₀.Leads t h t' r) :
    h.reports = [] := by
  have hquiet : r₀.Only Act.IsQuiet := by
    cases ho with
    | start => exact look_quiet {}
    | step => exact x.step_quiet hs
  exact History.reports_eq_nil fun m hm => ((hquiet.leads hl).1 m hm).report?

/-- A handling is the handling of a vendor. -/
theorem handling {i : Nat} (hi : s.stage = .handling i) (hc : r₀.Course t h t' n) :
    ∃ (v : Vendor) (h₁ : History) (w : Walker), h = ⟨t, .note (.stage s.stage)⟩ :: h₁ ∧
      (v.handling x.setting).Course {} t h₁ t' () w ∧
      n = .goOn { s with stage := .handled i, handled := s.handled ++ [v.name] } := by
  cases ho with
  | start => cases hi
  | step hledger =>
    obtain ⟨v, -, hv, -⟩ := hledger.current i (.inr hi)
    obtain ⟨h₁, w, hh, hhandling, hn⟩ := step_handling hi hv hc
    exact ⟨v, h₁, w, hh, hhandling, hn⟩

/-- **At the end of every stage nothing is covered.** -/
theorem cover (hc : r₀.Course t h t' n) : h.cover = {} := by
  by_cases hs : x.setting.flags.skipActions = true ∨ ∀ i, s.stage ≠ .handling i
  · exact Cover.afterAll_of_spares _ ((ho.spares hs).leads hc).1
  · obtain ⟨hskip, hhandling⟩ := not_or.1 hs
    obtain ⟨i, hi⟩ := not_forall.1 hhandling
    obtain ⟨v, h₁, w, rfl, hcourse, -⟩ := ho.handling (not_not.1 hi) hc
    obtain ⟨c, hconducts, rfl, -⟩ := Vendor.handling_conducts (Bool.eq_false_iff.2 hskip) hcourse
    exact hconducts.cover v.name t'

/-- **Where a search waits it has reported nothing in this stage**: after its report a handling does
not wait any more. -/
theorem reports (hl : r₀.Leads t h t' r) (hwait : h.AtWait) : h.reports = [] := by
  by_cases hs : ∀ i, s.stage ≠ .handling i
  · exact ho.reports_of_not_handling hs hl
  · obtain ⟨i, hi⟩ := not_forall.1 hs
    -- from where it waits the handling goes on to its end
    obtain ⟨k, t₁, n, hrest⟩ := r.exists_course t'
    obtain ⟨v, h₁, w, hh, hcourse, -⟩ := ho.handling (not_not.1 hi) (hl.trans hrest)
    obtain ⟨before, reported, after, rfl, hbefore, hafter⟩ := Vendor.handling_parts hcourse
    let early : History := ⟨t, .note (.stage s.stage)⟩ :: before
    have hearly : early.reports = [] := by
      rw [History.reports_cons, hbefore]
      rfl
    have hsplit : early ++ ⟨reported, .report v.name⟩ :: after = h ++ k := hh.symm
    rcases List.append_eq_append_iff.1 hsplit with ⟨late, rfl, hlate⟩ | ⟨more, hmore, -⟩
    · -- the wait would be the report, or come after it
      cases hlast : late.getLast? with
      | none =>
        rw [List.getLast?_eq_none_iff.1 hlast, List.append_nil]
        exact hearly
      | some m =>
        have hm : m.act.IsWait := hwait m (by rw [List.getLast?_append, hlast]; rfl)
        have hmem : m ∈ (⟨reported, .report v.name⟩ :: after : History) := by
          rw [hlate]
          exact List.mem_append_left _ (List.mem_of_getLast? hlast)
        rcases List.mem_cons.1 hmem with rfl | hmem
        · exact absurd hm id
        · exact absurd hm (hafter m hmem).not_wait
    · rw [hmore, History.reports_append] at hearly
      exact (List.append_eq_nil_iff.1 hearly).1

theorem account : x.Ledger s := by
  cases ho with
  | start => exact ledger_start none
  | step hledger => exact hledger

/-- After a stage comes the next. -/
theorem goes_on (hc : r₀.Course t h t' (.goOn s')) :
    x.Opens s' (x.step s') ∧ s'.handled = s.handled ++ h.reports := by
  cases ho with
  | start =>
    obtain ⟨o, rfl, rfl⟩ := look_goOn hc
    exact ⟨.step (ledger_start o), rfl⟩
  | step hledger => exact ⟨.step (hledger.step hc), (step_grows hc).2⟩

end Opens
end Search

/-! ## Amid a stage -/

/-- **A world amid a stage** of which a history was done: the page is covered by no more than that
says, what was reported is what was handled before and what the history reports, and nothing is
going to fail. -/
structure World.Amid (p₀ : Page) (s : Search.State) (h : History) (w : World) : Prop where
  covered : p₀.CoveredBy w.page h.cover
  told : w.sightings.map Sighting.vendor = s.handled ++ h.reports
  planned : w.faults.planned = []

namespace World

variable {p₀ : Page} {s : Search.State} {h : History} {w w' : World}

namespace Amid

/-- What leaves covers alone and reports nothing keeps a world amid its stage. -/
theorem leaves (hw : w.Amid p₀ s h) (hpage : w.page.Leaves w'.page)
    (hsightings : w'.sightings = w.sightings)
    (hplanned : w'.faults.planned = w.faults.planned) : w'.Amid p₀ s h :=
  ⟨hw.covered.leaves hpage, by rw [hsightings]; exact hw.told, hplanned.trans hw.planned⟩

/-- So does an act that is neither a call nor a report. -/
theorem quietly (hw : w.Amid p₀ s h) {m : Moment} (hcall : m.act.call? = none)
    (hreport : m.act.report? = none) : w.Amid p₀ s (h ++ [m]) := by
  refine ⟨?_, ?_, hw.planned⟩
  · rw [History.cover_snoc, hcall]
    exact hw.covered
  · rw [hw.told, History.reports_append, History.reports_cons, hreport]
    exact congrArg (s.handled ++ ·) (List.append_nil _).symm

/-- A call is one more in the account. -/
theorem perform (hw : w.Amid p₀ s h) (t : Nat) (c : Call) (r : Except PageError c.Result) :
    (w.perform c).2.Amid p₀ s (h ++ [⟨t, .call c r⟩]) := by
  obtain ⟨-, hpage, hplanned⟩ := perform_eq hw.planned c
  refine ⟨?_, ?_, hplanned⟩
  · rw [History.cover_snoc, hpage]
    exact hw.covered.perform c
  · rw [History.reports_append]
    exact hw.told.trans (congrArg (s.handled ++ ·) (List.append_nil _).symm)

/-- A report is told. -/
theorem sight (hw : w.Amid p₀ s h) (t : Nat) (vendor : String) :
    (w.sight vendor).Amid p₀ s (h ++ [⟨t, .report vendor⟩]) := by
  refine ⟨?_, ?_, hw.planned⟩
  · rw [History.cover_snoc]
    exact hw.covered
  · unfold World.sight
    rw [List.map_append, hw.told, History.reports_append, List.append_assoc]
    rfl

/-- Collecting changes leaves covers alone. -/
theorem collect? (hw : w.Amid p₀ s h) {o : Observer} {records : Option Nat}
    (hc : w.collect? o = some (records, w')) : w'.Amid p₀ s h := by
  rcases collect?_cases hc with rfl | rfl
  · exact hw
  · exact hw.leaves (Page.updateMailbox_leaves o _ w.page) rfl rfl

/-- **Every act keeps a world amid its stage.** -/
theorem makes (hw : w.Amid p₀ s h) {m : Moment} (hm : w.Makes m.act w') :
    w'.Amid p₀ s (h ++ [m]) := by
  obtain ⟨t, a⟩ := m
  cases hm with
  | call c => exact hw.perform t c _
  | note n => exact (hw.quietly rfl rfl).leaves (.refl _) rfl rfl
  | rest => exact hw.quietly rfl rfl
  | collect hcollect => exact (hw.collect? hcollect).quietly rfl rfl
  | drop o => exact (hw.quietly rfl rfl).leaves (Page.updateMailbox_leaves o _ w.page) rfl rfl
  | report v => exact hw.sight t v

/-- So does a wait. -/
theorem waits (hw : w.Amid p₀ s h) {m : Moment} (hm : m.act.IsWait) : w.Amid p₀ s (h ++ [m]) := by
  obtain ⟨t, a⟩ := m
  cases a with
  | sleep | pause | await => exact hw.quietly rfl rfl
  | call | note | drop | report => exact absurd hm id

end Amid

/-- **Running on keeps a world amid its stage**, up to the next wait or the end. -/
theorem go_amid {α : Type} {r₀ r : Routine α} {t₀ t : Nat} (hl : r₀.Leads t₀ h t r)
    (hw : w.Amid p₀ s h) :
    (w.go r).1.Meets (fun a => ∃ k t', r₀.Course t₀ k t' a ∧ (w.go r).2.Amid p₀ s k)
      (fun next => ∃ k t', r₀.Leads t₀ k t' next ∧ k.AtWait ∧ (w.go r).2.Amid p₀ s k) :=
  go_keeps (I := fun h w => w.Amid p₀ s h) (fun _ _ _ _ hw hm => hw.makes hm)
    (fun _ _ _ hw hm => hw.waits hm) hl hw

end World

/-! ## Tasks -/

/-- **What is left of a stage after a wait**, in a world amid that stage. -/
def Search.Underway (x : Search) (p₀ : Page) (s : Search.State) (w : World)
    (r : Routine Search.Next) : Prop :=
  ∃ r₀ t₀ h t, x.Opens s r₀ ∧ r₀.Leads t₀ h t r ∧ h.AtWait ∧ w.Amid p₀ s h

namespace Task

variable {x : Search} {p₀ : Page} {t : Task} {w w' : World} {r : Routine Search.Next}

/-- **A task that tidies up**: it has come to its end and nothing is covered, or it waits amid a
stage. -/
inductive Tidies (x : Search) (p₀ : Page) (t : Task) (w : World) : Prop where
  | ended : t.isOver = true → p₀.CoveredBy w.page {} → Tidies x p₀ t w
  | underway : t.isOver = false → t.search = x →
      t.halt.Meets (fun _ => False) (x.Underway p₀ t.state w) → Tidies x p₀ t w

/-- At first a stage has done nothing. -/
theorem underway_of_opens {s : Search.State} {r₀ : Routine Search.Next} (ho : x.Opens s r₀)
    (hcovered : p₀.CoveredBy w.page {}) (htold : w.sightings.map Sighting.vendor = s.handled)
    (hplanned : w.faults.planned = []) : x.Underway p₀ s w r₀ :=
  ⟨r₀, 0, [], 0, ho, .refl r₀ 0, History.atWait_nil, hcovered,
    htold.trans (List.append_nil _).symm, hplanned⟩

theorem tidies_new (hcovered : p₀.CoveredBy w.page {}) (hsightings : w.sightings = [])
    (hplanned : w.faults.planned = []) : (Task.new x).Tidies x p₀ w :=
  .underway rfl rfl (underway_of_opens .start hcovered (by rw [hsightings]; rfl) hplanned)

namespace Tidies

/-- **It does not mind others** who cover nothing. -/
theorem leaves (ht : t.Tidies x p₀ w) (hpage : w.page.Leaves w'.page)
    (hsightings : w'.sightings = w.sightings)
    (hplanned : w'.faults.planned = w.faults.planned) : t.Tidies x p₀ w' := by
  cases ht with
  | ended hover hcovered => exact .ended hover (hcovered.leaves hpage)
  | underway hover hx hhalt =>
    refine .underway hover hx (hhalt.imp (fun _ => id) ?_)
    rintro r ⟨r₀, t₀, h, t₁, ho, hl, hwait, hamid⟩
    exact ⟨r₀, t₀, h, t₁, ho, hl, hwait, hamid.leaves hpage hsightings hplanned⟩

/-- Who need not wait goes on amid its stage. -/
theorem ready? (ht : t.Tidies x p₀ w) (hr : t.ready? w = some (r, w')) :
    t.isOver = false ∧ t.search = x ∧ x.Underway p₀ t.state w' r := by
  cases ht with
  | ended hover =>
    rw [isOver_of_ready hr] at hover
    cases hover
  | underway hover hx hhalt =>
    obtain ⟨hunderway, rfl | ⟨o, records, hcollect⟩⟩ := ready?_of_meets hhalt hr
    · exact ⟨hover, hx, hunderway⟩
    · obtain ⟨r₀, t₀, h, t₁, ho, hl, hwait, hamid⟩ := hunderway
      exact ⟨hover, hx, r₀, t₀, h, t₁, ho, hl, hwait, hamid.collect? hcollect⟩

/-- **It goes on tidying up from stage to stage**, since at the end of each nothing is covered. -/
theorem follow (stages : Nat) (hover : t.isOver = false) (hx : t.search = x)
    (hr : x.Underway p₀ t.state w r) :
    (t.follow stages r w).1.Tidies x p₀ (t.follow stages r w).2 := by
  induction stages generalizing t r w with
  | zero => exact .underway hover hx hr
  | succ stages ih =>
    obtain ⟨r₀, t₀, h, t₁, ho, hl, hwait, hamid⟩ := hr
    have hgoes := World.go_amid hl hamid
    unfold Task.follow
    rcases hgo : w.go r with ⟨halt, w₁⟩
    rw [hgo] at hgoes
    -- where it waits it is amid the stage it was in
    have on : ∀ next, (∃ k t', r₀.Leads t₀ k t' next ∧ k.AtWait ∧ w₁.Amid p₀ t.state k) →
        x.Underway p₀ t.state w₁ next := by
      rintro next ⟨k, t', hl', hwait', hamid'⟩
      exact ⟨r₀, t₀, k, t', ho, hl', hwait', hamid'⟩
    cases halt with
    | finished a =>
      obtain ⟨k, t', hc, hamid'⟩ := hgoes
      have hcovered := hamid'.covered
      rw [ho.cover hc] at hcovered
      cases a with
      | stop outcome => exact .ended rfl hcovered
      | goOn s =>
        obtain ⟨hopens, hhandled⟩ := ho.goes_on hc
        subst hx
        exact ih (t := { t with state := s }) (w := { w₁ with tried := s.tried }) hover rfl
          (underway_of_opens hopens hcovered (hamid'.told.trans hhandled.symm) hamid'.planned)
    | sleeping wake next => exact .underway hover hx (on next hgoes)
    | paused next => exact .underway hover hx (on next hgoes)
    | waiting o next => exact .underway hover hx fun records => on _ (hgoes records)

/-- **So it does however long it acts.** -/
theorem run (ht : t.Tidies x p₀ w) : (t.run w).1.Tidies x p₀ (t.run w).2 := by
  refine run_keeps (fun t w r w' ht hr => ?_) ht
  obtain ⟨hover, hx, hunderway⟩ := ht.ready? hr
  exact follow t.stagesBetween hover hx hunderway

/-- **Where a task waits something is covered only amid a handling**, and if one dialog is to be
enough none was reported by then. -/
theorem covered (ht : t.Tidies x p₀ w) : p₀.CoveredBy w.page {} ∨ t.isOver = false ∧
    ∃ i, t.state.stage = .handling i ∧ x.setting.flags.skipActions = false ∧
      (x.setting.pace.keepObserving = false → w.sightings = []) := by
  cases ht with
  | ended _ hcovered => exact .inl hcovered
  | underway hover hx hhalt =>
    obtain ⟨r, r₀, t₀, h, t₁, ho, hl, hwait, hamid⟩ := hhalt.left
    by_cases hs : x.setting.flags.skipActions = true ∨ ∀ i, t.state.stage ≠ .handling i
    · have hcovered := hamid.covered
      have hempty : h.cover = {} := Cover.afterAll_of_spares _ ((ho.spares hs).leads hl).1
      rw [hempty] at hcovered
      exact .inl hcovered
    · obtain ⟨hskip, hhandling⟩ := not_or.1 hs
      obtain ⟨i, hi⟩ := not_forall.1 hhandling
      have hstage : t.state.stage = .handling i := not_not.1 hi
      refine .inr ⟨hover, i, hstage, Bool.eq_false_iff.2 hskip, fun hk => ?_⟩
      have hnone : t.state.handled = [] :=
        ho.account.handled_eq_nil hk (by simp [hstage]) (by simp [hstage])
      have htold := hamid.told
      rw [hnone, ho.reports hl hwait] at htold
      exact List.map_eq_nil_iff.1 htold

end Tidies
end Task
end ConsentWalker
