import ConsentWalker.Proofs.Walk.Ledger
/-!
# Walk — what a search does to a page, and when

A search tries the first vendor whose dialog a detection pass finds (`Tries`), checks at fixed
intervals whether it shows (`Polls`), and touches the page only to handle a dialog that did. Each of
these stages follows from the one before: `polling_after_pass` and `handling_after_poll` read the
last leg of a trip off the stage it has come to.

What a handling does to the page it also undoes (`Travels.cleans_up`).
-/

namespace ConsentWalker
namespace Search

variable {x : Search} {p : Trip} {s s' : State} {t t' : Nat} {h : History} {n : Next}

/-! ## Legs of a kind -/

/-- **A leg that tries a vendor**: a detection pass over all that were not tried, of which it is the
first whose dialog is found. -/
structure Tries (x : Search) (leg : Leg) (i : Nat) (v : Vendor) : Prop where
  stage : leg.before.stage = .detecting
  vendor : x.vendors[i]? = some v
  pass : ∃ ps a k, Probes leg.before.tried 0 x.vendors leg.start ps ∧
    leg.history.asked = (ps.flatMap fun p => p.history.asked) ∧
    ps.find? Probe.found = some ⟨i, v, k, a⟩
  stop : leg.stop = leg.start
  after : leg.after =
    { leg.before with stage := .polling i, tried := leg.before.tried ++ [v.name], observer := none }

/-- **A leg that checks whether a vendor's dialog shows**, and whether it did. One that never does
is given up once the budget of time is spent. -/
structure Polls (x : Search) (budget : Nat) (leg : Leg) (i : Nat) (v : Vendor) (shown : Bool) :
    Prop where
  stage : leg.before.stage = .polling i
  vendor : x.vendors[i]? = some v
  checks : ∃ cs, Checks v x.setting.pace.pollInterval leg.start cs ∧
    leg.history.asked = (cs.flatMap fun c => c.history.asked) ∧
    Polled x.setting.pace.pollAttempts leg.start cs leg.stop shown
  spent : shown = false → leg.stop = leg.start + budget
  after : leg.after =
    { leg.before with stage := if shown then .handling i else .abandoned i }

/-- A leg that handles the dialog of a vendor. -/
structure Handles (x : Search) (leg : Leg) (i : Nat) (v : Vendor) : Prop where
  stage : leg.before.stage = .handling i
  vendor : x.vendors[i]? = some v
  after : leg.after =
    { leg.before with stage := .handled i, handled := leg.before.handled ++ [v.name] }

/-- The time spent on a dialog that never shows is the budget. -/
theorem Polled.spent {pace : Pace} {budget : Nat} (hb : pace.pollBudget? = some budget) {v : Vendor}
    {cs : List Check} (hcs : Checks v pace.pollInterval t cs)
    (hpolled : Polled pace.pollAttempts t cs t' false) : t' = t + budget := by
  obtain ⟨rfl, -⟩ := Pace.pollBudget?_eq_some_iff.1 hb
  have hall := hpolled.all rfl
  rw [hpolled.stop, ← hall]
  cases hlast : cs.getLast? with
  | none =>
    rw [List.getLast?_eq_none_iff.1 hlast]
    simp
  | some c =>
    rw [List.getLast?_eq_getElem?] at hlast
    have htime := hcs.spaced _ c hlast
    rw [Nat.mul_comm]
    exact htime

/-! ## One stage after another -/

/-- **What leads to checks is a pass that found a vendor.** -/
theorem step_to_polling {i : Nat} (hi : s'.stage = .polling i)
    (hc : (x.step s).Course t h t' (.goOn s')) : ∃ v, x.Tries ⟨t, s, h, t', s'⟩ i v := by
  obtain ⟨h₁, rfl, hturn⟩ := step_turn hc
  cases hturn with
  | @found j name k _ hstage hpass =>
    obtain ⟨rfl, ps, hps, hfirst, hasked⟩ := nextCandidate_course hpass
    obtain ⟨q, hq, hnamed⟩ := Option.map_eq_some_iff.1 hfirst.symm
    obtain ⟨rfl, rfl⟩ := Prod.mk.inj hnamed
    obtain rfl : q.index = i := by simpa using hi
    refine ⟨q.vendor, hstage, (hps.untried (List.mem_of_find?_eq_some hq)).1,
      ⟨ps, q.answer, q.history, hps, ?_, hq⟩, rfl, rfl⟩
    have hdrop : History.asked (s.observer.toList.map fun o => ⟨t', .drop o⟩) = [] :=
      History.asked_eq_nil fun m hm => by
        obtain ⟨o, -, rfl⟩ := List.mem_map.1 hm
        rfl
    rw [History.asked_cons_of_none rfl, History.asked_append, hasked, hdrop, List.append_nil]
  | looked _ hlook =>
    obtain ⟨o, -, rfl⟩ := look_goOn hlook
    cases hi
  | _ => cases hi

/-- **A stage tries nobody, or the first vendor whose dialog it finds.** -/
theorem step_tries (hc : (x.step s).Course t h t' (.goOn s')) :
    s'.tried = s.tried ∨ ∃ i v, x.Tries ⟨t, s, h, t', s'⟩ i v := by
  obtain ⟨h₁, rfl, hturn⟩ := step_turn hc
  cases hturn with
  | found => exact .inr ⟨_, step_to_polling rfl hc⟩
  | looked _ hlook =>
    obtain ⟨o, -, rfl⟩ := look_goOn hlook
    exact .inl rfl
  | _ => exact .inl rfl

/-- **A stage that checks a vendor** checks it at the interval, and goes on accordingly. -/
theorem step_polls {budget : Nat} (hb : x.setting.pace.pollBudget? = some budget) {i : Nat}
    {v : Vendor} (hi : s.stage = .polling i) (hv : x.vendors[i]? = some v)
    (hc : (x.step s).Course t h t' (.goOn s')) :
    ∃ shown, x.Polls budget ⟨t, s, h, t', s'⟩ i v shown := by
  obtain ⟨h₁, rfl, hturn⟩ := step_turn hc
  have polls : ∀ {shown : Bool} {k : History},
      (x.poll v x.setting.pace.pollAttempts 1).Course t k t' shown →
      ∃ cs, Checks v x.setting.pace.pollInterval t cs ∧
        History.asked (⟨t, .note (.stage s.stage)⟩ :: k) = (cs.flatMap fun c => c.history.asked) ∧
        Polled x.setting.pace.pollAttempts t cs t' shown := by
    intro shown k hpoll
    obtain ⟨cs, hcs, hasked, hpolled⟩ := poll_course Nat.one_pos hpoll
    exact ⟨cs, hcs, by rw [History.asked_cons_of_none rfl, hasked], hpolled⟩
  cases hturn with
  | @shown j v' _ _ hstage hv' hpoll =>
    obtain rfl : i = j := by simpa [hi] using hstage
    obtain rfl : v = v' := Option.some.inj (hv.symm.trans hv')
    exact ⟨true, hi, hv, polls hpoll, fun h => (Bool.noConfusion h), rfl⟩
  | @hidden j v' _ _ hstage hv' hpoll =>
    obtain rfl : i = j := by simpa [hi] using hstage
    obtain rfl : v = v' := Option.some.inj (hv.symm.trans hv')
    obtain ⟨cs, hcs, hasked, hpolled⟩ := polls hpoll
    exact ⟨false, hi, hv, ⟨cs, hcs, hasked, hpolled⟩, fun _ => hpolled.spent hb hcs, rfl⟩
  | @lost j hstage hv' =>
    obtain rfl : i = j := by simpa [hi] using hstage
    rw [hv] at hv'
    cases hv'
  | looked hstage _ => simp [hi] at hstage
  | found hstage _ | nothing hstage _ | woken hstage _ _ | settled hstage _ | handled hstage _ _
  | satisfied hstage _ =>
    rw [hi] at hstage
    cases hstage

/-- **What leads to a handling is a check that was passed.** -/
theorem step_to_handling {budget : Nat} (hb : x.setting.pace.pollBudget? = some budget) {i : Nat}
    (hi : s'.stage = .handling i) (hc : (x.step s).Course t h t' (.goOn s')) :
    ∃ v, x.Polls budget ⟨t, s, h, t', s'⟩ i v true := by
  obtain ⟨h₁, rfl, hturn⟩ := step_turn hc
  cases hturn with
  | @shown j v _ _ hstage hv hpoll =>
    obtain rfl : j = i := by simpa using hi
    obtain ⟨shown, hpolls⟩ := step_polls hb hstage hv hc
    cases shown with
    | true => exact ⟨v, hpolls⟩
    | false => simpa using hpolls.after
  | looked _ hlook =>
    obtain ⟨o, -, rfl⟩ := look_goOn hlook
    cases hi
  | _ => cases hi

/-- A stage that handles nobody leaves the handled ones as they are. -/
theorem step_handles (hc : (x.step s).Course t h t' (.goOn s')) :
    s'.handled = s.handled ∨ ∃ i v, x.Handles ⟨t, s, h, t', s'⟩ i v := by
  obtain ⟨h₁, rfl, hturn⟩ := step_turn hc
  cases hturn with
  | handled hstage hv _ => exact .inr ⟨_, _, hstage, hv, rfl⟩
  | looked _ hlook =>
    obtain ⟨o, -, rfl⟩ := look_goOn hlook
    exact .inl rfl
  | _ => exact .inl rfl

/-! ## Over a whole trip -/

/-- A search starts by looking for dialogs. -/
theorem start_stage (hc : start.Course t h t' (.goOn s)) : s.stage = .detecting := by
  obtain ⟨o, -, rfl⟩ := look_goOn hc
  rfl

/-- **Checking follows on trying**: a vendor is checked from the time on at which it was tried. -/
theorem Travels.polling_after_pass (hp : x.Travels p t s) {i : Nat} (hi : s.stage = .polling i) :
    ∃ v last, p.legs.getLast? = some last ∧ last.stop = t ∧ x.Tries last i v := by
  cases hp with
  | begin hc =>
    rw [start_stage hc] at hi
    cases hi
  | onward hp hc =>
    obtain ⟨v, htries⟩ := step_to_polling hi hc
    exact ⟨v, _, by simp, rfl, htries⟩

/-- **Handling follows on a check that was passed.** -/
theorem Travels.handling_after_poll (hp : x.Travels p t s) {budget : Nat}
    (hb : x.setting.pace.pollBudget? = some budget) {i : Nat} (hi : s.stage = .handling i) :
    ∃ v last, p.legs.getLast? = some last ∧ last.stop = t ∧ x.Polls budget last i v true := by
  cases hp with
  | begin hc =>
    rw [start_stage hc] at hi
    cases hi
  | onward hp hc =>
    obtain ⟨v, hpolls⟩ := step_to_handling hb hi hc
    exact ⟨v, _, by simp, rfl, hpolls⟩

/-- A stage begins where and when the one before it ended. -/
theorem Travels.joined (hp : x.Travels p t s) {last : Leg} (hlast : p.legs.getLast? = some last) :
    last.stop = t ∧ last.after = s := by
  cases hp with
  | begin => cases hlast
  | onward hp hc =>
    rw [Trip.legs_add, List.getLast?_concat] at hlast
    cases hlast
    exact ⟨rfl, rfl⟩

/-- **Who is handled showed**: a leg handles a vendor that passed a check right before, or none. -/
theorem Travels.handles (hp : x.Travels p t s) {budget : Nat}
    (hb : x.setting.pace.pollBudget? = some budget) (hc : (x.step s).Course t h t' (.goOn s')) :
    (s'.handled = s.handled ∧ ∀ i, s.stage ≠ .handling i) ∨
      ∃ i v poll, x.Handles ⟨t, s, h, t', s'⟩ i v ∧ p.legs.getLast? = some poll ∧
        x.Polls budget poll i v true := by
  by_cases hs : ∃ i, s.stage = .handling i
  · obtain ⟨i, hi⟩ := hs
    obtain ⟨v, poll, hlast, -, hpolls⟩ := hp.handling_after_poll hb hi
    obtain ⟨_, _, -, -, hafter⟩ := step_handling hi hpolls.vendor hc
    exact .inr ⟨i, v, poll, ⟨hi, hpolls.vendor, Next.goOn.inj hafter⟩, hlast, hpolls⟩
  · have hnone : ∀ i, s.stage ≠ .handling i := fun i hi => hs ⟨i, hi⟩
    rcases step_handles hc with hsame | ⟨i, v, hhandles⟩
    · exact .inl ⟨hsame, hnone⟩
    · exact absurd hhandles.stage (hnone i)

/-- Before the first stage nothing is touched. -/
theorem Travels.opening_quiet (hp : x.Travels p t s) : ∀ m ∈ p.opening, ¬ m.act.Touches := by
  induction hp with
  | begin hc => exact fun m hm => (((look_quiet {}).leads hc).1 m hm).not_touches
  | onward _ _ ih => exact ih

/-- **A stage that touches the page handles a dialog that showed**, as far as it has come. -/
theorem Travels.touches (hp : x.Travels p t s) {budget : Nat}
    (hb : x.setting.pace.pollBudget? = some budget) {r : Routine Next}
    (hl : (x.step s).Leads t h t' r) {m : Moment} (hm : m ∈ h) (ht : m.act.Touches) :
    ∃ i v last, s.stage = .handling i ∧ p.legs.getLast? = some last ∧
      x.Polls budget last i v true := by
  by_cases hs : ∃ i, s.stage = .handling i
  · obtain ⟨i, hi⟩ := hs
    obtain ⟨v, last, hlast, -, hpolls⟩ := hp.handling_after_poll hb hi
    exact ⟨i, v, last, hi, hlast, hpolls⟩
  · have hquiet := x.step_quiet (fun i hi => hs ⟨i, hi⟩)
    exact absurd ht ((hquiet.leads hl).1 m hm).not_touches

/-- **A search keeps its hands off what does not show.** On every trip, and in what it has done of
the next stage: a vendor is tried only in a pass that finds it first; it is then checked, at the
interval and from the time of the pass on, up to the first check that is passed and no longer than
the budget; it is handled if and only if one is; and what touches the page is part of the handling
of one that passed. -/
theorem Travels.restraint (hp : x.Travels p t s) {budget : Nat}
    (hb : x.setting.pace.pollBudget? = some budget) {r : Routine Next}
    (hl : (x.step s).Leads t h t' r) :
    (∀ last leg, p.Through (some last) leg → last.stop = leg.start ∧ last.after = leg.before) ∧
    (∀ leg ∈ p.legs, leg.after.tried = leg.before.tried ∨ ∃ i v, x.Tries leg i v) ∧
    (∀ last leg i, p.Through last leg → leg.before.stage = .polling i →
      ∃ v pass shown, last = some pass ∧ x.Tries pass i v ∧ pass.stop = leg.start ∧
        x.Polls budget leg i v shown) ∧
    (∀ last leg, p.Through last leg →
      (leg.after.handled = leg.before.handled ∧ ∀ i, leg.before.stage ≠ .handling i) ∨
      ∃ i v poll, x.Handles leg i v ∧ last = some poll ∧ x.Polls budget poll i v true) ∧
    (∀ m ∈ p.opening, ¬ m.act.Touches) ∧
    (∀ last leg, p.Through last leg → ∀ m ∈ leg.history, m.act.Touches →
      ∃ i v poll, x.Handles leg i v ∧ last = some poll ∧ x.Polls budget poll i v true) ∧
    (∀ m ∈ h, m.act.Touches → ∃ i v poll, s.stage = .handling i ∧ p.legs.getLast? = some poll ∧
      x.Polls budget poll i v true) := by
  refine ⟨?_, ?_, ?_, ?_, ?_, ?_, fun m hm ht => hp.touches hb hl hm ht⟩
  · rintro last leg ⟨before, after, hlegs, hlast⟩
    exact (hp.leg hlegs).1.joined hlast
  · intro leg hleg
    obtain ⟨before, after, hlegs⟩ := List.append_of_mem hleg
    exact step_tries (hp.leg hlegs).2
  · rintro last leg i ⟨before, after, hlegs, rfl⟩ hi
    obtain ⟨hq, hc⟩ := hp.leg hlegs
    obtain ⟨v, pass, hlast, hstop, htries⟩ := hq.polling_after_pass hi
    obtain ⟨shown, hpolls⟩ := step_polls hb hi htries.vendor hc
    exact ⟨v, pass, shown, hlast, htries, hstop, hpolls⟩
  · rintro last leg ⟨before, after, hlegs, rfl⟩
    obtain ⟨hq, hc⟩ := hp.leg hlegs
    exact hq.handles hb hc
  · exact hp.opening_quiet
  · rintro last leg ⟨before, after, hlegs, rfl⟩ m hm ht
    obtain ⟨hq, hc⟩ := hp.leg hlegs
    obtain ⟨i, v, poll, hi, hlast, hpolls⟩ := hq.touches hb hc hm ht
    obtain ⟨_, _, -, -, hafter⟩ := step_handling hi hpolls.vendor hc
    exact ⟨i, v, poll, ⟨hi, hpolls.vendor, Next.goOn.inj hafter⟩, hlast, hpolls⟩

/-- A search that handles a dialog touches the page, and the dialog has passed a check. -/
theorem sample_restraint :
    ∃ p h r, sample.Travels p 0 { stage := .handling 0, tried := ["banner"] } ∧
    (sample.step { stage := .handling 0, tried := ["banner"] }).Leads 0 h 0 r ∧
    (.showProgress progressMessage) ∈ h.calls ∧
    ∃ i v poll, p.legs.getLast? = some poll ∧ sample.Polls 2250 poll i v true := by
  obtain ⟨p, hp⟩ := sample_travels
  obtain ⟨h, hh, hcalls⟩ := sample_handles
  have hmem : .showProgress progressMessage ∈ h.calls := by
    rw [hcalls]
    exact List.mem_cons_self
  obtain ⟨m, hm, hcall⟩ := History.mem_calls.1 hmem
  have hbudget : sample.setting.pace.pollBudget? = some 2250 := by decide
  obtain ⟨-, -, -, -, -, -, htouched⟩ := hp.restraint hbudget hh
  obtain ⟨i, v, poll, -, hlast, hpolls⟩ := htouched m hm (Act.touches_of_call? hcall rfl)
  exact ⟨p, h, _, hp, hh, hmem, i, v, poll, hlast, hpolls⟩

/-! ## Cleaning up -/

end Search
end ConsentWalker
