import Mathlib.Data.List.Perm.Subperm
import ConsentWalker.Proofs.Walk.Checks
import ConsentWalker.Proofs.Walk.Trip
/-!
# Walk — the ledger of a search

What a search keeps account of: the vendors it tried and those it handled. `Ledger` is what holds of
the account between any two stages; `Ledger.step` carries it over a stage, and `Travels.ledger` over
a whole trip.

The vendor that is being checked or handled is the last that was tried, and not handled yet
(`Ledger.current`): that is why nobody is handled twice, and why the handled ones keep their order.
-/

namespace ConsentWalker
namespace Search

variable {x : Search} {p : Trip} {s s' : State} {t t' : Nat} {h : History}

/-- **The account of a search**, between two stages. -/
structure Ledger (x : Search) (s : State) : Prop where
  nodup : s.tried.Nodup
  configured : ∀ name ∈ s.tried, name ∈ x.names
  order : s.handled.Sublist s.tried
  current : ∀ i, s.stage = .polling i ∨ s.stage = .handling i →
    ∃ v earlier, x.vendors[i]? = some v ∧ s.tried = earlier ++ [v.name] ∧
      s.handled.Sublist earlier
  once : x.setting.pace.keepObserving = false →
    s.handled = [] ∨ s.handled.length = 1 ∧ ((∃ i, s.stage = .handled i) ∨ s.stage = .finished)

/-- A search starts with an empty account. -/
theorem ledger_start (o : Option Observer) : Ledger x { stage := .detecting, observer := o } :=
  ⟨by simp, by simp, by simp, by simp, fun _ => .inl rfl⟩

/-- No more vendors are tried than there are. -/
theorem Ledger.tried_le (hl : Ledger x s) : s.tried.length ≤ x.vendors.length := by
  have hcount := (List.subperm_of_subset hl.nodup hl.configured).length_le
  rwa [names, List.length_map] at hcount

/-- In a stage in which the search goes on to look for others, or to handle one, none was handled
yet if one is to be enough. -/
theorem Ledger.handled_eq_nil (hl : Ledger x s) (hk : x.setting.pace.keepObserving = false)
    (hs : ∀ i, s.stage ≠ .handled i) (hf : s.stage ≠ .finished) : s.handled = [] := by
  rcases hl.once hk with hnil | ⟨-, ⟨i, hi⟩ | hfinished⟩
  · exact hnil
  · exact absurd hi (hs i)
  · exact absurd hfinished hf

/-- **The account holds after a stage as it did before.** -/
theorem Ledger.step (hl : Ledger x s) (hc : (x.step s).Course t h t' (.goOn s')) :
    Ledger x s' := by
  obtain ⟨h₁, -, hturn⟩ := step_turn hc
  cases hturn with
  | @found i name _ _ hstage hpass =>
    obtain ⟨rfl, ps, hps, hfirst, -⟩ := nextCandidate_course hpass
    obtain ⟨q, hq, hnamed⟩ := Option.map_eq_some_iff.1 hfirst.symm
    obtain ⟨rfl, rfl⟩ := Prod.mk.inj hnamed
    obtain ⟨hv, hnew⟩ := hps.untried (List.mem_of_find?_eq_some hq)
    refine ⟨?_, fun name hmem => ?_, ?_, fun j hj => ?_, fun hk => .inl ?_⟩
    · exact List.nodup_append.2 ⟨hl.nodup, by simp, fun a ha b hb => by
        rw [List.mem_singleton.1 hb]
        rintro rfl
        exact hnew ha⟩
    · rcases List.mem_append.1 hmem with hmem | hmem
      · exact hl.configured name hmem
      · rw [List.mem_singleton.1 hmem]
        exact List.mem_map_of_mem (List.mem_of_getElem? hv)
    · exact hl.order.trans (List.sublist_append_left _ _)
    · obtain rfl : q.index = j := by simpa using hj
      exact ⟨q.vendor, s.tried, hv, rfl, hl.order⟩
    · exact hl.handled_eq_nil hk (by simp [hstage]) (by simp [hstage])
  | nothing hstage _ | woken hstage _ _ | settled hstage _ | hidden hstage _ _ =>
    exact ⟨hl.nodup, hl.configured, hl.order, by simp, fun hk =>
      .inl (hl.handled_eq_nil hk (by simp [hstage]) (by simp [hstage]))⟩
  | shown hstage _ _ =>
    refine ⟨hl.nodup, hl.configured, hl.order, fun j hj => ?_, fun hk =>
      .inl (hl.handled_eq_nil hk (by simp [hstage]) (by simp [hstage]))⟩
    obtain rfl : _ = j := by simpa using hj
    exact hl.current _ (.inl hstage)
  | @handled i v _ _ _ hstage hv _ =>
    obtain ⟨v', earlier, hv', htried, hsub⟩ := hl.current i (.inr hstage)
    obtain rfl : v = v' := Option.some.inj (hv.symm.trans hv')
    refine ⟨hl.nodup, hl.configured, ?_, by simp, fun hk => .inr ⟨?_, .inl ⟨i, rfl⟩⟩⟩
    · rw [htried]
      exact hsub.append (List.Sublist.refl _)
    · rw [hl.handled_eq_nil hk (by simp [hstage]) (by simp [hstage])]
      rfl
  | @lost i hstage hv =>
    obtain ⟨v, _, hv', -⟩ := hl.current i hstage
    rw [hv] at hv'
    cases hv'
  | @looked i _ _ _ hstage hlook =>
    obtain ⟨o, -, rfl⟩ := look_goOn hlook
    refine ⟨hl.nodup, hl.configured, hl.order, by simp, fun hk => .inl ?_⟩
    rcases hstage with hgiven | ⟨-, hk'⟩
    · exact hl.handled_eq_nil hk (by simp [hgiven]) (by simp [hgiven])
    · rw [hk] at hk'
      cases hk'
  | satisfied hstage _ =>
    refine ⟨hl.nodup, hl.configured, hl.order, by simp, fun hk => ?_⟩
    rcases hl.once hk with hnil | ⟨hone, -⟩
    · exact .inl hnil
    · exact .inr ⟨hone, .inr rfl⟩

/-- **A stage adds to the account and takes nothing from it**, and what it reports it adds to the
handled ones. -/
theorem step_grows (hc : (x.step s).Course t h t' (.goOn s')) :
    s.tried <+: s'.tried ∧ s'.handled = s.handled ++ h.reports := by
  -- a stage that handles nothing reports nothing
  have quiet : (∀ i, s.stage ≠ .handling i) → h.reports = [] := fun hs =>
    History.reports_eq_nil fun m hm => (((x.step_quiet hs).leads hc).1 m hm).report?
  obtain ⟨h₁, rfl, hturn⟩ := step_turn hc
  cases hturn with
  | found hstage _ =>
    rw [quiet (by simp [hstage]), List.append_nil]
    exact ⟨List.prefix_append _ _, rfl⟩
  | nothing hstage _ | woken hstage _ _ | settled hstage _ | shown hstage _ _ | hidden hstage _ _
  | satisfied hstage _ =>
    rw [quiet (by simp [hstage]), List.append_nil]
    exact ⟨List.prefix_rfl, rfl⟩
  | handled _ _ hhandling =>
    rw [History.reports_cons, Vendor.handling_reports hhandling]
    exact ⟨List.prefix_rfl, rfl⟩
  | lost => exact ⟨List.prefix_rfl, (List.append_nil _).symm⟩
  | looked hstage hlook =>
    have hnone : ∀ i, s.stage ≠ .handling i := by
      intro i hi
      rcases hstage with hgiven | ⟨hhandled, -⟩
      · rw [hgiven] at hi
        cases hi
      · rw [hhandled] at hi
        cases hi
    obtain ⟨o, -, rfl⟩ := look_goOn hlook
    rw [quiet hnone, List.append_nil]
    exact ⟨List.prefix_rfl, rfl⟩

/-- **Once one was handled and one is enough, no other is tried.** -/
theorem Ledger.tried_eq (hl : Ledger x s) (hc : (x.step s).Course t h t' (.goOn s'))
    (hk : x.setting.pace.keepObserving = false) (hs : s.handled ≠ []) : s'.tried = s.tried := by
  obtain ⟨h₁, -, hturn⟩ := step_turn hc
  cases hturn with
  | found hstage _ =>
    exact absurd (hl.handled_eq_nil hk (by simp [hstage]) (by simp [hstage])) hs
  | looked _ hlook =>
    obtain ⟨o, -, rfl⟩ := look_goOn hlook
    rfl
  | _ => rfl

/-! ## Over a whole trip -/

theorem Travels.account (hp : x.Travels p t s) : Ledger x s := by
  induction hp with
  | begin hc =>
    obtain ⟨o, -, rfl⟩ := look_goOn hc
    exact ledger_start o
  | onward _ hc ih => exact ih.step hc

/-- What was reported is what was handled. -/
theorem Travels.reports (hp : x.Travels p t s) : p.history.reports = s.handled := by
  induction hp with
  | begin hc =>
    obtain ⟨o, rfl, rfl⟩ := look_goOn hc
    rfl
  | onward _ hc ih => rw [Trip.history_add, History.reports_append, ih, (step_grows hc).2]

/-- Since the end of any stage both lists have only grown. -/
theorem Travels.grown_after (hp : x.Travels p t s) :
    ∀ leg ∈ p.legs, leg.after.tried <+: s.tried ∧ leg.after.handled <+: s.handled := by
  induction hp with
  | begin => simp
  | onward _ hc ih =>
    obtain ⟨htried, hhandled⟩ := step_grows hc
    intro leg hleg
    rcases List.mem_append.1 hleg with hleg | hleg
    · rw [hhandled]
      exact ⟨(ih leg hleg).1.trans htried, (ih leg hleg).2.trans (List.prefix_append _ _)⟩
    · rw [List.mem_singleton.1 hleg]
      exact ⟨List.prefix_rfl, List.prefix_rfl⟩

/-- And since the beginning of it. -/
theorem Travels.grown (hp : x.Travels p t s) :
    ∀ leg ∈ p.legs, leg.before.tried <+: s.tried ∧ leg.before.handled <+: s.handled := by
  intro leg hleg
  obtain ⟨before, after, hlegs⟩ := List.append_of_mem hleg
  obtain ⟨htried, hhandled⟩ := step_grows (hp.leg hlegs).2
  obtain ⟨htried', hhandled'⟩ := hp.grown_after leg hleg
  rw [hhandled] at hhandled'
  exact ⟨htried.trans htried', (List.prefix_append _ _).trans hhandled'⟩

/-- If one dialog is to be enough, nothing is tried after it. -/
theorem Travels.tried_eq (hp : x.Travels p t s) (hk : x.setting.pace.keepObserving = false) :
    ∀ leg ∈ p.legs, leg.before.handled ≠ [] → s.tried = leg.before.tried := by
  induction hp with
  | begin => simp
  | @onward p _ _ _ s s' hp hc ih =>
    intro leg hleg hne
    rcases List.mem_append.1 hleg with hleg | hleg
    · have hpre := (hp.grown leg hleg).2
      have hs : s.handled ≠ [] := by
        intro hnil
        rw [hnil] at hpre
        exact hne (List.prefix_nil.1 hpre)
      rw [hp.account.tried_eq hc hk hs, ih leg hleg hne]
    · rw [List.mem_singleton.1 hleg] at hne ⊢
      exact hp.account.tried_eq hc hk hne

/-- **The ledger of a search, at every boundary of its stages**: no vendor is tried twice, only
configured ones are; the handled ones are among the tried ones, in their order, and were reported
once each, in that order; both lists have only grown since any earlier boundary; and if one dialog
is to be enough, at most one is handled and nothing is tried after it. -/
theorem Travels.ledger (hp : x.Travels p t s) :
    s.tried.Nodup ∧ (∀ name ∈ s.tried, name ∈ x.names) ∧ s.handled.Sublist s.tried ∧
      p.history.reports = s.handled ∧
      (∀ leg ∈ p.legs, leg.before.tried <+: s.tried ∧ leg.before.handled <+: s.handled) ∧
      (x.setting.pace.keepObserving = false → s.handled.length ≤ 1 ∧
        ∀ leg ∈ p.legs, leg.before.handled ≠ [] → s.tried = leg.before.tried) := by
  have hl := hp.account
  refine ⟨hl.nodup, hl.configured, hl.order, hp.reports, hp.grown, fun hk => ⟨?_, hp.tried_eq hk⟩⟩
  rcases hl.once hk with hnil | ⟨hone, -⟩
  · rw [hnil]
    exact Nat.zero_le 1
  · exact Nat.le_of_eq hone

/-- The ledger of a trip on which a dialog was handled. -/
theorem sample_ledger : ∃ p t s, sample.Travels p t s ∧ s.handled = ["banner"] ∧
    p.history.reports = ["banner"] ∧ s.tried.Nodup ∧ s.handled.length ≤ 1 := by
  obtain ⟨p, hp⟩ := sample_travels
  obtain ⟨h, hh, -⟩ := sample_handles
  have hon := hp.onward hh
  obtain ⟨hnodup, -, -, hreports, -, honce⟩ := hon.ledger
  exact ⟨_, _, _, hon, rfl, hreports, hnodup, (honce rfl).1⟩

end Search
end ConsentWalker
