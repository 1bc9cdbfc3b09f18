import ConsentWalker.Proofs.Walk.Custody
import ConsentWalker.Proofs.Walk.Uncovering
/-!
# Walk — how a search fails

Whatever fails in a search is told and passed over, except one thing: a search that is refused an
observer ends at once with the error it was refused with. It asks for one before its first stage
and, between two stages, when it goes on to look again; so at that point no handling is under way,
and what was covered by the handlings before it has been uncovered (`Settles`).

`Search.Finishes` is every end of a search, with all that it did.
-/

namespace ConsentWalker

/-! ## Refusals -/

/-- The error a search was refused an observer with. -/
def Act.refusal? : Act → Option PageError
  | .call .observe (.error e) => some e
  | _ => none

/-- The errors of all refusals, in order. -/
def History.refusals (h : History) : List PageError := h.filterMap fun m => m.act.refusal?

theorem History.refusals_append (h h' : History) :
    (h ++ h' : History).refusals = h.refusals ++ h'.refusals :=
  List.filterMap_append

theorem Act.refusal?_of_isAside {a : Act} (ha : a.IsAside) : a.refusal? = none := by
  cases a with
  | call c r => cases c <;> first | rfl | exact absurd rfl ha
  | _ => rfl

/-- Who lets observers alone is not refused one. -/
theorem History.refusals_eq_nil {h : History} (hh : ∀ m ∈ h, m.act.IsAside) : h.refusals = [] :=
  List.filterMap_eq_nil_iff.2 fun m hm => Act.refusal?_of_isAside (hh m hm)

/-! ## What is undone -/

/-- The call that undoes a call, if it is one that has to be undone. -/
def Call.undoing? : Call → Option Call
  | .setHidden h true => some (.setHidden h false)
  | .showProgress _ => some .hideProgress
  | _ => none

/-- Every call that has to be undone is followed by the call that undoes it. -/
def Undone : List Call → Prop
  | [] => True
  | c :: rest => (∀ d, c.undoing? = some d → d ∈ rest) ∧ Undone rest

/-- **Calls that settle what they do**: each element that is hidden is shown again later, each
progress message is taken away later, and messages are taken away as often as they are shown. -/
structure Settles (calls : List Call) : Prop where
  undone : Undone calls
  balanced : calls.countP (fun c => c.kind == .showProgress) = calls.count .hideProgress

/-- What is undone by what comes after is undone with it. -/
theorem Undone.append {cs more : List Call} (hcs : ∀ c ∈ cs, ∀ d, c.undoing? = some d → d ∈ more)
    (hmore : Undone more) : Undone (cs ++ more) := by
  induction cs with
  | nil => exact hmore
  | cons c cs ih =>
    obtain ⟨hc, hrest⟩ := List.forall_mem_cons.1 hcs
    exact ⟨fun d hd => List.mem_append_right _ (hc d hd), ih hrest⟩

theorem Undone.trans {cs more : List Call} (hcs : Undone cs) (hmore : Undone more) :
    Undone (cs ++ more) := by
  induction cs with
  | nil => exact hmore
  | cons c cs ih => exact ⟨fun d hd => List.mem_append_left _ (hcs.1 d hd), ih hcs.2⟩

/-- A call that covers nothing has nothing to be undone. -/
theorem Call.plain_of_not_covers {c : Call} (hc : c.covers = false) :
    c.undoing? = none ∧ c.kind ≠ .showProgress ∧ c ≠ .hideProgress := by
  cases c with
  | setHidden | showProgress | hideProgress => cases hc
  | _ => exact ⟨rfl, Call.Kind.noConfusion, Call.noConfusion⟩

/-- Calls that neither show a message nor take one away. -/
theorem count_of_wordless {cs : List Call}
    (hcs : ∀ c ∈ cs, c.kind ≠ .showProgress ∧ c ≠ .hideProgress) :
    cs.countP (fun c => c.kind == .showProgress) = 0 ∧ cs.count .hideProgress = 0 := by
  constructor
  · rw [List.countP_eq_zero]
    intro c hc
    have hkind := (hcs c hc).1
    simpa using hkind
  · exact List.count_eq_zero.2 fun hmem => (hcs _ hmem).2 rfl

namespace Settles

theorem append {cs more : List Call} (hcs : Settles cs) (hmore : Settles more) :
    Settles (cs ++ more) := by
  refine ⟨hcs.undone.trans hmore.undone, ?_⟩
  rw [List.countP_append, List.count_append, hcs.balanced, hmore.balanced]

/-- Calls that cover nothing settle what they do. -/
theorem of_plain {cs : List Call} (hcs : ∀ c ∈ cs, c.covers = false) : Settles cs := by
  have hundone : Undone (cs ++ []) := by
    refine .append (fun c hc d hd => ?_) trivial
    rw [(Call.plain_of_not_covers (hcs c hc)).1] at hd
    cases hd
  rw [List.append_nil] at hundone
  obtain ⟨hshown, htaken⟩ := count_of_wordless fun c hc => (Call.plain_of_not_covers (hcs c hc)).2
  exact ⟨hundone, hshown.trans htaken.symm⟩

end Settles

/-- A step that has to be undone hides an element. -/
theorem History.undoing_of_steps {h : History} (hh : ∀ m ∈ h, m.act.IsStep) {c : Call}
    (hc : c ∈ h.calls) :
    (∀ d, c.undoing? = some d → ∃ e ∈ h.hides, d = .setHidden e false) ∧
      c.kind ≠ .showProgress ∧ c ≠ .hideProgress := by
  obtain ⟨m, hm, hcall⟩ := History.mem_calls.1 hc
  rcases hh m hm with hplain | ⟨e, r, hhide⟩
  · have hcovers : c.covers = false := by
      obtain ⟨r, hact⟩ := Act.eq_call_of_call? hcall
      rw [hact] at hplain
      cases c with
      | setHidden | showProgress | hideProgress => exact absurd hplain id
      | _ => rfl
    obtain ⟨hnone, hwordless⟩ := Call.plain_of_not_covers hcovers
    refine ⟨fun d hd => ?_, hwordless⟩
    rw [hnone] at hd
    cases hd
  · rw [hhide] at hcall
    obtain rfl : .setHidden e true = c := Option.some.inj hcall
    refine ⟨fun d hd => ⟨e, ?_, (Option.some.inj hd).symm⟩, Call.Kind.noConfusion, Call.noConfusion⟩
    exact List.mem_filterMap.2 ⟨_, hc, rfl⟩

/-- **A handling settles what it does**, whatever fails in it. -/
theorem Vendor.Conducts.settles {s : Setting} {v : Vendor} {t t' : Nat} {c : Conduct}
    (hc : v.Conducts s t t' c) (vendor : String) (reported : Nat) :
    Settles (c.history vendor reported).calls := by
  have hsteps : ∀ c' ∈ c.lifecycle.calls, (∀ d, c'.undoing? = some d →
      ∃ e ∈ c.lifecycle.hides, d = .setHidden e false) ∧
        c'.kind ≠ .showProgress ∧ c' ≠ .hideProgress :=
    fun _ => History.undoing_of_steps hc.brief.2.1
  let reveals : List Call := c.lifecycle.hides.map (Call.setHidden · false)
  have hreveals : ∀ c' ∈ reveals, c'.undoing? = none ∧ c'.kind ≠ .showProgress ∧
      c' ≠ .hideProgress := by
    intro c' hc'
    obtain ⟨e, -, rfl⟩ := List.mem_map.1 hc'
    exact ⟨rfl, Call.Kind.noConfusion, Call.noConfusion⟩
  have hclosing : Undone (reveals ++ [.hideProgress]) := by
    refine .append (fun c' hc' d hd => ?_) ⟨fun d hd => ?_, trivial⟩
    · rw [(hreveals c' hc').1] at hd
      cases hd
    · cases hd
  have hmethods : Undone (c.lifecycle.calls ++ (reveals ++ [.hideProgress])) := by
    refine .append (fun c' hc' d hd => ?_) hclosing
    obtain ⟨e, he, rfl⟩ := (hsteps c' hc').1 d hd
    exact List.mem_append_left _ (List.mem_map_of_mem he)
  rw [hc.calls]
  refine ⟨⟨fun d hd => ?_, hmethods⟩, ?_⟩
  · obtain rfl : .hideProgress = d := Option.some.inj hd
    exact List.mem_append_right _ (List.mem_append_right _ List.mem_cons_self)
  · -- the message of the handling is the only one, and nothing else takes one away
    obtain ⟨hshown, htaken⟩ := count_of_wordless fun c' hc' => (hsteps c' hc').2
    obtain ⟨hshown', htaken'⟩ := count_of_wordless fun c' hc' => (hreveals c' hc').2
    have hopening : (Call.showProgress progressMessage).kind = .showProgress := rfl
    have hending : Call.hideProgress.kind ≠ .showProgress := Call.Kind.noConfusion
    simp [hopening, hending, hshown, htaken, reveals, hshown', htaken']

/-! ## Ends of stages -/

namespace Search

variable {x : Search} {s s' : State} {r₀ : Routine Next} {t t' : Nat} {h : History} {n : Next}

/-- **Every stage settles what it does.** -/
theorem Opens.settles (ho : x.Opens s r₀) (hc : r₀.Course t h t' n) : Settles h.calls := by
  by_cases hs : x.setting.flags.skipActions = true ∨ ∀ i, s.stage ≠ .handling i
  · refine .of_plain fun c hmem => ?_
    obtain ⟨m, hm, hcall⟩ := History.mem_calls.1 hmem
    have hspares := ((ho.spares hs).leads hc).1 m hm
    obtain ⟨r, hact⟩ := Act.eq_call_of_call? hcall
    rw [hact] at hspares
    cases c with
    | setHidden | showProgress | hideProgress => cases hspares
    | _ => rfl
  · obtain ⟨hskip, hhandling⟩ := not_or.1 hs
    obtain ⟨i, hi⟩ := not_forall.1 hhandling
    obtain ⟨v, h₁, w, rfl, hcourse, -⟩ := ho.handling (not_not.1 hi) hc
    obtain ⟨c, hconducts, rfl, -⟩ := Vendor.handling_conducts (Bool.eq_false_iff.2 hskip) hcourse
    exact hconducts.settles v.name t'

/-- What an end of a stage tells of refusals: there was none, and if the search stops it does so
with its account; or the last act is one, and the search stops with its error. -/
inductive Ending (s : State) (t' : Nat) : History → Next → Prop where
  | onward {h : History} {s' : State} : h.refusals = [] → Ending s t' h (.goOn s')
  | told {h : History} :
      h.refusals = [] → Ending s t' h (.stop (.ok { handled := s.handled, tried := s.tried }))
  | refused {h : History} {e : PageError} :
      h.refusals = [] → Ending s t' (h ++ [⟨t', .call .observe (.error e)⟩]) (.stop (.error e))

/-- What came before makes no difference, if it was no refusal. -/
theorem Ending.after {before : History} (hbefore : before.refusals = []) (he : Ending s t' h n) :
    Ending s t' (before ++ h) n := by
  have hnone : ∀ {k : History}, k.refusals = [] → (before ++ k : History).refusals = [] := by
    intro k hk
    rw [History.refusals_append, hbefore, hk]
    rfl
  cases he with
  | onward hh => exact .onward (hnone hh)
  | told hh => exact .told (hnone hh)
  | refused hh =>
    rw [← List.append_assoc]
    exact .refused (hnone hh)

/-- **Only a look can be refused.** -/
theorem look_ending {st : State} (hc : (look st).Course t h t' n) : Ending s t' h n := by
  obtain ⟨rfl, r, rfl, ⟨o, rfl, rfl⟩ | ⟨e, rfl, rfl⟩⟩ := look_course hc
  · exact .onward rfl
  · exact .refused (h := []) rfl

/-- **How a stage ends.** Detecting, checking and handling never end a search, whatever fails in
them. -/
theorem step_ending (hc : (x.step s).Course t h t' n) : Ending s t' h n := by
  have aside : ∀ {α : Type} {r : Routine α} {k : History} {t₁ : Nat} {a : α}, r.Only Act.IsAside →
      r.Course t k t₁ a → k.refusals = [] := by
    intro α r k t₁ a hr hk
    exact History.refusals_eq_nil (hr.leads hk).1
  have dropped : ∀ (o : Option Observer) (t₁ : Nat),
      History.refusals (o.toList.map fun o => ⟨t₁, .drop o⟩) = [] := by
    intro o t₁
    cases o <;> rfl
  obtain ⟨h₁, rfl, hturn⟩ := step_turn hc
  have hannounced : History.refusals [⟨t, .note (.stage s.stage)⟩] = [] := rfl
  refine Ending.after hannounced ?_
  cases hturn with
  | @found _ _ k t₁ _ hpass =>
    refine .onward ?_
    rw [History.refusals_append, dropped, List.append_nil]
    exact aside ((x.nextCandidate_looks s.tried).mono Act.IsLook.isAside) hpass
  | nothing _ hpass =>
    exact .onward (aside ((x.nextCandidate_looks s.tried).mono Act.IsLook.isAside) hpass)
  | woken | lost | satisfied => exact .onward rfl
  | settled _ hawaits =>
    refine .onward (List.filterMap_eq_nil_iff.2 fun m hm => ?_)
    obtain ⟨o, ho⟩ := hawaits m hm
    rw [ho]
    rfl
  | shown _ _ hpoll | hidden _ _ hpoll =>
    exact .onward (aside (poll_only Act.IsLook.isAside (fun _ => trivial) x _ _ _) hpoll)
  | handled _ _ hhandling => exact .onward (aside (Vendor.handling_aside _ _) hhandling)
  | @looked _ notice _ _ _ hlook =>
    have hnoted : History.refusals [⟨t, .note notice⟩] = [] := rfl
    exact Ending.after hnoted (look_ending hlook)
  | ended => exact .told (dropped s.observer t)

/-! ## Ends of searches -/

/-- **A search that has come to its end**: where it stood, all that it did, when it ended and how.
It may be refused its first observer, or end in a stage on its way. -/
inductive Finishes (x : Search) : State → History → Nat → Except PageError Report → Prop where
  | refused {t t' : Nat} {h : History} {outcome : Except PageError Report} :
      start.Course t h t' (.stop outcome) → Finishes x {} h t' outcome
  | stopped {p : Trip} {t t' : Nat} {s : State} {h : History} {outcome : Except PageError Report} :
      Travels x p t s → (x.step s).Course t h t' (.stop outcome) →
        Finishes x s (p.history ++ h) t' outcome

variable {p : Trip} {outcome : Except PageError Report}

/-- **On its way a search was never refused.** -/
theorem Travels.unrefused (hp : x.Travels p t s) : p.history.refusals = [] := by
  induction hp with
  | begin hc =>
    obtain ⟨o, rfl, -⟩ := look_goOn hc
    rfl
  | onward _ hc ih =>
    rw [Trip.history_add, History.refusals_append, ih]
    cases step_ending hc with
    | onward hh => exact hh

/-- And it has settled what it did. -/
theorem Travels.settles (hp : x.Travels p t s) : Settles p.history.calls := by
  induction hp with
  | begin hc =>
    obtain ⟨o, rfl, -⟩ := look_goOn hc
    exact .of_plain fun c hmem => by rw [List.mem_singleton.1 hmem]; rfl
  | onward hp hc ih =>
    rw [Trip.history_add, History.calls_append]
    exact ih.append ((Opens.step hp.account).settles hc)

namespace Finishes

variable {H : History}

theorem ending (hf : x.Finishes s H t outcome) : Ending s t H (.stop outcome) := by
  cases hf with
  | refused hc => exact look_ending hc
  | stopped hp hc => exact (step_ending hc).after hp.unrefused

theorem account (hf : x.Finishes s H t outcome) : x.Ledger s := by
  cases hf with
  | refused => exact ⟨by simp, by simp, by simp, by simp, fun _ => .inl rfl⟩
  | stopped hp => exact hp.account

theorem settles (hf : x.Finishes s H t outcome) : Settles H.calls := by
  cases hf with
  | refused hc => exact (Opens.start : x.Opens {} start).settles hc
  | stopped hp hc =>
    rw [History.calls_append]
    exact hp.settles.append ((Opens.step hp.account).settles hc)

/-- The stage in which a search ends reports nothing. -/
theorem reports (hf : x.Finishes s H t outcome) : H.reports = s.handled := by
  cases hf with
  | refused hc =>
    have hquiet : ∀ i, ({} : State).stage ≠ .handling i := fun i hi => by cases hi
    exact (Opens.start : x.Opens {} start).reports_of_not_handling hquiet hc
  | stopped hp hc =>
    have hquiet : ∀ i, s.stage ≠ .handling i := by
      intro i hi
      obtain ⟨v, h₁, w, -, -, hgoes⟩ := (Opens.step hp.account).handling hi hc
      cases hgoes
    rw [History.reports_append, hp.reports,
      (Opens.step hp.account).reports_of_not_handling hquiet hc, List.append_nil]

end Finishes
end Search

/-! ## Tasks that ended -/

namespace Task

variable {x : Search} {Others : World → World → Prop} {w₀ w : World} {t : Task} {time : Nat}
  {outcome : Except PageError Report}

/-- A task that ended stands at the end of its search. -/
structure Over (t : Task) (w : World) (outcome : Except PageError Report) (time : Nat) : Prop where
  halt : t.halt = .finished (.stop outcome)
  time : w.clock = time

theorem follow_over (stages : Nat) {r : Routine Search.Next} (hnone : t.ended = none)
    (hended : (t.follow stages r w).1.ended = some (outcome, time)) :
    (t.follow stages r w).1.Over (t.follow stages r w).2 outcome time := by
  induction stages generalizing t r w with
  | zero =>
    rw [show (t.follow 0 r w).1.ended = t.ended from rfl, hnone] at hended
    cases hended
  | succ stages ih =>
    unfold follow at hended ⊢
    rcases hgo : w.go r with ⟨halt, w₁⟩
    rw [hgo] at hended
    cases halt with
    | finished n =>
      cases n with
      | stop outcome' =>
        cases hended
        exact ⟨rfl, rfl⟩
      | goOn s => exact ih (t := { t with state := s }) hnone hended
    | sleeping | paused | waiting =>
      dsimp only at hended
      rw [hnone] at hended
      cases hended

theorem Beside.over (hb : Beside x Others w₀ t w) (hended : t.ended = some (outcome, time)) :
    t.Over w outcome time := by
  induction hb with
  | new => cases hended
  | @act t w w' r stages _ hr ih =>
    refine follow_over stages ?_ hended
    have hover := isOver_of_ready hr
    unfold isOver at hover
    simpa using hover
  | change _ _ hclock ih =>
    obtain ⟨hhalt, htime⟩ := ih hended
    exact ⟨hhalt, hclock.trans htime⟩
  | pass later _ _ hpass ih =>
    obtain ⟨hhalt, -⟩ := ih hended
    unfold LetsPass at hpass
    rw [hhalt] at hpass
    exact absurd hpass id

/-- **A task that ended has finished its search**, among whatever others. -/
theorem Beside.finishes (hb : Beside x Others w₀ t w) (hended : t.ended = some (outcome, time)) :
    ∃ H, x.Finishes t.state H time outcome := by
  obtain ⟨hhalt, rfl⟩ := hb.over hended
  cases hb.stands with
  | starting hx hstate hh =>
    rw [hhalt] at hh
    cases hh with
    | finished hc =>
      rw [hstate]
      exact ⟨_, .refused hc⟩
  | travelling hx hp hh =>
    rw [hhalt] at hh
    cases hh with
    | finished hc => exact ⟨_, .stopped hp hc⟩

end Task

/-! ## Failing -/

namespace Search

variable {x : Search} {s : State} {t : Nat} {H : History} {outcome : Except PageError Report}

/-- **A search fails only if it is refused an observer**, and then it ends with that: the refusal is
the last of its acts and the first refusal, and the error is the one it was refused with. If it is
never refused, it ends with its account, whatever else fails. However it ends, the account of tried
and handled vendors is in order, the handled ones were reported, once each and in their order, every
element that a handling hid was shown again afterwards, and for each progress message that was shown
one was taken away. -/
theorem Finishes.fails_only_refused (hf : x.Finishes s H t outcome) :
    (∀ e, outcome = .error e →
      ∃ before : History, H = before ++ [⟨t, .call .observe (.error e)⟩] ∧ before.refusals = []) ∧
      (H.refusals = [] → outcome = .ok { handled := s.handled, tried := s.tried }) ∧
      s.tried.Nodup ∧ (∀ name ∈ s.tried, name ∈ x.names) ∧ s.handled.Sublist s.tried ∧
      (x.setting.pace.keepObserving = false → s.handled.length ≤ 1) ∧
      H.reports = s.handled ∧ Settles H.calls := by
  have hledger := hf.account
  have hending := hf.ending
  refine ⟨fun e he => ?_, fun hnone => ?_, hledger.nodup, hledger.configured, hledger.order,
    fun hk => ?_, hf.reports, hf.settles⟩
  · subst he
    cases hending with
    | refused hbefore => exact ⟨_, rfl, hbefore⟩
  · cases hending with
    | told => rfl
    | @refused before e hbefore =>
      rw [History.refusals_append, hbefore] at hnone
      cases hnone
  · rcases hledger.once hk with hnil | ⟨hone, -⟩
    · rw [hnil]
      exact Nat.zero_le 1
    · exact Nat.le_of_eq hone

/-! ### Refused after a handling -/

/-- A search that goes on after a handling. -/
def watchful : Search := { sample with setting := { pace := { keepObserving := true } } }

/-- A page with its dialog, which cannot be hidden, and which refuses to be observed again. -/
def refusing : World where
  page := .ofTree (.node .document
    [.node (.element { name := "div", attributes := [("id", "banner")] }) []]) false
  faults := { planned := [⟨.setHidden, 1, .script "no style"⟩, ⟨.observe, 2, .protocol "gone"⟩] }

/-- The dialog is handled and reported, and the search fails after that: the refusal is what it did
last, and the element that it asked to be hidden was shown again. -/
theorem sample_fails :
    let session := (Task.new watchful).run refusing
    session.1.ended = some (.error (.protocol "gone"), 0) ∧ session.1.state.handled = ["banner"] ∧
      ∃ H before : History, watchful.Finishes session.1.state H 0 (.error (.protocol "gone")) ∧
        H = before ++ [⟨0, .call .observe (.error (.protocol "gone"))⟩] ∧ before.refusals = [] ∧
        H.reports = ["banner"] ∧ Settles H.calls := by
  have hended : ((Task.new watchful).run refusing).1.ended =
      some (.error (.protocol "gone"), 0) := by
    decide +kernel
  have hhandled : ((Task.new watchful).run refusing).1.state.handled = ["banner"] := by
    decide +kernel
  have hb : Task.Beside watchful (fun _ _ => False) refusing
      ((Task.new watchful).run refusing).1 ((Task.new watchful).run refusing).2 :=
        Task.Beside.new.run
  obtain ⟨H, hf⟩ := hb.finishes hended
  obtain ⟨hlast, -, -, -, -, -, hreports, hsettles⟩ := hf.fails_only_refused
  obtain ⟨before, hH, hfirst⟩ := hlast _ rfl
  exact ⟨hended, hhandled, H, before, hf, hH, hfirst, hreports.trans hhandled, hsettles⟩

end Search
end ConsentWalker
