import ConsentWalker.Proofs.Walk.Undoing
import ConsentWalker.Walk.Search
/-!
# Walk — a search on its way

A search goes through stages. `Search.Travels` says where it can stand between two of them, after
which stages and when: whatever page it walks on, whatever fails there, and whoever changes it
meanwhile. A `Trip` keeps what was done so far, one `Leg` for each stage.

`step_turn` says once what a stage can come to; what holds between any two stages is shown from it
by going over the turns.
-/

namespace ConsentWalker

/-! ## Quiet stages -/

/-- A call that does something to a page, or shows something on it. -/
def Call.touches (c : Call) : Bool :=
  match c.kind with
  | .scroll | .focus | .click | .pointer | .setHidden | .paint | .showProgress | .hideProgress
  | .close => true
  | _ => false

namespace Act

/-- An act that touches no page and reports nothing. -/
def IsQuiet : Act → Prop
  | .call c _ => c.touches = false
  | .pause | .report _ => False
  | _ => True

/-- An act that touches a page. -/
def Touches : Act → Prop
  | .call c _ => c.touches = true
  | _ => False

theorem IsQuiet.report? {a : Act} (ha : a.IsQuiet) : a.report? = none := by
  cases a with
  | report => exact absurd ha id
  | _ => rfl

/-- Who is quiet touches nothing. -/
theorem IsQuiet.not_touches {a : Act} (ha : a.IsQuiet) : ¬ a.Touches := by
  cases a with
  | call c r =>
    intro ht
    change c.touches = true at ht
    change c.touches = false at ha
    rw [ha] at ht
    cases ht
  | _ => exact id

theorem touches_of_call? {a : Act} {c : Call} (ha : a.call? = some c) (hc : c.touches = true) :
    a.Touches := by
  cases a with
  | call c' r =>
    obtain rfl := Option.some.inj ha
    exact hc
  | _ => cases ha

theorem IsLook.isQuiet (a : Act) (ha : a.IsLook) : a.IsQuiet := by
  cases a with
  | call c r => cases c <;> first | rfl | cases ha
  | note => trivial
  | _ => exact absurd ha id

end Act

namespace Search

/-- Asking the detectors of vendors, one after another, only looks. -/
theorem candidates_looks (tried : List String) (i : Nat) (vs : List Vendor) :
    (candidates tried i vs).Only Act.IsLook := by
  induction vs generalizing i with
  | nil => trivial
  | cons v vs ih =>
    rw [candidates]
    split
    · exact ih (i + 1)
    · refine Routine.Only.bind v.detect_looks fun a => ?_
      rcases a with e | _ | _
      · exact ⟨trivial, ih (i + 1)⟩
      · exact ih (i + 1)
      · exact Routine.Only.bind (ih (i + 1)) fun _ => trivial

theorem nextCandidate_looks (x : Search) (tried : List String) :
    (x.nextCandidate tried).Only Act.IsLook := by
  refine Routine.Only.bind (candidates_looks tried 0 x.vendors) fun found => ?_
  cases found.head? with
  | none =>
    dsimp only
    split
    · exact ⟨trivial, trivial⟩
    · trivial
  | some c =>
    dsimp only
    split
    · exact ⟨trivial, trivial, trivial⟩
    · exact ⟨trivial, trivial⟩

theorem shows_looks (v : Vendor) (attempt : Nat) : (shows v attempt).Only Act.IsLook := by
  refine Routine.Only.bind v.isShowing_looks fun a => ?_
  rcases a with e | _ | _
  · exact ⟨trivial, trivial⟩
  · trivial
  · exact ⟨trivial, trivial⟩

/-- Polling looks and rests. -/
theorem poll_only {P : Act → Prop} (hlook : ∀ a, Act.IsLook a → P a) (hrest : ∀ d, P (.sleep d))
    (x : Search) (v : Vendor) (left attempt : Nat) : (x.poll v left attempt).Only P := by
  induction left generalizing attempt with
  | zero => trivial
  | succ left ih =>
    have hwait : (x.waitBefore attempt).Only P := by
      unfold waitBefore
      split
      · exact ⟨hrest _, trivial⟩
      · trivial
    refine Routine.Only.bind hwait fun _ => ?_
    refine Routine.Only.bind ((shows_looks v attempt).mono hlook) fun b => ?_
    cases b with
    | true => trivial
    | false => exact ih (attempt + 1)

/-- Looking for a dialog is quiet, with the observer that it takes. -/
theorem look_quiet (s : State) : (look s).Only Act.IsQuiet := by
  intro r
  refine ⟨rfl, ?_⟩
  cases r <;> trivial

theorem stopObserving_quiet (o : Option Observer) : (stopObserving o).Only Act.IsQuiet := by
  cases o with
  | none => trivial
  | some o => exact ⟨trivial, trivial⟩

/-- **Only a handling touches the page or reports.** -/
theorem step_quiet (x : Search) {s : State} (hs : ∀ i, s.stage ≠ .handling i) :
    (x.step s).Only Act.IsQuiet := by
  refine ⟨trivial, ?_⟩
  obtain ⟨stage, tried, handled, observer⟩ := s
  cases stage with
  | detecting =>
    change ((x.nextCandidate tried).bind _).Only Act.IsQuiet
    refine Routine.Only.bind ((x.nextCandidate_looks tried).mono Act.IsLook.isQuiet) fun c => ?_
    cases c with
    | none => trivial
    | some c => exact Routine.Only.bind (stopObserving_quiet observer) fun _ => trivial
  | observing =>
    cases observer with
    | none => trivial
    | some o =>
      intro r
      refine ⟨trivial, ?_⟩
      cases r with
      | none => trivial
      | some records => exact ⟨trivial, trivial⟩
  | polling i =>
    dsimp only [Routine.bind]
    cases x.vendors[i]? with
    | none => trivial
    | some v =>
      refine Routine.Only.bind (poll_only Act.IsLook.isQuiet (fun _ => trivial) x v _ _) fun b => ?_
      cases b <;> trivial
  | abandoned i => exact ⟨trivial, look_quiet _⟩
  | handling i => exact absurd rfl (hs i)
  | handled i =>
    refine ⟨trivial, ?_⟩
    change Routine.Only Act.IsQuiet (if x.setting.pace.keepObserving then _ else _)
    split
    · exact look_quiet _
    · trivial
  | finished =>
    change ((stopObserving observer).bind _).Only Act.IsQuiet
    exact Routine.Only.bind (stopObserving_quiet observer) fun _ => trivial

end Search

namespace Search

/-! ## Legs and trips -/

/-- One stage of a search, as it went. -/
structure Leg where
  start : Nat
  before : State
  history : History
  stop : Nat
  after : State

/-- The stages a search has gone through, and what it did before the first. -/
structure Trip where
  opening : History
  legs : List Leg := []

namespace Trip

/-- A trip with one more stage. -/
def add (p : Trip) (leg : Leg) : Trip := { p with legs := p.legs ++ [leg] }

/-- All that was done. -/
def history (p : Trip) : History := p.opening ++ p.legs.flatMap Leg.history

@[simp] theorem legs_add (p : Trip) (leg : Leg) : (p.add leg).legs = p.legs ++ [leg] := rfl

@[simp] theorem history_add (p : Trip) (leg : Leg) :
    (p.add leg).history = p.history ++ leg.history := by
  simp [history, add]

end Trip

/-- A trip goes through a leg right after another one, or as its first. -/
def Trip.Through (p : Trip) (last : Option Leg) (leg : Leg) : Prop :=
  ∃ before after, p.legs = before ++ leg :: after ∧ before.getLast? = last

/-- **A search on its way**: the stages it has gone through, the time, and where it stands. -/
inductive Travels (x : Search) : Trip → Nat → State → Prop where
  | begin {t t' : Nat} {h : History} {s : State} :
      start.Course t h t' (.goOn s) → Travels x ⟨h, []⟩ t' s
  | onward {p : Trip} {t t' : Nat} {h : History} {s s' : State} :
      Travels x p t s → (x.step s).Course t h t' (.goOn s') →
        Travels x (p.add ⟨t, s, h, t', s'⟩) t' s'

/-- **Every leg of a trip is a stage of a search on its way**, at the point of the trip where it
stands. -/
theorem Travels.leg {x : Search} {p : Trip} {t : Nat} {s : State} (hp : x.Travels p t s)
    {before after : List Leg} {leg : Leg} (hlegs : p.legs = before ++ leg :: after) :
    x.Travels ⟨p.opening, before⟩ leg.start leg.before ∧
      (x.step leg.before).Course leg.start leg.history leg.stop (.goOn leg.after) := by
  induction hp generalizing after with
  | begin => simp at hlegs
  | @onward p t t' h s s' hp hc ih =>
    rw [Trip.legs_add] at hlegs
    rcases List.eq_nil_or_concat after with rfl | ⟨init, last, rfl⟩
    · obtain ⟨rfl, hlast⟩ := List.append_inj' hlegs rfl
      obtain rfl := List.singleton_inj.1 hlast
      exact ⟨hp, hc⟩
    · -- the last leg is another one, so this one is of the trip before it
      have hsplit : p.legs ++ [⟨t, s, h, t', s'⟩] = (before ++ leg :: init) ++ [last] := by
        simpa using hlegs
      exact ih (List.append_inj' hsplit rfl).1

/-! ### A short trip -/

/-- A search for one dialog, which is handled by hiding it and nothing else. -/
def sample : Search where
  vendors := [{
    name := "banner"
    detectors := [⟨.css { selector := "#banner" }, .css { selector := "#banner" }⟩]
    methods := fun m => if m = .hideCmp then some (.hide { selector := "#banner" }) else none }]

/-- It comes to handle the dialog if the page says that it is there. -/
theorem sample_travels : ∃ p, sample.Travels p 0 { stage := .handling 0, tried := ["banner"] } := by
  have hstart : ∃ h, start.Course 0 h 0 (.goOn { observer := some ⟨0⟩ }) :=
    ⟨_, .step (.call .observe _ _ (.ok ⟨0⟩)) <| .refl _ _⟩
  have hdetect : ∃ h, (sample.step { observer := some ⟨0⟩ }).Course 0 h 0
      (.goOn { stage := .polling 0, tried := ["banner"] }) :=
    ⟨_, .step (.note ..) <| .step (.call (.query none "#banner") _ _ (.ok [⟨0⟩])) <|
      .step (.note ..) <| .step (.drop ..) <| .refl _ _⟩
  have hpoll : ∃ h, (sample.step { stage := .polling 0, tried := ["banner"] }).Course 0 h 0
      (.goOn { stage := .handling 0, tried := ["banner"] }) :=
    ⟨_, .step (.note ..) <| .step (.call (.query none "#banner") _ _ (.ok [⟨0⟩])) <|
      .step (.call (.query none "#banner") _ _ (.ok [⟨0⟩])) <| .step (.note ..) <| .refl _ _⟩
  obtain ⟨h₁, hstart⟩ := hstart
  obtain ⟨h₂, hdetect⟩ := hdetect
  obtain ⟨h₃, hpoll⟩ := hpoll
  exact ⟨_, .onward (.onward (.begin hstart) hdetect) hpoll⟩

/-- And it handles it even if the page fails to hide it. -/
theorem sample_handles :
    ∃ h, (sample.step { stage := .handling 0, tried := ["banner"] }).Course 0 h 0
      (.goOn { stage := .handled 0, tried := ["banner"], handled := ["banner"] }) ∧
      h.calls = [.showProgress progressMessage, .query none "#banner", .setHidden ⟨0⟩ true,
        .setHidden ⟨0⟩ false, .hideProgress] :=
  ⟨_, .step (.note ..) <| .step (.pause ..) <|
    .step (.call (.showProgress progressMessage) _ _ (.ok ())) <| .step (.note ..) <|
    .step (.note ..) <| .step (.call (.query none "#banner") _ _ (.ok [⟨0⟩])) <|
    .step (.call (.setHidden ⟨0⟩ true) _ _ (.error (.stale ⟨0⟩))) <| .step (.note ..) <|
    .step (.report ..) <| .step (.call (.setHidden ⟨0⟩ false) _ _ (.ok ())) <|
    .step (.call .hideProgress _ _ (.ok ())) <| .refl _ _, rfl⟩

/-! ## What a stage comes to -/

variable {x : Search} {s s' : State} {t t' : Nat} {h : History} {n : Next}

/-- **Looking again** asks the page to be observed, and does nothing else. -/
theorem look_course (hc : (look s).Course t h t' n) :
    t' = t ∧ ∃ r, h = [⟨t, .call .observe r⟩] ∧
      ((∃ o, r = .ok o ∧ n = .goOn { s with stage := .detecting, observer := some o }) ∨
        ∃ e, r = .error e ∧ n = .stop (.error e)) := by
  obtain ⟨r, h₁, rfl, hd⟩ := Routine.course_call.1 hc
  cases r with
  | ok o =>
    obtain ⟨rfl, rfl, rfl⟩ := Routine.course_done.1 hd
    exact ⟨rfl, _, rfl, .inl ⟨o, rfl, rfl⟩⟩
  | error e =>
    obtain ⟨rfl, rfl, rfl⟩ := Routine.course_done.1 hd
    exact ⟨rfl, _, rfl, .inr ⟨e, rfl, rfl⟩⟩

/-- **Who looks again goes on to look** for dialogs, with an observer. -/
theorem look_goOn (hc : (look s).Course t h t' (.goOn s')) :
    ∃ o, h = [⟨t, .call .observe (.ok o)⟩] ∧
      s' = { s with stage := .detecting, observer := some o } := by
  obtain ⟨-, r, rfl, ⟨o, rfl, hgo⟩ | ⟨e, -, hstop⟩⟩ := look_course hc
  · exact ⟨o, rfl, Next.goOn.inj hgo⟩
  · cases hstop

/-- Giving an observer up takes no time. -/
theorem stopObserving_course {o : Option Observer} (hc : (stopObserving o).Course t h t' ()) :
    t' = t ∧ h = o.toList.map fun o => ⟨t, .drop o⟩ := by
  cases o with
  | none =>
    obtain ⟨rfl, rfl, -⟩ := Routine.course_done.1 hc
    exact ⟨rfl, rfl⟩
  | some o =>
    obtain ⟨h₁, rfl, hd⟩ := Routine.course_drop.1 hc
    obtain ⟨rfl, rfl, -⟩ := Routine.course_done.1 hd
    exact ⟨rfl, rfl⟩

/-- **What a stage can come to**, after it was announced: the history of the stage, the time it
ends, and what follows. -/
inductive Turn (x : Search) (s : State) (t : Nat) : History → Nat → Next → Prop where
  /-- A dialog was found; from here to the next look the page changes unobserved. -/
  | found {i : Nat} {name : String} {h : History} {t' : Nat} :
      s.stage = .detecting → (x.nextCandidate s.tried).Course t h t' (some (i, name)) →
      Turn x s t (h ++ s.observer.toList.map fun o => ⟨t', .drop o⟩) t'
        (.goOn { s with stage := .polling i, tried := s.tried ++ [name], observer := none })
  | nothing {h : History} {t' : Nat} :
      s.stage = .detecting → (x.nextCandidate s.tried).Course t h t' none →
      Turn x s t h t' (.goOn { s with stage := .observing })
  | woken {o : Observer} {records t' : Nat} :
      s.stage = .observing → s.observer = some o → t ≤ t' →
      Turn x s t [⟨t, .await o (some records)⟩, ⟨t', .note (.changesSeen records)⟩] t'
        (.goOn { s with stage := .detecting })
  /-- There will be no more changes. -/
  | settled {h : History} {t' : Nat} :
      s.stage = .observing → (∀ m ∈ h, ∃ o, m.act = .await o none) →
      Turn x s t h t' (.goOn { s with stage := .finished })
  | shown {i : Nat} {v : Vendor} {h : History} {t' : Nat} :
      s.stage = .polling i → x.vendors[i]? = some v →
      (x.poll v x.setting.pace.pollAttempts 1).Course t h t' true →
      Turn x s t h t' (.goOn { s with stage := .handling i })
  | hidden {i : Nat} {v : Vendor} {h : History} {t' : Nat} :
      s.stage = .polling i → x.vendors[i]? = some v →
      (x.poll v x.setting.pace.pollAttempts 1).Course t h t' false →
      Turn x s t h t' (.goOn { s with stage := .abandoned i })
  | handled {i : Nat} {v : Vendor} {w : Walker} {h : History} {t' : Nat} :
      s.stage = .handling i → x.vendors[i]? = some v →
      (v.handling x.setting).Course {} t h t' () w →
      Turn x s t h t' (.goOn { s with stage := .handled i, handled := s.handled ++ [v.name] })
  /-- There is no vendor at the position. -/
  | lost {i : Nat} :
      s.stage = .polling i ∨ s.stage = .handling i → x.vendors[i]? = none →
      Turn x s t [] t (.goOn { s with stage := .finished })
  /-- The page is observed again, or refuses it. -/
  | looked {i : Nat} {notice : Notice} {h : History} {n : Next} :
      s.stage = .abandoned i ∨ (s.stage = .handled i ∧ x.setting.pace.keepObserving = true) →
      (look s).Course t h t n → Turn x s t (⟨t, .note notice⟩ :: h) t n
  | satisfied {i : Nat} {notice : Notice} :
      s.stage = .handled i → x.setting.pace.keepObserving = false →
      Turn x s t [⟨t, .note notice⟩] t (.goOn { s with stage := .finished })
  | ended :
      s.stage = .finished →
      Turn x s t (s.observer.toList.map fun o => ⟨t, .drop o⟩) t
        (.stop (.ok { handled := s.handled, tried := s.tried }))

/-- **Every stage takes one of its turns.** -/
theorem step_turn (hc : (x.step s).Course t h t' n) :
    ∃ h₁, h = ⟨t, .note (.stage s.stage)⟩ :: h₁ ∧ x.Turn s t h₁ t' n := by
  obtain ⟨h₁, rfl, hwork⟩ := Routine.course_note.1 hc
  refine ⟨h₁, rfl, ?_⟩
  obtain ⟨stage, tried, handled, observer⟩ := s
  cases stage with
  | detecting =>
    change ((x.nextCandidate tried).bind _).Course t h₁ t' n at hwork
    obtain ⟨found, t₁, h₂, h₃, hfound, hrest, rfl⟩ := Routine.course_bind.1 hwork
    cases found with
    | none =>
      obtain ⟨rfl, rfl, rfl⟩ := Routine.course_done.1 hrest
      rw [List.append_nil]
      exact .nothing rfl hfound
    | some c =>
      obtain ⟨_, t₂, h₄, h₅, hdrop, hd, rfl⟩ := Routine.course_bind.1 hrest
      obtain ⟨rfl, rfl⟩ := stopObserving_course hdrop
      obtain ⟨rfl, rfl, rfl⟩ := Routine.course_done.1 hd
      rw [List.append_nil]
      exact .found rfl hfound
  | observing =>
    cases observer with
    | none =>
      obtain ⟨rfl, rfl, rfl⟩ := Routine.course_done.1 hwork
      exact .settled rfl (by simp)
    | some o =>
      obtain ⟨r, t₁, h₂, hle, rfl, hrest⟩ := Routine.course_await.1 hwork
      cases r with
      | none =>
        obtain ⟨rfl, rfl, rfl⟩ := Routine.course_done.1 hrest
        exact .settled rfl (by simp)
      | some records =>
        obtain ⟨h₃, rfl, hd⟩ := Routine.course_note.1 hrest
        obtain ⟨rfl, rfl, rfl⟩ := Routine.course_done.1 hd
        exact .woken rfl rfl hle
  | polling i =>
    dsimp only [Routine.bind] at hwork
    cases hv : x.vendors[i]? with
    | none =>
      rw [hv] at hwork
      obtain ⟨rfl, rfl, rfl⟩ := Routine.course_done.1 hwork
      exact .lost (.inl rfl) hv
    | some v =>
      rw [hv] at hwork
      obtain ⟨showing, t₁, h₂, h₃, hpoll, hd, rfl⟩ := Routine.course_bind.1 hwork
      cases showing with
      | true =>
        obtain ⟨rfl, rfl, rfl⟩ := Routine.course_done.1 hd
        rw [List.append_nil]
        exact .shown rfl hv hpoll
      | false =>
        obtain ⟨rfl, rfl, rfl⟩ := Routine.course_done.1 hd
        rw [List.append_nil]
        exact .hidden rfl hv hpoll
  | abandoned i =>
    obtain ⟨h₂, rfl, hlook⟩ := Routine.course_note.1 hwork
    obtain ⟨rfl, -⟩ := look_course hlook
    exact .looked (.inl rfl) hlook
  | handling i =>
    dsimp only [Routine.bind] at hwork
    cases hv : x.vendors[i]? with
    | none =>
      rw [hv] at hwork
      obtain ⟨rfl, rfl, rfl⟩ := Routine.course_done.1 hwork
      exact .lost (.inr rfl) hv
    | some v =>
      rw [hv] at hwork
      obtain ⟨⟨_, w⟩, t₁, h₂, h₃, hhandling, hd, rfl⟩ := Routine.course_bind.1 hwork
      obtain ⟨rfl, rfl, rfl⟩ := Routine.course_done.1 hd
      rw [List.append_nil]
      exact .handled rfl hv hhandling
  | handled i =>
    obtain ⟨h₂, rfl, hrest⟩ := Routine.course_note.1 hwork
    change Routine.Course (if x.setting.pace.keepObserving then _ else _) t h₂ t' n at hrest
    cases hk : x.setting.pace.keepObserving with
    | true =>
      rw [hk, if_pos rfl] at hrest
      obtain ⟨rfl, -⟩ := look_course hrest
      exact .looked (.inr ⟨rfl, hk⟩) hrest
    | false =>
      rw [hk, if_neg Bool.false_ne_true] at hrest
      obtain ⟨rfl, rfl, rfl⟩ := Routine.course_done.1 hrest
      exact .satisfied rfl hk
  | finished =>
    change ((stopObserving observer).bind _).Course t h₁ t' n at hwork
    obtain ⟨_, t₁, h₂, h₃, hdrop, hd, rfl⟩ := Routine.course_bind.1 hwork
    obtain ⟨rfl, rfl⟩ := stopObserving_course hdrop
    obtain ⟨rfl, rfl, rfl⟩ := Routine.course_done.1 hd
    rw [List.append_nil]
    exact .ended rfl

/-- **A stage that handles a dialog** is a handling from end to end. -/
theorem step_handling {i : Nat} {v : Vendor} (hi : s.stage = .handling i)
    (hv : x.vendors[i]? = some v) (hc : (x.step s).Course t h t' n) :
    ∃ h₁ w, h = ⟨t, .note (.stage s.stage)⟩ :: h₁ ∧
      (v.handling x.setting).Course {} t h₁ t' () w ∧
      n = .goOn { s with stage := .handled i, handled := s.handled ++ [v.name] } := by
  obtain ⟨h₁, rfl, hturn⟩ := step_turn hc
  cases hturn with
  | @handled j v' w _ _ hstage hv' hhandling =>
    obtain rfl : i = j := by simpa [hi] using hstage
    obtain rfl : v = v' := Option.some.inj (hv.symm.trans hv')
    exact ⟨h₁, w, rfl, hhandling, rfl⟩
  | @lost j hstage hv' =>
    obtain rfl : i = j := by simpa [hi] using hstage
    rw [hv] at hv'
    cases hv'
  | looked hstage _ => simp [hi] at hstage
  | found hstage _ | nothing hstage _ | woken hstage _ _ | settled hstage _ | shown hstage _ _
  | hidden hstage _ _ | satisfied hstage _ | ended hstage =>
    rw [hi] at hstage
    cases hstage

end Search
end ConsentWalker
