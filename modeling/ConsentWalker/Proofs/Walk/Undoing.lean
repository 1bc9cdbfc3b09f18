import ConsentWalker.Proofs.Walk.Concealment
/-!
# Walk — what a handling undoes

The course of a handling, from the progress message to the clean-up. A handling does not fail:
whatever fails in it is told, and it goes on. `Conduct` is a handling as it went, and
`Vendor.Conducts` says what one is like: the methods in their order up to the first that fails
(`runMethods_course`), the report, and then every element that was to be hidden shown again in the
same order (`handling_conducts`).
-/

namespace ConsentWalker

/-! ## Notices and reports -/

/-- The vendor an act reports. -/
def Act.report? : Act → Option String
  | .report v => some v
  | _ => none

namespace History

/-- The vendors that were reported, in order. -/
def reports (h : History) : List String := h.filterMap fun m => m.act.report?

@[simp] theorem reports_cons (m : Moment) (h : History) :
    reports (m :: h) = m.act.report?.toList ++ reports h := by
  unfold reports
  rw [List.filterMap_cons]
  cases m.act.report? <;> rfl

@[simp] theorem reports_append (h h' : History) : reports (h ++ h') = reports h ++ reports h' :=
  List.filterMap_append

/-- A history of acts that report nothing has no reports. -/
theorem reports_eq_nil {h : History} (hh : ∀ m ∈ h, m.act.report? = none) : h.reports = [] :=
  List.filterMap_eq_nil_iff.2 hh

/-- Nothing was done but telling. -/
def IsTalk (h : History) : Prop := ∀ m ∈ h, ∃ n, m.act = .note n

theorem isTalk_nil : IsTalk [] := by simp [IsTalk]

theorem isTalk_note (t : Nat) (n : Notice) : IsTalk [⟨t, .note n⟩] := by simp [IsTalk]

theorem IsTalk.calls {h : History} (hh : h.IsTalk) : h.calls = [] := by
  unfold History.calls
  rw [List.filterMap_eq_nil_iff]
  intro m hm
  obtain ⟨n, hn⟩ := hh m hm
  rw [hn]
  rfl

end History

/-- An act that takes no time and lets nobody else act: a call, or telling. -/
def Act.IsBrief : Act → Prop
  | .call .. | .note _ => True
  | _ => False

theorem History.IsTalk.isBrief {h : History} (hh : h.IsTalk) : ∀ m ∈ h, m.act.IsBrief := by
  intro m hm
  obtain ⟨n, hn⟩ := hh m hm
  rw [hn]
  trivial

/-- A brief act reports nothing. -/
theorem Act.IsBrief.report? {a : Act} (ha : a.IsBrief) : a.report? = none := by
  cases a with
  | report => exact absurd ha id
  | _ => rfl

/-- An act that waits for changes of the page. -/
def Act.Waits : Act → Prop
  | .await .. => True
  | _ => False

theorem Act.IsBrief.not_waits {a : Act} (ha : a.IsBrief) : ¬ a.Waits := by
  cases a with
  | await => exact absurd ha id
  | _ => exact id

theorem Act.IsPlain.not_waits {a : Act} (ha : a.IsPlain) : ¬ a.Waits := by
  cases a with
  | await => exact absurd ha id
  | _ => exact id

theorem Act.IsStep.not_waits {a : Act} (ha : a.IsStep) : ¬ a.Waits := by
  rcases ha with hplain | ⟨e, r, rfl⟩
  · exact hplain.not_waits
  · exact id

/-- A step reports nothing. -/
theorem Act.IsStep.report? {a : Act} (ha : a.IsStep) : a.report? = none := by
  rcases ha with hplain | ⟨e, r, rfl⟩
  · cases a with
    | report => exact absurd hplain id
    | _ => rfl
  · rfl

/-! ## Acts -/

namespace Acts

variable {α β : Type} {t t' : Nat} {h : History} {w w' : Walker}

/-- **A course of acts**, from a walker to a value and another walker. -/
def Course (x : Acts α) (w : Walker) (t : Nat) (h : History) (t' : Nat) (a : α) (w' : Walker) :
    Prop :=
  (x.run w).Course t h t' (a, w')

theorem course_pure {a b : α} :
    (pure a : Acts α).Course w t h t' b w' ↔ h = [] ∧ t' = t ∧ b = a ∧ w' = w := by
  change (Routine.done (a, w)).Course t h t' (b, w') ↔ _
  rw [Routine.course_done, Prod.mk.injEq]

theorem course_bind {x : Acts α} {f : α → Acts β} {b : β} :
    (x >>= f).Course w t h t' b w' ↔
      ∃ a w₁ t₁ h₁ h₂, x.Course w t h₁ t₁ a w₁ ∧ (f a).Course w₁ t₁ h₂ t' b w' ∧
        h = h₁ ++ h₂ := by
  change ((x.run w).bind fun (a, w₁) => (f a).run w₁).Course t h t' (b, w') ↔ _
  rw [Routine.course_bind]
  constructor
  · rintro ⟨⟨a, w₁⟩, t₁, h₁, h₂, hx, hf, rfl⟩
    exact ⟨a, w₁, t₁, h₁, h₂, hx, hf, rfl⟩
  · rintro ⟨a, w₁, t₁, h₁, h₂, hx, hf, rfl⟩
    exact ⟨(a, w₁), t₁, h₁, h₂, hx, hf, rfl⟩

/-- A lifted routine keeps the walker. -/
theorem course_lift {x : Routine α} {a : α} :
    (liftM x : Acts α).Course w t h t' a w' ↔ x.Course t h t' a ∧ w' = w := by
  change (x.bind fun b => .done (b, w)).Course t h t' (a, w') ↔ _
  rw [Routine.course_bind]
  constructor
  · rintro ⟨b, t₁, h₁, h₂, hx, hd, rfl⟩
    obtain ⟨rfl, rfl, hr⟩ := Routine.course_done.1 hd
    cases hr
    exact ⟨by simpa using hx, rfl⟩
  · rintro ⟨hx, rfl⟩
    exact ⟨a, t', h, [], hx, by simp, by simp⟩

/-- Telling something. -/
theorem course_tell {n : Notice} (hc : (tell n : Acts Unit).Course w t h t' () w') :
    h = [⟨t, .note n⟩] ∧ t' = t ∧ w' = w := by
  obtain ⟨hn, rfl⟩ := course_lift.1 hc
  obtain ⟨h₁, rfl, hd⟩ := Routine.course_note.1 hn
  obtain ⟨rfl, rfl, -⟩ := Routine.course_done.1 hd
  exact ⟨rfl, rfl, rfl⟩

end Acts

/-- **One call, whatever its answer**, and perhaps a complaint about it. -/
theorem tryTo_course {c : Call} {complaint : PageError → Notice} {t t' : Nat} {h : History}
    {w w' : Walker} (hc : (tryTo c complaint).Course w t h t' () w') :
    ∃ r talk, h = ⟨t, .call c r⟩ :: talk ∧ History.IsTalk talk ∧ t' = t ∧ w' = w := by
  obtain ⟨r, w₁, t₁, h₁, h₂, hcall, hrest, rfl⟩ := Acts.course_bind.1 hc
  obtain ⟨hask, rfl⟩ := Acts.course_lift.1 hcall
  obtain ⟨r', h₃, rfl, hd⟩ := Routine.course_call.1 hask
  obtain ⟨rfl, rfl, rfl⟩ := Routine.course_done.1 hd
  cases r with
  | ok a =>
    obtain ⟨rfl, rfl, -, rfl⟩ := Acts.course_pure.1 hrest
    exact ⟨_, [], rfl, History.isTalk_nil, rfl, rfl⟩
  | error e =>
    obtain ⟨rfl, rfl, rfl⟩ := Acts.course_tell hrest
    exact ⟨_, _, rfl, History.isTalk_note _ _, rfl, rfl⟩

/-- **Steps that may fail**, and a complaint if they do. -/
theorem trySteps_course {steps : Steps Unit} {complaint : PageError → Notice} {t t' : Nat}
    {h : History} {w w' : Walker} (hc : (trySteps steps complaint).Course w t h t' () w') :
    ∃ r h₁ talk, steps.Course w t h₁ t' r w' ∧ h = h₁ ++ talk ∧ History.IsTalk talk := by
  obtain ⟨r, w₁, t₁, h₁, h₂, hsteps, hrest, rfl⟩ := Acts.course_bind.1 hc
  cases r with
  | ok a =>
    obtain ⟨rfl, rfl, -, rfl⟩ := Acts.course_pure.1 hrest
    exact ⟨.ok a, h₁, [], hsteps, rfl, History.isTalk_nil⟩
  | error e =>
    obtain ⟨rfl, rfl, rfl⟩ := Acts.course_tell hrest
    exact ⟨.error e, h₁, _, hsteps, rfl, History.isTalk_note _ _⟩

/-! ## Methods, one after another -/

/-- A run of a method, as it went. -/
structure MethodRun where
  method : Method
  history : History
  outcome : Except PageError Unit

/-- Whether a method ran to its end. -/
def MethodRun.succeeded (r : MethodRun) : Bool := r.outcome.isOk

namespace Vendor

/-- **Methods run one after another**, each by a course of its own. -/
inductive Runs (s : Setting) (v : Vendor) :
    Walker → Nat → List MethodRun → Nat → Walker → Prop where
  | nil (w : Walker) (t : Nat) : Runs s v w t [] t w
  | cons {w w₁ w' : Walker} {t t₁ t' : Nat} {r : MethodRun} {runs : List MethodRun} :
      (v.runMethod s r.method).Course w t r.history t₁ r.outcome w₁ → Runs s v w₁ t₁ runs t' w' →
        Runs s v w t (r :: runs) t' w'

variable {s : Setting} {v : Vendor} {t t' : Nat} {h : History} {w w' : Walker}

/-- What was noted while methods ran. -/
theorem Runs.noted {runs : List MethodRun} (hr : v.Runs s w t runs t' w') :
    Noted w (runs.flatMap MethodRun.history) w' := by
  induction hr with
  | nil => exact kept_noted.refl _
  | cons hc _ ih => exact kept_noted.trans (v.runMethod_noted s _ hc) ih

/-- **A method that is not supplied does nothing**: it asks nothing of the page and cannot fail. -/
theorem runMethod_missing {m : Method} {r : Except PageError Unit} (hm : v.methods m = none)
    (hc : (v.runMethod s m).Course w t h t' r w') : r = .ok () ∧ h.calls = [] := by
  unfold runMethod at hc
  rw [hm] at hc
  rcases Steps.course_bind.1 hc with ⟨e, htell, -⟩ | ⟨_, w₁, t₁, h₁, h₂, htell, hpause, rfl⟩
  · obtain ⟨_, _, he, _⟩ := Steps.course_lift.1 htell
    cases he
  · obtain ⟨_, htell, -, -⟩ := Steps.course_lift.1 htell
    obtain ⟨h₃, rfl, hd⟩ := Routine.course_note.1 htell
    obtain ⟨rfl, rfl, -⟩ := Routine.course_done.1 hd
    obtain ⟨_, hpause, rfl, -⟩ := Steps.course_lift.1 hpause
    obtain ⟨h₄, rfl, hd'⟩ := Routine.course_pause.1 hpause
    obtain ⟨rfl, rfl, -⟩ := Routine.course_done.1 hd'
    exact ⟨rfl, rfl⟩

theorem Runs.missing {runs : List MethodRun} (hr : v.Runs s w t runs t' w') :
    ∀ r ∈ runs, v.methods r.method = none → r.outcome = .ok () ∧ r.history.calls = [] := by
  induction hr with
  | nil => simp
  | cons hc _ ih =>
    intro r hmem hm
    rcases List.mem_cons.1 hmem with rfl | hmem
    · exact runMethod_missing hm hc
    · exact ih r hmem hm

/-- How a list of methods ends: **all of them ran to their end, or they stopped at the first that
did not**. -/
inductive Stopped (ms : List Method) (runs : List MethodRun) : Except PageError Unit → Prop where
  | whole : runs.map MethodRun.method = ms → (∀ r ∈ runs, r.outcome = .ok ()) →
      Stopped ms runs (.ok ())
  | failed (done : List MethodRun) (last : MethodRun) {e : PageError} : runs = done ++ [last] →
      runs.map MethodRun.method <+: ms → (∀ r ∈ done, r.outcome = .ok ()) →
      last.outcome = .error e → Stopped ms runs (.error e)

/-- One more method in front. -/
theorem Stopped.cons {ms : List Method} {runs : List MethodRun} {r : MethodRun}
    {a : Except PageError Unit} (hr : r.outcome = .ok ()) (hs : Stopped ms runs a) :
    Stopped (r.method :: ms) (r :: runs) a := by
  cases hs with
  | whole hms hok =>
    refine .whole (by rw [List.map_cons, hms]) fun x hx => ?_
    rcases List.mem_cons.1 hx with rfl | hx
    · exact hr
    · exact hok x hx
  | failed done last hruns hpre hok hlast =>
    refine .failed (r :: done) last (by rw [hruns, List.cons_append]) ?_ (fun x hx => ?_) hlast
    · rw [List.map_cons]
      exact (List.cons_prefix_cons).2 ⟨rfl, hpre⟩
    · rcases List.mem_cons.1 hx with rfl | hx
      · exact hr
      · exact hok x hx

/-- **The course of methods** is that of each, up to the first that fails. -/
theorem runMethods_course {ms : List Method} {a : Except PageError Unit}
    (hc : (v.runMethods s ms).Course w t h t' a w') :
    ∃ runs, v.Runs s w t runs t' w' ∧ h = runs.flatMap MethodRun.history ∧ Stopped ms runs a := by
  induction ms generalizing w t h with
  | nil =>
    obtain ⟨rfl, rfl, rfl, rfl⟩ := Steps.course_pure.1 hc
    exact ⟨[], .nil _ _, rfl, .whole rfl (by simp)⟩
  | cons m ms ih =>
    rcases Steps.course_bind.1 hc with ⟨e, hfail, rfl⟩ | ⟨u, w₁, t₁, h₁, h₂, hm, hrest, rfl⟩
    · refine ⟨[⟨m, h, .error e⟩], .cons hfail (.nil _ _), by simp, ?_⟩
      exact .failed [] _ rfl (by simp) (by simp) rfl
    · obtain ⟨runs, hruns, rfl, hs⟩ := ih hrest
      have hcons := hs.cons (r := ⟨m, h₁, .ok u⟩) rfl
      exact ⟨⟨m, h₁, .ok u⟩ :: runs, .cons hm hruns, by simp, hcons⟩

theorem Stopped.order {ms : List Method} {runs : List MethodRun} {a : Except PageError Unit}
    (hs : Stopped ms runs a) : runs.map MethodRun.method <+: ms := by
  cases hs with
  | whole hms _ => exact hms ▸ List.prefix_rfl
  | failed _ _ _ hpre _ _ => exact hpre

theorem Stopped.failed_or {ms : List Method} {runs : List MethodRun} {a : Except PageError Unit}
    (hs : Stopped ms runs a) : (∀ r ∈ runs, r.outcome = .ok ()) ∨ ∃ done last e,
      runs = done ++ [last] ∧ (∀ r ∈ done, r.outcome = .ok ()) ∧ last.outcome = .error e := by
  cases hs with
  | whole _ hall => exact .inl hall
  | failed done last hruns _ hall hlast => exact .inr ⟨done, last, _, hruns, hall, hlast⟩

/-- Methods were run to the end of the list exactly when none of them failed. -/
theorem Stopped.succeeded_iff {ms : List Method} {runs : List MethodRun}
    {a : Except PageError Unit} (hs : Stopped ms runs a) :
    (runs.filter MethodRun.succeeded).map MethodRun.method = ms ↔
      ∀ r ∈ runs, r.outcome = .ok () := by
  have hok : ∀ r : MethodRun, r.outcome = .ok () → r.succeeded := by
    intro r hr
    rw [MethodRun.succeeded, hr]
    rfl
  cases hs with
  | whole hms hall =>
    rw [List.filter_eq_self.2 fun r hr => hok r (hall r hr)]
    exact ⟨fun _ => hall, fun _ => hms⟩
  | failed done last hruns hpre hall hlast =>
    constructor
    · -- the list is longer than what succeeded, by the one that failed at least
      intro hms
      have hfails : last.succeeded = false := by
        rw [MethodRun.succeeded, hlast]
        rfl
      have hsub : (runs.filter MethodRun.succeeded).length ≤ done.length := by
        rw [hruns, List.filter_append, List.filter_cons_of_neg (by simp [hfails])]
        simpa using List.length_filter_le MethodRun.succeeded done
      have hlen : runs.length ≤ ms.length := by simpa using hpre.length_le
      have hms' := congrArg List.length hms
      rw [List.length_map] at hms'
      rw [hruns, List.length_append, List.length_singleton] at hlen
      omega
    · intro hall'
      have := hall' last (by rw [hruns]; simp)
      rw [hlast] at this
      cases this

/-! ## The clean-up -/

/-- **Elements are shown again one after another**, whether the page can or not. -/
theorem reveal_course {es : List Handle} (hc : (v.reveal es).Course w t h t' () w') :
    h.calls = es.map (Call.setHidden · false) ∧ (∀ m ∈ h, m.act.IsBrief) ∧ t' = t ∧ w' = w := by
  induction es generalizing h with
  | nil =>
    obtain ⟨rfl, rfl, -, rfl⟩ := Acts.course_pure.1 hc
    exact ⟨rfl, by simp, rfl, rfl⟩
  | cons e es ih =>
    obtain ⟨_, w₁, t₁, h₁, h₂, hone, hrest, rfl⟩ := Acts.course_bind.1 hc
    obtain ⟨r, talk, rfl, htalk, rfl, rfl⟩ := tryTo_course hone
    obtain ⟨hcalls, hbrief, rfl, rfl⟩ := ih hrest
    refine ⟨?_, fun m hm => ?_, rfl, rfl⟩
    · rw [History.calls_append, History.calls_cons, htalk.calls, hcalls]
      rfl
    · rcases List.mem_append.1 hm with hm | hm
      · rcases List.mem_cons.1 hm with rfl | hm
        · trivial
        · exact htalk.isBrief m hm
      · exact hbrief m hm

/-- **A clean-up shows every element again that is noted**, in order, and takes the progress message
away; after it nothing is noted. -/
theorem cleanUp_course (hc : v.cleanUp.Course w t h t' () w') :
    h.calls = w.concealed.map (Call.setHidden · false) ++ [.hideProgress] ∧
      (∀ m ∈ h, m.act.IsBrief) ∧ t' = t ∧ w'.concealed = [] := by
  obtain ⟨_, w₁, t₁, h₁, h₂, hreveal, hprogress, rfl⟩ := Acts.course_bind.1 hc
  have hshown : (v.reveal w.concealed).Course { w with concealed := [] } t h₁ t₁ () w₁ := hreveal
  obtain ⟨hcalls, hbrief, rfl, rfl⟩ := reveal_course hshown
  obtain ⟨r, talk, rfl, htalk, rfl, rfl⟩ := tryTo_course hprogress
  refine ⟨?_, fun m hm => ?_, rfl, rfl⟩
  · rw [History.calls_append, hcalls, History.calls_cons, htalk.calls]
    rfl
  · rcases List.mem_append.1 hm with hm | hm
    · exact hbrief m hm
    · rcases List.mem_cons.1 hm with rfl | hm
      · trivial
      · exact htalk.isBrief m hm

/-! ## A handling -/

end Vendor

/-- A handling, as it went: what came before its methods, the methods, the complaint about the one
that failed, and what came after the report. -/
structure Conduct where
  opening : History
  runs : List MethodRun
  complaint : History
  closing : History

namespace Conduct

/-- What the methods did. -/
def lifecycle (c : Conduct) : History := c.runs.flatMap MethodRun.history

/-- Everything that was done, with a report of a vendor. -/
def history (c : Conduct) (vendor : String) (reported : Nat) : History :=
  c.opening ++ c.lifecycle ++ c.complaint ++ [⟨reported, .report vendor⟩] ++ c.closing

end Conduct

/-- **How a handling goes** that starts at a time with nothing noted and ends at another. -/
structure Vendor.Conducts (s : Setting) (v : Vendor) (t t' : Nat) (c : Conduct) : Prop where
  /-- First the progress message, once. -/
  opening : c.opening.calls = [.showProgress progressMessage]
  /-- Then methods, each by a course of its own. -/
  runs : ∃ w, v.Runs s {} t c.runs t' w
  /-- The methods are run in the order of their list, from its start. -/
  order : c.runs.map MethodRun.method <+: ConsentWalker.lifecycle s.flags
  /-- All of the list were run to the end exactly when none failed. -/
  whole :
    (c.runs.filter MethodRun.succeeded).map MethodRun.method = ConsentWalker.lifecycle s.flags ↔
      ∀ r ∈ c.runs, r.outcome = .ok ()
  /-- Otherwise they end with the first that failed. -/
  failed : (∀ r ∈ c.runs, r.outcome = .ok ()) ∨ ∃ done last e, c.runs = done ++ [last] ∧
    (∀ r ∈ done, r.outcome = .ok ()) ∧ last.outcome = .error e
  /-- A method that is not supplied does nothing. -/
  missing : ∀ r ∈ c.runs, v.methods r.method = none → r.outcome = .ok () ∧ r.history.calls = []
  complaint : c.complaint.IsTalk
  /-- After the report, what was to be hidden is shown again, and the message is taken away. -/
  closing : c.closing.calls = c.lifecycle.hides.map (Call.setHidden · false) ++ [.hideProgress]
  /-- Beside the methods nothing takes time, and nothing waits for changes of the page. -/
  brief : (∀ m ∈ c.opening, m.act.IsBrief ∨ m.act = .pause) ∧ (∀ m ∈ c.lifecycle, m.act.IsStep) ∧
    ∀ m ∈ c.closing, m.act.IsBrief

namespace Vendor

variable {s : Setting} {v : Vendor} {t t' : Nat} {h : History} {w w' : Walker}

/-- A handling hides what its methods hide, and nothing else. -/
theorem Conducts.hides {c : Conduct} (hc : v.Conducts s t t' c) (vendor : String) (reported : Nat) :
    (c.history vendor reported).hides = c.lifecycle.hides := by
  have hopening : c.opening.hides = [] := by
    rw [History.hides, hc.opening]
    rfl
  have hcomplaint : c.complaint.hides = [] := by
    rw [History.hides, hc.complaint.calls]
    rfl
  have hclosing : c.closing.hides = [] := by
    rw [History.hides, hc.closing, List.filterMap_append, List.filterMap_map]
    exact List.append_eq_nil_iff.2 ⟨List.filterMap_eq_nil_iff.2 fun _ _ => rfl, rfl⟩
  have hreport : History.hides [⟨reported, .report vendor⟩] = [] := rfl
  rw [Conduct.history]
  simp only [History.hides_append, hopening, hcomplaint, hclosing, hreport, List.nil_append,
    List.append_nil]

/-- With nothing to be done about dialogs, none is touched. -/
theorem act_skipped {acted : Bool} (hskip : s.flags.skipActions = true)
    (hc : (v.act s).Course w t h t' acted w') : acted = false ∧ h.IsTalk ∧ t' = t ∧ w' = w := by
  rw [act, hskip, if_pos rfl] at hc
  obtain ⟨_, w₁, t₁, h₁, h₂, htell, hd, rfl⟩ := Acts.course_bind.1 hc
  obtain ⟨rfl, rfl, rfl⟩ := Acts.course_tell htell
  obtain ⟨rfl, rfl, rfl, rfl⟩ := Acts.course_pure.1 hd
  exact ⟨rfl, History.isTalk_note _ _, rfl, rfl⟩

/-- Else a progress message is shown and the methods are run. -/
theorem act_course {acted : Bool} (hskip : s.flags.skipActions = false)
    (hc : (v.act s).Course w t h t' acted w') :
    acted = true ∧ ∃ shown runs talk a, shown.calls = [.showProgress progressMessage] ∧
      (∀ m ∈ shown, m.act.IsBrief) ∧ v.Runs s w t runs t' w' ∧ Stopped (lifecycle s.flags) runs a ∧
      talk.IsTalk ∧ h = shown ++ (runs.flatMap MethodRun.history ++ talk) := by
  rw [act, hskip, if_neg Bool.false_ne_true] at hc
  obtain ⟨_, w₁, t₁, h₁, h₂, hshow, hrest, rfl⟩ := Acts.course_bind.1 hc
  obtain ⟨r, talk₁, rfl, htalk₁, rfl, rfl⟩ := tryTo_course hshow
  obtain ⟨_, w₂, t₂, h₃, h₄, hsteps, hd, rfl⟩ := Acts.course_bind.1 hrest
  obtain ⟨rfl, rfl, rfl, rfl⟩ := Acts.course_pure.1 hd
  obtain ⟨a, h₅, talk, hmethods, rfl, htalk⟩ := trySteps_course hsteps
  obtain ⟨runs, hruns, rfl, hstopped⟩ := runMethods_course hmethods
  refine ⟨rfl, _, runs, talk, a, ?_, fun m hm => ?_, hruns, hstopped, htalk, by
    rw [List.append_nil]⟩
  · rw [History.calls_cons, htalk₁.calls]
    rfl
  · rcases List.mem_cons.1 hm with rfl | hm
    · trivial
    · exact htalk₁.isBrief m hm

/-- A handling steps aside, acts, reports, and cleans up if it acted. -/
theorem handling_course (hc : (v.handling s).Course w t h t' () w') :
    ∃ acted w₁ t₁ h₁ h₂, (v.act s).Course w t h₁ t₁ acted w₁ ∧
      (if acted then v.cleanUp else pure () : Acts Unit).Course w₁ t₁ h₂ t' () w' ∧
      h = ⟨t, .pause⟩ :: (h₁ ++ ⟨t₁, .report v.name⟩ :: h₂) := by
  obtain ⟨_, _, _, _, _, haside, hafter, rfl⟩ := Acts.course_bind.1 hc
  obtain ⟨hpause, rfl⟩ := Acts.course_lift.1 haside
  obtain ⟨_, rfl, hd⟩ := Routine.course_pause.1 hpause
  obtain ⟨rfl, rfl, -⟩ := Routine.course_done.1 hd
  obtain ⟨acted, w₁, _, h₁, _, hact, hrest, rfl⟩ := Acts.course_bind.1 hafter
  obtain ⟨_, _, _, _, h₂, htold, hclean, rfl⟩ := Acts.course_bind.1 hrest
  obtain ⟨hreport, rfl⟩ := Acts.course_lift.1 htold
  obtain ⟨_, rfl, hd'⟩ := Routine.course_report.1 hreport
  obtain ⟨rfl, rfl, -⟩ := Routine.course_done.1 hd'
  exact ⟨acted, _, _, h₁, h₂, hact, hclean, rfl⟩

/-- **A handling waits for nothing once it has reported its dialog**, and reports nothing before. -/
theorem handling_parts (hc : (v.handling s).Course w t h t' () w') :
    ∃ (before : History) (reported : Nat) (after : History),
      h = before ++ ⟨reported, .report v.name⟩ :: after ∧
        before.reports = [] ∧ ∀ m ∈ after, m.act.IsBrief := by
  obtain ⟨acted, w₁, t₁, h₁, h₂, hact, hclean, rfl⟩ := handling_course hc
  have quiet : ∀ {k : History}, (∀ m ∈ k, m.act.IsBrief) → k.reports = [] := fun hk =>
    History.reports_eq_nil fun m hm => (hk m hm).report?
  have hparts : h₁.reports = [] ∧ ∀ m ∈ h₂, m.act.IsBrief := by
    cases hskip : s.flags.skipActions with
    | true =>
      obtain ⟨rfl, htalk, -, -⟩ := act_skipped hskip hact
      obtain ⟨rfl, -, -, -⟩ := Acts.course_pure.1 hclean
      exact ⟨quiet htalk.isBrief, by simp⟩
    | false =>
      obtain ⟨rfl, shown, runs, talk, a, -, hshown, hruns, -, htalk, rfl⟩ := act_course hskip hact
      have hsteps := History.reports_eq_nil fun m hm => (hruns.noted.steps m hm).report?
      refine ⟨?_, (cleanUp_course hclean).2.1⟩
      rw [History.reports_append, History.reports_append, quiet hshown, hsteps, quiet htalk.isBrief]
      rfl
  refine ⟨⟨t, .pause⟩ :: h₁, t₁, h₂, rfl, ?_, hparts.2⟩
  rw [History.reports_cons, hparts.1]
  rfl

/-- **A handling reports its dialog once**, whether it acted or not. -/
theorem handling_reports (hc : (v.handling s).Course w t h t' () w') : h.reports = [v.name] := by
  obtain ⟨before, reported, after, rfl, hbefore, hafter⟩ := handling_parts hc
  have hnone : after.reports = [] := History.reports_eq_nil fun m hm => (hafter m hm).report?
  rw [History.reports_append, History.reports_cons, hbefore, hnone]
  rfl

/-- **A handling never waits for changes.** -/
theorem handling_unheld (hc : (v.handling s).Course w t h t' () w') :
    ∀ m ∈ h, ¬ m.act.Waits := by
  obtain ⟨acted, w₁, t₁, h₁, h₂, hact, hclean, rfl⟩ := handling_course hc
  have hparts : (∀ m ∈ h₁, ¬ m.act.Waits) ∧ ∀ m ∈ h₂, ¬ m.act.Waits := by
    cases hskip : s.flags.skipActions with
    | true =>
      obtain ⟨rfl, htalk, -, -⟩ := act_skipped hskip hact
      obtain ⟨rfl, -, -, -⟩ := Acts.course_pure.1 hclean
      exact ⟨fun m hm => (htalk.isBrief m hm).not_waits, by simp⟩
    | false =>
      obtain ⟨rfl, shown, runs, talk, a, -, hshown, hruns, -, htalk, rfl⟩ := act_course hskip hact
      refine ⟨fun m hm => ?_, fun m hm => ((cleanUp_course hclean).2.1 m hm).not_waits⟩
      rcases List.mem_append.1 hm with hm | hm
      · exact (hshown m hm).not_waits
      · rcases List.mem_append.1 hm with hm | hm
        · exact (hruns.noted.steps m hm).not_waits
        · exact (htalk.isBrief m hm).not_waits
  intro m hm
  rcases List.mem_cons.1 hm with rfl | hm
  · exact id
  · rcases List.mem_append.1 hm with hm | hm
    · exact hparts.1 m hm
    · rcases List.mem_cons.1 hm with rfl | hm
      · exact id
      · exact hparts.2 m hm

/-- **A handling goes its whole way**, whatever fails in it, and leaves nothing noted. -/
theorem handling_conducts (hskip : s.flags.skipActions = false)
    (hc : (v.handling s).Course {} t h t' () w') :
    ∃ c, v.Conducts s t t' c ∧ h = c.history v.name t' ∧ w'.concealed = [] := by
  obtain ⟨acted, w₁, t₁, h₁, h₂, hact, hclean, rfl⟩ := handling_course hc
  obtain ⟨rfl, shown, runs, talk, a, hcalls, hshown, hruns, hstopped, htalk, rfl⟩ :=
    act_course hskip hact
  obtain ⟨hclosing, hbrief, rfl, hempty⟩ := cleanUp_course hclean
  have hnoted := hruns.noted
  refine ⟨⟨⟨t, .pause⟩ :: shown, runs, talk, h₂⟩, ?_, by
    simp [Conduct.history, Conduct.lifecycle], hempty⟩
  refine
    { opening := ?_
      runs := ⟨w₁, hruns⟩
      order := hstopped.order
      whole := hstopped.succeeded_iff
      failed := hstopped.failed_or
      missing := hruns.missing
      complaint := htalk
      closing := ?_
      brief := ⟨fun m hm => ?_, hnoted.steps, hbrief⟩ }
  · rw [History.calls_cons, hcalls]
    rfl
  · -- what the methods were to hide is what is noted once they stopped
    rw [hclosing, hnoted.concealed]
    rfl
  · rcases List.mem_cons.1 hm with rfl | hm
    · exact .inr rfl
    · exact .inl (hshown m hm)

end Vendor

end ConsentWalker
