import ConsentWalker.Proofs.Walk.Undoing
import ConsentWalker.Walk.Search
/-!
# Walk — detection and polling, question by question

A search asks two things about a vendor: whether its dialog is in the page, and whether it shows. A
detection pass puts the first question to every vendor that was not tried yet, all at one time
(`nextCandidate_course`). Polling puts the second to one vendor again and again, a fixed interval
apart, up to the first yes (`poll_course`). A question that fails is answered no.
-/

namespace ConsentWalker

namespace History

/-- What a history asked of the page, with the answers. -/
def asked (h : History) : History := h.filter fun m => m.act.call?.isSome

@[simp] theorem asked_append (h h' : History) : asked (h ++ h') = asked h ++ asked h' :=
  List.filter_append ..

theorem asked_cons_of_none {m : Moment} {h : History} (hm : m.act.call? = none) :
    asked (m :: h) = asked h := by
  unfold asked
  rw [List.filter_cons, hm]
  rfl

theorem asked_eq_nil {h : History} (hh : ∀ m ∈ h, m.act.call? = none) : h.asked = [] := by
  unfold asked
  rw [List.filter_eq_nil_iff]
  intro m hm
  rw [hh m hm]
  exact Bool.false_ne_true

end History

/-- Whether a question was answered yes; one that failed was not. -/
def saysYes : Except PageError Bool → Bool
  | .ok b => b
  | .error _ => false

theorem saysYes_eq_true {r : Except PageError Bool} : saysYes r = true ↔ r = .ok true := by
  cases r with
  | ok b => cases b <;> simp [saysYes]
  | error e => simp [saysYes]

namespace Search

variable {x : Search} {t t' : Nat} {h : History}

/-! ## A detection pass -/

/-- A vendor asked whether its dialog is in the page, as it went. -/
structure Probe where
  index : Nat
  vendor : Vendor
  history : History
  answer : Except PageError Bool

namespace Probe

/-- Whether the dialog was found. -/
def found (p : Probe) : Bool := saysYes p.answer

/-- The position and the name of the vendor. -/
def named (p : Probe) : Nat × String := (p.index, p.vendor.name)

end Probe

/-- **The probes of a pass** at a time: one for each vendor from a position on that was not tried
yet, in order, each by a course of its own. -/
structure Probes (tried : List String) (i : Nat) (vs : List Vendor) (t : Nat) (ps : List Probe) :
    Prop where
  asked : ps.map (fun p => (p.vendor, p.index)) =
    (vs.zipIdx i).filter fun v => ! tried.contains v.1.name
  genuine : ∀ p ∈ ps, p.vendor.detect.run.Course t p.history t p.answer

namespace Probes

variable {tried : List String} {i : Nat} {v : Vendor} {vs : List Vendor} {ps : List Probe}

theorem nil : Probes tried i [] t [] := ⟨rfl, by simp⟩

/-- A vendor that was tried is passed over. -/
theorem skip (hv : tried.contains v.name = true) (hps : Probes tried (i + 1) vs t ps) :
    Probes tried i (v :: vs) t ps := by
  refine ⟨?_, hps.genuine⟩
  rw [hps.asked, List.zipIdx_cons, List.filter_cons_of_neg (by simpa using hv)]

theorem cons {a : Except PageError Bool} (hv : ¬ tried.contains v.name = true)
    (hc : v.detect.run.Course t h t a) (hps : Probes tried (i + 1) vs t ps) :
    Probes tried i (v :: vs) t (⟨i, v, h, a⟩ :: ps) := by
  refine ⟨?_, fun p hp => ?_⟩
  · rw [List.map_cons, hps.asked, List.zipIdx_cons, List.filter_cons_of_pos (by simpa using hv)]
  · rcases List.mem_cons.1 hp with rfl | hp
    · exact hc
    · exact hps.genuine p hp

/-- A probe is about the vendor at its position, which was not tried. -/
theorem untried (hps : Probes tried 0 vs t ps) {p : Probe} (hp : p ∈ ps) :
    vs[p.index]? = some p.vendor ∧ p.vendor.name ∉ tried := by
  have hmem : (p.vendor, p.index) ∈ ps.map fun p => (p.vendor, p.index) := List.mem_map_of_mem hp
  rw [hps.asked, List.mem_filter] at hmem
  exact ⟨List.mem_zipIdx_iff_getElem?.1 hmem.1, by simpa using hmem.2⟩

end Probes

/-- Detection takes no time. -/
theorem detect_course {v : Vendor} {a : Except PageError Bool}
    (hc : v.detect.run.Course t h t' a) : t' = t :=
  (Routine.Only.time_eq v.detect_looks hc).1

/-- **The candidates are the vendors whose dialogs were found**, in order. -/
theorem candidates_course {tried : List String} {i : Nat} {vs : List Vendor}
    {found : List (Nat × String)} (hc : (candidates tried i vs).Course t h t' found) :
    t' = t ∧ ∃ ps, Probes tried i vs t ps ∧ found = (ps.filter Probe.found).map Probe.named ∧
      h.asked = ps.flatMap fun p => p.history.asked := by
  induction vs generalizing i h found with
  | nil =>
    obtain ⟨rfl, rfl, rfl⟩ := Routine.course_done.1 hc
    exact ⟨rfl, [], .nil, rfl, rfl⟩
  | cons v vs ih =>
    by_cases hv : tried.contains v.name = true
    · rw [candidates, if_pos hv] at hc
      obtain ⟨ht, ps, hps, hrest⟩ := ih hc
      exact ⟨ht, ps, hps.skip hv, hrest⟩
    · rw [candidates, if_neg hv] at hc
      obtain ⟨a, t₁, h₁, h₂, hprobe, hrest, rfl⟩ := Routine.course_bind.1 hc
      obtain rfl := detect_course hprobe
      rcases a with e | _ | _
      · obtain ⟨h₃, rfl, hmore⟩ := Routine.course_note.1 hrest
        obtain ⟨ht, ps, hps, rfl, hasked⟩ := ih hmore
        refine ⟨ht, _, hps.cons hv hprobe, rfl, ?_⟩
        rw [History.asked_append, History.asked_cons_of_none rfl, hasked, List.flatMap_cons]
      · obtain ⟨ht, ps, hps, rfl, hasked⟩ := ih hrest
        refine ⟨ht, _, hps.cons hv hprobe, rfl, ?_⟩
        rw [History.asked_append, hasked, List.flatMap_cons]
      · obtain ⟨more, t₂, h₃, h₄, hmore, hd, rfl⟩ := Routine.course_bind.1 hrest
        obtain ⟨rfl, rfl, rfl⟩ := Routine.course_done.1 hd
        obtain ⟨ht, ps, hps, rfl, hasked⟩ := ih hmore
        refine ⟨ht, _, hps.cons hv hprobe, rfl, ?_⟩
        rw [List.append_nil, History.asked_append, hasked, List.flatMap_cons]

/-- The first of some candidates is named and taken. -/
theorem first_course {found : List (Nat × String)} {c : Option (Nat × String)}
    (hc : (match found.head? with
      | none => return none
      | some c => do
        tell (.detected c.2)
        return some c : Routine (Option (Nat × String))).Course t h t' c) :
    t' = t ∧ c = found.head? ∧ h.asked = [] := by
  cases hf : found.head? with
  | none =>
    rw [hf] at hc
    obtain ⟨rfl, rfl, rfl⟩ := Routine.course_done.1 hc
    exact ⟨rfl, rfl, rfl⟩
  | some d =>
    rw [hf] at hc
    obtain ⟨k, rfl, hd⟩ := Routine.course_note.1 hc
    obtain ⟨rfl, rfl, rfl⟩ := Routine.course_done.1 hd
    exact ⟨rfl, rfl, rfl⟩

/-- **The next candidate is the first vendor whose dialog is found** in a pass over all vendors that
were not tried. -/
theorem nextCandidate_course {tried : List String} {c : Option (Nat × String)}
    (hc : (x.nextCandidate tried).Course t h t' c) :
    t' = t ∧ ∃ ps, Probes tried 0 x.vendors t ps ∧ c = (ps.find? Probe.found).map Probe.named ∧
      h.asked = ps.flatMap fun p => p.history.asked := by
  obtain ⟨found, t₁, h₁, h₂, hpass, hrest, rfl⟩ := Routine.course_bind.1 hc
  obtain ⟨rfl, ps, hps, rfl, hasked⟩ := candidates_course hpass
  have hfirst : t' = t₁ ∧ c = ((ps.filter Probe.found).map Probe.named).head? ∧ h₂.asked = [] := by
    dsimp only at hrest
    split at hrest
    · -- that there are several is told first
      obtain ⟨k, rfl, hfirst⟩ := Routine.course_note.1 hrest
      rw [History.asked_cons_of_none rfl]
      exact first_course hfirst
    · exact first_course hrest
  obtain ⟨rfl, rfl, hquiet⟩ := hfirst
  refine ⟨rfl, ps, hps, ?_, ?_⟩
  · rw [List.head?_map, List.head?_filter]
  · rw [History.asked_append, hquiet, List.append_nil, hasked]

/-! ## Polling -/

/-- A vendor asked whether its dialog shows, as it went. -/
structure Check where
  time : Nat
  history : History
  answer : Except PageError Bool

/-- One more check in front of checks that are spaced evenly. -/
theorem Check.spaced_cons {interval first : Nat} {c : Check} {cs : List Check} (hc : c.time = first)
    (hcs : ∀ (j : Nat) (d : Check), cs[j]? = some d → d.time = first + interval + j * interval) :
    ∀ (j : Nat) (d : Check), (c :: cs)[j]? = some d → d.time = first + j * interval := by
  intro j d hj
  cases j with
  | zero =>
    cases hj
    rw [hc, Nat.zero_mul, Nat.add_zero]
  | succ j =>
    rw [hcs j d hj, Nat.succ_mul]
    omega

/-- **Checks of one vendor**, the first at a time and each so much later than the one before, each
by a course of its own. -/
structure Checks (v : Vendor) (interval first : Nat) (cs : List Check) : Prop where
  spaced : ∀ (j : Nat) (c : Check), cs[j]? = some c → c.time = first + j * interval
  genuine : ∀ c ∈ cs, v.isShowing.run.Course c.time c.history c.time c.answer

namespace Checks

variable {v : Vendor} {interval first : Nat} {cs : List Check}

theorem nil : Checks v interval first [] := ⟨by simp, by simp⟩

theorem cons {a : Except PageError Bool} (hc : v.isShowing.run.Course first h first a)
    (hcs : Checks v interval (first + interval) cs) :
    Checks v interval first (⟨first, h, a⟩ :: cs) := by
  refine ⟨Check.spaced_cons rfl hcs.spaced, fun c hmem => ?_⟩
  rcases List.mem_cons.1 hmem with rfl | hmem
  · exact hc
  · exact hcs.genuine c hmem

end Checks

/-- **Polling, as it went**: checks up to the first that is passed, so many at most, and an end with
the last of them. -/
structure Polled (attempts t : Nat) (cs : List Check) (t' : Nat) (b : Bool) : Prop where
  atMost : cs.length ≤ attempts
  before : ∀ c ∈ cs.dropLast, c.answer ≠ .ok true
  passed : b = true ↔ ∃ c ∈ cs, c.answer = .ok true
  all : b = false → cs.length = attempts
  stop : t' = (cs.getLast?.map Check.time).getD t

/-- One more check in front, which was not passed. -/
theorem Polled.cons {attempts t' : Nat} {b : Bool} {c : Check} {cs : List Check}
    (hp : Polled attempts c.time cs t' b) (hno : c.answer ≠ .ok true) (start : Nat) :
    Polled (attempts + 1) start (c :: cs) t' b := by
  refine ⟨by simpa using hp.atMost, fun d hd => ?_, ?_, fun hb => ?_, ?_⟩
  · cases cs with
    | nil => simp at hd
    | cons e es =>
      rw [List.dropLast_cons_cons] at hd
      rcases List.mem_cons.1 hd with rfl | hd
      · exact hno
      · exact hp.before d hd
  · rw [hp.passed]
    simp [hno]
  · rw [List.length_cons, hp.all hb]
  · rw [hp.stop]
    cases cs with
    | nil => rfl
    | cons e es => simp [List.getLast?_cons]

/-- One check: its answer is what the page says, and a failing one counts as no. -/
theorem shows_course {v : Vendor} {attempt : Nat} {b : Bool}
    (hc : (shows v attempt).Course t h t' b) :
    t' = t ∧ ∃ k r, v.isShowing.run.Course t k t r ∧ b = saysYes r ∧ h.asked = k.asked := by
  obtain ⟨r, t₁, h₁, h₂, hask, hrest, rfl⟩ := Routine.course_bind.1 hc
  obtain rfl := (Routine.Only.time_eq v.isShowing_looks hask).1
  rcases r with e | _ | _
  · obtain ⟨k, rfl, hd⟩ := Routine.course_note.1 hrest
    obtain ⟨rfl, rfl, rfl⟩ := Routine.course_done.1 hd
    exact ⟨rfl, h₁, _, hask, rfl, by rw [History.asked_append]; exact List.append_nil _⟩
  · obtain ⟨rfl, rfl, rfl⟩ := Routine.course_done.1 hrest
    exact ⟨rfl, h₁, _, hask, rfl, by rw [List.append_nil]⟩
  · obtain ⟨k, rfl, hd⟩ := Routine.course_note.1 hrest
    obtain ⟨rfl, rfl, rfl⟩ := Routine.course_done.1 hd
    exact ⟨rfl, h₁, _, hask, rfl, by rw [History.asked_append]; exact List.append_nil _⟩

/-- The time a check waits for. -/
def gap (x : Search) (attempt : Nat) : Nat := if 1 < attempt then x.setting.pace.pollInterval else 0

theorem waitBefore_course {attempt : Nat} (hc : (x.waitBefore attempt).Course t h t' ()) :
    t' = t + x.gap attempt ∧ h.asked = [] := by
  unfold waitBefore at hc
  unfold gap
  split at hc
  · next hlater =>
    obtain ⟨k, rfl, hd⟩ := Routine.course_sleep.1 hc
    obtain ⟨rfl, rfl, -⟩ := Routine.course_done.1 hd
    exact ⟨by rw [if_pos hlater], rfl⟩
  · next hfirst =>
    obtain ⟨rfl, rfl, -⟩ := Routine.course_done.1 hc
    exact ⟨by rw [if_neg hfirst, Nat.add_zero], rfl⟩

/-- **Polling checks a vendor at fixed intervals up to the first yes.** -/
theorem poll_course {v : Vendor} {left attempt : Nat} (hpos : 0 < attempt) {b : Bool}
    (hc : (x.poll v left attempt).Course t h t' b) :
    ∃ cs, Checks v x.setting.pace.pollInterval (t + x.gap attempt) cs ∧
      h.asked = (cs.flatMap fun c => c.history.asked) ∧ Polled left t cs t' b := by
  induction left generalizing attempt t h with
  | zero =>
    obtain ⟨rfl, rfl, rfl⟩ := Routine.course_done.1 hc
    exact ⟨[], .nil, rfl, by simp, by simp, by simp, by simp, rfl⟩
  | succ left ih =>
    obtain ⟨_, t₁, h₁, h₂, hwait, hcheck, rfl⟩ := Routine.course_bind.1 hc
    obtain ⟨rfl, hquiet⟩ := waitBefore_course hwait
    obtain ⟨shown, t₂, h₃, h₄, hshows, hrest, rfl⟩ := Routine.course_bind.1 hcheck
    obtain ⟨rfl, k, r, hask, rfl, hasked⟩ := shows_course hshows
    cases hr : saysYes r with
    | true =>
      rw [hr] at hrest
      obtain ⟨rfl, rfl, rfl⟩ := Routine.course_done.1 hrest
      have hyes := saysYes_eq_true.1 hr
      refine ⟨[⟨_, k, r⟩], .cons hask .nil, ?_, by simp, by simp, by simp [hyes], by simp, rfl⟩
      simp [hquiet, hasked]
    | false =>
      rw [hr] at hrest
      have hno : r ≠ .ok true := fun h => by rw [saysYes_eq_true.2 h] at hr; cases hr
      obtain ⟨cs, hcs, hasked', hpolled⟩ := ih (Nat.succ_pos attempt) hrest
      have hgap : x.gap (attempt + 1) = x.setting.pace.pollInterval := if_pos (by omega)
      rw [hgap] at hcs
      refine ⟨⟨_, k, r⟩ :: cs, .cons hask hcs, ?_, hpolled.cons hno t⟩
      simp [hquiet, hasked, hasked']

end Search
end ConsentWalker
