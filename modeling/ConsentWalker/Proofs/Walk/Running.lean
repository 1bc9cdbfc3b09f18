import ConsentWalker.Proofs.Page.Delivery
import ConsentWalker.Proofs.Walk.Course
import ConsentWalker.Walk.World
/-!
# Walk — running a routine in a world

`World.go` runs a routine up to the point where it has to wait. Each act makes one step of the world
(`World.Makes`), so what every step keeps is kept by the whole run, along the history that was done
of the routine (`World.go_keeps`). `World.go_halts` says where the routine stands then, and when.
-/

namespace ConsentWalker

/-! ## Collecting changes -/

namespace World

variable {w w' : World} {o : Observer}

/-- **Who collects takes every batch there is at once**, however many there are. -/
theorem collect?_batches (hm : (w.page.mailbox o).dropped = false)
    (hq : (w.page.mailbox o).queue ≠ []) :
    w.collect? o = some (some (w.page.drain o).1, { w with page := (w.page.drain o).2 }) := by
  unfold collect? Page.receive
  rw [if_neg (by simp [hm])]
  cases hqueue : (w.page.mailbox o).queue with
  | nil => exact absurd hqueue hq
  | cons k rest =>
    dsimp only
    unfold Page.drain
    rw [Page.mailbox_updateMailbox hm, Page.updateMailbox_updateMailbox, hqueue]
    rfl

/-- **Who collects in vain either waits or learns that there will be no changes.** -/
theorem collect?_empty (hq : (w.page.mailbox o).queue = []) :
    w.collect? o = if (w.page.mailbox o).isLive then none else some (none, w) := by
  unfold collect? Page.receive Mailbox.isLive
  dsimp only
  rw [hq]
  cases (w.page.mailbox o).dropped <;> cases (w.page.mailbox o).connected <;> rfl

/-- Who was given up collects nothing. -/
theorem collect?_dropped (hm : (w.page.mailbox o).dropped = true) :
    w.collect? o = some (none, w) := by
  unfold collect? Page.receive
  rw [if_pos hm]

/-- Collecting takes all there is, or finds nothing and changes nothing. -/
theorem collect?_cases {records : Option Nat} (h : w.collect? o = some (records, w')) :
    w' = w ∨ w' = { w with page := (w.page.drain o).2 } := by
  by_cases hq : (w.page.mailbox o).queue = []
  · rw [collect?_empty hq] at h
    split at h
    · cases h
    · cases h
      exact .inl rfl
  · cases hm : (w.page.mailbox o).dropped with
    | false =>
      rw [collect?_batches hm hq] at h
      cases h
      exact .inr rfl
    | true =>
      rw [collect?_dropped hm] at h
      cases h
      exact .inl rfl

/-- **Collecting comes to the same where the mailbox is the same**: both wait, or both learn the
same and either leave the page or drain the mailbox. -/
theorem collect?_agree (hbox : w.page.mailbox o = w'.page.mailbox o) :
    (w.collect? o = none ∧ w'.collect? o = none) ∨ ∃ records,
      w.collect? o = some (records, w) ∧ w'.collect? o = some (records, w') ∨
      w.collect? o = some (records, { w with page := (w.page.drain o).2 }) ∧
        w'.collect? o = some (records, { w' with page := (w'.page.drain o).2 }) := by
  by_cases hq : (w.page.mailbox o).queue = []
  · have hq' : (w'.page.mailbox o).queue = [] := hbox ▸ hq
    rw [collect?_empty hq, collect?_empty hq', ← hbox]
    split
    · exact .inl ⟨rfl, rfl⟩
    · exact .inr ⟨none, .inl ⟨rfl, rfl⟩⟩
  · have hq' : (w'.page.mailbox o).queue ≠ [] := hbox ▸ hq
    cases hm : (w.page.mailbox o).dropped with
    | true =>
      have hm' : (w'.page.mailbox o).dropped = true := hbox ▸ hm
      exact .inr ⟨none, .inl ⟨collect?_dropped hm, collect?_dropped hm'⟩⟩
    | false =>
      have hm' : (w'.page.mailbox o).dropped = false := hbox ▸ hm
      have hrecords : (w'.page.drain o).1 = (w.page.drain o).1 := by
        unfold Page.drain
        rw [hbox]
      rw [collect?_batches hm hq, collect?_batches hm' hq', hrecords]
      exact .inr ⟨_, .inr ⟨rfl, rfl⟩⟩

/-- Collecting empties a queue and does nothing else. -/
theorem collect?_some {records : Option Nat} (h : w.collect? o = some (records, w')) :
    ∃ page, w' = { w with page } := by
  rcases collect?_cases h with rfl | rfl
  · exact ⟨w'.page, rfl⟩
  · exact ⟨_, rfl⟩

/-- A change past the faults is one of the page, and may be told. -/
theorem change_eq (w : World) (op : Page.Op Nat) (always : Bool) :
    ∃ told, (w.change op always).2 = { w with page := (op.run.run w.page).2, told } := by
  unfold World.change
  rcases op.run.run w.page with ⟨_ | records, page⟩
  · exact ⟨w.told, rfl⟩
  · dsimp only
    split
    · exact ⟨_, rfl⟩
    · exact ⟨w.told, rfl⟩

/-- A call fails and leaves the page alone, or the page answers it. -/
theorem perform_or (w : World) (c : Call) :
    (∃ e faults, w.perform c = (.error e, { w with faults })) ∨
      ∃ faults, w.perform c = ((w.page.perform c).1,
        { w with faults, page := (w.page.perform c).2 }) := by
  unfold perform Faults.perform
  cases w.faults.next? c.kind with
  | some e => exact .inl ⟨e, _, rfl⟩
  | none => exact .inr ⟨_, rfl⟩

/-- Who calls goes on with the answer. -/
theorem go_call {α : Type} (c : Call) (next : Except PageError c.Result → Routine α) :
    w.go (.call c next) = (w.perform c).2.go (next (w.perform c).1) := rfl

/-- Who waits for changes stays there as long as there is nothing to collect. -/
theorem go_await_none {α : Type} {next : Option Nat → Routine α} (h : w.collect? o = none) :
    w.go (.await o next) = (.waiting o next, w) := by
  rw [go, h]

/-- Who waits for changes goes on with those collected. -/
theorem go_await_some {α : Type} {next : Option Nat → Routine α} {records : Option Nat}
    (h : w.collect? o = some (records, w')) : w.go (.await o next) = w'.go (next records) := by
  rw [go, h]

end World

/-! ## Running up to a wait -/

/-- **Where a routine can stand at a time** that began at another: at a wait it came to, or at its
end. Who sleeps wakes at the right time. -/
inductive Routine.Halts {α : Type} (r : Routine α) (begun now : Nat) : Halt α → Prop where
  | finished {h : History} {a : α} : r.Course begun h now a → Halts r begun now (.finished a)
  | sleeping {h : History} {wake : Nat} {next : Routine α} : r.Leads begun h wake next →
      now ≤ wake → Halts r begun now (.sleeping wake next)
  | paused {h : History} {next : Routine α} : r.Leads begun h now next →
      Halts r begun now (.paused next)
  | waiting {h : History} {t : Nat} {o : Observer} {next : Option Nat → Routine α} :
      r.Leads begun h t (.await o next) → t ≤ now → Halts r begun now (.waiting o next)

/-- What holds of the value a routine came to, or else of what is left of it after its wait. -/
def Halt.Meets {α : Type} (P : α → Prop) (Q : Routine α → Prop) : Halt α → Prop
  | .finished a => P a
  | .sleeping _ next | .paused next => Q next
  | .waiting _ next => ∀ records, Q (next records)

namespace Halt

variable {α : Type} {P P' : α → Prop} {Q Q' : Routine α → Prop} {halt : Halt α}

theorem Meets.imp (h : halt.Meets P Q) (hP : ∀ a, P a → P' a) (hQ : ∀ r, Q r → Q' r) :
    halt.Meets P' Q' := by
  cases halt with
  | finished a => exact hP a h
  | sleeping wake next => exact hQ next h
  | paused next => exact hQ next h
  | waiting o next => exact fun records => hQ _ (h records)

theorem meets_true (halt : Halt α) : halt.Meets (fun _ => True) fun _ => True := by
  cases halt with
  | waiting => exact fun _ => trivial
  | finished | sleeping | paused => trivial

/-- What holds in any case. -/
theorem Meets.elim {X : Prop} (h : halt.Meets P Q) (hP : ∀ a, P a → X) (hQ : ∀ r, Q r → X) : X := by
  cases halt with
  | finished a => exact hP a h
  | sleeping wake next => exact hQ next h
  | paused next => exact hQ next h
  | waiting o next => exact hQ _ (h none)

/-- What has not come to its end waits with something left to do. -/
theorem Meets.left (h : halt.Meets (fun _ => False) Q) : ∃ r, Q r :=
  h.elim (fun _ => False.elim) fun r hr => ⟨r, hr⟩

end Halt

theorem Routine.Leads.snoc {α : Type} {r r₁ r₂ : Routine α} {t t₁ t₂ : Nat} {h : History}
    {m : Moment} (hl : r.Leads t h t₁ r₁) (hd : r₁.Does t₁ m t₂ r₂) :
    r.Leads t (h ++ [m]) t₂ r₂ :=
  hl.trans (.step hd (.refl _ _))

/-! ## Acts, one after another -/

/-- **What an act makes of a world** where nobody has to be waited for: a call is answered, changes
that are there already are collected, and a rest of no time is none. -/
inductive World.Makes (w : World) : Act → World → Prop where
  | call (c : Call) : w.Makes (.call c (w.perform c).1) (w.perform c).2
  | note (n : Notice) : w.Makes (.note n) (w.tell n)
  | rest : w.Makes (.sleep 0) w
  | collect {o : Observer} {records : Option Nat} {w' : World} :
      w.collect? o = some (records, w') → w.Makes (.await o records) w'
  | drop (o : Observer) : w.Makes (.drop o) (w.drop o)
  | report (vendor : String) : w.Makes (.report vendor) (w.sight vendor)

/-- An act that lets others act. -/
def Act.IsWait : Act → Prop
  | .sleep _ | .pause | .await .. => True
  | _ => False

/-- What was done last, if anything was, is a wait. -/
def History.AtWait (h : History) : Prop := ∀ m, h.getLast? = some m → m.act.IsWait

theorem History.atWait_nil : History.AtWait [] := by
  intro m hm
  rw [List.getLast?_nil] at hm
  cases hm

theorem History.atWait_snoc {h : History} {m : Moment} (hm : m.act.IsWait) :
    History.AtWait (h ++ [m]) := by
  intro m' hlast
  rw [List.getLast?_concat] at hlast
  cases hlast
  exact hm

/-- **What every act keeps is kept by running on**, along what was done of a routine, up to its next
wait or its end. -/
theorem World.go_keeps {α : Type} {I : History → World → Prop}
    (hmakes : ∀ h m w w', I h w → w.Makes m.act w' → I (h ++ [m]) w')
    (hwaits : ∀ h m w, I h w → m.act.IsWait → I (h ++ [m]) w)
    {r₀ r : Routine α} {t₀ t : Nat} {h : History} {w : World} (hl : r₀.Leads t₀ h t r)
    (hi : I h w) :
    (w.go r).1.Meets (fun a => ∃ k t', r₀.Course t₀ k t' a ∧ I k (w.go r).2)
      fun next => ∃ k t', r₀.Leads t₀ k t' next ∧ k.AtWait ∧ I k (w.go r).2 := by
  induction r generalizing h w t with
  | done a => exact ⟨h, t, hl, hi⟩
  | call c next ih =>
    exact ih (w.perform c).1 (hl.snoc (.call c next t _)) (hmakes h ⟨t, _⟩ w _ hi (.call c))
  | note n next ih => exact ih (hl.snoc (.note n next t)) (hmakes h ⟨t, _⟩ w _ hi (.note n))
  | sleep d next ih =>
    have hslept := hl.snoc (.sleep d next t)
    cases d with
    | zero => exact ih hslept (hmakes h ⟨t, _⟩ w _ hi .rest)
    | succ d => exact ⟨_, _, hslept, History.atWait_snoc trivial, hwaits h _ w hi trivial⟩
  | pause next ih =>
    exact ⟨_, _, hl.snoc (.pause next t), History.atWait_snoc trivial, hwaits h _ w hi trivial⟩
  | await o next ih =>
    have hcollected := fun records => hl.snoc (.await o next (Nat.le_refl t) records)
    cases hc : w.collect? o with
    | none =>
      rw [go_await_none hc]
      exact fun records =>
        ⟨_, _, hcollected records, History.atWait_snoc trivial, hwaits h _ w hi trivial⟩
    | some p =>
      obtain ⟨records, w₁⟩ := p
      rw [go_await_some hc]
      exact ih records (hcollected records) (hmakes h ⟨t, _⟩ w _ hi (.collect hc))
  | drop o next ih => exact ih (hl.snoc (.drop o next t)) (hmakes h ⟨t, _⟩ w _ hi (.drop o))
  | report v next ih => exact ih (hl.snoc (.report v next t)) (hmakes h ⟨t, _⟩ w _ hi (.report v))

/-- A property of worlds alone that every act keeps is kept by running on. -/
theorem World.go_preserves {α : Type} {P : World → Prop}
    (hmakes : ∀ a w w', P w → w.Makes a w' → P w') (r : Routine α) {w : World} (hw : P w) :
    P (w.go r).2 := by
  have hkept := World.go_keeps (I := fun _ => P) (fun _ m w w' => hmakes m.act w w')
    (fun _ _ _ hi _ => hi) (.refl r 0) hw
  refine hkept.elim ?_ ?_
  · rintro a ⟨k, t', -, hi⟩
    exact hi
  · rintro next ⟨k, t', -, -, hi⟩
    exact hi

/-- **Running a routine on takes no time**, and comes to where it can stand. -/
theorem World.go_halts {α : Type} {r₀ r : Routine α} {begun : Nat} {h : History} {w : World}
    (hl : r₀.Leads begun h w.clock r) :
    (w.go r).2.clock = w.clock ∧ r₀.Halts begun w.clock (w.go r).1 := by
  induction r generalizing h w with
  | done a => exact ⟨rfl, .finished hl⟩
  | call c next ih => exact ih (w.perform c).1 (w := (w.perform c).2) (hl.snoc (.call c next _ _))
  | note n next ih => exact ih (w := w.tell n) (hl.snoc (.note n next _))
  | sleep d next ih =>
    cases d with
    | zero => exact ih (hl.snoc (.sleep 0 next _))
    | succ d => exact ⟨rfl, .sleeping (hl.snoc (.sleep (d + 1) next _)) (by omega)⟩
  | pause next ih => exact ⟨rfl, .paused (hl.snoc (.pause next _))⟩
  | await o next ih =>
    cases hc : w.collect? o with
    | none =>
      rw [World.go_await_none hc]
      exact ⟨rfl, .waiting hl (Nat.le_refl _)⟩
    | some p =>
      obtain ⟨records, w₁⟩ := p
      have hclock : w₁.clock = w.clock := by
        obtain ⟨page, rfl⟩ := World.collect?_some hc
        rfl
      have hlead := hl.snoc (.await o next (Nat.le_refl _) records)
      rw [World.go_await_some hc, ← hclock]
      rw [← hclock] at hlead
      exact ih records hlead
  | drop o next ih => exact ih (w := w.drop o) (hl.snoc (.drop o next _))
  | report v next ih => exact ih (w := w.sight v) (hl.snoc (.report v next _))

end ConsentWalker
