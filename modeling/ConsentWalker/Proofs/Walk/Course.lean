import ConsentWalker.Walk.Routine
/-!
# Walk — the courses of a routine

A routine does not know who answers it. `Routine.Leads` is how far it can come, act by act, when
its calls may be answered in any way and its waits may end in any way: whatever page, whatever
faults and whoever else changes the page, what a routine does is one of these. A `Course` is one
that has come to the end. `course_bind` takes the course of a compound routine apart, and
`Routine.Only` bounds the acts of a routine by its text alone.

Time is that of a clock nobody waits for in vain: a rest takes exactly its time, a wait for changes
takes any, and nothing else takes any.
-/

namespace ConsentWalker

/-- One thing a routine did, and what came of it. -/
inductive Act where
  | call (c : Call) (answer : Except PageError c.Result)
  | note (n : Notice)
  | sleep (time : Nat)
  | pause
  | await (o : Observer) (records : Option Nat)
  | drop (o : Observer)
  | report (vendor : String)

/-- An act, and when it began. -/
structure Moment where
  time : Nat
  act : Act

/-- What was done, in order. -/
abbrev History := List Moment

namespace Routine

variable {α β : Type} {t t' t₁ t₂ : Nat} {h h₁ h₂ : History}

/-- **One act of a routine**, with whatever comes of it. -/
inductive Does : Routine α → Nat → Moment → Nat → Routine α → Prop where
  | call (c : Call) (next : Except PageError c.Result → Routine α) (t : Nat)
      (r : Except PageError c.Result) : Does (.call c next) t ⟨t, .call c r⟩ t (next r)
  | note (n : Notice) (next : Routine α) (t : Nat) : Does (.note n next) t ⟨t, .note n⟩ t next
  | sleep (d : Nat) (next : Routine α) (t : Nat) :
      Does (.sleep d next) t ⟨t, .sleep d⟩ (t + d) next
  | pause (next : Routine α) (t : Nat) : Does (.pause next) t ⟨t, .pause⟩ t next
  | await (o : Observer) (next : Option Nat → Routine α) {t t' : Nat} (h : t ≤ t')
      (r : Option Nat) : Does (.await o next) t ⟨t, .await o r⟩ t' (next r)
  | drop (o : Observer) (next : Routine α) (t : Nat) : Does (.drop o next) t ⟨t, .drop o⟩ t next
  | report (v : String) (next : Routine α) (t : Nat) :
      Does (.report v next) t ⟨t, .report v⟩ t next

/-- **How far a routine can come**: from a time, through a history, to a later time and what is
left of it then. -/
inductive Leads : Routine α → Nat → History → Nat → Routine α → Prop where
  | refl (r : Routine α) (t : Nat) : Leads r t [] t r
  | step {r r₁ r' : Routine α} {t t₁ t' : Nat} {m : Moment} {h : History} :
      Does r t m t₁ r₁ → Leads r₁ t₁ h t' r' → Leads r t (m :: h) t' r'

/-- **A course of a routine**, up to its end. -/
def Course (r : Routine α) (t : Nat) (h : History) (t' : Nat) (a : α) : Prop :=
  r.Leads t h t' (.done a)

/-- What leads on from where another led continues its history. -/
theorem Leads.trans {r r₁ r₂ : Routine α} (h : r.Leads t h₁ t₁ r₁) (h' : r₁.Leads t₁ h₂ t₂ r₂) :
    r.Leads t (h₁ ++ h₂) t₂ r₂ := by
  induction h with
  | refl => exact h'
  | step hd _ ih => exact .step hd (ih h')

/-! ## Courses, by the first act -/

variable {a b : α}

@[simp] theorem course_done : (Routine.done a).Course t h t' b ↔ h = [] ∧ t' = t ∧ b = a := by
  constructor
  · intro hc
    cases hc with
    | refl => exact ⟨rfl, rfl, rfl⟩
    | step hd _ => cases hd
  · rintro ⟨rfl, rfl, rfl⟩
    exact .refl _ _

/-- A course through a call is one for some answer to it. -/
theorem course_call {c : Call} {next : Except PageError c.Result → Routine α} :
    (Routine.call c next).Course t h t' b ↔
      ∃ r h₁, h = ⟨t, .call c r⟩ :: h₁ ∧ (next r).Course t h₁ t' b := by
  constructor
  · intro hc
    cases hc with
    | step hd hl => cases hd with | call _ _ _ r => exact ⟨r, _, rfl, hl⟩
  · rintro ⟨r, h₁, rfl, hl⟩
    exact .step (.call c next t r) hl

theorem course_note {n : Notice} {next : Routine α} :
    (Routine.note n next).Course t h t' b ↔
      ∃ h₁, h = ⟨t, .note n⟩ :: h₁ ∧ next.Course t h₁ t' b := by
  constructor
  · intro hc
    cases hc with
    | step hd hl => cases hd with | note => exact ⟨_, rfl, hl⟩
  · rintro ⟨h₁, rfl, hl⟩
    exact .step (.note n next t) hl

/-- A course through a sleep goes on that much later. -/
theorem course_sleep {d : Nat} {next : Routine α} :
    (Routine.sleep d next).Course t h t' b ↔
      ∃ h₁, h = ⟨t, .sleep d⟩ :: h₁ ∧ next.Course (t + d) h₁ t' b := by
  constructor
  · intro hc
    cases hc with
    | step hd hl => cases hd with | sleep => exact ⟨_, rfl, hl⟩
  · rintro ⟨h₁, rfl, hl⟩
    exact .step (.sleep d next t) hl

theorem course_pause {next : Routine α} :
    (Routine.pause next).Course t h t' b ↔
      ∃ h₁, h = ⟨t, .pause⟩ :: h₁ ∧ next.Course t h₁ t' b := by
  constructor
  · intro hc
    cases hc with
    | step hd hl => cases hd with | pause => exact ⟨_, rfl, hl⟩
  · rintro ⟨h₁, rfl, hl⟩
    exact .step (.pause next t) hl

/-- A course through waiting for changes goes on at some later time, with changes or without. -/
theorem course_await {o : Observer} {next : Option Nat → Routine α} :
    (Routine.await o next).Course t h t' b ↔
      ∃ r t₁ h₁, t ≤ t₁ ∧ h = ⟨t, .await o r⟩ :: h₁ ∧ (next r).Course t₁ h₁ t' b := by
  constructor
  · intro hc
    cases hc with
    | step hd hl => cases hd with | await _ _ hle r => exact ⟨r, _, _, hle, rfl, hl⟩
  · rintro ⟨r, t₁, h₁, hle, rfl, hl⟩
    exact .step (.await o next hle r) hl

theorem course_drop {o : Observer} {next : Routine α} :
    (Routine.drop o next).Course t h t' b ↔
      ∃ h₁, h = ⟨t, .drop o⟩ :: h₁ ∧ next.Course t h₁ t' b := by
  constructor
  · intro hc
    cases hc with
    | step hd hl => cases hd with | drop => exact ⟨_, rfl, hl⟩
  · rintro ⟨h₁, rfl, hl⟩
    exact .step (.drop o next t) hl

theorem course_report {v : String} {next : Routine α} :
    (Routine.report v next).Course t h t' b ↔
      ∃ h₁, h = ⟨t, .report v⟩ :: h₁ ∧ next.Course t h₁ t' b := by
  constructor
  · intro hc
    cases hc with
    | step hd hl => cases hd with | report => exact ⟨_, rfl, hl⟩
  · rintro ⟨h₁, rfl, hl⟩
    exact .step (.report v next t) hl

/-! ## One routine after another -/

/-- What a first routine does, the compound does. -/
theorem Does.bind {r r₁ : Routine α} {m : Moment} (hd : r.Does t m t₁ r₁)
    (f : α → Routine β) : (r.bind f).Does t m t₁ (r₁.bind f) := by
  cases hd with
  | call c next _ r => exact .call c (fun r => (next r).bind f) _ r
  | note n => exact .note n _ _
  | sleep d => exact .sleep d _ _
  | pause => exact .pause _ _
  | await o next hle r => exact .await o (fun r => (next r).bind f) hle r
  | drop o => exact .drop o _ _
  | report v => exact .report v _ _

/-- What a routine does first it does first when another one follows it. -/
theorem Leads.bind {r r₁ : Routine α} (hl : r.Leads t h t₁ r₁) (f : α → Routine β) :
    (r.bind f).Leads t h t₁ (r₁.bind f) := by
  induction hl with
  | refl r t => exact .refl _ _
  | step hd _ ih => exact .step (hd.bind f) ih

/-- **Where a compound can stand**: still in its first routine, or past the end of it. -/
theorem leads_bind {f : α → Routine β} {r : Routine α} {s : Routine β}
    (hl : (r.bind f).Leads t h t' s) :
    (∃ r', r.Leads t h t' r' ∧ s = r'.bind f) ∨
      ∃ a t₁ h₁ h₂, r.Course t h₁ t₁ a ∧ (f a).Leads t₁ h₂ t' s ∧ h = h₁ ++ h₂ := by
  induction h generalizing r t with
  | nil => cases hl; exact .inl ⟨r, .refl _ _, rfl⟩
  | cons m h ih =>
    -- the first act is one of `r`, unless `r` has come to its end
    have past : ∀ {r₁ : Routine α} {t₁ : Nat}, r.Does t m t₁ r₁ → (r₁.bind f).Leads t₁ h t' s →
        (∃ r', r.Leads t (m :: h) t' r' ∧ s = r'.bind f) ∨
          ∃ a t₁ h₁ h₂, r.Course t h₁ t₁ a ∧ (f a).Leads t₁ h₂ t' s ∧ m :: h = h₁ ++ h₂ := by
      intro r₁ t₁ hd hl
      rcases ih hl with ⟨r', hr', rfl⟩ | ⟨a, t₂, h₁, h₂, hc, hl', rfl⟩
      · exact .inl ⟨r', .step hd hr', rfl⟩
      · exact .inr ⟨a, t₂, m :: h₁, h₂, .step hd hc, hl', rfl⟩
    cases r with
    | done a => exact .inr ⟨a, t, [], m :: h, .refl _ _, hl, rfl⟩
    | call c next =>
      cases hl with | step hd hl => cases hd with | call _ _ _ r => exact past (.call ..) hl
    | note n next => cases hl with | step hd hl => cases hd with | note => exact past (.note ..) hl
    | sleep d next =>
      cases hl with | step hd hl => cases hd with | sleep => exact past (.sleep ..) hl
    | pause next => cases hl with | step hd hl => cases hd with | pause => exact past (.pause ..) hl
    | await o next =>
      cases hl with
      | step hd hl => cases hd with | await _ _ hle r => exact past (.await o next hle r) hl
    | drop o next => cases hl with | step hd hl => cases hd with | drop => exact past (.drop ..) hl
    | report v next =>
      cases hl with | step hd hl => cases hd with | report => exact past (.report ..) hl

/-- **The courses of a compound** are the courses of its parts, one after another. -/
theorem course_bind {r : Routine α} {f : α → Routine β} {b : β} :
    (r.bind f).Course t h t' b ↔
      ∃ a t₁ h₁ h₂, r.Course t h₁ t₁ a ∧ (f a).Course t₁ h₂ t' b ∧ h = h₁ ++ h₂ := by
  constructor
  · intro hc
    rcases leads_bind hc with ⟨r', hr', hs⟩ | hpast
    · -- a compound that is done is done in both parts
      cases r' with
      | done a =>
        have hfa : f a = .done b := hs.symm
        exact ⟨a, t', h, [], hr', by rw [hfa]; exact .refl _ _, by simp⟩
      | _ => cases hs
    · exact hpast
  · rintro ⟨a, t₁, h₁, h₂, hr, hf, rfl⟩
    exact (hr.bind f).trans hf

/-! ## What a routine does at most -/

/-- A routine **does acts of one kind only**, whatever comes of them. -/
def Only (P : Act → Prop) : Routine α → Prop
  | .done _ => True
  | .call c next => ∀ r, P (.call c r) ∧ (next r).Only P
  | .note n next => P (.note n) ∧ next.Only P
  | .sleep d next => P (.sleep d) ∧ next.Only P
  | .pause next => P .pause ∧ next.Only P
  | .await o next => ∀ r, P (.await o r) ∧ (next r).Only P
  | .drop o next => P (.drop o) ∧ next.Only P
  | .report v next => P (.report v) ∧ next.Only P

variable {P Q : Act → Prop}

/-- Acts of one kind only, by routines one after another. -/
theorem Only.bind {r : Routine α} {f : α → Routine β} (hr : r.Only P) (hf : ∀ a, (f a).Only P) :
    (r.bind f).Only P := by
  induction r with
  | done a => exact hf a
  | call c next ih => exact fun r => ⟨(hr r).1, ih r (hr r).2⟩
  | note n next ih => exact ⟨hr.1, ih hr.2⟩
  | sleep d next ih => exact ⟨hr.1, ih hr.2⟩
  | pause next ih => exact ⟨hr.1, ih hr.2⟩
  | await o next ih => exact fun r => ⟨(hr r).1, ih r (hr r).2⟩
  | drop o next ih => exact ⟨hr.1, ih hr.2⟩
  | report v next ih => exact ⟨hr.1, ih hr.2⟩

theorem Only.mono {r : Routine α} (hr : r.Only P) (hPQ : ∀ x, P x → Q x) : r.Only Q := by
  induction r with
  | done a => trivial
  | call c next ih => exact fun r => ⟨hPQ _ (hr r).1, ih r (hr r).2⟩
  | note n next ih => exact ⟨hPQ _ hr.1, ih hr.2⟩
  | sleep d next ih => exact ⟨hPQ _ hr.1, ih hr.2⟩
  | pause next ih => exact ⟨hPQ _ hr.1, ih hr.2⟩
  | await o next ih => exact fun r => ⟨hPQ _ (hr r).1, ih r (hr r).2⟩
  | drop o next ih => exact ⟨hPQ _ hr.1, ih hr.2⟩
  | report v next ih => exact ⟨hPQ _ hr.1, ih hr.2⟩

/-- An act of such a routine is of that kind, and so are those after it. -/
theorem Only.does {r r₁ : Routine α} {m : Moment} (hr : r.Only P) (hd : r.Does t m t₁ r₁) :
    P m.act ∧ r₁.Only P := by
  cases hd with
  | call _ _ _ r => exact hr r
  | await _ _ _ r => exact hr r
  | note | sleep | pause | drop | report => exact hr

/-- **What a routine may do bounds what it does**, however far it comes. -/
theorem Only.leads {r r' : Routine α} (hr : r.Only P) (hl : r.Leads t h t' r') :
    (∀ m ∈ h, P m.act) ∧ r'.Only P := by
  induction hl with
  | refl => exact ⟨by simp, hr⟩
  | step hd _ ih =>
    obtain ⟨hm, hr₁⟩ := hr.does hd
    obtain ⟨hh, hr'⟩ := ih hr₁
    exact ⟨by simpa using ⟨hm, hh⟩, hr'⟩

/-! ## No course gets stuck -/

/-- **From anywhere a routine can come to its end**, since every call and every wait has some
answer. -/
theorem exists_course (r : Routine α) (t : Nat) : ∃ h t' a, r.Course t h t' a := by
  induction r generalizing t with
  | done a => exact ⟨[], t, a, .refl _ _⟩
  | call c next ih =>
    obtain ⟨h, t', a, hc⟩ := ih (.error .closed) t
    exact ⟨_, t', a, .step (.call c next t _) hc⟩
  | note n next ih => obtain ⟨h, t', a, hc⟩ := ih t; exact ⟨_, t', a, .step (.note ..) hc⟩
  | sleep d next ih => obtain ⟨h, t', a, hc⟩ := ih (t + d); exact ⟨_, t', a, .step (.sleep ..) hc⟩
  | pause next ih => obtain ⟨h, t', a, hc⟩ := ih t; exact ⟨_, t', a, .step (.pause ..) hc⟩
  | await o next ih =>
    obtain ⟨h, t', a, hc⟩ := ih none t
    exact ⟨_, t', a, .step (.await o next (Nat.le_refl t) none) hc⟩
  | drop o next ih => obtain ⟨h, t', a, hc⟩ := ih t; exact ⟨_, t', a, .step (.drop ..) hc⟩
  | report v next ih => obtain ⟨h, t', a, hc⟩ := ih t; exact ⟨_, t', a, .step (.report ..) hc⟩

end Routine
end ConsentWalker
