import ConsentWalker.Proofs.Walk.Concealment
import ConsentWalker.Proofs.Walk.Vigil
/-!
# Walk — what steps come to on a page

Steps done on a page where nobody else acts come to an outcome, a walker and another page
(`Steps.onPage`). One step after another comes to what the second makes of what the first has made,
unless the first fails.

Whatever else a world keeps has no part in it: without faults steps come to the same in every world
with that page (`execute_alone`).
-/

namespace ConsentWalker
namespace Steps

variable {α β : Type} {k k' : Walker} {p p' : Page}

/-- What steps come to on a page, from a walker on. -/
def onPage (x : Steps α) (k : Walker) (p : Page) : (Except PageError α × Walker) × Page :=
  (x.run k).readOn p

/-- **After steps that did not fail** the next ones go on from where they ended. -/
theorem onPage_bind {x : Steps α} {a : α} (hx : x.onPage k p = ((.ok a, k'), p'))
    (f : α → Steps β) : (x >>= f).onPage k p = (f a).onPage k' p' := by
  unfold onPage at *
  rw [run_bind, Routine.readOn_bind, hx]

theorem onPage_get : (get : Steps Walker).onPage k p = ((.ok k, k), p) := rfl

theorem onPage_tell (n : Notice) : (tell n : Steps Unit).onPage k p = ((.ok (), k), p) := rfl

theorem onPage_act (c : Call) :
    (act c).onPage k p = (((p.perform c).1, k), (p.perform c).2) := rfl

/-- A question to the page keeps the walker. -/
theorem onPage_looking (q : Option Handle → Lookup α) :
    (looking q).onPage k p =
      ((((q k.scope.head?).run.readOn p).1, k), ((q k.scope.head?).run.readOn p).2) := by
  change ((ofLookup (q k.scope.head?)).run k).readOn p = _
  change (((q k.scope.head?).run).bind fun r => .done (r, k)).readOn p = _
  rw [Routine.readOn_bind]
  rfl

/-- Telling first which step is done makes no difference. -/
theorem onPage_announced (n : Walker → Notice) (x : Steps α) :
    (do tell (n (← get)); x : Steps α).onPage k p = x.onPage k p := by
  rw [onPage_bind onPage_get, onPage_bind (onPage_tell _)]

end Steps

/-! ## Steps in a world -/

namespace Routine

variable {α : Type} {P : Act → Prop} {r r₁ : Routine α} {t t₁ : Nat} {m : Moment}

/-- That all acts of all courses are of one kind is inherited by what an act leads to, since from
anywhere a course goes on. -/
theorem course_after (hr : ∀ h t' a, r.Course t h t' a → ∀ m ∈ h, P m.act) (hd : r.Does t m t₁ r₁) :
    P m.act ∧ ∀ h t' a, r₁.Course t₁ h t' a → ∀ m ∈ h, P m.act := by
  obtain ⟨h, t', a, hc⟩ := r₁.exists_course t₁
  refine ⟨hr (m :: h) t' a (.step hd hc) m List.mem_cons_self, fun h t' a hc m' hm' => ?_⟩
  exact hr (m :: h) t' a (.step hd hc) m' (List.mem_cons_of_mem _ hm')

/-- **What holds of all acts of all courses holds of a routine.** -/
theorem only_of_course (hr : ∀ h t' a, r.Course t h t' a → ∀ m ∈ h, P m.act) : r.Only P := by
  induction r generalizing t with
  | done a => trivial
  | call c next ih =>
    intro answer
    obtain ⟨hact, hrest⟩ := course_after hr (.call c next t answer)
    exact ⟨hact, ih answer hrest⟩
  | note n next ih =>
    obtain ⟨hact, hrest⟩ := course_after hr (.note n next t)
    exact ⟨hact, ih hrest⟩
  | sleep d next ih =>
    obtain ⟨hact, hrest⟩ := course_after hr (.sleep d next t)
    exact ⟨hact, ih hrest⟩
  | pause next ih =>
    obtain ⟨hact, hrest⟩ := course_after hr (.pause next t)
    exact ⟨hact, ih hrest⟩
  | await o next ih =>
    intro records
    obtain ⟨hact, hrest⟩ := course_after hr (.await o next (Nat.le_refl t) records)
    exact ⟨hact, ih records hrest⟩
  | drop o next ih =>
    obtain ⟨hact, hrest⟩ := course_after hr (.drop o next t)
    exact ⟨hact, ih hrest⟩
  | report v next ih =>
    obtain ⟨hact, hrest⟩ := course_after hr (.report v next t)
    exact ⟨hact, ih hrest⟩

end Routine

/-- **Steps come to the same in every world** with a page, where nobody else acts and nothing
fails. -/
theorem execute_alone (s : Setting) (a : Action) (k : Walker) {w : World}
    (hw : w.faults.planned = []) :
    (World.alone ((execute s a).run k) w).1 = ((execute s a).onPage k w.page).1 ∧
      (World.alone ((execute s a).run k) w).2.page = ((execute s a).onPage k w.page).2 ∧
      (World.alone ((execute s a).run k) w).2.faults.planned = [] := by
  refine World.alone_of_steps ?_ hw
  refine Routine.only_of_course (t := 0) fun h t' r hc => ?_
  exact (execute_ensures kept_noted s a hc).steps

end ConsentWalker
