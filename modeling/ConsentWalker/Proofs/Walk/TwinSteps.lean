import ConsentWalker.Proofs.Walk.Stepping
import ConsentWalker.Proofs.Walk.Twinning
/-!
# Walk — steps that do the same to twins

Steps keep handles in a `Walker`: the bases of queries and what is to be shown again. From walkers
whose handles are of the same nodes every step does the same to twins (`execute_twin`), and so does
the handling of a dialog from its first call to its clean-up (`Vendor.handling_twin`).
-/

namespace ConsentWalker

/-- Walkers that are the same but for handles. -/
structure Walker.Links (L : Tables) (k k' : Walker) : Prop where
  scope : L.LinksEach k.scope k'.scope
  concealed : L.LinksEach k.concealed k'.concealed

/-- Walkers that are linked stay so while more handles are given out. -/
theorem Walker.Links.mono {L M : Tables} {k k' : Walker} (hk : k.Links L k') (hle : L ≤ M) :
    k.Links M k' :=
  ⟨hk.scope.mono hle, hk.concealed.mono hle⟩

namespace Steps

variable {α β γ δ : Type} {R : Tables → α → β → Prop} {S : Tables → γ → δ → Prop} {L M : Tables}

/-- Outcomes that pair, with walkers that are the same but for handles. -/
def Ends (R : Tables → α → β → Prop) (L : Tables) (x : Except PageError α × Walker)
    (y : Except PageError β × Walker) : Prop :=
  Paired (R L) x.1 y.1 ∧ x.2.Links L y.2

/-- **Steps that do the same to twins**, from linked walkers on. -/
def Twin (R : Tables → α → β → Prop) (L : Tables) (x : Steps α) (x' : Steps β) : Prop :=
  ∀ M k k', L ≤ M → k.Links M k' → Routine.Twin (Ends R) M (x.run k) (x'.run k')

variable {x : Steps α} {x' : Steps β}

/-- What does the same to twins does so after more handles were given out. -/
theorem Twin.mono (h : Twin R L x x') (hle : L ≤ M) : Twin R M x x' :=
  fun N k k' hle' => h N k k' (le_trans hle hle')

theorem Twin.pure {a : α} {b : β} (hab : ∀ M, L ≤ M → R M a b) :
    Twin R L (Pure.pure a) (Pure.pure b) :=
  fun M _ _ hle hk => .done ⟨.ok (hab M hle), hk⟩

/-- Steps that do the same to twins, one after another, if what follows does so for results that
pair. -/
theorem Twin.bind (h : Twin R L x x') {f : α → Steps γ} {f' : β → Steps δ}
    (hf : ∀ M a b, L ≤ M → R M a b → Twin S M (f a) (f' b)) :
    Twin S L (x >>= f) (x' >>= f') := by
  intro M k k' hle hk
  rw [run_bind, run_bind]
  refine (h M k k' hle hk).bind ?_
  rintro N ⟨r, k₁⟩ ⟨r', k₁'⟩ hle' ⟨hr, hk₁⟩
  dsimp only at hr hk₁
  cases hr with
  | error e e' => exact .done ⟨.error e e', hk₁⟩
  | ok hab => exact hf N _ _ (le_trans hle hle') hab N _ _ (le_refl _) hk₁

/-- A routine that keeps no handles. -/
theorem Twin.lift {r : Routine α} {r' : Routine β}
    (h : ∀ M, L ≤ M → Routine.Twin R M r r') : Twin R L (liftM r : Steps α) (liftM r') := by
  intro M k k' hle hk
  rw [run_lift, run_lift]
  exact (h M hle).bind fun N a b hle' hab => .done ⟨.ok hab, hk.mono hle'⟩

theorem Twin.tell (n n' : Notice) :
    Twin (fun _ _ _ => True) L (ConsentWalker.tell n : Steps Unit) (ConsentWalker.tell n') :=
  .lift fun _ _ => .note n n' (.done trivial)

theorem Twin.rest (time : Nat) :
    Twin (fun _ _ _ => True) L (ConsentWalker.rest time : Steps Unit) (ConsentWalker.rest time) :=
  .lift fun _ _ => .sleep time (.done trivial)

theorem Twin.stepAside :
    Twin (fun _ _ _ => True) L (ConsentWalker.stepAside : Steps Unit) ConsentWalker.stepAside :=
  .lift fun _ _ => .pause (.done trivial)

/-- A lookup that does the same to twins does so as a step. -/
theorem Twin.ofLookup {q : Lookup α} {q' : Lookup β} (h : q.Twin R L q') :
    Twin R L (ofLookup q) (ofLookup q') :=
  fun M _ _ hle hk => (h M hle).bind fun _ _ _ hle' hr => .done ⟨hr, hk.mono hle'⟩

/-- The walker that a step finds is linked to that of its twin. -/
theorem Twin.get :
    Twin (fun M k k' => k.Links M k') L (MonadState.get : Steps Walker) MonadState.get :=
  fun _ _ _ _ hk => .done ⟨.ok hk, hk⟩

/-- Twins look below the same node. -/
theorem base_twin : Twin (fun M => M.LinksAny) L base base :=
  Twin.get.bind fun _ _ _ _ hk => .pure fun _ hle => hk.scope.head?.mono hle

/-- **Looking something up below the base.** -/
theorem Twin.looking {q : Option Handle → Lookup α} {q' : Option Handle → Lookup β}
    (h : ∀ M b b', M.LinksAny b b' → (q b).Twin R M (q' b')) :
    Twin R L (looking q) (looking q') :=
  base_twin.bind fun M _ _ _ hbase => .ofLookup (h M _ _ hbase)

/-- Asking about linked handles. -/
theorem Twin.act {c d : Call} (hl : c.Links L d) :
    Twin (fun M => Call.Yields M c d) L (act c) (act d) :=
  .ofLookup (.ask hl)

/-- Telling first what is done. -/
theorem Twin.announced {n n' : Walker → Notice} (h : Twin R L x x') :
    Twin R L (do ConsentWalker.tell (n (← MonadState.get)); x)
      (do ConsentWalker.tell (n' (← MonadState.get)); x') :=
  Twin.get.bind fun _ _ _ hle _ => (Twin.tell _ _).bind fun _ _ _ hle' _ =>
    h.mono (le_trans hle hle')

/-- **Steps with linked elements as the base.** -/
theorem Twin.within {h k : Handle} (hl : L.Links h k) (hx : Twin R L x x') :
    Twin R L (within h x) (within k x') := by
  intro M w w' hle hw
  have hscope : ({ w with scope := h :: w.scope } : Walker).Links M
      { w' with scope := k :: w'.scope } :=
    ⟨.cons (hl.mono hle) hw.scope, hw.concealed⟩
  refine (hx M _ _ hle hscope).bind ?_
  rintro N ⟨r, after⟩ ⟨r', after'⟩ hle' ⟨hr, hafter⟩
  refine .done ⟨hr, ?_, hafter.concealed⟩
  dsimp only at hafter ⊢
  rw [hafter.scope.length_eq, hw.scope.length_eq]
  exact List.forall₂_drop _ hafter.scope

/-- Steps inside of linked elements, one after another, do the same to twins. -/
theorem Twin.withinEach {x x' : Steps Unit} {hs ks : List Handle} (hl : L.LinksEach hs ks)
    (hx : Twin (fun _ _ _ => True) L x x') :
    Twin (fun _ _ _ => True) L (withinEach x hs) (withinEach x' ks) := by
  induction hl with
  | nil => exact .pure fun _ _ => trivial
  | cons hlink _ ih => exact (hx.within hlink).bind fun _ _ _ hle _ => ih.mono hle

end Steps

open Steps

variable {L M : Tables} {h k : Handle} {base base' : Option Handle}

/-- Steps that do the same to twins and yield nothing. -/
abbrev Steps.DoTwin (L : Tables) (x x' : Steps Unit) : Prop := x.Twin (fun _ _ _ => True) L x'

/-! ## Single steps -/

/-- Scrolling to an element and focusing it does the same to twins. -/
theorem approach_twin (s : Setting) (hl : L.Links h k) :
    DoTwin L (approach s h) (approach s k) := by
  unfold approach
  split
  · exact (Twin.act (.scroll hl)).bind fun _ _ _ hle _ => .act (.focus (hl.mono hle))
  · exact .pure fun _ _ => trivial

theorem announceClick_twin (s : Setting) (c : Click) :
    DoTwin L (announceClick s c h) (announceClick s c k) := by
  unfold announceClick
  split
  · exact .tell _ _
  · exact .pure fun _ _ => trivial

/-- Pressing what was found does the same to twins, and so does finding nothing. -/
theorem press_twin (s : Setting) (c : Click) (hl : L.LinksAny base base') :
    DoTwin L (press s c base) (press s c base') := by
  cases hl with
  | none => exact .tell _ _
  | some hl =>
    refine (approach_twin s hl).bind fun _ _ _ hle _ => ?_
    refine (announceClick_twin s c).bind fun _ _ _ hle' _ => ?_
    exact .act (.click c.openInTab (hl.mono (le_trans hle hle')))

theorem clickStep_twin (s : Setting) (c : Click) : DoTwin L (clickStep s c) (clickStep s c) := by
  refine (Twin.looking fun _ _ _ hb => c.target.target?_twin hb).bind fun M _ _ _ hfound => ?_
  refine (press_twin s c hfound).bind fun _ _ _ _ _ => ?_
  split
  · exact .rest _
  · exact .pure fun _ _ => trivial

theorem waitIsOver_twin (wait : WaitCss) (retries : Nat) (hl : L.LinksAny base base') :
    Routine.Twin (fun _ => (· = ·)) L (waitIsOver wait retries base)
      (waitIsOver wait retries base') := by
  refine Routine.Twin.bind ((Matcher.css wait.target).holds_twin hl L (le_refl _)) ?_
  intro M r r' _ hr
  cases hr with
  | error e e' => exact .note _ _ (.done rfl)
  | ok hsame =>
    subst hsame
    exact .done rfl

/-- A wait checks as often on one twin as on the other, and ends the same way. -/
theorem waitFrom_twin (wait : WaitCss) (left retries : Nat) (hl : L.LinksAny base base') :
    Routine.Twin (fun _ => (· = ·)) L (waitFrom wait base left retries)
      (waitFrom wait base' left retries) := by
  induction left generalizing L retries with
  | zero =>
    refine (waitIsOver_twin wait retries hl).bind ?_
    rintro M ready _ - rfl
    split
    · exact .done rfl
    · exact .note _ _ (.done rfl)
  | succ left ih =>
    refine (waitIsOver_twin wait retries hl).bind ?_
    rintro M ready _ hle rfl
    split
    · exact .done rfl
    · exact .sleep _ (ih (retries + 1) (hl.mono hle))

/-- Hiding notes the same node on both twins, to be shown again. -/
theorem hideStep_twin (target : Query) : DoTwin L (hideStep target) (hideStep target) := by
  refine (Twin.looking fun _ _ _ hb => target.target?_twin hb).bind fun M _ _ _ hfound => ?_
  cases hfound with
  | none => exact .pure fun _ _ => trivial
  | @some h k hl =>
    have hnoted : DoTwin M (modify fun w => { w with concealed := w.concealed ++ [h] })
        (modify fun w => { w with concealed := w.concealed ++ [k] }) :=
      fun N w w' hle hw => .done ⟨.ok trivial, hw.scope,
        List.rel_append hw.concealed (.cons (hl.mono hle) .nil)⟩
    exact hnoted.bind fun _ _ _ hle _ => .act (.setHidden true (hl.mono hle))

/-- A slide moves by the same distance on both twins, since their layouts are the same. -/
theorem slideStep_twin (s : Setting) (slide : Slide) :
    DoTwin L (slideStep s slide) (slideStep s slide) := by
  refine (Twin.looking fun _ _ _ hb => slide.target.target?_twin hb).bind fun M _ _ _ hfound => ?_
  cases hfound with
  | none => exact .pure fun _ _ => trivial
  | some hl =>
    refine (Twin.looking fun _ _ _ hb => slide.dragTarget.target?_twin hb).bind
      fun N _ _ hle hgoal => ?_
    cases hgoal with
    | none => exact .pure fun _ _ => trivial
    | some hl' =>
      replace hl := hl.mono hle
      refine (Twin.act (.rect hl)).bind ?_
      rintro N origin _ hle (rfl : origin = _)
      refine (Twin.act (.rect (hl'.mono hle))).bind ?_
      rintro N aim _ hle' (rfl : aim = _)
      replace hl := hl.mono (le_trans hle hle')
      refine (Twin.act (.pointer .down _ hl)).bind fun _ _ _ h₁ _ => ?_
      refine (Twin.rest _).bind fun _ _ _ h₂ _ => ?_
      refine (Twin.act (.pointer .move _ (hl.mono (le_trans h₁ h₂)))).bind fun _ _ _ h₃ _ => ?_
      refine (Twin.rest _).bind fun _ _ _ h₄ _ => ?_
      exact .act (.pointer .up _ (hl.mono (le_trans (le_trans h₁ h₂) (le_trans h₃ h₄))))

theorem outlineIf_twin (s : Setting) (m : Matcher) (wanted : Bool) :
    DoTwin L (outlineIf s m wanted) (outlineIf s m wanted) := by
  unfold outlineIf
  split
  · exact .looking fun _ _ _ hb => m.outline_twin hb wanted
  · exact .pure fun _ _ => trivial

/-! ## All steps -/

/-- Every kind of step does the same to twins, if the steps in it do. -/
theorem execution_twin (s : Setting) : execution.Keeps fun x => ∀ L, DoTwin L (x s) (x s) where
  nothing _ := .pure fun _ _ => trivial
  andThen hx hy L := (hx L).bind fun M _ _ _ _ => hy M
  announced _ _ _ hx L := (hx L).announced
  click c _ := clickStep_twin s c
  ifCss target _ _ _ _ hx hy L := by
    refine (Twin.looking fun _ _ _ hb => (Matcher.css target).holds_twin hb).bind ?_
    rintro M present _ - rfl
    split
    · exact hx M
    · exact hy M
  waitCss w L := by
    refine base_twin.bind fun M _ _ _ hb => ?_
    refine (Twin.lift fun N hle => waitFrom_twin w _ _ (hb.mono hle)).bind fun _ _ _ _ _ => ?_
    exact .pure fun _ _ => trivial
  forEach target _ _ hx L :=
    (Twin.looking fun _ _ _ hb => target.findAll_twin hb).bind fun M _ _ _ hfindings =>
      (hx M).withinEach (Query.targets_linked hfindings)
  hide target _ := hideStep_twin target
  slide slide _ := slideStep_twin s slide
  close _ := .act .close
  wait time _ := .rest time
  toggle category matcher a ha L := by
    refine (Twin.looking fun _ _ _ hb => matcher.holds_twin hb).bind ?_
    rintro M current _ - rfl
    refine (Twin.tell _ _).bind fun M _ _ _ _ => ?_
    refine Twin.bind (R := fun _ _ _ => True) ?_ fun M _ _ _ _ => outlineIf_twin s matcher _
    split
    · exact ha M
    · exact .pure fun _ _ => trivial
  branch category _ _ _ _ hx hy L := by
    refine (Twin.tell _ _).bind fun M _ _ _ _ => ?_
    split
    · exact hx M
    · exact hy M

/-- **Every step does the same to twins**, however steps are nested in one another. -/
theorem execute_twin (s : Setting) (a : Action) (L : Tables) :
    DoTwin L (execute s a) (execute s a) := by
  rw [execute_eq]
  exact (execution_twin s).action a L

/-! ## Handling a dialog -/

namespace Vendor

/-- A method does the same to twins, also one that is not supplied. -/
theorem runMethod_twin (s : Setting) (v : Vendor) (m : Method) :
    DoTwin L (v.runMethod s m) (v.runMethod s m) := by
  unfold runMethod
  split
  · exact (Twin.tell _ _).bind fun _ _ _ _ _ => .stepAside
  · exact (Twin.tell _ _).bind fun M _ _ _ _ => execute_twin s _ M

theorem runMethods_twin (s : Setting) (v : Vendor) (ms : List Method) :
    DoTwin L (v.runMethods s ms) (v.runMethods s ms) := by
  induction ms generalizing L with
  | nil => exact .pure fun _ _ => trivial
  | cons m rest ih => exact (v.runMethod_twin s m).bind fun _ _ _ _ _ => ih

end Vendor

namespace Acts

variable {α β γ δ : Type} {R : Tables → α → β → Prop} {S : Tables → γ → δ → Prop}

/-- **Acts that do the same to twins**, from linked walkers on. -/
def Twin (R : Tables → α → β → Prop) (L : Tables) (x : Acts α) (x' : Acts β) : Prop :=
  ∀ M k k', L ≤ M → k.Links M k' →
    Routine.Twin (fun N a b => R N a.1 b.1 ∧ a.2.Links N b.2) M (x.run k) (x'.run k')

/-- Acts that do the same to twins do so after more handles were given out. -/
theorem Twin.mono {x : Acts α} {x' : Acts β} (h : Twin R L x x') (hle : L ≤ M) : Twin R M x x' :=
  fun N k k' hle' => h N k k' (le_trans hle hle')

theorem Twin.pure {a : α} {b : β} (hab : ∀ M, L ≤ M → R M a b) :
    Twin R L (Pure.pure a) (Pure.pure b) :=
  fun M _ _ hle hk => .done ⟨hab M hle, hk⟩

/-- Acts that do the same to twins, one after another. -/
theorem Twin.bind {x : Acts α} {x' : Acts β} (h : Twin R L x x') {f : α → Acts γ}
    {f' : β → Acts δ} (hf : ∀ M a b, L ≤ M → R M a b → Twin S M (f a) (f' b)) :
    Twin S L (x >>= f) (x' >>= f') := by
  intro M k k' hle hk
  refine (h M k k' hle hk).bind ?_
  rintro N ⟨a, k₁⟩ ⟨b, k₁'⟩ hle' ⟨hab, hk₁⟩
  exact hf N a b (le_trans hle hle') hab N k₁ k₁' (le_refl _) hk₁

theorem Twin.lift {r : Routine α} {r' : Routine β} (h : ∀ M, L ≤ M → Routine.Twin R M r r') :
    Twin R L (liftM r : Acts α) (liftM r') :=
  fun M _ _ hle hk => (h M hle).bind fun _ _ _ hle' hab => .done ⟨hab, hk.mono hle'⟩

/-- Acts that do the same to twins and yield nothing. -/
abbrev DoTwin (L : Tables) (x x' : Acts Unit) : Prop := Twin (fun _ _ _ => True) L x x'

theorem Twin.tell (n n' : Notice) :
    DoTwin L (ConsentWalker.tell n : Acts Unit) (ConsentWalker.tell n') :=
  .lift fun _ _ => .note n n' (.done trivial)

/-- A call that may fail does so on both twins, and is complained of on both. -/
theorem tryTo_twin {c d : Call} (hl : c.Links L d) (complaint complaint' : PageError → Notice) :
    DoTwin L (tryTo c complaint) (tryTo d complaint') := by
  have hasked : Twin (fun M => Call.Answered M c d) L (liftM (Routine.attempt c) : Acts _)
      (liftM (Routine.attempt d)) :=
    .lift fun _ hle => .attempt (hl.mono hle)
  refine hasked.bind fun M r r' _ hr => ?_
  obtain ⟨hpaired, -⟩ := hr
  cases hpaired with
  | ok => exact .pure fun _ _ => trivial
  | error e e' => exact .tell _ _

/-- Steps that may fail do so on both twins, and are complained of on both. -/
theorem trySteps_twin {x x' : Steps Unit} (hx : Steps.DoTwin L x x')
    (complaint : PageError → Notice) : DoTwin L (trySteps x complaint) (trySteps x' complaint) := by
  intro M k k' hle hk
  refine (hx M k k' hle hk).bind ?_
  rintro N ⟨r, k₁⟩ ⟨r', k₁'⟩ - ⟨hr, hk₁⟩
  dsimp only at hr hk₁
  cases hr with
  | ok => exact .done ⟨trivial, hk₁⟩
  | error e e' => exact .note _ _ (.done ⟨trivial, hk₁⟩)

end Acts

namespace Vendor

open Acts

theorem reveal_twin (v : Vendor) {hs ks : List Handle} (hl : L.LinksEach hs ks) :
    Acts.DoTwin L (v.reveal hs) (v.reveal ks) := by
  induction hl with
  | nil => exact .pure fun _ _ => trivial
  | cons hlink _ ih =>
    exact (tryTo_twin (.setHidden false hlink) _ _).bind fun _ _ _ hle _ => ih.mono hle

/-- Showing again what was hidden does the same to twins: what is to be shown is linked. -/
theorem revealAll_twin (v : Vendor) : Acts.DoTwin L v.revealAll v.revealAll := by
  intro M k k' hle hk
  have hforgot : ({ k with concealed := [] } : Walker).Links M { k' with concealed := [] } :=
    ⟨hk.scope, .nil⟩
  exact v.reveal_twin hk.concealed M _ _ (le_refl _) hforgot

/-- The methods of a dialog do the same to twins, and come to the same. -/
theorem act_twin (s : Setting) (v : Vendor) :
    Acts.Twin (fun _ => (· = ·)) L (v.act s) (v.act s) := by
  unfold Vendor.act
  split
  · exact (Acts.Twin.tell _ _).bind fun _ _ _ _ _ => .pure fun _ _ => rfl
  · refine (tryTo_twin (.showProgress _) _ _).bind fun M _ _ _ _ => ?_
    refine (trySteps_twin (v.runMethods_twin s _) _).bind fun M _ _ _ _ => ?_
    exact .pure fun _ _ => rfl

theorem cleanUp_twin (v : Vendor) : Acts.DoTwin L v.cleanUp v.cleanUp :=
  v.revealAll_twin.bind fun _ _ _ _ _ => tryTo_twin .hideProgress _ _

/-- **Handling a dialog does the same to twins.** -/
theorem handling_twin (s : Setting) (v : Vendor) :
    Acts.DoTwin L (v.handling s) (v.handling s) := by
  refine (Acts.Twin.lift (R := fun _ _ _ => True) fun _ _ => .pause (.done trivial)).bind
    fun M _ _ _ _ => ?_
  refine (v.act_twin s).bind ?_
  rintro M acted _ - rfl
  refine (Acts.Twin.lift (R := fun _ _ _ => True) fun _ _ =>
    .report v.name (.done trivial)).bind fun M _ _ _ _ => ?_
  split
  · exact v.cleanUp_twin
  · exact .pure fun _ _ => trivial

end Vendor
end ConsentWalker
