import ConsentWalker.Proofs.Walk.Abreast
/-!
# Walk — steps side by side

Steps look below the element on top of their walker and nowhere else, so what lies under it makes no
difference: from walkers whose bases stand at one place, whatever their handles and however deep
they are nested, every step that closes no page does the same side by side (`execute_abreast`).

The two sides may also stand at two places (`Steps.Abreast`), as they do while one of them has gone
inside an element and the other one has not (`Abreast.within_left`, `Abreast.within_right`).
-/

namespace ConsentWalker

/-! ## Bases -/

namespace Page

variable {p p' : Page} {o : Place} {base : Option Handle}

/-- A base that stands at a place; without one it is the whole page. -/
def BaseAt (p : Page) (o : Place) : Option Handle → Prop
  | none => o = .root p.root
  | some h => p.place? h = some o

/-- A base stays at its place. -/
theorem BaseAt.keeps (hb : p.BaseAt o base) (hk : p.Keeps p') : p'.BaseAt o base := by
  cases base with
  | none =>
    change o = .root p'.root
    rw [hk.root]
    exact hb
  | some h => exact hk.place? hb

/-- On an open page a base stands at a place if and only if it is what queries start from. -/
theorem baseAt_iff (hopen : p.closed = false) : p.BaseAt o base ↔ p.origin base = .ok o := by
  cases base with
  | none => exact ⟨fun hb => congrArg Except.ok hb.symm, fun ho => (Except.ok.inj ho).symm⟩
  | some h => exact ⟨fun hb => located_eq_ok.2 ⟨hopen, hb⟩, fun ho => (located_eq_ok.1 ho).2⟩

/-- Twins are seen alike. -/
theorem Twins.sight_eq (h : p.Twins p') : p.sight = p'.sight := h.congr Page.sight fun _ => rfl

end Page

/-! ## Lookups at one place -/

namespace Sides

variable {S : Sides} {h k : Option Handle} {q? : Option Place} {hs ks : List Handle}
  {qs : List Place}

/-- Handles for the same place, if there is one. -/
theorem same_of_rel (hh : Option.Rel S.left.Denotes h q?) (hk : Option.Rel S.right.Denotes k q?) :
    Option.Rel S.Same h k := by
  cases hh with
  | none =>
    cases hk
    exact .none
  | some hh =>
    cases hk with
    | some hk => exact .some ⟨_, hh, hk⟩

theorem same_of_denotesAll (hh : S.left.DenotesAll hs qs) (hk : S.right.DenotesAll ks qs) :
    List.Forall₂ S.Same hs ks := by
  induction hh generalizing ks with
  | nil =>
    cases hk
    exact .nil
  | cons hh _ ih =>
    cases hk with
    | cons hk hrest => exact .cons ⟨_, hh, hk⟩ (ih hrest)

end Sides

section

open Lookup

variable {S : Sides} {o : Place} {base base' : Option Handle} (hb : S.left.BaseAt o base)
  (hb' : S.right.BaseAt o base')
include hb hb'

/-- **Looking for one element** below one place finds one element, or none. -/
theorem Query.target?_abreast (q : Query) :
    Lookup.Abreast (fun T => Option.Rel T.Same) S (q.target? base) (q.target? base') := by
  have hfound : Lookup.Abreast (fun T h k => ∃ q? q?', Option.Rel T.left.Denotes h q? ∧
      Option.Rel T.right.Denotes k q?' ∧ q? = q?') S (q.target? base) (q.target? base') :=
    abreast_of_means (q.target?_looks base) (q.target?_looks base')
      fun p p' hk hk' htwins hopen => by
      have hopen' : p'.closed = false := htwins.closed_eq ▸ hopen
      have hmeans := Sight.target?_means htwins.sound hopen q base
      have hmeans' := Sight.target?_means htwins.sound' hopen' q base'
      rw [(Page.baseAt_iff hopen).1 (hb.keeps hk)] at hmeans
      rw [(Page.baseAt_iff hopen').1 (hb'.keeps hk'), ← htwins.sight_eq] at hmeans'
      exact ⟨_, _, hmeans, hmeans', .refl _⟩
  refine hfound.imp ?_
  rintro T h k - ⟨_, _, hh, hk, rfl⟩
  exact Sides.same_of_rel hh hk

/-- **Looking for every element** below one place finds the same elements. -/
theorem Query.findAll_abreast (q : Query) :
    Lookup.Abreast (fun T fs gs => List.Forall₂ T.Same (fs.filterMap Finding.target)
      (gs.filterMap Finding.target)) S (q.findAll base) (q.findAll base') := by
  have hfound : Lookup.Abreast
      (fun T fs gs => ∃ qs qs', Sight.Finds T.left fs qs ∧ Sight.Finds T.right gs qs' ∧ qs = qs')
      S (q.findAll base) (q.findAll base') :=
    abreast_of_means (q.findAll_looks base) (q.findAll_looks base')
      fun p p' hk hk' htwins hopen => by
      have hopen' : p'.closed = false := htwins.closed_eq ▸ hopen
      have hmeans := Sight.resolve_means true q base htwins.sound hopen
      have hmeans' := Sight.resolve_means true q base' htwins.sound' hopen'
      rw [(Page.baseAt_iff hopen).1 (hb.keeps hk)] at hmeans
      rw [(Page.baseAt_iff hopen').1 (hb'.keeps hk'), ← htwins.sight_eq] at hmeans'
      exact ⟨_, _, hmeans, hmeans', .refl _⟩
  refine hfound.imp ?_
  rintro T fs gs - ⟨_, _, hf, hg, rfl⟩
  exact Sides.same_of_denotesAll hf.targets hg.targets

end

namespace Matcher

variable {S : Sides} {o : Place} {base base' : Option Handle}

theorem state_abreast (m : Matcher) {h k : Handle} (hs : S.Same h k) :
    Lookup.Abreast (fun _ => (· = ·)) S (m.state h) (m.state k) := by
  cases m with
  | css => exact .pure fun _ _ => rfl
  | checkbox => exact Lookup.ask_abreast .isChecked .isChecked (fun _ => rfl) (fun _ => trivial) hs

theorem holds_abreast (m : Matcher) (hb : S.left.BaseAt o base) (hb' : S.right.BaseAt o base') :
    Lookup.Abreast (fun _ => (· = ·)) S (m.holds base) (m.holds base') := by
  refine (m.target.target?_abreast hb hb').bind fun T _ _ _ hfound => ?_
  cases hfound with
  | none => exact .pure fun _ _ => rfl
  | some hs => exact m.state_abreast hs

theorem outline_abreast (m : Matcher) (wanted : Bool) (hb : S.left.BaseAt o base)
    (hb' : S.right.BaseAt o base') :
    Lookup.Abreast (fun _ _ _ => True) S (m.outline base wanted) (m.outline base' wanted) := by
  refine (m.target.target?_abreast hb hb').bind fun T _ _ _ hfound => ?_
  cases hfound with
  | none => exact .pure fun _ _ => trivial
  | some hs =>
    refine (m.state_abreast hs).bind ?_
    rintro U b _ hle rfl
    exact (Lookup.ask_abreast (.paint · (b == wanted)) (.paint _) (fun _ => rfl) (fun _ => trivial)
      (hs.mono hle)).imp fun _ _ _ _ _ => trivial

end Matcher

/-! ## Steps -/

namespace Steps

variable {α β γ δ : Type} {R : Sides → α → β → Prop} {Q : Sides → γ → δ → Prop} {S T : Sides}
  {o o' q : Place} {x : Steps α} {x' : Steps β} {h k : Handle}

/-- Outcomes that agree, with the bases as they were. -/
structure Restored (R : Sides → α → β → Prop) (k k' : Walker) (T : Sides)
    (y : Except PageError α × Walker) (y' : Except PageError β × Walker) : Prop where
  agree : Agree (R T) y.1 y'.1
  scope : y.2.scope = k.scope
  scope' : y'.2.scope = k'.scope

/-- **Steps that do the same side by side**, from walkers whose bases stand at two given places. -/
def Abreast (R : Sides → α → β → Prop) (S : Sides) (o o' : Place) (x : Steps α) (x' : Steps β) :
    Prop :=
  ∀ T k k', S ≤ T → T.left.BaseAt o k.scope.head? → T.right.BaseAt o' k'.scope.head? →
    Routine.Abreast (Restored R k k') T (x.run k) (x'.run k')

theorem Abreast.mono (hx : Abreast R S o o' x x') (hle : S ≤ T) : Abreast R T o o' x x' :=
  fun U k k' hle' => hx U k k' (le_trans hle hle')

theorem Abreast.pure {a : α} {b : β} (hab : ∀ T, S ≤ T → R T a b) :
    Abreast R S o o' (Pure.pure a) (Pure.pure b) :=
  fun _ _ _ hle _ _ => .done fun _ hle' => ⟨.ok (hab _ (le_trans hle hle')), rfl, rfl⟩

/-- Steps abreast, one after another, if what follows is abreast for results that agree. -/
theorem Abreast.bind (hx : Abreast R S o o' x x') {f : α → Steps γ} {f' : β → Steps δ}
    (hf : ∀ T a b, S ≤ T → R T a b → Abreast Q T o o' (f a) (f' b)) :
    Abreast Q S o o' (x >>= f) (x' >>= f') := by
  intro T k k' hle hb hb'
  rw [run_bind, run_bind]
  refine (hx T k k' hle hb hb').bind ?_
  rintro U ⟨r, k₁⟩ ⟨r', k₁'⟩ hle' ⟨hr, hk₁, hk₁'⟩
  dsimp only at hr hk₁ hk₁'
  cases hr with
  | error e => exact .done fun _ _ => ⟨.error e, hk₁, hk₁'⟩
  | ok hab =>
    have hnext := hf U _ _ (le_trans hle hle') hab U k₁ k₁' (le_refl _) (hk₁ ▸ hb.keeps hle'.1)
      (hk₁' ▸ hb'.keeps hle'.2)
    exact hnext.imp fun _ _ _ _ hr => ⟨hr.agree, hr.scope.trans hk₁, hr.scope'.trans hk₁'⟩

/-- A routine that keeps no handles. -/
theorem Abreast.lift {r : Routine α} {r' : Routine β} (hr : ∀ T, S ≤ T → Routine.Abreast R T r r') :
    Abreast R S o o' (liftM r : Steps α) (liftM r') := by
  intro T k k' hle _ _
  rw [run_lift, run_lift]
  exact (hr T hle).map fun _ _ _ hab => ⟨.ok hab, rfl, rfl⟩

theorem Abreast.rest (time : Nat) : Abreast (fun _ _ _ => True) S o o'
    (ConsentWalker.rest time : Steps Unit) (ConsentWalker.rest time) :=
  .lift fun _ _ => .rest time

theorem Abreast.tell (n n' : Notice) : Abreast (fun _ _ _ => True) S o o'
    (ConsentWalker.tell n : Steps Unit) (ConsentWalker.tell n') :=
  .lift fun _ _ => .note_left n (.note_right n' (.done fun _ _ => trivial))

theorem Abreast.ofLookup {q : Lookup α} {q' : Lookup β} (hq : q.Abreast R S q') :
    Abreast R S o o' (ofLookup q) (ofLookup q') :=
  fun _ _ _ hle _ _ => (hq.mono hle).map fun _ _ _ hr => ⟨hr, rfl, rfl⟩

theorem base_abreast :
    Abreast (fun T b b' => T.left.BaseAt o b ∧ T.right.BaseAt o' b') S o o' base base :=
  fun _ _ _ _ hb hb' => .done fun _ hle => ⟨.ok ⟨hb.keeps hle.1, hb'.keeps hle.2⟩, rfl, rfl⟩

/-- **Looking something up below the bases.** -/
theorem Abreast.looking {q : Option Handle → Lookup α} {q' : Option Handle → Lookup β}
    (hq : ∀ T b b', T.left.BaseAt o b → T.right.BaseAt o' b' → (q b).Abreast R T (q' b')) :
    Abreast R S o o' (looking q) (looking q') :=
  base_abreast.bind fun T _ _ _ hb => .ofLookup (hq T _ _ hb.1 hb.2)

/-- Asking about one element, which does not fail. -/
theorem act_abreast (f : Handle → Call)
    (hl : ∀ {L : Tables} {h k : Handle}, L.Links h k → (f h).Links L (f k))
    (habout : ∀ h, (f h).about? = some h) (hvalid : ∀ h, (f h).IsValid) (hs : S.Same h k) :
    Abreast (fun T => Call.Yields T.tables (f h) (f k)) S o o' (act (f h)) (act (f k)) :=
  .ofLookup (Lookup.ask_abreast f hl habout hvalid hs)

/-- **Telling first which step is done** makes no difference on the left. -/
theorem Abreast.announced_left {n : Walker → Notice} (hx : Abreast R S o o' x x') :
    Abreast R S o o' (do ConsentWalker.tell (n (← get)); x) x' :=
  fun T k k' hle hb hb' => (hx T k k' hle hb hb').note_left (n k)

/-- Telling first which step is done makes no difference on the right. -/
theorem Abreast.announced_right {n : Walker → Notice} (hx : Abreast R S o o' x x') :
    Abreast R S o o' x (do ConsentWalker.tell (n (← get)); x') :=
  fun T k k' hle hb hb' => (hx T k k' hle hb hb').note_right (n k')

/-- The bases after an element was taken off them again. -/
theorem drop_scope {k k₁ : Walker} (hk : k₁.scope = h :: k.scope) :
    k₁.scope.drop (k₁.scope.length - k.scope.length) = k.scope := by
  rw [hk]
  simp

/-- **Going inside an element on the left** brings that side to the place where it stands. -/
theorem Abreast.within_left (hh : S.left.place? h = some q) (hx : Abreast R S q o' x x') :
    Abreast R S o o' (within h x) x' := by
  intro T k k' hle _ hb'
  have hrun := hx T { k with scope := h :: k.scope } k' hle (hle.1.place? hh) hb'
  exact hrun.map_left fun _ _ _ hr => ⟨hr.agree, drop_scope hr.scope, hr.scope'⟩

/-- Going inside an element on the right brings that side to the place where it stands. -/
theorem Abreast.within_right (hh : S.right.place? h = some q) (hx : Abreast R S o q x x') :
    Abreast R S o o' x (within h x') := by
  intro T k k' hle hb _
  have hrun := hx T k { k' with scope := h :: k'.scope } hle hb (hle.2.place? hh)
  exact hrun.map_right fun _ _ _ hr => ⟨hr.agree, hr.scope, drop_scope hr.scope'⟩

/-- Steps that do the same side by side and yield nothing. -/
abbrev DoAbreast (S : Sides) (o o' : Place) (x x' : Steps Unit) : Prop :=
  Abreast (fun _ _ _ => True) S o o' x x'

/-- **Inside one element after another**, which are the same on both sides. -/
theorem Abreast.withinEach {x x' : Steps Unit} {hs ks : List Handle}
    (hsame : List.Forall₂ S.Same hs ks)
    (hx : ∀ q, DoAbreast S q q x x') : DoAbreast S o o' (withinEach x hs) (withinEach x' ks) := by
  induction hsame with
  | nil => exact .pure fun _ _ => trivial
  | cons hh _ ih =>
    obtain ⟨q, hleft, hright⟩ := hh
    have hfirst : DoAbreast S o o' (within _ x) (within _ x') :=
      ((hx q).within_left hleft.1).within_right hright.1
    exact hfirst.bind fun _ _ _ hle _ => ih.mono hle

end Steps

open Steps

/-! ## Single steps -/

section

variable {S : Sides} {o o' : Place} {h k : Handle}

theorem approach_abreast (s : Setting) (hs : S.Same h k) :
    DoAbreast S o o' (approach s h) (approach s k) := by
  unfold approach
  split
  · refine (act_abreast .scroll .scroll (fun _ => rfl) (fun _ => trivial) hs).bind
      fun _ _ _ hle _ => ?_
    exact act_abreast .focus .focus (fun _ => rfl) (fun _ => trivial) (hs.mono hle)
  · exact .pure fun _ _ => trivial

theorem announceClick_abreast (s : Setting) (c : Click) :
    DoAbreast S o o' (announceClick s c h) (announceClick s c k) := by
  unfold announceClick
  split
  · exact .tell _ _
  · exact .pure fun _ _ => trivial

/-- Pressing elements that stand at one place does the same on both sides. -/
theorem press_abreast (s : Setting) (c : Click) {found found' : Option Handle}
    (hs : Option.Rel S.Same found found') :
    DoAbreast S o o' (press s c found) (press s c found') := by
  cases hs with
  | none => exact .tell _ _
  | some hs =>
    refine (approach_abreast s hs).bind fun _ _ _ hle _ => ?_
    refine (announceClick_abreast s c).bind fun _ _ _ hle' _ => ?_
    exact act_abreast (.click · c.openInTab) (.click _) (fun _ => rfl) (fun _ => trivial)
      (hs.mono (le_trans hle hle'))

theorem clickStep_abreast (s : Setting) (c : Click) :
    DoAbreast S o o (clickStep s c) (clickStep s c) := by
  refine (Abreast.looking fun _ _ _ hb hb' => c.target.target?_abreast hb hb').bind
    fun _ _ _ _ hfound => ?_
  refine (press_abreast s c hfound).bind fun _ _ _ _ _ => ?_
  split
  · exact .rest _
  · exact .pure fun _ _ => trivial

section

variable {base base' : Option Handle} (hb : S.left.BaseAt o base) (hb' : S.right.BaseAt o base')
include hb hb'

/-- A check that fails does so on both sides, and counts as no on both. -/
theorem waitIsOver_abreast (wait : WaitCss) (retries : Nat) :
    Routine.Abreast (fun _ => (· = ·)) S (waitIsOver wait retries base)
      (waitIsOver wait retries base') := by
  refine Routine.Abreast.bind ((Matcher.css wait.target).holds_abreast hb hb') fun T r r' _ hr => ?_
  cases hr with
  | error e => exact .note_left _ (.note_right _ (.done fun _ _ => rfl))
  | ok hsame =>
    subst hsame
    exact .done fun _ _ => rfl

/-- A wait goes through the same checks on both sides. -/
theorem waitFrom_abreast (wait : WaitCss) (left retries : Nat) :
    Routine.Abreast (fun _ _ _ => True) S (waitFrom wait base left retries)
      (waitFrom wait base' left retries) := by
  induction left generalizing S retries with
  | zero =>
    refine (waitIsOver_abreast hb hb' wait retries).bind ?_
    rintro T met _ - rfl
    split
    · exact .done fun _ _ => trivial
    · exact .note_left _ (.note_right _ (.done fun _ _ => trivial))
  | succ left ih =>
    refine (waitIsOver_abreast hb hb' wait retries).bind ?_
    rintro T met _ hle rfl
    split
    · exact .done fun _ _ => trivial
    · exact (Routine.Abreast.rest _).bind fun U _ _ hle' _ =>
        ih (hb.keeps (le_trans hle hle').1) (hb'.keeps (le_trans hle hle').2) (retries + 1)

end

theorem hideStep_abreast (target : Query) :
    DoAbreast S o o (hideStep target) (hideStep target) := by
  refine (Abreast.looking fun _ _ _ hb hb' => target.target?_abreast hb hb').bind
    fun T _ _ _ hfound => ?_
  cases hfound with
  | none => exact .pure fun _ _ => trivial
  | @some h k hs =>
    have hnoted : DoAbreast T o o (modify fun w => { w with concealed := w.concealed ++ [h] })
        (modify fun w => { w with concealed := w.concealed ++ [k] }) :=
      fun _ _ _ _ _ _ => .done fun _ _ => ⟨.ok trivial, rfl, rfl⟩
    refine hnoted.bind fun _ _ _ hle _ => ?_
    exact act_abreast (.setHidden · true) (.setHidden true) (fun _ => rfl) (fun _ => trivial)
      (hs.mono hle)

/-- Both sides drag as far, since the elements have the same rectangles. -/
theorem slideStep_abreast (s : Setting) (slide : Slide) :
    DoAbreast S o o (slideStep s slide) (slideStep s slide) := by
  have pointer : ∀ {S : Sides} {h k : Handle} (phase : Phase) (point : Point), S.Same h k →
      DoAbreast S o o (act (.pointer h phase point)) (act (.pointer k phase point)) :=
    fun phase point => act_abreast (.pointer · phase point) (.pointer phase point) (fun _ => rfl)
      fun _ => trivial
  refine (Abreast.looking fun _ _ _ hb hb' => slide.target.target?_abreast hb hb').bind
    fun T _ _ _ hfound => ?_
  cases hfound with
  | none => exact .pure fun _ _ => trivial
  | some hs =>
    refine (Abreast.looking fun _ _ _ hb hb' => slide.dragTarget.target?_abreast hb hb').bind
      fun U _ _ hle hgoal => ?_
    cases hgoal with
    | none => exact .pure fun _ _ => trivial
    | some hgoal =>
      replace hs := hs.mono hle
      refine (act_abreast .rect .rect (fun _ => rfl) (fun _ => trivial) hs).bind ?_
      rintro U origin _ hle (rfl : origin = _)
      refine (act_abreast .rect .rect (fun _ => rfl) (fun _ => trivial) (hgoal.mono hle)).bind ?_
      rintro U aim _ hle' (rfl : aim = _)
      replace hs := hs.mono (le_trans hle hle')
      refine (pointer .down _ hs).bind fun _ _ _ h₁ _ => (Abreast.rest _).bind fun _ _ _ h₂ _ => ?_
      replace hs := hs.mono (le_trans h₁ h₂)
      refine (pointer .move _ hs).bind fun _ _ _ h₃ _ => (Abreast.rest _).bind fun _ _ _ h₄ _ => ?_
      exact pointer .up _ (hs.mono (le_trans h₃ h₄))

theorem outlineIf_abreast (s : Setting) (m : Matcher) (wanted : Bool) :
    DoAbreast S o o (outlineIf s m wanted) (outlineIf s m wanted) := by
  unfold outlineIf
  split
  · exact .looking fun _ _ _ hb hb' => m.outline_abreast wanted hb hb'
  · exact .pure fun _ _ => trivial

end

/-! ## All steps -/

/-- Whether steps close the page. -/
def closing : Interpretation Bool where
  nothing := false
  andThen := or
  click _ := false
  ifCss _ := or
  waitCss _ := false
  forEach _ body := body
  hide _ := false
  slide _ := false
  close := true
  wait _ := false
  toggle _ _ toggle := toggle
  branch _ := or

/-- Whether a step closes the page, anywhere inside. -/
def Action.closes (a : Action) : Bool := closing.action a

/-- Every kind of step that closes no page does the same side by side, if the steps in it do. -/
theorem execution_abreast (s : Setting) : execution.Respects closing
    fun x closes => closes = false → ∀ S o, DoAbreast S o o (x s) (x s) where
  nothing _ _ _ := .pure fun _ _ => trivial
  andThen hx hy hopen S o := by
    obtain ⟨hfirst, hrest⟩ := Bool.or_eq_false_iff.1 hopen
    exact (hx hfirst S o).bind fun T _ _ _ _ => hy hrest T o
  announced _ _ _ hx hopen S o := (hx hopen S o).announced_left.announced_right
  click c _ _ _ := clickStep_abreast s c
  ifCss target _ _ _ _ hx hy hopen S o := by
    obtain ⟨htrue, hfalse⟩ := Bool.or_eq_false_iff.1 hopen
    refine (Abreast.looking fun _ _ _ hb hb' => (Matcher.css target).holds_abreast hb hb').bind ?_
    rintro T present _ - rfl
    split
    · exact hx htrue T o
    · exact hy hfalse T o
  waitCss w _ S o := by
    refine base_abreast.bind fun T _ _ _ hb => ?_
    refine (Abreast.lift fun U hle =>
      waitFrom_abreast (hb.1.keeps hle.1) (hb.2.keeps hle.2) w _ _).bind fun _ _ _ _ _ => ?_
    exact .pure fun _ _ => trivial
  forEach target _ _ hx hopen S o :=
    (Abreast.looking fun _ _ _ hb hb' => target.findAll_abreast hb hb').bind
      fun T _ _ _ hsame => .withinEach hsame (hx hopen T)
  hide target _ _ _ := hideStep_abreast target
  slide slide _ _ _ := slideStep_abreast s slide
  close hopen := absurd hopen Bool.noConfusion
  wait time _ _ _ := .rest time
  toggle category matcher a ha hopen S o := by
    refine (Abreast.looking fun _ _ _ hb hb' => matcher.holds_abreast hb hb').bind ?_
    rintro T current _ - rfl
    refine (Abreast.tell _ _).bind fun U _ _ _ _ => ?_
    refine Abreast.bind (R := fun _ _ _ => True) ?_ fun V _ _ _ _ => outlineIf_abreast s matcher _
    split
    · exact ha hopen U o
    · exact .pure fun _ _ => trivial
  branch category _ _ _ _ hx hy hopen S o := by
    obtain ⟨htrue, hfalse⟩ := Bool.or_eq_false_iff.1 hopen
    refine (Abreast.tell _ _).bind fun T _ _ _ _ => ?_
    split
    · exact hx htrue T o
    · exact hy hfalse T o

/-- **Every step that closes no page does the same side by side**, however steps are nested in one
another. -/
theorem execute_abreast (s : Setting) (a : Action) (ha : a.closes = false) (S : Sides) (o : Place) :
    DoAbreast S o o (execute s a) (execute s a) := by
  rw [execute_eq]
  exact (execution_abreast s).action a ha S o

end ConsentWalker
