import ConsentWalker.Proofs.Walk.Likeness
/-!
# Walk — outlining matchers makes no other difference

A search may outline the element of every matcher that it settles. What it does beside that is then
the same, as long as the page does not refuse an outline (`Search.painting_unseen`): two searches
that differ in the flag alone stay on pages that are alike but for the outlines.

Their steps match one by one (`Matches`). Only in a page that a step has closed the look for the
element that is to be outlined fails, where there was none: but there nothing more can be done
anyway, so whatever follows matches too (`matchIn_of_closed`).
-/

namespace ConsentWalker

/-! ## Routines that match -/

namespace Routine

variable {α β : Type}

/-- **What routines come to in two worlds matches**: the worlds after them are alike, and the value
is the same unless the page was closed on the way. -/
def MatchIn (w w' : World) (r r' : Routine α) : Prop :=
  (World.alone r w).2.Alike (World.alone r' w').2 ∧
    ((World.alone r w).1 = (World.alone r' w').1 ∨ (World.alone r w).2.page.closed = true)

/-- **Routines that match** in all worlds that are alike. -/
structure Matches (r r' : Routine α) : Prop where
  aside : r.Only Act.IsAside
  aside' : r'.Only Act.IsAside
  comes : ∀ {w w' : World}, w.Alike w' → w.page.Sound → MatchIn w w' r r'

theorem Matches.refl {r : Routine α} (hr : r.Only Act.IsAside) : r.Matches r := by
  refine ⟨hr, hr, fun h _ => ?_⟩
  obtain ⟨hsame, halike⟩ := h.alone r
  exact ⟨halike, .inl hsame⟩

/-- Once the page is closed all routines match. -/
theorem matchIn_of_closed {r r' : Routine α} (hr : r.Only Act.IsAside) (hr' : r'.Only Act.IsAside)
    {w w' : World} (h : w.Alike w') (hclosed : w.page.closed = true) : MatchIn w w' r r' := by
  have hclosed' : w'.page.closed = true := h.page.closed_eq.trans hclosed
  obtain ⟨hpage, hplanned⟩ := World.alone_of_closed hr h.planned hclosed
  obtain ⟨hpage', hplanned'⟩ := World.alone_of_closed hr' h.planned' hclosed'
  refine ⟨⟨?_, hplanned, hplanned'⟩, .inr ?_⟩
  · rw [hpage, hpage']
    exact h.page
  · rw [hpage]
    exact hclosed

/-- **One pair of routines after another that match**: the second pair need match only on an open
page, after what the first has come to there. -/
theorem Matches.bind_of {r r' : Routine α} {f f' : α → Routine β} (hr : r.Matches r')
    (hf : ∀ a, (f a).Only Act.IsAside) (hf' : ∀ a, (f' a).Only Act.IsAside)
    (hopen : ∀ {w w₁ w₁' : World} {a : α}, w.faults.planned = [] → w.page.Sound →
      World.alone r w = (a, w₁) → w₁.page.closed = false → w₁.page.Sound → w₁.Alike w₁' →
        MatchIn w₁ w₁' (f a) (f' a)) : (r.bind f).Matches (r'.bind f') := by
  refine ⟨hr.aside.bind hf, hr.aside'.bind hf', fun {w w'} h hp => ?_⟩
  obtain ⟨halike, hsame⟩ := hr.comes h hp
  unfold MatchIn
  rw [World.alone_bind, World.alone_bind]
  cases hclosed : (World.alone r w).2.page.closed with
  | true => exact matchIn_of_closed (hf _) (hf' _) halike hclosed
  | false =>
    rw [← hsame.resolve_right (by simp [hclosed])]
    exact hopen h.planned hp rfl hclosed (World.alone_keeps r hp).2 halike

theorem Matches.bind {r r' : Routine α} {f f' : α → Routine β} (hr : r.Matches r')
    (hf : ∀ a, (f a).Matches (f' a)) : (r.bind f).Matches (r'.bind f') :=
  hr.bind_of (fun a => (hf a).aside) (fun a => (hf a).aside') fun _ _ _ _ hp h => (hf _).comes h hp

end Routine

namespace Steps

variable {α β : Type} {x x' : Steps α}

/-- Steps that match from every walker on. -/
def Matches (x x' : Steps α) : Prop := ∀ k, (x.run k).Matches (x'.run k)

/-- Steps that note what they hide let observers alone, so they match themselves. -/
theorem aside_of_noted (hx : Ensures Noted x) (k : Walker) : (x.run k).Only Act.IsAside := by
  refine (Routine.only_of_course (t := 0) fun h t' r hc => ?_).mono Act.IsStep.isAside
  exact (hx hc).steps

/-- Steps that only note what they do match themselves. -/
theorem Matches.of_noted (hx : Ensures Noted x) : x.Matches x :=
  fun k => .refl (aside_of_noted hx k)

theorem Matches.pure (a : α) : (Pure.pure a : Steps α).Matches (Pure.pure a) :=
  .of_noted (kept_noted.pure a)

/-- Steps that match, one after another. -/
theorem Matches.bind {f f' : α → Steps β} (hx : x.Matches x') (hf : ∀ a, (f a).Matches (f' a)) :
    Matches (x >>= f) (x' >>= f') := by
  intro k
  rw [run_bind, run_bind]
  refine (hx k).bind fun p => ?_
  obtain ⟨_ | a, k'⟩ := p
  · exact .refl trivial
  · exact hf a k'

theorem Matches.announced {n : Walker → Notice} (hx : x.Matches x') :
    Matches (do tell (n (← get)); x) (do tell (n (← get)); x') :=
  (of_noted kept_noted.get).bind fun _ => (of_noted (kept_noted.tell _)).bind fun _ => hx

theorem Matches.within (h : Handle) (hx : x.Matches x') : (within h x).Matches (within h x') :=
  fun k => (hx { k with scope := h :: k.scope }).bind fun _ => .refl trivial

/-- The rounds of a loop match if their steps do. -/
theorem Matches.withinEach {x x' : Steps Unit} (hx : x.Matches x') (hs : List Handle) :
    (withinEach x hs).Matches (withinEach x' hs) := by
  induction hs with
  | nil => exact .pure ()
  | cons h rest ih => exact (hx.within h).bind fun _ => ih

end Steps

/-! ## What a search does when it outlines -/

/-- The setting in which matchers are outlined, or are not. -/
def Setting.painting (s : Setting) (b : Bool) : Setting :=
  { s with flags := { s.flags with paintMatchers := b } }

open Steps

section

variable {s : Setting} {m : Matcher} {t t' : Steps Unit} {n : Bool → Notice} {wanted : Bool}

/-- What a consent that is a toggle does up to its outline. -/
def toggling (m : Matcher) (n : Bool → Notice) (wanted : Bool) (t : Steps Unit) : Steps Unit := do
  let current ← looking m.holds
  tell (n current)
  if current != wanted then t else pure ()

theorem toggling_ensures {R : Walker → History → Walker → Prop} (hR : Kept R) (ht : Ensures R t) :
    Ensures R (toggling m n wanted t) := by
  refine hR.bind (hR.looking fun base => (m.holds_looks base).isDirect) fun current => ?_
  refine hR.bind (hR.tell _) fun _ => ?_
  split
  · exact ht
  · exact hR.pure _

/-- Switching a purpose matches, with an outline afterwards or without. -/
theorem toggling_matches (ht : t.Matches t') :
    (toggling m n wanted t).Matches (toggling m n wanted t') := by
  refine (Matches.of_noted (kept_noted.looking fun base =>
    (m.holds_looks base).isDirect)).bind fun current => ?_
  refine (Matches.of_noted (kept_noted.tell _)).bind fun _ => ?_
  split
  · exact ht
  · exact .pure ()

/-- **A toggle that did not fail has put its question**, and has left the tree alone since. -/
theorem toggling_alone {k k' : Walker} {w w' : World} (hw : w.faults.planned = [])
    (hp : w.page.Sound) (ht : Ensures Noted t)
    (hscope : Ensures (fun k _ k' => k'.scope = k.scope) t)
    (h : World.alone ((toggling m n wanted t).run k) w = ((.ok (), k'), w'))
    (hopen : w'.page.closed = false) :
    w.page.closed = false ∧ k'.scope = k.scope ∧
      ∃ b, ((m.holds k.scope.head?).run.readOn w.page).1 = .ok b ∧
        ((m.holds k.scope.head?).run.readOn w.page).2.Keeps w'.page := by
  have hasks : Ensures Noted (looking m.holds) :=
    kept_noted.looking fun base => (m.holds_looks base).isDirect
  refine ⟨?_, ?_, ?_⟩
  · by_contra hclosed
    have htoggling : Ensures Noted (toggling m n wanted t) := toggling_ensures kept_noted ht
    obtain ⟨hpage, -⟩ :=
      World.alone_of_closed (aside_of_noted htoggling k) hw (by simpa using hclosed)
    rw [h] at hpage
    exact hclosed (hpage ▸ hopen)
  · obtain ⟨_, _, _, hc⟩ := World.course_of_alone h
    exact toggling_ensures kept_scope hscope hc
  · -- the question comes first, and what follows leaves the tree alone
    have hsteps : ((looking m.holds).run k).Only Act.IsStep :=
      Routine.only_of_course (t := 0) fun _ _ _ hc => (hasks hc).steps
    obtain ⟨hanswer, hpage, -⟩ := World.alone_of_steps hsteps hw
    have honpage := Steps.onPage_looking (k := k) (p := w.page) m.holds
    unfold onPage at honpage
    rw [honpage] at hanswer hpage
    have hsound := (World.alone_keeps ((looking m.holds).run k) hp).2
    unfold toggling at h
    rw [run_bind, World.alone_bind, hanswer] at h
    cases hb : ((m.holds k.scope.head?).run.readOn w.page).1 with
    | error e =>
      rw [hb] at h
      cases h
    | ok b =>
      rw [hb] at h
      refine ⟨b, rfl, ?_⟩
      have hkeeps := (World.alone_keeps ((do
        tell (n b)
        if b != wanted then t else pure () : Steps Unit).run k) hsound).1
      rw [h, hpage] at hkeeps
      exact hkeeps

/-- **A consent that is a toggle comes to the same** whether it is outlined afterwards or not. -/
theorem outlined_matches (ht : t.Matches t') (hnoted : Ensures Noted t)
    (hscope : Ensures (fun k _ k' => k'.scope = k.scope) t) :
    (do toggling m n wanted t; outlineIf (s.painting true) m wanted : Steps Unit).Matches
      (do toggling m n wanted t'; outlineIf (s.painting false) m wanted) := by
  have houtline : ∀ b, Ensures Noted (outlineIf (s.painting b) m wanted) := fun b =>
    outlineIf_ensures kept_noted _ m wanted
  intro k
  rw [run_bind, run_bind]
  refine (toggling_matches ht k).bind_of ?_ ?_ ?_
  · rintro ⟨_ | _, k₁⟩
    · trivial
    · exact aside_of_noted (houtline true) k₁
  · rintro ⟨_ | _, k₁⟩
    · trivial
    · exact aside_of_noted (houtline false) k₁
  · intro w w₁ w₁' p hw hp htoggled hopen hsound halike
    obtain ⟨_ | _, k₁⟩ := p
    · exact ⟨halike, .inl rfl⟩
    · obtain ⟨hopen₀, hk₁, b, hok, hkeeps⟩ := toggling_alone hw hp hnoted hscope htoggled hopen
      obtain ⟨p', houtlined, hpainted⟩ := m.outline_after hp hopen₀ hok hkeeps hopen wanted
      rw [← hk₁] at houtlined
      -- what is outlined is found, and nothing is changed but the outlines
      have hsteps : ((outlineIf (s.painting true) m wanted).run k₁).Only Act.IsStep :=
        Routine.only_of_course (t := 0) fun _ _ _ hc => (houtline true hc).steps
      obtain ⟨hanswer, hpage, hplanned⟩ := World.alone_of_steps hsteps halike.planned
      have honpage : (outlineIf (s.painting true) m wanted).onPage k₁ w₁.page =
          ((.ok (), k₁), p') := by
        have hif : outlineIf (s.painting true) m wanted =
            looking fun base => m.outline base wanted := rfl
        rw [hif, onPage_looking, houtlined]
      unfold onPage at honpage
      rw [honpage] at hanswer hpage
      refine ⟨⟨?_, hplanned, halike.planned'⟩, .inl hanswer⟩
      rw [hpage]
      exact hpainted.symm.trans halike.page

end

/-- A consent that is a toggle settles its purpose and is outlined after that. -/
theorem execution_toggle (s : Setting) (category : Category) (matcher : Matcher)
    (x : Setting → Steps Unit) :
    execution.toggle category matcher x s = (do
      toggling matcher
        (fun current => .settingConsent category (some current) (s.policy.allows category))
        (s.policy.allows category) (x s)
      outlineIf s matcher (s.policy.allows category)) := by
  unfold toggling
  simp only [bind_assoc]
  rfl

/-- Every kind of step comes to the same whether matchers are outlined or not, if the steps in it
do. -/
theorem execution_matches (s : Setting) :
    execution.Keeps fun x => (x (s.painting true)).Matches (x (s.painting false)) where
  nothing := .pure ()
  andThen hx hy := hx.bind fun _ => hy
  announced _ _ _ hx := hx.announced
  click c := .of_noted (clickStep_ensures kept_noted _ c)
  ifCss target _ _ _ _ hx hy := by
    refine (Matches.of_noted (kept_noted.looking fun base =>
      ((Matcher.css target).holds_looks base).isDirect)).bind fun present => ?_
    split
    · exact hx
    · exact hy
  waitCss w := .of_noted ((execution_ensures kept_noted s).waitCss w)
  forEach target _ _ hx :=
    (Matches.of_noted (kept_noted.looking fun base =>
      (target.findAll_looks base).isDirect)).bind fun _ => hx.withinEach _
  hide target := .of_noted (hideStep_ensures kept_noted target)
  slide slide := .of_noted (slideStep_ensures kept_noted _ slide)
  close := .of_noted (kept_noted.act (c := .close) trivial)
  wait time := .of_noted (kept_noted.rest time)
  toggle category matcher a ha := by
    dsimp only
    rw [execution_toggle, execution_toggle]
    exact outlined_matches ha ((execution_ensures kept_noted _).action a)
      ((execution_ensures kept_scope _).action a)
  branch category _ _ _ _ hx hy := by
    refine (Matches.of_noted (kept_noted.tell _)).bind fun _ => ?_
    change Matches (if s.policy.allows category then _ else _)
      (if s.policy.allows category then _ else _)
    split
    · exact hx
    · exact hy

/-- **Every step comes to the same** whether matchers are outlined or not. -/
theorem execute_matches (s : Setting) (a : Action) :
    (execute (s.painting true) a).Matches (execute (s.painting false) a) := by
  rw [execute_eq, execute_eq]
  exact (execution_matches s).action a

/-! ### Handling a dialog -/

namespace Acts

variable {α β : Type} {x x' : Acts α}

/-- Acts that match from every walker on. -/
def Matches (x x' : Acts α) : Prop := ∀ k, (x.run k).Matches (x'.run k)

theorem Matches.pure (a : α) : Matches (Pure.pure a : Acts α) (Pure.pure a) :=
  fun _ => .refl trivial

theorem Matches.bind {f f' : α → Acts β} (hx : Matches x x') (hf : ∀ a, Matches (f a) (f' a)) :
    Matches (x >>= f) (x' >>= f') :=
  fun k => (hx k).bind fun p => hf p.1 p.2

theorem Matches.lift {r : Routine α} (hr : r.Only Act.IsAside) :
    Matches (liftM r : Acts α) (liftM r) :=
  fun _ => .refl (hr.bind fun _ => trivial)

theorem Matches.tryTo {c : Call} (hc : c ≠ .observe) (complaint : PageError → Notice) :
    Matches (tryTo c complaint) (tryTo c complaint) := by
  refine (Matches.lift (r := Routine.attempt c) fun _ => ⟨hc, trivial⟩).bind fun r => ?_
  cases r with
  | ok a => exact .pure ()
  | error e => exact Matches.lift (r := Routine.tell (complaint e)) ⟨trivial, trivial⟩

theorem Matches.trySteps {x x' : Steps Unit} (hx : x.Matches x') (complaint : PageError → Notice) :
    Matches (trySteps x complaint) (trySteps x' complaint) := by
  intro k
  refine (hx k).bind fun p => ?_
  obtain ⟨_ | _, k'⟩ := p
  · exact Matches.lift (r := Routine.tell (complaint _)) ⟨trivial, trivial⟩ k'
  · exact Matches.pure () k'

end Acts

namespace Vendor

open Acts (Matches.pure Matches.bind Matches.lift Matches.tryTo Matches.trySteps)

variable (s : Setting) (v : Vendor)

theorem runMethod_matches (m : Method) :
    (v.runMethod (s.painting true) m).Matches (v.runMethod (s.painting false) m) := by
  unfold runMethod
  split
  · exact (Steps.Matches.of_noted (kept_noted.tell _)).bind fun _ =>
      .of_noted (Steps.ensures_stepAside noted_pause)
  · exact (Steps.Matches.of_noted (kept_noted.tell _)).bind fun _ => execute_matches s _

/-- The methods of a dialog match, with outlines or without. -/
theorem runMethods_matches (ms : List Method) :
    (v.runMethods (s.painting true) ms).Matches (v.runMethods (s.painting false) ms) := by
  induction ms with
  | nil => exact Steps.Matches.pure ()
  | cons m rest ih => exact (v.runMethod_matches s m).bind fun _ => ih

theorem act_matches : Acts.Matches (v.act (s.painting true)) (v.act (s.painting false)) := by
  have hskip : ∀ b, (s.painting b).flags.skipActions = s.flags.skipActions := fun _ => rfl
  unfold act
  rw [hskip, hskip]
  split
  · exact (Matches.lift (r := Routine.tell _) ⟨trivial, trivial⟩).bind fun _ => Matches.pure false
  · refine (Matches.tryTo (by simp) _).bind fun _ => ?_
    refine (Matches.trySteps (v.runMethods_matches s (lifecycle s.flags)) _).bind fun _ => ?_
    exact Matches.pure true

theorem reveal_matches (hs : List Handle) : Acts.Matches (v.reveal hs) (v.reveal hs) := by
  induction hs with
  | nil => exact Matches.pure ()
  | cons h rest ih => exact (Matches.tryTo (by simp) _).bind fun _ => ih

theorem cleanUp_matches : Acts.Matches v.cleanUp v.cleanUp := by
  have hreveal : Acts.Matches v.revealAll v.revealAll := fun k =>
    v.reveal_matches k.concealed { k with concealed := [] }
  exact hreveal.bind fun _ => Matches.tryTo (by simp) _

/-- **A handling comes to the same**, from its progress message to its clean-up. -/
theorem handling_matches :
    Acts.Matches (v.handling (s.painting true)) (v.handling (s.painting false)) := by
  refine (Matches.lift (r := Routine.stepAside) ⟨trivial, trivial⟩).bind fun _ => ?_
  refine (v.act_matches s).bind fun acted => ?_
  refine (Matches.lift (r := Routine.report v.name (.done ())) ⟨trivial, trivial⟩).bind fun _ => ?_
  split
  · exact v.cleanUp_matches
  · exact Matches.pure ()

end Vendor

/-! ### The search -/

namespace Search

variable {x : Search} {s : State} {w w' w₁ : World} {r : Routine Next}
  {outcome : Except PageError Report}

/-- The search that outlines matchers, or does not. -/
def painting (x : Search) (b : Bool) : Search := { x with setting := x.setting.painting b }

/-- Polling outlines nothing. -/
theorem poll_painting (x : Search) (b : Bool) (v : Vendor) (left attempt : Nat) :
    (x.painting b).poll v left attempt = x.poll v left attempt := by
  induction left generalizing attempt with
  | zero => rfl
  | succ left ih =>
    unfold poll
    simp only [ih]
    rfl

/-- **Only a handling outlines.** -/
theorem step_painting (x : Search) (b : Bool) (hs : ∀ i, s.stage ≠ .handling i) :
    (x.painting b).step s = x.step s := by
  obtain ⟨stage, tried, handled, observer⟩ := s
  cases stage with
  | polling i =>
    unfold step
    simp only [poll_painting]
    rfl
  | handling i => exact absurd rfl (hs i)
  | _ => rfl

/-- **A stage ends in the same way** whether matchers are outlined in it or not. -/
theorem step_matches (x : Search) (s : State) (h : w.Alike w') (hp : w.page.Sound) :
    (World.alone ((x.painting true).step s) w).1 = (World.alone ((x.painting false).step s) w').1 ∧
      (World.alone ((x.painting true).step s) w).2.Alike
        (World.alone ((x.painting false).step s) w').2 := by
  by_cases hs : ∀ i, s.stage ≠ .handling i
  · rw [step_painting x true hs, step_painting x false hs]
    exact h.alone _
  · push Not at hs
    obtain ⟨i, hi⟩ := hs
    obtain ⟨stage, tried, handled, observer⟩ := s
    obtain rfl : stage = .handling i := hi
    have htold : (w.tell (.stage (.handling i))).Alike (w'.tell (.stage (.handling i))) :=
      ⟨h.page, h.planned, h.planned'⟩
    cases hv : x.vendors[i]? with
    | none =>
      have hstep : ∀ b, (x.painting b).step ⟨.handling i, tried, handled, observer⟩ =
          .note (.stage (.handling i))
            (.done (.goOn ⟨.finished, tried, handled, observer⟩)) := by
        intro b
        unfold step painting
        dsimp only
        rw [hv]
        rfl
      rw [hstep, hstep]
      exact ⟨rfl, htold⟩
    | some v =>
      have hstep : ∀ b, (x.painting b).step ⟨.handling i, tried, handled, observer⟩ =
          .note (.stage (.handling i)) (((v.handling (x.setting.painting b)).run {}).bind fun _ =>
            .done (.goOn ⟨.handled i, tried, handled ++ [v.name], observer⟩)) := by
        intro b
        unfold step painting
        dsimp only
        rw [hv]
        rfl
      have hrun : ∀ b (w : World),
          World.alone ((x.painting b).step ⟨.handling i, tried, handled, observer⟩) w =
            (.goOn ⟨.handled i, tried, handled ++ [v.name], observer⟩,
              (World.alone ((v.handling (x.setting.painting b)).run {})
                (w.tell (.stage (.handling i)))).2) := by
        intro b w
        rw [hstep]
        exact World.alone_bind _ _ _
      obtain ⟨halike, -⟩ := (v.handling_matches x.setting {}).comes htold hp
      rw [hrun, hrun]
      exact ⟨rfl, halike⟩

/-- **What a search that outlines comes to, one that does not comes to as well**, from any stage
on. -/
theorem Ends.unpainted (h : (x.painting true).Ends r w outcome w₁) {r' : Routine Next} {w' : World}
    (hp : w.page.Sound) (hr : (World.alone r w).1 = (World.alone r' w').1 ∧
      (World.alone r w).2.Alike (World.alone r' w').2) :
    ∃ w₁', (x.painting false).Ends r' w' outcome w₁' ∧ w₁.Alike w₁' := by
  induction h generalizing r' w' with
  | @stop r w w₁ outcome hstop =>
    rw [hstop] at hr
    have hstop' : World.alone r' w' = (.stop outcome, (World.alone r' w').2) :=
      Prod.ext hr.1.symm rfl
    exact ⟨_, .stop hstop', hr.2⟩
  | @goOn r s w w₂ w₁ outcome hgo _ ih =>
    have hsound := (World.alone_keeps r hp).2
    rw [hgo] at hr hsound
    obtain ⟨hsame, halike⟩ := hr
    have halike' : World.Alike { w₂ with tried := s.tried }
        { (World.alone r' w').2 with tried := s.tried } :=
      ⟨halike.page, halike.planned, halike.planned'⟩
    obtain ⟨w₁', hends, hlast⟩ := ih hsound (step_matches x s halike' hsound)
    have hgo' : World.alone r' w' = (.goOn s, (World.alone r' w').2) := Prod.ext hsame.symm rfl
    exact ⟨w₁', .goOn hgo' hends, hlast⟩

/-- **Outlining matchers makes no other difference.** A search that outlines them and one that does
not end with the same report, and leave pages to which the same was done, in the same order, but for
the outlines: what was clicked, hidden or shown, the progress message, all that is checked. -/
theorem painting_unseen (x : Search) (hw : w.faults.planned = []) (hp : w.page.Reached) :
    ∃ outcome painted plain, (x.painting true).Ends start w outcome painted ∧
      (x.painting false).Ends start w outcome plain ∧
      painted.page.effects = plain.page.effects ∧
      (∀ place, painted.page.isCheckedAt place = plain.page.isCheckedAt place) ∧
      painted.page.Alike plain.page := by
  obtain ⟨outcome, painted, hpainted⟩ := (x.painting true).exists_ends w
  have halike : w.Alike w := ⟨.refl _, hw, hw⟩
  obtain ⟨plain, hplain, hends⟩ := hpainted.unpainted hp.sound (halike.alone start)
  exact ⟨outcome, painted, plain, hpainted, hplain, hends.page.effects_eq,
    hends.page.isCheckedAt_eq,
    hends.page⟩

/-! ### A page that refuses an outline -/

/-- An element of a page, by its name, attributes and children. -/
def element (name : String) (attributes : List (String × String)) (children : List Tree) : Tree :=
  .node (.element { name, attributes }) children

/-- A dialog with two checkboxes, the first of them checked, and a button. -/
def dialog : Page :=
  .ofTree (.node .document [element "div" [("id", "banner")]
    [element "input" [("id", "stats"), ("type", "checkbox"), ("checked", "")] [],
     element "input" [("id", "ads"), ("type", "checkbox")] [],
     element "button" [("id", "save")] []]]) false

/-- A consent to a purpose, whose checkbox is the element with that id. -/
def checkbox (category : Category) (id : String) : Consent :=
  .mk category none (.toggle (.checkbox (.new id)) (.click { target := .new id }))

/-- A search for that dialog, in which the second purpose is allowed and the first is not. -/
def saving : Search where
  vendors := [{
    name := "banner"
    detectors := [⟨.css (.new "#banner"), .css (.new "#banner")⟩]
    methods := fun m =>
      if m = .doConsent then some (.consent [checkbox .b "#stats", checkbox .a "#ads"])
      else if m = .saveConsent then some (.click { target := .new "#save" })
      else none }]
  setting := { policy := Policy.empty.set .a true }

/-- Both boxes are clicked and the button after them, whether they are outlined or not. -/
theorem saving_unseen :
    ∃ outcome painted plain, (saving.painting true).Ends start { page := dialog } outcome painted ∧
      (saving.painting false).Ends start { page := dialog } outcome plain ∧
      painted.page.effects = plain.page.effects ∧
      plain.page.effects = [.progress progressMessage, .click ⟨1⟩ false, .click ⟨2⟩ false,
        .click ⟨3⟩ false, .progressHidden] := by
  have hreached : dialog.Reached := by
    unfold dialog
    exact .ofTree _ _
  obtain ⟨outcome, painted, plain, hpainted, hplain, heffects, -, -⟩ :=
    painting_unseen saving (w := { page := dialog }) rfl hreached
  refine ⟨outcome, painted, plain, hpainted, hplain, heffects, ?_⟩
  have hfound : ((saving.painting false).endOf? 8 start { page := dialog }).map
      (fun p => p.2.page.effects) = some [.progress progressMessage, .click ⟨1⟩ false,
        .click ⟨2⟩ false, .click ⟨3⟩ false, .progressHidden] := by
    decide +kernel
  obtain ⟨⟨outcome', plain'⟩, hend, heq⟩ := Option.map_eq_some_iff.1 hfound
  obtain ⟨-, rfl⟩ := hplain.unique (ends_of_endOf? hend)
  exact heq

/-- **But the first outline that the page refuses ends the handling**: the second box is not clicked
any more, and nothing is saved. -/
theorem refused_outline_seen :
    ∃ outcome outcome' painted plain,
      (saving.painting true).Ends start
        { page := dialog, faults := ⟨[⟨.paint, 1, .script "gone"⟩], []⟩ }
        outcome painted ∧
      (saving.painting false).Ends start
        { page := dialog, faults := ⟨[⟨.paint, 1, .script "gone"⟩], []⟩ } outcome' plain ∧
      painted.page.effects = [.progress progressMessage, .click ⟨1⟩ false, .progressHidden] ∧
      plain.page.effects = [.progress progressMessage, .click ⟨1⟩ false, .click ⟨2⟩ false,
        .click ⟨3⟩ false, .progressHidden] := by
  have hpainted : ((saving.painting true).endOf? 8 start
      { page := dialog, faults := ⟨[⟨.paint, 1, .script "gone"⟩], []⟩ }).map
      (fun p => p.2.page.effects) =
        some [.progress progressMessage, .click ⟨1⟩ false, .progressHidden] := by
    decide +kernel
  have hplain : ((saving.painting false).endOf? 8 start
      { page := dialog, faults := ⟨[⟨.paint, 1, .script "gone"⟩], []⟩ }).map
      (fun p => p.2.page.effects) = some [.progress progressMessage, .click ⟨1⟩ false,
        .click ⟨2⟩ false, .click ⟨3⟩ false, .progressHidden] := by
    decide +kernel
  obtain ⟨⟨outcome, painted⟩, hend, heq⟩ := Option.map_eq_some_iff.1 hpainted
  obtain ⟨⟨outcome', plain⟩, hend', heq'⟩ := Option.map_eq_some_iff.1 hplain
  exact ⟨outcome, outcome', painted, plain, ends_of_endOf? hend, ends_of_endOf? hend', heq, heq'⟩

end Search
end ConsentWalker
