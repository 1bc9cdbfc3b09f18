import ConsentWalker.Proofs.Walk.Stepping
/-!
# Walk — an account of what steps look for

`traced` are the steps with an account of the lookups they make, as a list: in the rounds of which
loops a lookup was made, which is read off the steps alone, and where it was resolved, which is read
off the stack of bases that the walker carries. Without the account they are the same steps
(`traced_erases`), so that every course of theirs has an account (`Traced.Erases.course`).

What steps do between their lookups takes no time but for rests, and looks for nothing
(`Steps.Swift`).
-/

namespace ConsentWalker

open Steps

/-- **A lookup that was made.** A wait for an element, whose checks all start from one base, counts
as one. -/
structure Sought where
  /-- The elements of the rounds it was made in, innermost first. -/
  rounds : List Handle
  /-- What is done to resolve it below a base. -/
  question : Option Handle → Routine Unit
  /-- Where it was resolved. -/
  base : Option Handle
  /-- How many elements there were, where every one was looked for. -/
  results : Option Nat := none

/-- Steps with an account of the lookups they made, whether they fail or not. -/
def Traced (α : Type) : Type := Walker → Routine ((Except PageError α × Walker) × List Sought)

namespace Traced

variable {α β : Type}

/-- Both make lookups, unless the first ones fail. -/
def bind (x : Traced α) (f : α → Traced β) : Traced β := fun w =>
  (x w).bind fun
    | ((.error e, w), made) => .done ((.error e, w), made)
    | ((.ok a, w), made) => (f a w).bind fun p => .done (p.1, made ++ p.2)

instance : Monad Traced where
  pure a := fun w => .done ((.ok a, w), [])
  bind := bind

/-- Steps that look for nothing. -/
def plain (x : Steps α) : Traced α := fun w => (x.run w).bind fun p => .done (p, [])

/-- Resolves something below the base, and enters it into the account. -/
def seekCounting (results : Except PageError α → Option Nat) (rounds : List Handle)
    (q : Option Handle → Lookup α) : Traced α := fun w =>
  (q w.scope.head?).run.bind fun r => .done ((r, w),
    [⟨rounds, fun base => (q base).run.bind fun _ => .done (), w.scope.head?, results r⟩])

/-- Looks for one element. -/
def seek (rounds : List Handle) (q : Option Handle → Lookup α) : Traced α :=
  seekCounting (fun _ => none) rounds q

/-- Looks for every element. -/
def seekAll (rounds : List Handle) (query : Query) : Traced (List Finding) :=
  seekCounting (fun r => some (r.toOption.elim 0 List.length)) rounds query.findAll

/-- Does steps with an element as the base. -/
def within (h : Handle) (x : Traced α) : Traced α := fun w =>
  (x { w with scope := h :: w.scope }).bind fun p =>
    .done ((p.1.1, { p.1.2 with scope := p.1.2.scope.drop (p.1.2.scope.length - w.scope.length) }),
      p.2)

/-- Does the steps of a round with each of some elements as the base. -/
def inRounds (x : Handle → Traced Unit) : List Handle → Traced Unit
  | [] => return ()
  | h :: rest => do
    within h (x h)
    inRounds x rest

end Traced

open Traced

/-- A click, with an account of its lookup. -/
def tracedClick (s : Setting) (rounds : List Handle) (c : Click) : Traced Unit := do
  let found ← seek rounds c.target.target?
  plain (press s c found)
  if c.pause s ≠ 0 then plain (rest (c.pause s))

/-- A hide, with an account of its lookup. -/
def tracedHide (rounds : List Handle) (target : Query) : Traced Unit := do
  match ← seek rounds target.target? with
  | none => return ()
  | some h =>
    plain (modify fun w => { w with concealed := w.concealed ++ [h] })
    plain (act (.setHidden h true))

/-- A slide, with an account of its lookups. -/
def tracedSlide (s : Setting) (rounds : List Handle) (slide : Slide) : Traced Unit := do
  match ← seek rounds slide.target.target? with
  | none => return ()
  | some h =>
    match ← seek rounds slide.dragTarget.target? with
    | none => return ()
    | some goal =>
      let origin ← plain (act (.rect h))
      let aim ← plain (act (.rect goal))
      let (dx, dy) := Slide.distance slide.axis origin aim
      let start := origin.center
      let stop := start.offset dx dy
      plain (act (.pointer h .down start))
      plain (rest s.pace.slideStep)
      plain (act (.pointer h .move stop))
      plain (rest s.pace.slideStep)
      plain (act (.pointer h .up stop))

/-- An outline, with an account of its lookup. -/
def tracedOutline (s : Setting) (rounds : List Handle) (m : Matcher) (wanted : Bool) :
    Traced Unit :=
  if s.flags.paintMatchers then seek rounds fun base => m.outline base wanted else return ()

/-- Steps with an account of their lookups, in the rounds of some loops. -/
def accounting (s : Setting) : Interpretation (List Handle → Traced Unit) where
  nothing _ := return ()
  andThen x y rounds := do
    x rounds
    y rounds
  announced tag x rounds := do
    plain (do tell (.executing tag (← get).scope.length))
    x rounds
  click c rounds := tracedClick s rounds c
  ifCss target x y rounds := do
    if ← seek rounds (Matcher.css target).holds then x rounds else y rounds
  waitCss w rounds := do
    let _ ← seek rounds fun base => liftM (waitFor w base)
  forEach target x rounds := do
    let findings ← seekAll rounds target
    inRounds (fun h => x (h :: rounds)) (findings.filterMap Finding.target)
  hide target rounds := tracedHide rounds target
  slide slide rounds := tracedSlide s rounds slide
  close _ := plain (act .close)
  wait time _ := plain (rest time)
  toggle category matcher x rounds := do
    let wanted := s.policy.allows category
    let current ← seek rounds matcher.holds
    plain (tell (.settingConsent category (some current) wanted))
    (if current != wanted then x rounds else pure ())
    tracedOutline s rounds matcher wanted
  branch category x y rounds := do
    let wanted := s.policy.allows category
    plain (tell (.settingConsent category none wanted))
    if wanted then x rounds else y rounds

/-- **A step, with an account of its lookups**, in the rounds of some loops. -/
def traced (s : Setting) (rounds : List Handle) (a : Action) : Traced Unit :=
  (accounting s).action a rounds

/-! ## Without the account -/

namespace Traced

variable {α β : Type}

/-- **Steps with an account that are these steps** once the account is left out. -/
def Erases (x : Traced α) (y : Steps α) : Prop := ∀ w, (x w).bind (fun p => .done p.1) = y.run w

theorem erases_pure (a : α) : Erases (pure a) (pure a) := fun _ => rfl

theorem erases_plain (x : Steps α) : Erases (plain x) x := by
  intro w
  unfold plain
  rw [Routine.bind_assoc]
  exact Routine.bind_done _

/-- Without the account, steps one after another are still the steps, also where the first fail. -/
theorem Erases.bind {x : Traced α} {y : Steps α} {f : α → Traced β} {g : α → Steps β}
    (hx : Erases x y) (hf : ∀ a, Erases (f a) (g a)) : Erases (x >>= f) (y >>= g) := by
  intro w
  rw [Steps.run_bind, ← hx w, Routine.bind_assoc]
  change ((x w).bind _).bind _ = _
  rw [Routine.bind_assoc]
  congr 1
  funext p
  obtain ⟨⟨_ | a, w₁⟩, made⟩ := p
  · rfl
  · dsimp only [Routine.bind]
    rw [← hf a w₁, Routine.bind_assoc]
    rfl

/-- Without the account, a lookup that is entered into it is the lookup. -/
theorem erases_seekCounting (results : Except PageError α → Option Nat) (rounds : List Handle)
    (q : Option Handle → Lookup α) : Erases (seekCounting results rounds q) (looking q) := by
  intro w
  unfold seekCounting
  rw [Routine.bind_assoc]
  rfl

theorem erases_seek (rounds : List Handle) (q : Option Handle → Lookup α) :
    Erases (seek rounds q) (looking q) :=
  erases_seekCounting _ rounds q

/-- Going inside an element enters nothing into the account. -/
theorem Erases.within {x : Traced α} {y : Steps α} (hx : Erases x y) (h : Handle) :
    Erases (within h x) (Steps.within h y) := by
  intro w
  change _ = (y.run { w with scope := h :: w.scope }).bind _
  unfold Traced.within
  rw [← hx, Routine.bind_assoc, Routine.bind_assoc]
  rfl

/-- Without the account, the rounds of a loop are its rounds, whatever element each is told. -/
theorem Erases.inRounds {x : Handle → Traced Unit} {y : Steps Unit} (hx : ∀ h, Erases (x h) y)
    (hs : List Handle) : Erases (inRounds x hs) (withinEach y hs) := by
  induction hs with
  | nil => exact erases_pure ()
  | cons h rest ih => exact ((hx h).within h).bind fun _ => ih

end Traced

/-- Without the account, a click is a click. -/
theorem tracedClick_erases (s : Setting) (rounds : List Handle) (c : Click) :
    Erases (tracedClick s rounds c) (clickStep s c) := by
  refine (erases_seek rounds _).bind fun found => (erases_plain _).bind fun _ => ?_
  split
  · exact erases_plain _
  · exact erases_pure _

theorem tracedHide_erases (rounds : List Handle) (target : Query) :
    Erases (tracedHide rounds target) (hideStep target) := by
  refine (erases_seek rounds _).bind fun found => ?_
  cases found with
  | none => exact erases_pure _
  | some h => exact (erases_plain _).bind fun _ => erases_plain _

/-- Without the account, a slide is a slide, with its two lookups. -/
theorem tracedSlide_erases (s : Setting) (rounds : List Handle) (slide : Slide) :
    Erases (tracedSlide s rounds slide) (slideStep s slide) := by
  refine (erases_seek rounds _).bind fun found => ?_
  cases found with
  | none => exact erases_pure _
  | some h =>
    refine (erases_seek rounds _).bind fun goal => ?_
    cases goal with
    | none => exact erases_pure _
    | some g =>
      refine (erases_plain _).bind fun origin => (erases_plain _).bind fun aim => ?_
      refine (erases_plain _).bind fun _ => (erases_plain _).bind fun _ => ?_
      exact (erases_plain _).bind fun _ => (erases_plain _).bind fun _ => erases_plain _

theorem tracedOutline_erases (s : Setting) (rounds : List Handle) (m : Matcher) (wanted : Bool) :
    Erases (tracedOutline s rounds m wanted) (outlineIf s m wanted) := by
  unfold tracedOutline outlineIf
  split
  · exact erases_seek rounds _
  · exact erases_pure _

/-- A wait for an element reads its base once. -/
theorem tracedWait_erases (rounds : List Handle) (wait : WaitCss) :
    Erases (do let _ ← seek rounds fun base => liftM (waitFor wait base))
      (do discard (liftM (waitFor wait (← base)) : Steps WaitOutcome)) := by
  intro w
  rw [(erases_seek rounds _).bind (fun _ => erases_pure ()) w]
  have hdone : (do discard (liftM (waitFor wait (← base)) : Steps WaitOutcome) : Steps Unit).run w =
      (waitFor wait w.scope.head?).bind fun _ => .done (.ok (), w) := by
    change ((liftM (waitFor wait w.scope.head?) : Steps WaitOutcome) >>= fun _ => pure ()).run w = _
    rw [Steps.run_bind, Steps.run_lift, Routine.bind_assoc]
    rfl
  rw [hdone, Steps.run_bind]
  change ((((waitFor wait w.scope.head?).bind _).bind _)).bind _ = _
  rw [Routine.bind_assoc, Routine.bind_assoc]
  rfl

/-- Every kind of step with an account is that kind of step, if the steps in it are. -/
theorem execution_accounting (s : Setting) : execution.Respects (accounting s)
    fun x y => ∀ rounds, Erases (y rounds) (x s) where
  nothing _ := erases_pure _
  andThen hx hy rounds := (hx rounds).bind fun _ => hy rounds
  announced _ _ _ hx rounds := (erases_plain _).bind fun _ => hx rounds
  click c rounds := tracedClick_erases s rounds c
  ifCss target _ _ _ _ hx hy rounds := by
    refine (erases_seek rounds _).bind fun present => ?_
    split
    · exact hx rounds
    · exact hy rounds
  waitCss w rounds := tracedWait_erases rounds w
  forEach target _ _ hx rounds :=
    (erases_seekCounting _ rounds _).bind fun _ => Erases.inRounds (fun h => hx (h :: rounds)) _
  hide target rounds := tracedHide_erases rounds target
  slide slide rounds := tracedSlide_erases s rounds slide
  close _ := erases_plain _
  wait _ _ := erases_plain _
  toggle category matcher a ha rounds := by
    refine (erases_seek rounds _).bind fun current => (erases_plain _).bind fun _ => ?_
    refine Erases.bind ?_ fun _ => tracedOutline_erases s rounds matcher _
    split
    · exact ha rounds
    · exact erases_pure _
  branch category _ _ _ _ hx hy rounds := by
    refine (erases_plain _).bind fun _ => ?_
    split
    · exact hx rounds
    · exact hy rounds

/-- **A step with an account is the step**, however steps are nested in one another. -/
theorem traced_erases (s : Setting) (rounds : List Handle) (a : Action) :
    Erases (traced s rounds a) (execute s a) := by
  rw [execute_eq]
  exact (execution_accounting s).action a rounds

/-! ## Courses with an account -/

namespace Traced

variable {α β : Type} {w w' w₁ : Walker} {t t' t₁ : Nat} {h h₁ h₂ : History}
  {r : Except PageError α}
variable {made : List Sought}

/-- **A course of steps, and the lookups made on it.** -/
def Course (x : Traced α) (w : Walker) (t : Nat) (h : History) (t' : Nat) (r : Except PageError α)
    (w' : Walker) (made : List Sought) : Prop :=
  (x w).Course t h t' ((r, w'), made)

/-- Every course of the steps is one with an account. -/
theorem Erases.course {x : Traced α} {y : Steps α} (hx : Erases x y) :
    y.Course w t h t' r w' ↔ ∃ made, x.Course w t h t' r w' made := by
  unfold Steps.Course Course
  rw [← hx w, Routine.course_bind]
  constructor
  · rintro ⟨⟨p, made⟩, t₁, h₁, h₂, hc, hd, rfl⟩
    obtain ⟨rfl, rfl, rfl⟩ := Routine.course_done.1 hd
    rw [List.append_nil]
    exact ⟨made, hc⟩
  · rintro ⟨made, hc⟩
    exact ⟨_, t', h, [], hc, .refl _ _, (List.append_nil h).symm⟩

/-- What does nothing makes no lookup. -/
theorem course_pure {a : α} :
    (pure a : Traced α).Course w t h t' r w' made ↔ h = [] ∧ t' = t ∧ r = .ok a ∧ w' = w ∧
      made = [] := by
  change (Routine.done ((Except.ok a, w), [])).Course t h t' ((r, w'), made) ↔ _
  rw [Routine.course_done, Prod.mk.injEq, Prod.mk.injEq, and_assoc]

/-- The first steps fail and nothing else is done, or they do not and the lookups of the others
follow. -/
theorem course_bind {x : Traced α} {f : α → Traced β} {r : Except PageError β} :
    (x >>= f).Course w t h t' r w' made ↔
      (∃ e, x.Course w t h t' (.error e) w' made ∧ r = .error e) ∨
        ∃ a w₁ t₁ h₁ h₂ made₁ made₂, x.Course w t h₁ t₁ (.ok a) w₁ made₁ ∧
          (f a).Course w₁ t₁ h₂ t' r w' made₂ ∧ h = h₁ ++ h₂ ∧ made = made₁ ++ made₂ := by
  change ((x w).bind _).Course t h t' ((r, w'), made) ↔ _
  rw [Routine.course_bind]
  constructor
  · rintro ⟨⟨⟨_ | a, w₁⟩, made₁⟩, t₁, h₁, h₂, hx, hf, rfl⟩
    · obtain ⟨rfl, rfl, hr⟩ := Routine.course_done.1 hf
      cases hr
      rw [List.append_nil]
      exact .inl ⟨_, hx, rfl⟩
    · obtain ⟨⟨p, made₂⟩, t₂, h₃, h₄, hfa, hd, rfl⟩ := Routine.course_bind.1 hf
      obtain ⟨rfl, rfl, hr⟩ := Routine.course_done.1 hd
      cases hr
      rw [List.append_nil]
      exact .inr ⟨a, w₁, t₁, h₁, h₃, made₁, made₂, hx, hfa, rfl, rfl⟩
  · rintro (⟨e, hx, rfl⟩ | ⟨a, w₁, t₁, h₁, h₂, made₁, made₂, hx, hf, rfl, rfl⟩)
    · exact ⟨((.error e, w'), made), t', h, [], hx, .refl _ _, (List.append_nil h).symm⟩
    · refine ⟨((.ok a, w₁), made₁), t₁, h₁, h₂, hx, ?_, rfl⟩
      exact Routine.course_bind.2 ⟨_, t', h₂, [], hf, .refl _ _, (List.append_nil h₂).symm⟩

theorem course_plain {x : Steps α} :
    (plain x).Course w t h t' r w' made ↔ x.Course w t h t' r w' ∧ made = [] := by
  change ((x.run w).bind _).Course t h t' ((r, w'), made) ↔ _
  rw [Routine.course_bind]
  constructor
  · rintro ⟨p, t₁, h₁, h₂, hx, hd, rfl⟩
    obtain ⟨rfl, rfl, hr⟩ := Routine.course_done.1 hd
    cases hr
    rw [List.append_nil]
    exact ⟨hx, rfl⟩
  · rintro ⟨hx, rfl⟩
    exact ⟨_, t', h, [], hx, .refl _ _, (List.append_nil h).symm⟩

/-- A lookup that is entered into the account is entered with the base that the walker carries. -/
theorem course_seekCounting {results : Except PageError α → Option Nat} {rounds : List Handle}
    {q : Option Handle → Lookup α} :
    (seekCounting results rounds q).Course w t h t' r w' made ↔
      (q w.scope.head?).run.Course t h t' r ∧ w' = w ∧
        made = [⟨rounds, fun base => (q base).run.bind fun _ => .done (), w.scope.head?,
          results r⟩] := by
  change ((q w.scope.head?).run.bind _).Course t h t' ((r, w'), made) ↔ _
  rw [Routine.course_bind]
  constructor
  · rintro ⟨r₁, t₁, h₁, h₂, hq, hd, rfl⟩
    obtain ⟨rfl, rfl, hr⟩ := Routine.course_done.1 hd
    cases hr
    rw [List.append_nil]
    exact ⟨hq, rfl, rfl⟩
  · rintro ⟨hq, rfl, rfl⟩
    exact ⟨r, t', h, [], hq, .refl _ _, (List.append_nil h).symm⟩

/-- The lookups made inside an element are entered as they were made there. -/
theorem course_within {e : Handle} {x : Traced α} :
    (within e x).Course w t h t' r w' made ↔
      ∃ w₁, x.Course { w with scope := e :: w.scope } t h t' r w₁ made ∧
        w' = { w₁ with scope := w₁.scope.drop (w₁.scope.length - w.scope.length) } := by
  change ((x { w with scope := e :: w.scope }).bind _).Course t h t' ((r, w'), made) ↔ _
  rw [Routine.course_bind]
  constructor
  · rintro ⟨⟨⟨r₁, w₁⟩, made₁⟩, t₁, h₁, h₂, hx, hd, rfl⟩
    obtain ⟨rfl, rfl, hr⟩ := Routine.course_done.1 hd
    cases hr
    rw [List.append_nil]
    exact ⟨w₁, hx, rfl⟩
  · rintro ⟨w₁, hx, rfl⟩
    exact ⟨((r, w₁), made), t', h, [], hx, .refl _ _, (List.append_nil h).symm⟩

end Traced

/-! ## Steps that look for nothing -/

/-- An act by which elements are looked for. -/
def Act.Seeks : Act → Prop
  | .call c _ => c.kind = .query
  | _ => False

/-- An act that takes no time and by which nothing is looked for. -/
def Act.IsSwift : Act → Prop
  | .call c _ => c.kind ≠ .query
  | .note _ => True
  | _ => False

/-- Nothing is looked for by swift acts. -/
theorem Act.IsSwift.not_seeks {a : Act} (ha : a.IsSwift) : ¬ a.Seeks := by
  cases a with
  | call => exact ha
  | _ => exact id

namespace Steps

/-- Steps that **take no time and look for nothing**, and leave the bases as they were. -/
def Swift (w : Walker) (h : History) (w' : Walker) : Prop :=
  w'.scope = w.scope ∧ ∀ m ∈ h, m.act.IsSwift

theorem swift_accrues : Accrues Swift where
  refl _ := ⟨rfl, fun _ hm => absurd hm List.not_mem_nil⟩
  trans h₁ h₂ := ⟨h₂.1.trans h₁.1, List.forall_mem_append.2 ⟨h₁.2, h₂.2⟩⟩

/-- A call other than a query is swift. -/
theorem swift_act {c : Call} (hc : (c.kind == .query) = false) : Ensures Swift (act c) :=
  ensures_ofLookup (P := Act.IsSwift) (fun _ _ hh => ⟨rfl, hh⟩) fun _ =>
    ⟨ne_of_beq_false hc, trivial⟩

theorem swift_tell (n : Notice) : Ensures Swift (tell n : Steps Unit) :=
  ensures_lift (P := Act.IsSwift) (fun _ _ hh => ⟨rfl, hh⟩) (x := Routine.tell n) ⟨trivial, trivial⟩

/-- Reading the walker is swift. -/
theorem swift_get : Ensures Swift (get : Steps Walker) := by
  intro w t h t' r w' hc
  obtain ⟨rfl, -, hr⟩ := Routine.course_done.1 hc
  cases hr
  exact swift_accrues.refl w

/-- Telling which step is done. -/
theorem swift_announce (n : Walker → Notice) : Ensures Swift (do tell (n (← get)) : Steps Unit) :=
  swift_get.bind swift_accrues fun _ => swift_tell _

/-- Noting an element as hidden. -/
theorem swift_conceal (e : Handle) :
    Ensures Swift (modify fun w => { w with concealed := w.concealed ++ [e] } : Steps Unit) := by
  intro w t h t' r w' hc
  obtain ⟨rfl, -, hr⟩ := Routine.course_done.1 hc
  cases hr
  exact ⟨rfl, fun _ hm => absurd hm List.not_mem_nil⟩

theorem swift_approach (s : Setting) (e : Handle) : Ensures Swift (approach s e) := by
  unfold approach
  split
  · exact (swift_act rfl).bind swift_accrues fun _ => swift_act rfl
  · exact ensures_pure swift_accrues _

theorem swift_announceClick (s : Setting) (c : Click) (e : Handle) :
    Ensures Swift (announceClick s c e) := by
  unfold announceClick
  split
  · exact swift_tell _
  · exact ensures_pure swift_accrues _

/-- A click looks for nothing any more once its element is found. -/
theorem swift_press (s : Setting) (c : Click) (found : Option Handle) :
    Ensures Swift (press s c found) := by
  cases found with
  | none => exact swift_tell _
  | some e =>
    exact (swift_approach s e).bind swift_accrues fun _ =>
      (swift_announceClick s c e).bind swift_accrues fun _ => swift_act rfl

end Steps

end ConsentWalker
