import ConsentWalker.Proofs.Page.Activation
import ConsentWalker.Proofs.Walk.Entering
import ConsentWalker.Proofs.Walk.Likeness
/-!
# Walk — what steps leave alone

Whatever a walk does to a page, its tree stays, so whoever looks for elements before and after finds
the same (`execute_unmoved`). The one exception is a base whose handle is given out in between: what
was no element to look in before is one after (`early_base_moves`).

Checked states do change. But the record of a page tells of it: a state changed only if a click was
recorded that reached the element, or a radio button of its group (`Page.Discloses`).
-/

namespace ConsentWalker

/-! ## What a record tells -/

namespace Page

variable {p p' p₁ : Page} {r : Place}

/-- An event that may have switched an element: a click that reached it, or a radio button of its
group. -/
def Activates (p : Page) (e : PageEvent) (r : Place) : Prop :=
  ∃ h openInTab q c, e = .click h openInTab ∧ p.place? h = some q ∧ p.Reaches q c ∧
    (c.IsControl ∧ r = c ∨ c.SameGroup r)

/-- What switched an element did so on any later page. -/
theorem Activates.keeps {e : PageEvent} (h : p.Activates e r) (hk : p.Keeps p') :
    p'.Activates e r := by
  obtain ⟨h, openInTab, q, c, rfl, hq, hc, hr⟩ := h
  exact ⟨h, openInTab, q, c, rfl, hk.place? hq, hk.reaches_iff.2 hc, hr⟩

/-- **A page whose record discloses what was switched since**, and whose tree was left alone. -/
structure Discloses (p p' : Page) : Prop where
  keeps : p.Keeps p'
  sound : p'.Sound
  events : ∃ new, p'.events = p.events ++ new ∧ ∀ r ∈ p.places,
    p'.isCheckedAt r ≠ p.isCheckedAt r → ∃ e ∈ new, p'.Activates e r

namespace Discloses

/-- Where nothing was switched, whatever was recorded. -/
theorem of_switched_eq (hk : p.Keeps p') (hp' : p'.Sound)
    (hevents : ∃ new, p'.events = p.events ++ new)
    (hswitched : p'.switched = p.switched) : p.Discloses p' := by
  obtain ⟨new, hnew⟩ := hevents
  refine ⟨hk, hp', new, hnew, fun r _ hne => absurd ?_ hne⟩
  unfold isCheckedAt
  rw [hswitched]

/-- Where nothing was recorded and nothing switched. -/
theorem of_sameTree (hs : p.SameTree p') (hp : p.Sound) (hevents : p'.events = p.events)
    (hswitched : p'.switched = p.switched) : p.Discloses p' :=
  .of_switched_eq hs.keeps (hs.sound hp) ⟨[], by rw [hevents, List.append_nil]⟩ hswitched

theorem refl (hp : p.Sound) : p.Discloses p := .of_sameTree (.refl p) hp rfl rfl

theorem of_grows (hg : p.Grows p') (hp' : p'.Sound) : p.Discloses p' := by
  have hk : p.Keeps p' := .of_grows hg
  obtain ⟨more, rfl⟩ := hg
  exact .of_switched_eq hk hp' ⟨[], (List.append_nil _).symm⟩ rfl

theorem trans (h : p.Discloses p₁) (h' : p₁.Discloses p') : p.Discloses p' := by
  obtain ⟨new, hnew, htells⟩ := h.events
  obtain ⟨new', hnew', htells'⟩ := h'.events
  refine ⟨h.keeps.trans h'.keeps, h'.sound, new ++ new', by rw [hnew', hnew, List.append_assoc],
    fun r hr hne => ?_⟩
  -- what changed changed before the page between or after it
  by_cases hsame : p₁.isCheckedAt r = p.isCheckedAt r
  · rw [← hsame] at hne
    obtain ⟨e, he, hactivates⟩ := htells' r (by rwa [h.keeps.places_eq]) hne
    exact ⟨e, List.mem_append_right _ he, hactivates⟩
  · obtain ⟨e, he, hactivates⟩ := htells r hr hsame
    exact ⟨e, List.mem_append_left _ he, hactivates.keeps h'.keeps⟩

end Discloses

/-- **A click is recorded** when something is switched. -/
theorem clickedAt_discloses (hp : p.Sound) {h : Handle} {q : Place} (hq : p.place? h = some q)
    (openInTab : Bool) : p.Discloses (clickedAt h openInTab q p) := by
  have hsame := clickedAt_sameTree h openInTab q p
  have hevents : (clickedAt h openInTab q p).events = p.events ++ [.click h openInTab] := by
    obtain ⟨switched, hclicked⟩ := clickedAt_eq h openInTab q p
    rw [hclicked]
  refine ⟨hsame.keeps, hsame.sound hp, _, hevents, fun r hr hne => ?_⟩
  by_cases hreach : ∃ c, p.Reaches q c
  · obtain ⟨c, hc⟩ := hreach
    obtain ⟨hmem, hswitches⟩ := hp.clickedAt_switches hq hc openInTab
    refine ⟨_, List.mem_singleton_self _, h, openInTab, q, c, rfl, hsame.keeps.place? hq,
      hsame.keeps.reaches_iff.2 hc, ?_⟩
    by_cases hcontrol : c.IsControl
    · by_cases hrc : r = c
      · exact .inl ⟨hcontrol, hrc⟩
      · exact .inr (not_not.1 fun hgroup => hne (hswitches.others r hr hrc hgroup))
    · exact absurd (hswitches.idle hcontrol r hr) hne
  · exact absurd (isCheckedAt_clickedAt_of_none (not_exists.1 hreach) h openInTab r) hne

/-- **Whatever a call does is disclosed.** -/
theorem perform_discloses (hp : p.Sound) (c : Call) : p.Discloses (p.perform c).2 := by
  rcases perform_cases c p with hread | rfl | ⟨e, -, hfails⟩ | ⟨p', a, hmade, hmakes⟩
  · exact .of_grows (perform_grows hread p) (hp.perform c)
  · exact .of_sameTree ⟨rfl, rfl, rfl, rfl⟩ hp rfl rfl
  · rw [hfails]
    exact .refl hp
  · rw [hmakes]
    have hsame := effect_sameTree c hmade
    have records : (∃ new, p'.events = p.events ++ new) → p'.switched = p.switched →
        p.Discloses p' :=
      .of_switched_eq hsame.keeps (hsame.sound hp)
    cases c with
    | scroll | focus | pointer | setHidden | paint =>
      rw [effect] at hmade
      obtain ⟨q, -, rfl⟩ := altered_eq_ok hmade
      exact records ⟨_, rfl⟩ rfl
    | click h openInTab =>
      rw [effect] at hmade
      obtain ⟨q, hq, rfl⟩ := altered_eq_ok hmade
      exact clickedAt_discloses hp (located_eq_ok.1 hq).2 openInTab
    | showProgress | hideProgress =>
      rw [effect] at hmade
      obtain ⟨-, rfl⟩ := alteredOpen_eq_ok hmade
      exact records ⟨_, rfl⟩ rfl
    | close =>
      cases hmade
      refine records ?_ ?_
      · unfold shut
        split
        · exact ⟨[], (List.append_nil _).symm⟩
        · exact ⟨_, rfl⟩
      · unfold shut
        split <;> rfl
    | query | text | style | rect | nested | isChecked | observe =>
      cases hmade
      exact .refl hp

end Page

namespace World

variable {α : Type} {w : World}

/-- **Whatever a walk does is disclosed**, as long as nobody else acts. -/
theorem alone_discloses (r : Routine α) (hp : w.page.Sound) :
    w.page.Discloses (alone r w).2.page := by
  refine alone_preserves (P := fun w₁ => w.page.Discloses w₁.page) ?_ (fun _ _ h => h) r (.refl hp)
  intro a w₁ w₂ h hm
  cases hm with
  | call c =>
    rcases w₁.perform_or c with ⟨e, faults, heq⟩ | ⟨faults, heq⟩
    · rw [heq]
      exact h
    · rw [heq]
      exact h.trans (Page.perform_discloses h.sound c)
  | @collect o _ _ hcollect =>
    rcases collect?_cases hcollect with rfl | rfl
    · exact h
    · exact h.trans (.of_sameTree (w₁.page.updateMailbox_sameTree o _) h.sound rfl rfl)
  | drop o => exact h.trans (.of_sameTree (w₁.page.updateMailbox_sameTree o _) h.sound rfl rfl)
  | note | rest | report => exact h

end World

/-! ## Looking again -/

/-- Whoever reads leaves a page sound. -/
theorem Routine.readOn_sound {α : Type} (r : Routine α) {p : Page} (hp : p.Sound) :
    (r.readOn p).2.Sound := by
  induction r generalizing p with
  | done a => exact hp
  | call c next ih => exact ih _ (hp.perform c)
  | note n next ih => exact ih hp
  | sleep d next ih => exact ih hp
  | pause next ih => exact ih hp
  | await o next ih => exact ih none hp
  | drop o next ih => exact ih hp
  | report v next ih => exact ih hp

namespace Query

variable {p : Page} {base : Option Handle}

/-- The selector that is asked for first: that of the outermost parent. -/
def opening : Query → String
  | ⟨selector, _, _, _, _, _, parent⟩ =>
    match parent with
    | none => selector
    | some q => q.opening

/-- A lookup that fails at its start fails whatever would have followed. -/
theorem readOn_bind_error {α β : Type} {q : Lookup α} {e : PageError}
    (hq : q.run.readOn p = (.error e, p))
    (f : α → Lookup β) : (q >>= f).run.readOn p = (.error e, p) := by
  rw [Lookup.readOn_bind, hq]
  rfl

/-- **Where every question about a base fails a query fails**, and nothing is given out. -/
theorem resolve_refused {fails : String → PageError}
    (hfails : ∀ selector, p.perform (.query base selector) = (.error (fails selector), p))
    (plural : Bool)
    (q : Query) : (q.resolve plural base).run.readOn p = (.error (fails q.opening), p) := by
  induction plural, q, base using resolve.induct
    (motive_2 := fun plural parent base =>
      (∀ selector, p.perform (.query base selector) = (.error (fails selector), p)) →
      ∀ parent' ps, parent = some parent' → parents plural parent base = some ps →
        ps.run.readOn p = (.error (fails parent'.opening), p))
    (motive_3 := fun _ => True) with
  | case1 plural selector tf sf df iff child parent base _ ihparent =>
    rw [resolve]
    cases parent with
    | none =>
      have hask : (ask (.query base selector)).run.readOn p = (.error (fails selector), p) :=
        hfails selector
      exact readOn_bind_error (readOn_bind_error hask _) _
    | some parent =>
      have hparents := ihparent hfails parent _ rfl rfl
      exact readOn_bind_error hparents _
  | case2 plural base hfails parent' ps hparent => cases hparent
  | case3 plural parent base ih hfails parent' ps hparent hps =>
    cases hparent
    cases hps
    exact readOn_bind_error (ih hfails) _
  | case4 => trivial
  | case5 => trivial

/-- How a question fails whose base is no element. -/
def refusal (closed : Bool) (h : Handle) (selector : String) : PageError :=
  if closed then .closed
  else
    match Css.Selector.parse selector with
    | .error flaw => .invalidSelector selector flaw.message
    | .ok _ => .stale h

/-- **A base that denotes nothing is refused**, whatever is asked about it. -/
theorem perform_refused {h : Handle} (hnone : p.place? h = none) (selector : String) :
    p.perform (.query (some h) selector) = (.error (refusal p.closed h selector), p) := by
  have hmatched : Page.matched (some h) selector p = .error (refusal p.closed h selector) := by
    unfold refusal
    cases hclosed : p.closed with
    | true => exact Page.matched_of_closed hclosed (some h) selector
    | false =>
      have hlocated : Page.located h p = .error (.stale h) := by
        unfold Page.located Page.opened
        rw [hclosed, hnone]
        rfl
      unfold Page.matched Page.opened
      rw [hclosed]
      cases Css.Selector.parse selector with
      | error flaw => rfl
      | ok selectors =>
        dsimp only
        rw [hlocated]
        rfl
  change (Page.select (some h) selector).run.run p = _
  rw [Page.select_run, hmatched]

/-- **A query finds the same again** on a page whose tree was left alone, unless its base came to be
an element in between; and it gives out no handle that there was not. -/
theorem findAll_again {p' : Page} (q : Query) (hk : ((q.findAll base).run.readOn p).2.Keeps p')
    (hclosed : p'.closed = p.closed)
    (hbase : ∀ h, base = some h → h.id < p.handles.length ∨ p'.handles.length ≤ h.id) :
    (q.findAll base).run.readOn p' = (((q.findAll base).run.readOn p).1, p') := by
  by_cases hknown : BaseKnown p.handles.length base
  · have hsteady := (q.resolve_steady true base _ hknown p (Nat.le_refl _)).1
    exact (Lookup.finds_hereditary.resolve true q base).again hsteady hk hclosed
  · -- a base that is no handle before nor after fails at once
    simp only [BaseKnown, not_forall] at hknown
    obtain ⟨h, rfl, hnew⟩ := hknown
    have hle := (hbase h rfl).resolve_left hnew
    have hunknown : ∀ p₁ : Page, p₁.handles.length ≤ h.id → p₁.place? h = none := by
      intro p₁ hle
      unfold Page.place?
      rw [List.getElem?_eq_none hle]
      rfl
    have hbefore := resolve_refused (perform_refused (hunknown p (Nat.le_of_not_lt hnew))) true q
    have hafter := resolve_refused (perform_refused (hunknown p' hle)) true q
    rw [hclosed] at hafter
    unfold findAll
    rw [hbefore, hafter]

end Query

open Query (findAll_again)

/-! ## What steps leave alone -/

variable {p : Page} {w w' : World} {k : Walker} {s : Setting} {a : Action} {q : Query}
  {base : Option Handle} {found : Except PageError (List Finding)}
  {outcome : Except PageError Unit × Walker}

/-- **Steps do not change what is seen of a page.** A query is resolved on a page that can come to
be, then a step is done, whatever fails on the way but without closing the page, and then the query
is resolved again below the same base, which is none or no element that came to be one in between.
It finds the same, or fails the same way, and gives out no handle. All nodes and rectangles are the
same, and so is what is answered about an element; a state that has changed was switched by a click
that was recorded since. -/
theorem execute_unmoved (hp : p.Reached) (hbefore : (q.findAll base).run.readOn p = (found, w.page))
    (hrun : World.alone ((execute s a).run.run k) w = (outcome, w'))
    (hclosed : w'.page.closed = w.page.closed)
    (hbase : ∀ h, base = some h → h.id < p.handles.length ∨ w'.page.handles.length ≤ h.id) :
    (q.findAll base).run.readOn w'.page = (found, w'.page) ∧
    (w'.page.root = w.page.root ∧ w'.page.sight = w.page.sight ∧
      ∀ c h, c.isFind = true → c.kind ≠ .query → c.about? = some h → h.id < w.page.handles.length →
        (w'.page.perform c).1 = (w.page.perform c).1) ∧
    ∃ new, w'.page.events = w.page.events ++ new ∧ ∀ r ∈ w.page.places,
      w'.page.isCheckedAt r ≠ w.page.isCheckedAt r → ∃ e ∈ new, w'.page.Activates e r := by
  have hagain : ((q.findAll base).run.readOn p).2.Keeps w'.page → w'.page.closed = p.closed →
      (q.findAll base).run.readOn w'.page = (((q.findAll base).run.readOn p).1, w'.page) :=
    fun hk hclosed => findAll_again q hk hclosed hbase
  have hlooks := Routine.Only.readOn_grows (q.findAll_looks base) p
  have hsound : w.page.Sound := by
    have hread := Routine.readOn_sound (q.findAll base).run hp.sound
    rwa [hbefore] at hread
  have hdiscloses := World.alone_discloses ((execute s a).run.run k) hsound
  rw [hrun] at hdiscloses
  rw [hbefore] at hagain hlooks
  refine ⟨hagain hdiscloses.keeps (hclosed.trans hlooks.closed_eq),
    ⟨hdiscloses.keeps.root, hdiscloses.keeps.sight_eq, fun c h hc hkind habout hknown => ?_⟩,
    hdiscloses.events⟩
  -- what is no query gives out no handle, so asking again is asking on the same page
  have hread : c.isRead = true := (Bool.and_eq_true_iff.1 hc).1
  have hsame : (w.page.perform c).2 = w.page := by
    rcases Page.perform_read hread w.page with ⟨scope, selector, rfl⟩ | hsame
    · exact absurd rfl hkind
    · exact hsame
  have hsteady : Page.SteadyAt (ask c).run.readOn w.page :=
    Page.perform_steady hread fun h' habout' => by
      rw [habout] at habout'
      cases habout'
      exact hknown
  have hkeeps : ((ask c).run.readOn w.page).2.Keeps w'.page := by
    change (w.page.perform c).2.Keeps w'.page
    rw [hsame]
    exact hdiscloses.keeps
  have hanswer : w'.page.perform c = ((w.page.perform c).1, w'.page) :=
    (Lookup.finds_hereditary.ask hc).again hsteady hkeeps hclosed
  rw [hanswer]

/-! ## A base that came to be an element -/

/-- The rows inside the first element that a page gives a handle. -/
def earlyRows : Lookup (List Finding) := Query.findAll (.new ".row") (some ⟨0⟩)

/-- The page of nested parts, after somebody looked for rows too early, and then clicked those in
the parts. -/
def clickedParts : World :=
  (World.alone ((execute {} Query.clickRows).run.run {})
    { page := (earlyRows.run.readOn Query.nestedPage).2 }).2

/-- **A query may find what it did not find before**, on a page that was clicked and not closed: its
base is an element now, since it was given its handle meanwhile. -/
theorem early_base_moves :
    (earlyRows.run.readOn Query.nestedPage).1 = .error (.stale ⟨0⟩) ∧
    clickedParts.page.closed = false ∧
    (earlyRows.run.readOn clickedParts.page).1 = .ok [⟨none, some ⟨2⟩⟩] := by
  decide +kernel

/-- Clicks a checkbox, hides its row and drags it to a part of the page. -/
def disturb : Action :=
  .list [.click { target := .new "input" }, .hide (.new ".row"),
    .slide { target := .new ".row", dragTarget := .new ".part", axis := none }]

/-- The page of nested parts after somebody looked for the rows in them, and after all that was done
to it. -/
def searchedParts : World :=
  { page := ((Query.rowsInParts.findAll none).run.readOn Query.nestedPage).2 }

def disturbedParts : World := (World.alone ((execute {} disturb).run.run {}) searchedParts).2

/-- The rows are found again, and that the checkbox was switched is on record. -/
theorem parts_unmoved :
    (Query.rowsInParts.findAll none).run.readOn disturbedParts.page =
      (((Query.rowsInParts.findAll none).run.readOn Query.nestedPage).1, disturbedParts.page) ∧
    (searchedParts.page.checkedAll "input").1 = [false] ∧
    (disturbedParts.page.checkedAll "input").1 = [true] ∧
    ∃ new, disturbedParts.page.events = searchedParts.page.events ++ new ∧
      ∀ r ∈ searchedParts.page.places,
        disturbedParts.page.isCheckedAt r ≠ searchedParts.page.isCheckedAt r →
          ∃ e ∈ new, disturbedParts.page.Activates e r := by
  have hreached : Query.nestedPage.Reached := .ofTree Query.nestedParts false
  have hclosed : disturbedParts.page.closed = searchedParts.page.closed := by decide +kernel
  have hbefore : (Query.rowsInParts.findAll none).run.readOn Query.nestedPage =
      (((Query.rowsInParts.findAll none).run.readOn Query.nestedPage).1, searchedParts.page) := by
    rw [searchedParts]
  have hrun : World.alone ((execute {} disturb).run.run {}) searchedParts =
      ((World.alone ((execute {} disturb).run.run {}) searchedParts).1, disturbedParts) :=
    (Prod.eta _).symm
  obtain ⟨hagain, -, hevents⟩ := execute_unmoved hreached hbefore hrun hclosed (by rintro h ⟨⟩)
  exact ⟨hagain, by decide +kernel, by decide +kernel, hevents⟩

end ConsentWalker
