import ConsentWalker.Proofs.Page.Closing
import ConsentWalker.Proofs.Page.Handles
/-!
# Page — operations that fail, and pages that are closed

An operation looks whether it can be done before it does anything. The one that does something first
is an operation on what a selector matches, which gives out handles; it does not fail after that,
because what was just matched can be found (`Sound.located_of_gives`), and it gave out none if it
fails for having matched nothing. So whatever fails leaves the page as it was (`operate_fails`).

A closed page refuses whatever asks it for something, and accepts to be closed, observed or asked
whether elements are checked (`operate_refused`, `operate_accepted`). Neither changes it, and
nothing else does (`Later.unchanged`).
-/

namespace ConsentWalker

/-- **What a page may be asked for**: calls, changes by others, and whether elements are checked. -/
inductive Operation where
  | call (c : Call)
  | append (parent : String) (trees : List Tree)
  | remove (selector : String)
  | checked (selector : String)
  | checkedAll (selector : String)

namespace Operation

/-- What an operation yields when it succeeds. -/
@[reducible] def Answer : Operation → Type
  | .call c => c.Result
  | .append .. | .remove _ => Nat
  | .checked _ => Option Bool
  | .checkedAll _ => List Bool

/-- Whether an operation is fine with a page that is closed. -/
def acceptsClosed : Operation → Bool
  | .call .close | .call .observe | .checked _ | .checkedAll _ => true
  | _ => false

end Operation

namespace Page

variable {p p' : Page} {h : Handle} {i : Nat} {op : Operation}

/-- The answer to an operation, and the page after it. -/
def operate (p : Page) : (op : Operation) → Except PageError op.Answer × Page
  | .call c => p.perform c
  | .append parent trees => (append parent trees).run.run p
  | .remove selector => (remove selector).run.run p
  | .checked selector => (.ok (p.checkedAll selector).1.head?, (p.checkedAll selector).2)
  | .checkedAll selector => (.ok (p.checkedAll selector).1, (p.checkedAll selector).2)

/-- The observers that a page tells of changes. -/
def observers (p : Page) : List Observer :=
  (p.mailboxes.zipIdx.filter fun m => m.1.connected).map fun m => ⟨m.2⟩

/-- **A page that did not change**, whatever its observers have fetched: tree, handles, checked
states, what is hidden, painted, recorded and shown, whether it is closed, and who is told of
changes. -/
def Unchanged (p p' : Page) : Prop :=
  p' = { p with mailboxes := p'.mailboxes } ∧ p'.observers = p.observers

theorem step_operate (op : Operation) (p : Page) : p.Step (p.operate op).2 := by
  cases op with
  | call c => exact .perform c
  | append parent trees => exact .append parent trees
  | remove selector => exact .remove selector
  | checked selector | checkedAll selector => exact .checkedAll selector

/-! ## Operations that fail -/

/-- A selection that fails gave out no handles. -/
theorem select_fails {scope : Option Handle} {selector : String} {e : PageError}
    (hfails : ((select scope selector).run.run p).1 = .error e) :
    ((select scope selector).run.run p).2 = p := by
  rw [select_run] at hfails ⊢
  cases hm : matched scope selector p with
  | error e => rfl
  | ok ids =>
    rw [hm] at hfails
    cases hfails

/-- Nor does one that matches nothing. -/
theorem select_nothing {scope : Option Handle} {selector : String}
    (hnone : ((select scope selector).run.run p).1 = .ok []) :
    ((select scope selector).run.run p).2 = p := by
  rw [select_run] at hnone ⊢
  cases hm : matched scope selector p with
  | error e => rfl
  | ok ids =>
    rw [hm] at hnone
    have hnames := nameAll_names p ids
    rw [Except.ok.inj hnone] at hnames
    cases hnames
    rfl

/-- A call that fails did nothing. -/
theorem perform_fails {c : Call} {e : PageError} (hfails : (p.perform c).1 = .error e) :
    (p.perform c).2 = p := by
  rcases perform_cases c p with hread | rfl | ⟨e', -, hrun⟩ | ⟨p', a, -, hrun⟩
  · rcases perform_read hread p with ⟨scope, selector, rfl⟩ | hsame
    · exact select_fails hfails
    · exact hsame
  · cases hfails
  · rw [hrun]
  · rw [hrun] at hfails
    cases hfails

/-- What a selection answers was given for nodes. -/
theorem gives_of_select {scope : Option Handle} {selector : String} {hs : List Handle}
    (hsel : ((select scope selector).run.run p).1 = .ok hs) (hh : h ∈ hs) :
    ∃ i, p.Gives ((select scope selector).run.run p).2 h i := by
  obtain ⟨k, hk⟩ := List.mem_iff_getElem?.1 hh
  have hrun : p.perform (.query scope selector) = (.ok hs, ((select scope selector).run.run p).2) :=
    Prod.ext hsel rfl
  cases hm : matched scope selector p with
  | error e =>
    rw [select_run, hm] at hsel
    cases hsel
  | ok ids =>
    have hhs : (p.nameAll ids).1 = hs := by
      rw [select_run, hm] at hsel
      exact Except.ok.inj hsel
    have hlength : hs.length = ids.length := hhs ▸ (nameAll_names p ids).length_eq
    have hlt : k < ids.length := hlength ▸ (List.getElem?_eq_some_iff.1 hk).1
    exact ⟨ids[k], scope, selector, ids, hs, k, hm, hrun, List.getElem?_eq_getElem hlt, hk⟩

/-- **What was just matched can be found**, under the handle it was given. -/
theorem Sound.located_of_gives (hp : p.Sound) (hg : p.Gives p' h i) :
    ∃ q, located h p' = .ok q := by
  obtain ⟨hnamed, ⟨q, hq, rfl⟩, hstep⟩ := hg.spec
  obtain ⟨scope, selector, ids, hs, k, hm, hrun, -, -⟩ := hg
  have hgrows : p.Grows p' := by
    have hgrows := perform_grows (c := .query scope selector) rfl p
    rw [hrun] at hgrows
    exact hgrows
  have hopen : p.closed = false := by
    by_contra hclosed
    rw [matched_of_closed (by simpa using hclosed)] at hm
    cases hm
  have hplace : p'.place? h = some q := by
    rw [(hstep.sound hp).place?_iff, (Keeps.of_grows hgrows).places_eq]
    exact ⟨hq, hnamed⟩
  exact ⟨q, located_eq_ok.2 ⟨hgrows.closed_eq.trans hopen, hplace⟩⟩

/-- **An operation that fails leaves the page exactly as it was.** -/
theorem operate_fails (hp : p.Sound) {e : PageError} (hfails : (p.operate op).1 = .error e) :
    (p.operate op).2 = p := by
  cases op with
  | call c => exact perform_fails hfails
  | append parent trees =>
    change ((append parent trees).run.run p).1 = _ at hfails
    change ((append parent trees).run.run p).2 = p
    unfold append at hfails ⊢
    rw [run_bind] at hfails ⊢
    cases hsel : ((select none parent).run.run p).1 with
    | error e => exact select_fails hsel
    | ok hs =>
      rw [hsel] at hfails
      cases hs with
      | nil => exact select_nothing hsel
      | cons h rest =>
        obtain ⟨i, hg⟩ := gives_of_select hsel List.mem_cons_self
        obtain ⟨q, hq⟩ := hp.located_of_gives hg
        -- from here on nothing can fail
        dsimp only at hfails
        rw [run_locate, hq] at hfails
        cases hfails
  | remove selector =>
    change ((remove selector).run.run p).1 = _ at hfails
    change ((remove selector).run.run p).2 = p
    unfold remove at hfails ⊢
    rw [run_bind] at hfails ⊢
    cases hsel : ((select none selector).run.run p).1 with
    | error e => exact select_fails hsel
    | ok hs =>
      rw [hsel] at hfails
      cases hfails
  | checked selector | checkedAll selector => cases hfails

/-! ## Closed pages -/

/-- A closed page has nobody to tell of changes, if nobody was left connected. -/
theorem observers_eq_nil (hdeaf : ∀ m ∈ p.mailboxes, m.connected = false) : p.observers = [] := by
  unfold observers
  rw [List.map_eq_nil_iff, List.filter_eq_nil_iff]
  rintro ⟨m, k⟩ hm
  have hmem := List.fst_mem_of_mem_zipIdx hm
  simp [hdeaf m hmem]

/-- Nothing that happens to a closed page changes anything but what observers have to fetch. -/
theorem Step.frozen (hs : p.Step p') (hp : p.closed = true) :
    p' = { p with mailboxes := p'.mailboxes } := by
  cases hs with
  | perform c =>
    by_cases hc : c = .observe
    · subst hc
      rfl
    · rw [perform_of_closed hp hc]
  | append parent trees => rw [append_of_closed hp]
  | remove selector => rw [remove_of_closed hp]
  | receive o =>
    unfold Page.receive
    dsimp only
    split
    · rfl
    · split <;> rfl
  | drain o | drop o => rfl
  | checkedAll selector =>
    rcases checkedAll_eq selector p with h | h
    · rw [h, select_closed hp]
    · rw [h]

/-- **A closed page never changes again.** -/
theorem Later.unchanged (hl : p.Later p') (hp : p.Reached) (hclosed : p.closed = true) :
    p.Unchanged p' := by
  have hdeaf := hp.sealed.deaf hclosed
  obtain ⟨hsame, hdeaf'⟩ := hl.keeps
    (P := fun q => q = { p with mailboxes := q.mailboxes } ∧ ∀ m ∈ q.mailboxes, m.connected = false)
    (fun p₁ p₂ hp₁ hstep => by
      have hclosed₁ : p₁.closed = true := by
        rw [hp₁.1]
        exact hclosed
      refine ⟨?_, (hstep.still hclosed₁).deaf hp₁.2⟩
      have hframe := hstep.frozen hclosed₁
      rw [hp₁.1] at hframe
      exact hframe)
    ⟨rfl, hdeaf⟩
  exact ⟨hsame, (observers_eq_nil hdeaf').trans (observers_eq_nil hdeaf).symm⟩

/-- No call has an effect on a closed page, but for closing it again. -/
theorem effect_closed (hp : p.closed = true) {c : Call} (hread : c.isRead = false)
    (hclose : c ≠ .close) (hobserve : c ≠ .observe) : effect c p = .error .closed := by
  have hopened : p.opened = .error .closed := if_pos hp
  have hlocated : ∀ h, located h p = .error .closed := fun h => by
    unfold located
    rw [hopened]
    rfl
  cases c with
  | scroll h | focus h | click h | pointer h | setHidden h | paint h =>
    rw [effect, altered, hlocated]
    rfl
  | showProgress | hideProgress =>
    rw [effect, alteredOpen, hopened]
    rfl
  | close => exact absurd rfl hclose
  | observe => exact absurd rfl hobserve
  | query | text | style | rect | nested | isChecked => cases hread

/-- **A closed page refuses every call**, unless it is to be closed or observed. -/
theorem perform_closed (hp : p.closed = true) {c : Call} (hclose : c ≠ .close)
    (hobserve : c ≠ .observe) :
    (p.perform c).1 = .error .closed := by
  cases hread : c.isRead with
  | true => exact perform_read_closed hp hread
  | false =>
    have heffect := effect_closed hp hread hclose hobserve
    rcases perform_cases c p with hread' | rfl | ⟨e, hmade, hrun⟩ | ⟨p', a, hmade, hrun⟩
    · rw [hread] at hread'
      cases hread'
    · exact absurd rfl hobserve
    · rw [hrun, Except.error.inj (hmade.symm.trans heffect)]
    · rw [heffect] at hmade
      cases hmade

/-- **A closed page refuses every operation** that asks it for something. -/
theorem operate_refused (hp : p.closed = true) (hno : op.acceptsClosed = false) :
    (p.operate op).1 = .error .closed := by
  cases op with
  | call c =>
    have hclose : c ≠ .close := by
      rintro rfl
      cases hno
    have hobserve : c ≠ .observe := by
      rintro rfl
      cases hno
    exact perform_closed hp hclose hobserve
  | append parent trees =>
    change ((append parent trees).run.run p).1 = _
    unfold append
    rw [run_bind, select_closed hp]
  | remove selector =>
    change ((remove selector).run.run p).1 = _
    unfold remove
    rw [run_bind, select_closed hp]
  | checked selector | checkedAll selector => cases hno

/-- It accepts the rest, as every page does. -/
theorem operate_accepted (p : Page) (hyes : op.acceptsClosed = true) :
    ∃ a, (p.operate op).1 = .ok a := by
  cases op with
  | call c =>
    cases c with
    | close | observe => exact ⟨_, rfl⟩
    | _ => cases hyes
  | append | remove => cases hyes
  | checked | checkedAll => exact ⟨_, rfl⟩

/-! ## All or nothing -/

/-- **Operations are atomic, and closing is final.** On a page that can come to be, an operation
that fails leaves everything exactly as it was. Once the page is closed, every operation is refused
or accepted, and changes nothing either way, nor does anything else that happens to it ever
after. -/
theorem Reached.atomic (hp : p.Reached) :
    (∀ (op : Operation) e, (p.operate op).1 = .error e → (p.operate op).2 = p) ∧
    (p.closed = true → ∀ op : Operation, p.Unchanged (p.operate op).2 ∧
      (op.acceptsClosed = true → ∃ a, (p.operate op).1 = .ok a) ∧
      (op.acceptsClosed = false → (p.operate op).1 = .error .closed)) ∧
    (p.closed = true → ∀ p', p.Later p' → p.Unchanged p') := by
  refine ⟨fun op e hfails => operate_fails hp.sound hfails, fun hclosed op => ?_,
    fun hclosed p' hl => hl.unchanged hp hclosed⟩
  have hlater : p.Later (p.operate op).2 := .tail .refl (step_operate op p)
  exact ⟨hlater.unchanged hp hclosed, operate_accepted p, operate_refused hclosed⟩

/-- The page with nothing to accept, closed. -/
def shutPage : Page := (removedPage.perform .close).2

/-- Nothing is appended to an element that was taken out, and nothing at all once the page is
closed. -/
theorem removed_atomic :
    (removedPage.operate (.append "#accept" [acceptButton])).2 = removedPage ∧
      (shutPage.operate (.append "body" [acceptButton])).1 = .error .closed ∧
      shutPage.Unchanged (shutPage.operate (.call .observe)).2 := by
  have hreached : shutPage.Reached := .step reached_removedPage (.perform .close)
  have hfails : (removedPage.operate (.append "#accept" [acceptButton])).1 =
      .error (.script "`#accept` matched nothing to append to") := by decide +kernel
  have hkept := reached_removedPage.atomic.1 (.append "#accept" [acceptButton]) _ hfails
  have hfinal := hreached.atomic.2.1 (by decide +kernel)
  exact ⟨hkept, (hfinal (.append "body" [acceptButton])).2.2 rfl, (hfinal (.call .observe)).1⟩

end Page
end ConsentWalker
