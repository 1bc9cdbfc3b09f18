import ConsentWalker.Proofs.Page.Reached
/-!
# Page — outlines are only looked at

An outline is recorded and read by no operation: pages that are the same without their outlines
(`Page.Alike`) answer every call alike and stay so (`Alike.perform`).

A page that is closed stays as it is, whatever is asked of it but to be observed
(`perform_of_closed`).
-/

namespace ConsentWalker

/-- Whether an event is an outline. -/
def PageEvent.isOutline : PageEvent → Bool
  | .painted .. => true
  | _ => false

namespace Page

variable {p q r : Page}

/-- What was done to a page beside outlining, in order. -/
def effects (p : Page) : List PageEvent := p.events.filter fun e => ! e.isOutline

/-- **A page without its outlines.** -/
def unpainted (p : Page) : Page := { p with painted := [], events := p.effects }

@[simp] theorem unpainted_unpainted (p : Page) : p.unpainted.unpainted = p.unpainted := by
  simp [unpainted, effects]

/-- **Pages that are the same without their outlines.** -/
def Alike (p q : Page) : Prop := p.unpainted = q.unpainted

namespace Alike

theorem refl (p : Page) : p.Alike p := rfl

theorem symm (h : p.Alike q) : q.Alike p := Eq.symm h

theorem trans (h₁ : p.Alike q) (h₂ : q.Alike r) : p.Alike r := Eq.trans h₁ h₂

/-- What does not look at outlines comes to the same on pages that are alike. -/
theorem congr {α : Type} (h : p.Alike q) (f : Page → α) (hf : ∀ p, f p.unpainted = f p) :
    f p = f q := by
  rw [← hf p, ← hf q]
  exact congrArg f h

theorem closed_eq (h : p.Alike q) : q.closed = p.closed := (h.congr closed fun _ => rfl).symm

theorem effects_eq (h : p.Alike q) : p.effects = q.effects := congrArg Page.events h

theorem isCheckedAt_eq (h : p.Alike q) (place : Place) :
    p.isCheckedAt place = q.isCheckedAt place :=
  h.congr (isCheckedAt · place) fun _ => rfl

end Alike

/-- Outlining an element leaves the page alike. -/
theorem outlined_alike (h : Handle) (passed : Bool) (p : Page) : p.Alike (outlined h passed p) := by
  unfold Alike unpainted effects outlined record
  simp [PageEvent.isOutline]

/-! ## Every call is answered alike -/

/-- A record without its outlines is that of the page without them. -/
theorem unpainted_record (p : Page) (e : PageEvent) :
    (p.unpainted.record e).unpainted = (p.record e).unpainted := by
  simp [unpainted, effects, record]

/-- A change and the outlines **do not get in each other's way**. -/
def Ignores (g : Page → Page) : Prop := ∀ p, (g p.unpainted).unpainted = (g p).unpainted

/-- What is recorded after a change of what is no outline. -/
theorem ignores_record {f : Page → Page} (hf : ∀ p, f p.unpainted = (f p).unpainted)
    (e : PageEvent) : Ignores fun p => (f p).record e := by
  intro p
  dsimp only
  rw [hf p, unpainted_record]

/-- What is reached by a click does not depend on outlines. -/
theorem activate_unpainted (p : Page) (control : Place) :
    p.unpainted.activate control = (p.activate control).unpainted := by
  unfold activate
  split
  · rfl
  · split <;> rfl

/-- A click does the same whatever is outlined. -/
theorem clickedAt_ignores (h : Handle) (openInTab : Bool) (place : Place) :
    Ignores (clickedAt h openInTab place) := by
  refine ignores_record (fun p => ?_) _
  have hcontrol : p.unpainted.controlOf? place = p.controlOf? place := rfl
  rw [hcontrol]
  cases p.controlOf? place with
  | none => rfl
  | some control => exact p.activate_unpainted control

theorem shut_ignores : Ignores shut := by
  intro p
  unfold shut
  have hclosed : p.unpainted.closed = p.closed := rfl
  rw [hclosed]
  cases p.closed with
  | true => simp [unpainted, effects]
  | false => simp [unpainted, effects, record, PageEvent.isOutline]

theorem concealed_ignores (h : Handle) (b : Bool) : Ignores (concealed h b) :=
  ignores_record (f := fun p => { p with
    hidden := if b then insertHandle h p.hidden else p.hidden.filter (· ≠ h) }) (fun _ => rfl) _

theorem outlined_ignores (h : Handle) (passed : Bool) : Ignores (outlined h passed) := by
  intro p
  simp [unpainted, effects, outlined, record, PageEvent.isOutline]

/-- **No effect of a call depends on outlines.** -/
theorem effect_unpainted (c : Call) (p : Page) :
    (effect c p.unpainted).map unpainted = (effect c p).map unpainted := by
  -- where an element stands does not depend on them
  have acts : ∀ (h : Handle) (g : Place → Page → Page), (∀ place, Ignores (g place)) →
      (altered h g p.unpainted).map unpainted = (altered h g p).map unpainted := by
    intro h g hg
    have hlocated : located h p.unpainted = located h p := rfl
    unfold altered
    rw [hlocated]
    cases located h p with
    | error e => rfl
    | ok place => exact congrArg Except.ok (hg place p)
  have actsOpen : ∀ g : Page → Page, Ignores g →
      (alteredOpen g p.unpainted).map unpainted = (alteredOpen g p).map unpainted := by
    intro g hg
    have hopened : p.unpainted.opened = p.opened := rfl
    unfold alteredOpen
    rw [hopened]
    cases p.opened with
    | error e => rfl
    | ok u => exact congrArg Except.ok (hg p)
  cases c with
  | scroll h | focus h | pointer h phase point =>
    exact acts h _ fun _ => ignores_record (f := id) (fun _ => rfl) _
  | setHidden h b => exact acts h _ fun _ => concealed_ignores h b
  | click h openInTab => exact acts h _ (clickedAt_ignores h openInTab)
  | paint h passed => exact acts h _ fun _ => outlined_ignores h passed
  | showProgress message =>
    exact actsOpen _ (ignores_record (f := fun p => { p with progress := some message })
      (fun _ => rfl) _)
  | hideProgress =>
    exact actsOpen _ (ignores_record (f := fun p => { p with progress := none }) (fun _ => rfl) _)
  | close => exact congrArg Except.ok (shut_ignores p)
  | query | text | style | rect | nested | isChecked | observe =>
    exact congrArg Except.ok p.unpainted_unpainted

/-- Naming nodes has nothing to do with outlines. -/
theorem nameAll_unpainted (ids : List Nat) (p : Page) :
    p.unpainted.nameAll ids = ((p.nameAll ids).1, (p.nameAll ids).2.unpainted) := by
  induction ids generalizing p with
  | nil => rfl
  | cons id ids ih =>
    have hname : p.unpainted.name id = ((p.name id).1, (p.name id).2.unpainted) := by
      unfold name
      have hhandles : p.unpainted.handles = p.handles := rfl
      rw [hhandles]
      cases p.handles.idxOf? id <;> rfl
    rw [nameAll, nameAll, hname]
    dsimp only
    rw [ih]

/-- What only reads, and looks at no outline, answers a page without its outlines as it does the
page. -/
theorem Reads.unpainted {α : Type} {op : Op α} {f : Page → Except PageError α} (hop : Reads op f)
    (hf : f p.unpainted = f p) :
    (op.run.run p.unpainted).1 = (op.run.run p).1 ∧
      (op.run.run p.unpainted).2.unpainted = (op.run.run p).2.unpainted := by
  rw [hop p, hop p.unpainted, hf]
  exact ⟨rfl, p.unpainted_unpainted⟩

/-- **Every call is answered by a page without its outlines** as it is by the page. -/
theorem perform_unpainted (c : Call) (p : Page) :
    (p.unpainted.perform c).1 = (p.perform c).1 ∧
      (p.unpainted.perform c).2.unpainted = (p.perform c).2.unpainted := by
  -- a call that acts fails on both pages, or on neither
  have acts : ∀ {op : Op Unit}, (∀ p : Page, op.run.run p = p.outcome (effect c p)) →
      (op.run.run p.unpainted).1 = (op.run.run p).1 ∧
        (op.run.run p.unpainted).2.unpainted = (op.run.run p).2.unpainted := by
    intro op hop
    have heffect := effect_unpainted c p
    rw [hop p, hop p.unpainted]
    cases hr : effect c p with
    | error e =>
      cases hr' : effect c p.unpainted with
      | error e' =>
        rw [hr, hr'] at heffect
        cases heffect
        exact ⟨rfl, p.unpainted_unpainted⟩
      | ok q' =>
        rw [hr, hr'] at heffect
        cases heffect
    | ok q =>
      cases hr' : effect c p.unpainted with
      | error e' =>
        rw [hr, hr'] at heffect
        cases heffect
      | ok q' =>
        rw [hr, hr'] at heffect
        exact ⟨rfl, Except.ok.inj heffect⟩
  cases c with
  | query scope selector =>
    change ((select scope selector).run.run p.unpainted).1 = ((select scope selector).run.run p).1 ∧
      ((select scope selector).run.run p.unpainted).2.unpainted =
        ((select scope selector).run.run p).2.unpainted
    have hmatched : matched scope selector p.unpainted = matched scope selector p := rfl
    rw [select_run, select_run, hmatched]
    cases matched scope selector p with
    | error e => exact ⟨rfl, p.unpainted_unpainted⟩
    | ok ids =>
      dsimp only
      rw [nameAll_unpainted]
      exact ⟨rfl, unpainted_unpainted _⟩
  | text h =>
    exact ((locate_reads h).bind fun place => Reads.pure (Node.text place.node)).unpainted rfl
  | style h property =>
    exact ((element_reads h).bind fun e => Reads.pure (e.style property)).unpainted rfl
  | rect h =>
    exact ((locate_reads h).bind fun place => Reads.get.bind fun q =>
      Reads.pure (layout q place)).unpainted rfl
  | nested h =>
    exact ((locate_reads h).bind fun _ => Reads.get.bind fun q =>
      Reads.pure q.nested).unpainted rfl
  | isChecked h =>
    exact ((locate_reads h).bind fun place => Reads.get.bind fun q =>
      Reads.pure (q.isCheckedAt place)).unpainted rfl
  | scroll h | focus h | click h openInTab | pointer h phase point | setHidden h b
  | paint h passed => exact acts fun p => alters_run h _ p
  | showProgress message | hideProgress => exact acts fun p => altersOpen_run _ p
  | close => exact acts fun p => rfl
  | observe => exact ⟨rfl, unpainted_unpainted (p.perform .observe).2⟩

/-- **Pages that are alike answer alike and stay alike.** -/
theorem Alike.perform (h : p.Alike q) (c : Call) :
    (p.perform c).1 = (q.perform c).1 ∧ (p.perform c).2.Alike (q.perform c).2 := by
  obtain ⟨hanswer, hpage⟩ := perform_unpainted c p
  obtain ⟨hanswer', hpage'⟩ := perform_unpainted c q
  have heq : p.unpainted = q.unpainted := h
  rw [← heq] at hanswer' hpage'
  exact ⟨hanswer.symm.trans hanswer', hpage.symm.trans hpage'⟩

/-! ## A closed page -/

/-- On a closed page nothing matches. -/
theorem matched_of_closed (hp : p.closed = true) (scope : Option Handle) (selector : String) :
    matched scope selector p = .error .closed := by
  unfold matched opened
  rw [if_pos hp]
  rfl

/-- **A closed page stays as it is**, except that it can be observed. -/
theorem perform_of_closed (hp : p.closed = true) {c : Call} (hc : c ≠ .observe) :
    (p.perform c).2 = p := by
  rcases perform_cases c p with hread | rfl | ⟨e, -, hfails⟩ | ⟨p', a, hmade, hmakes⟩
  · rcases perform_read hread p with ⟨scope, selector, rfl⟩ | hsame
    · change ((select scope selector).run.run p).2 = p
      rw [select_run, matched_of_closed hp]
    · exact hsame
  · exact absurd rfl hc
  · rw [hfails]
  · rw [hmakes]
    cases c with
    | scroll | focus | click | pointer | setHidden | paint =>
      rw [effect] at hmade
      obtain ⟨place, hplace, -⟩ := altered_eq_ok hmade
      rw [(located_eq_ok.1 hplace).1] at hp
      cases hp
    | showProgress | hideProgress =>
      rw [effect] at hmade
      rw [(alteredOpen_eq_ok hmade).1] at hp
      cases hp
    | close =>
      cases hmade
      unfold shut
      rw [if_pos hp]
    | query | text | style | rect | nested | isChecked | observe =>
      cases hmade
      rfl

end Page
end ConsentWalker
