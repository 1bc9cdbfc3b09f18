import ConsentWalker.Proofs.Page.Tables
/-!
# Page — twins, which number their handles differently

Handles are numbers, given out in the order in which elements are found. Who asks a page one
question more changes the numbers of the handles that are given out after it, and nothing else. Such
pages are `Twins`: they are the same but for handles, and where one has a handle the other has one
of the same node (`Tables.Links`).

Twins answer every call alike and stay twins (`Twins.perform`), as they do whatever others do to
both (`append_twin`, `remove_twin`, `clickFirst_twin`), since no operation looks at the number of a
handle.
-/

namespace ConsentWalker

/-! ## Twins -/

namespace Page

variable {p p' q q' : Page} {α β γ δ : Type}

/-- A page without its handles and all that is recorded with them. -/
def bare (p : Page) : Page := { p with handles := [], hidden := [], painted := [], events := [] }

/-- The handles of two pages. -/
def tables (p q : Page) : Tables := ⟨p.handles, q.handles⟩

/-- **Pages that are the same but for the numbers of their handles.** -/
structure Twins (p q : Page) : Prop where
  bare : p.bare = q.bare
  sound : p.Sound
  sound' : q.Sound
  hidden : (p.tables q).LinksAll p.hidden q.hidden
  painted : List.Forall₂ (fun x y => (p.tables q).Links x.1 y.1 ∧ x.2 = y.2) p.painted q.painted
  events : List.Forall₂ (PageEvent.Links (p.tables q)) p.events q.events

namespace Twins

/-- What looks at no handle is the same on twins. -/
theorem congr (h : p.Twins q) (f : Page → α) (hf : ∀ p, f p.bare = f p) : f p = f q := by
  rw [← hf p, ← hf q]
  exact congrArg f h.bare

theorem root_eq (h : p.Twins q) : p.root = q.root := h.congr Page.root fun _ => rfl

theorem nextId_eq (h : p.Twins q) : p.nextId = q.nextId := h.congr Page.nextId fun _ => rfl

theorem closed_eq (h : p.Twins q) : p.closed = q.closed := h.congr Page.closed fun _ => rfl

theorem progress_eq (h : p.Twins q) : p.progress = q.progress := h.congr Page.progress fun _ => rfl

theorem mailboxes_eq (h : p.Twins q) : p.mailboxes = q.mailboxes :=
  h.congr Page.mailboxes fun _ => rfl

theorem isCheckedAt_eq (h : p.Twins q) (place : Place) :
    p.isCheckedAt place = q.isCheckedAt place :=
  h.congr (isCheckedAt · place) fun _ => rfl

/-- **Twins that give out more handles are twins still.** -/
theorem grow (h : p.Twins q) (hg : p.Grows p') (hg' : q.Grows q') (hs : p'.Sound) (hs' : q'.Sound) :
    p'.Twins q' := by
  obtain ⟨more, rfl⟩ := hg
  obtain ⟨more', rfl⟩ := hg'
  have hle : p.tables q ≤ ⟨p.handles ++ more, q.handles ++ more'⟩ :=
    ⟨List.prefix_append _ _, List.prefix_append _ _⟩
  exact ⟨h.bare, hs, hs', h.hidden.mono hle, h.painted.imp fun _ _ hx => ⟨hx.1.mono hle, hx.2⟩,
    h.events.imp fun _ _ he => he.mono hle⟩

/-- One event more on both, the same but for its handle. -/
theorem record (h : p.Twins q) {e e' : PageEvent} (he : e.Links (p.tables q) e') :
    (p.record e).Twins (q.record e') where
  bare := h.bare
  sound := SameTree.sound (p := p) ⟨rfl, rfl, rfl, rfl⟩ h.sound
  sound' := SameTree.sound (p := q) ⟨rfl, rfl, rfl, rfl⟩ h.sound'
  hidden := h.hidden
  painted := h.painted
  events := List.rel_append h.events (.cons he .nil)

end Twins

/-- **A change that looks at no handle** and leaves handles and records as they are. -/
def Handleless (f : Page → Page) : Prop :=
  ∀ p, f p = { f p.bare with
    handles := p.handles, hidden := p.hidden, painted := p.painted, events := p.events }

/-- **Such a change makes twins of twins.** -/
theorem Twins.map {f : Page → Page} (h : p.Twins q) (hf : Handleless f) (hs : (f p).Sound)
    (hs' : (f q).Sound) : (f p).Twins (f q) := by
  have hbare : (f p).bare = (f q).bare := by
    rw [hf p, hf q, h.bare]
    rfl
  have htables : (f p).tables (f q) = p.tables q := by
    rw [hf p, hf q]
    rfl
  refine ⟨hbare, hs, hs', ?_, ?_, ?_⟩
  · rw [htables, hf p, hf q]
    exact h.hidden
  · rw [htables, hf p, hf q]
    exact h.painted
  · rw [htables, hf p, hf q]
    exact h.events

/-! ## Naming -/

/-- A name stands for the node it was given to. -/
theorem name_names (p : Page) (id : Nat) :
    (p.name id).2.handles[(p.name id).1.id]? = some id := by
  unfold name
  cases hi : p.handles.idxOf? id with
  | some i =>
    obtain ⟨hlt, hid, -⟩ := List.idxOf?_eq_some_iff.1 hi
    simpa [List.getElem?_eq_getElem hlt] using hid
  | none => simp

/-- Each of some names stands for the node it was given to. -/
theorem nameAll_names (p : Page) (ids : List Nat) :
    List.Forall₂ (fun h id => (p.nameAll ids).2.handles[h.id]? = some id)
      (p.nameAll ids).1 ids := by
  induction ids generalizing p with
  | nil => exact .nil
  | cons id ids ih =>
    have hlater : (p.name id).2.Keeps ((p.name id).2.nameAll ids).2 :=
      .of_grows (nameAll_steady _ _).grows
    exact .cons (Tables.getElem?_of_prefix hlater.handles (name_names p id)) (ih _)

/-! ## Operations on twins -/

end Page

/-- **Outcomes that pair**: both fail, or both succeed and what they yield goes together. -/
inductive Paired {α β : Type} (R : α → β → Prop) :
    Except PageError α → Except PageError β → Prop where
  | ok {a : α} {b : β} : R a b → Paired R (.ok a) (.ok b)
  | error (e e' : PageError) : Paired R (.error e) (.error e')

/-- Outcomes that pair, one thing after another. -/
theorem Paired.bind {α β γ δ : Type} {R : α → β → Prop} {S : γ → δ → Prop} {x : Except PageError α}
    {y : Except PageError β} {f : α → Except PageError γ} {g : β → Except PageError δ}
    (h : Paired R x y) (hfg : ∀ a b, R a b → Paired S (f a) (g b)) :
    Paired S (x.bind f) (y.bind g) := by
  cases h with
  | ok hab => exact hfg _ _ hab
  | error e e' => exact .error e e'

namespace Page

variable {p p' q q' : Page} {α β γ δ : Type}

/-- What an operation comes to on one page, and another one on its twin: twins with more handles,
and outcomes that pair. -/
structure Lands (R : Tables → α → β → Prop) (p q : Page) (x : Except PageError α × Page)
    (y : Except PageError β × Page) : Prop where
  twins : x.2.Twins y.2
  grow : p.tables q ≤ x.2.tables y.2
  paired : Paired (R (x.2.tables y.2)) x.1 y.1

namespace Op

variable {R : Tables → α → β → Prop} {S : Tables → γ → δ → Prop} {L : Tables}

/-- **Operations that do the same to twins**, once some handles were given out. -/
def Twin (R : Tables → α → β → Prop) (L : Tables) (op : Op α) (op' : Op β) : Prop :=
  ∀ p q, p.Twins q → L ≤ p.tables q → Lands R p q (op.run.run p) (op'.run.run q)

theorem Twin.pure {a : α} {b : β} (hab : ∀ M, L ≤ M → R M a b) :
    Twin R L (Pure.pure a) (Pure.pure b) :=
  fun _ _ h hle => ⟨h, le_refl _, .ok (hab _ hle)⟩

theorem Twin.throw (e e' : PageError) : Twin R L (MonadExcept.throw e) (MonadExcept.throw e') :=
  fun _ _ h _ => ⟨h, le_refl _, .error e e'⟩

/-- Operations that do the same to twins, one after another, if what follows does so for results
that pair. -/
theorem Twin.bind {op : Op α} {op' : Op β} {k : α → Op γ} {k' : β → Op δ} (hop : Twin R L op op')
    (hk : ∀ M a b, L ≤ M → R M a b → Twin S M (k a) (k' b)) :
    Twin S L (op >>= k) (op' >>= k') := by
  intro p q h hle
  obtain ⟨htwins, hgrow, hpaired⟩ := hop p q h hle
  rw [run_bind, run_bind]
  generalize op.run.run p = x at htwins hgrow hpaired
  generalize op'.run.run q = y at htwins hgrow hpaired
  obtain ⟨x, p₁⟩ := x
  obtain ⟨y, q₁⟩ := y
  dsimp only at htwins hgrow hpaired ⊢
  cases hpaired with
  | error e e' => exact ⟨htwins, hgrow, .error e e'⟩
  | ok hab =>
    obtain ⟨htwins₂, hgrow₂, hpaired₂⟩ := hk _ _ _ (le_trans hle hgrow) hab p₁ q₁ htwins (le_refl _)
    exact ⟨htwins₂, le_trans hgrow hgrow₂, hpaired₂⟩

/-- What only reads does the same to twins if it reads the same off them. -/
theorem Twin.of_reads {op : Op α} {op' : Op β} {f : Page → Except PageError α}
    {g : Page → Except PageError β} (hop : Reads op f) (hop' : Reads op' g)
    (hfg : ∀ p q, p.Twins q → L ≤ p.tables q → Paired (R (p.tables q)) (f p) (g q)) :
    Twin R L op op' := by
  intro p q h hle
  rw [hop p, hop' q]
  exact ⟨h, le_refl _, hfg p q h hle⟩

theorem Twin.modifyGet {f : Page → α × Page} {g : Page → β × Page}
    (hfg : ∀ p q, p.Twins q → L ≤ p.tables q → (f p).2.Twins (g q).2 ∧
      p.tables q ≤ (f p).2.tables (g q).2 ∧ R ((f p).2.tables (g q).2) (f p).1 (g q).1) :
    Twin R L (MonadStateOf.modifyGet f) (MonadStateOf.modifyGet g) := by
  intro p q h hle
  obtain ⟨htwins, hgrow, hab⟩ := hfg p q h hle
  exact ⟨htwins, hgrow, .ok hab⟩

end Op

variable {L : Tables} {h k : Handle}

theorem Twins.opened_eq (ht : p.Twins q) : p.opened = q.opened := ht.congr opened fun _ => rfl

/-- **Linked handles denote one place**, or none. -/
theorem Twins.place?_eq (ht : p.Twins q) (hl : (p.tables q).Links h k) :
    p.place? h = q.place? k := by
  obtain ⟨id, hleft, hright⟩ := hl
  unfold place?
  rw [show p.handles[h.id]? = some id from hleft, show q.handles[k.id]? = some id from hright,
    ht.root_eq]

theorem Twins.located (ht : p.Twins q) (hl : (p.tables q).Links h k) :
    Paired (· = ·) (located h p) (located k q) := by
  unfold Page.located
  rw [ht.opened_eq, ht.place?_eq hl]
  cases q.opened with
  | error e => exact .error e e
  | ok u =>
    cases q.place? k with
    | none => exact .error _ _
    | some place => exact .ok rfl

theorem Twins.elementOf (ht : p.Twins q) (hl : (p.tables q).Links h k) :
    Paired (· = ·) (elementOf h p) (elementOf k q) := by
  refine (ht.located hl).bind ?_
  rintro place _ rfl
  cases place.element? with
  | none => exact .error _ _
  | some e => exact .ok rfl

/-- **A selector matches the same nodes** below linked handles. -/
theorem Twins.matched (ht : p.Twins q) {scope scope' : Option Handle}
    (hl : Option.Rel (p.tables q).Links scope scope') (selector : String) :
    Paired (· = ·) (matched scope selector p) (matched scope' selector q) := by
  unfold Page.matched
  rw [ht.opened_eq]
  cases q.opened with
  | error e => exact .error e e
  | ok u =>
    cases Css.Selector.parse selector with
    | error flaw => exact .error _ _
    | ok selectors =>
      cases hl with
      | none =>
        have hroot : p.root = q.root := ht.root_eq
        simp only [Except.bind, Except.map, hroot]
        exact .ok rfl
      | some hl =>
        have hlocated := ht.located hl
        simp only [Except.bind]
        generalize Page.located _ p = x at hlocated
        generalize Page.located _ q = y at hlocated
        cases hlocated with
        | error e e' => exact .error e e'
        | ok hplace =>
          subst hplace
          exact .ok rfl

namespace Op

theorem ensureOpen_twin : Twin (fun _ _ _ => True) L ensureOpen ensureOpen := by
  refine .of_reads ensureOpen_reads ensureOpen_reads fun p q ht _ => ?_
  rw [ht.opened_eq]
  cases q.opened with
  | error e => exact .error e e
  | ok u => exact .ok trivial

theorem locate_twin (hl : L.Links h k) : Twin (fun _ => (· = ·)) L (locate h) (locate k) :=
  .of_reads (locate_reads h) (locate_reads k) fun _ _ ht hle => ht.located (hl.mono hle)

theorem element_twin (hl : L.Links h k) : Twin (fun _ => (· = ·)) L (element h) (element k) :=
  .of_reads (element_reads h) (element_reads k) fun _ _ ht hle => ht.elementOf (hl.mono hle)

/-- **Selecting gives linked handles**, of the nodes that are matched on both pages. -/
theorem select_twin {scope scope' : Option Handle} (hl : Option.Rel L.Links scope scope')
    (selector : String) :
    Twin (fun M => List.Forall₂ M.Links) L (select scope selector) (select scope' selector) := by
  intro p q ht hle
  have hscope : Option.Rel (p.tables q).Links scope scope' := by
    cases hl with
    | none => exact .none
    | some hl => exact .some (hl.mono hle)
  have hsound := ht.sound.select scope selector
  have hsound' := ht.sound'.select scope' selector
  have hmatched := ht.matched hscope selector
  rw [select_run] at hsound hsound' ⊢
  rw [select_run]
  generalize matched scope selector p = x at hmatched hsound
  generalize matched scope' selector q = y at hmatched hsound'
  cases hmatched with
  | error e e' => exact ⟨ht, le_refl _, .error e e'⟩
  | @ok ids _ hids =>
    subst hids
    have hgrows := (nameAll_steady p ids).grows
    have hgrows' := (nameAll_steady q ids).grows
    refine ⟨ht.grow hgrows hgrows' hsound hsound', ?_, .ok ?_⟩
    · exact ⟨(Keeps.of_grows hgrows).handles, (Keeps.of_grows hgrows').handles⟩
    · exact Tables.linked_of_named (nameAll_names p ids) (nameAll_names q ids)

/-- A change that gives out no handles. -/
theorem modify_twin {f g : Page → Page}
    (hfg : ∀ p q, p.Twins q → L ≤ p.tables q →
      (f p).Twins (g q) ∧ (f p).tables (g q) = p.tables q) :
    Twin (fun _ _ _ => True) L (modify f) (modify g) := by
  intro p q ht hle
  obtain ⟨htwins, htables⟩ := hfg p q ht hle
  exact ⟨htwins, le_of_eq htables.symm, .ok trivial⟩

/-- Recording an event at an element. -/
theorem recordAt_twin {e e' : PageEvent} (hl : L.Links h k) (he : e.Links L e') :
    Twin (fun _ _ _ => True) L (recordAt h e) (recordAt k e') :=
  (locate_twin hl).bind fun _ _ _ hle _ =>
    modify_twin fun _ _ ht hle' => ⟨ht.record (he.mono (le_trans hle hle')), rfl⟩

end Op

/-! ### Acting -/

/-- A change that looks at no handle and leaves the tree alone. -/
theorem Twins.map_sameTree {f : Page → Page} (ht : p.Twins q) (hf : Handleless f)
    (hsame : ∀ p : Page, p.SameTree (f p)) : (f p).Twins (f q) :=
  ht.map hf ((hsame p).sound ht.sound) ((hsame q).sound ht.sound')

theorem activate_handleless (control : Place) : Handleless (activate · control) := by
  intro p
  dsimp only
  unfold activate
  split
  · rfl
  · split <;> rfl

theorem activate_sameTree (p : Page) (control : Place) : p.SameTree (p.activate control) := by
  obtain ⟨switched, h⟩ := p.activate_eq control
  rw [h]
  exact ⟨rfl, rfl, rfl, rfl⟩

/-- A click does the same to twins. -/
theorem Twins.clickedAt (ht : p.Twins q) (hl : (p.tables q).Links h k) (openInTab : Bool)
    (place : Place) : (clickedAt h openInTab place p).Twins (clickedAt k openInTab place q) ∧
      (clickedAt h openInTab place p).tables (clickedAt k openInTab place q) = p.tables q := by
  constructor
  · have hcontrol : p.controlOf? place = q.controlOf? place :=
      ht.congr (controlOf? · place) fun _ => rfl
    unfold Page.clickedAt
    rw [hcontrol]
    cases q.controlOf? place with
    | none => exact ht.record (.click openInTab hl)
    | some control =>
      have hactivated : (p.activate control).Twins (q.activate control) :=
        ht.map_sameTree (activate_handleless control) fun p => activate_sameTree p control
      refine hactivated.record (.click openInTab (hl.mono ?_))
      exact ⟨(activate_sameTree p control).keeps.handles,
        (activate_sameTree q control).keeps.handles⟩
  · unfold tables
    rw [(clickedAt_sameTree h openInTab place p).handles,
      (clickedAt_sameTree k openInTab place q).handles]

theorem Twins.concealed (ht : p.Twins q) (hl : (p.tables q).Links h k) (b : Bool) :
    (concealed h b p).Twins (concealed k b q) := by
  refine Twins.record (p := { p with
    hidden := if b then insertHandle h p.hidden else p.hidden.filter (· ≠ h) }) ?_ (.hidden b hl)
  refine ⟨ht.bare, SameTree.sound (p := p) ⟨rfl, rfl, rfl, rfl⟩ ht.sound,
    SameTree.sound (p := q) ⟨rfl, rfl, rfl, rfl⟩ ht.sound', ?_, ht.painted, ht.events⟩
  cases b with
  | true => exact ht.hidden.insert hl
  | false => exact ht.hidden.erase ht.sound.named ht.sound'.named hl

theorem Twins.outlined (ht : p.Twins q) (hl : (p.tables q).Links h k) (passed : Bool) :
    (outlined h passed p).Twins (outlined k passed q) := by
  refine Twins.record (p := { p with painted := p.painted ++ [(h, passed)] }) ?_
    (.painted passed hl)
  exact ⟨ht.bare, SameTree.sound (p := p) ⟨rfl, rfl, rfl, rfl⟩ ht.sound,
    SameTree.sound (p := q) ⟨rfl, rfl, rfl, rfl⟩ ht.sound', ht.hidden,
    List.rel_append ht.painted (.cons ⟨hl, rfl⟩ .nil), ht.events⟩

theorem Twins.shut (ht : p.Twins q) : p.shut.Twins q.shut ∧ p.shut.tables q.shut = p.tables q := by
  constructor
  · unfold Page.shut
    rw [ht.closed_eq]
    split
    · exact ht
    · refine Twins.record (ht.map_sameTree
        (f := fun p => { p with
          closed := true, mailboxes := p.mailboxes.map fun m => { m with connected := false } })
        ?_ ?_) .closed
      · exact fun _ => rfl
      · exact fun _ => ⟨rfl, rfl, rfl, rfl⟩
  · unfold tables
    rw [p.shut_sameTree.handles, q.shut_sameTree.handles]

/-! ### Calls -/

end Page

/-- **Calls that are the same** but for the numbers of handles. -/
inductive Call.Links (L : Tables) : Call → Call → Prop where
  | query {scope scope' : Option Handle} (selector : String) :
      Option.Rel L.Links scope scope' → Links L (.query scope selector) (.query scope' selector)
  | text {h k : Handle} : L.Links h k → Links L (.text h) (.text k)
  | style {h k : Handle} (property : String) :
      L.Links h k → Links L (.style h property) (.style k property)
  | rect {h k : Handle} : L.Links h k → Links L (.rect h) (.rect k)
  | nested {h k : Handle} : L.Links h k → Links L (.nested h) (.nested k)
  | isChecked {h k : Handle} : L.Links h k → Links L (.isChecked h) (.isChecked k)
  | scroll {h k : Handle} : L.Links h k → Links L (.scroll h) (.scroll k)
  | focus {h k : Handle} : L.Links h k → Links L (.focus h) (.focus k)
  | click {h k : Handle} (openInTab : Bool) :
      L.Links h k → Links L (.click h openInTab) (.click k openInTab)
  | pointer {h k : Handle} (phase : Phase) (point : Point) :
      L.Links h k → Links L (.pointer h phase point) (.pointer k phase point)
  | setHidden {h k : Handle} (b : Bool) : L.Links h k → Links L (.setHidden h b) (.setHidden k b)
  | paint {h k : Handle} (passed : Bool) : L.Links h k → Links L (.paint h passed) (.paint k passed)
  | showProgress (message : String) : Links L (.showProgress message) (.showProgress message)
  | hideProgress : Links L .hideProgress .hideProgress
  | close : Links L .close .close
  | observe : Links L .observe .observe

/-- **What calls yield is the same** but for the numbers of handles. -/
def Call.Yields (L : Tables) : (c d : Call) → c.Result → d.Result → Prop
  | .query .., .query .., hs, ks => List.Forall₂ L.Links hs ks
  | .text _, .text _, a, b => a = b
  | .style .., .style .., a, b => a = b
  | .rect _, .rect _, a, b => a = b
  | .nested _, .nested _, a, b => a = b
  | .isChecked _, .isChecked _, a, b => a = b
  | .observe, .observe, a, b => a = b
  | _, _, _, _ => True

namespace Page

variable {p p' q q' : Page} {L : Tables} {α β : Type}

open Op in
/-- **Twins answer calls that are linked alike**, and stay twins. -/
theorem answer_twin {c d : Call} (hl : c.Links L d) :
    Op.Twin (fun M => Call.Yields M c d) L (answer c) (answer d) := by
  cases hl with
  | query selector hscope => exact select_twin hscope selector
  | text hl =>
    refine (locate_twin hl).bind ?_
    rintro M place _ - rfl
    exact .pure fun _ _ => rfl
  | style property hl =>
    refine (element_twin hl).bind ?_
    rintro M e _ - rfl
    exact .pure fun _ _ => rfl
  | rect hl =>
    refine .of_reads ((locate_reads _).bind fun place => Reads.get.bind fun r =>
      Reads.pure (layout r place)) ((locate_reads _).bind fun place => Reads.get.bind fun r =>
      Reads.pure (layout r place)) fun p q ht hle => (ht.located (hl.mono hle)).bind ?_
    rintro place _ rfl
    exact .ok (ht.congr (layout · place) fun _ => rfl)
  | nested hl =>
    refine .of_reads ((locate_reads _).bind fun _ => Reads.get.bind fun r => Reads.pure r.nested)
      ((locate_reads _).bind fun _ => Reads.get.bind fun r => Reads.pure r.nested)
      fun p q ht hle => (ht.located (hl.mono hle)).bind ?_
    rintro place _ rfl
    exact .ok (ht.congr Page.nested fun _ => rfl)
  | isChecked hl =>
    refine .of_reads ((locate_reads _).bind fun place => Reads.get.bind fun r =>
      Reads.pure (r.isCheckedAt place)) ((locate_reads _).bind fun place => Reads.get.bind fun r =>
      Reads.pure (r.isCheckedAt place)) fun p q ht hle => (ht.located (hl.mono hle)).bind ?_
    rintro place _ rfl
    exact .ok (ht.isCheckedAt_eq place)
  | scroll hl => exact recordAt_twin hl (.scroll hl)
  | focus hl => exact recordAt_twin hl (.focus hl)
  | pointer phase point hl => exact recordAt_twin hl (.pointer phase point hl)
  | click openInTab hl =>
    refine (locate_twin hl).bind ?_
    rintro M place _ hle rfl
    exact modify_twin fun _ _ ht hle' => ht.clickedAt (hl.mono (le_trans hle hle')) openInTab place
  | setHidden b hl =>
    refine (locate_twin hl).bind fun _ _ _ hle _ => ?_
    exact modify_twin fun _ _ ht hle' => ⟨ht.concealed (hl.mono (le_trans hle hle')) b, rfl⟩
  | paint passed hl =>
    refine (locate_twin hl).bind fun _ _ _ hle _ => ?_
    exact modify_twin fun _ _ ht hle' => ⟨ht.outlined (hl.mono (le_trans hle hle')) passed, rfl⟩
  | showProgress message =>
    refine ensureOpen_twin.bind fun _ _ _ _ _ => modify_twin fun p q ht _ => ⟨?_, rfl⟩
    have hset := ht.map_sameTree (f := fun p => { p with progress := some message }) (fun _ => rfl)
      fun _ => ⟨rfl, rfl, rfl, rfl⟩
    exact hset.record (.progress message)
  | hideProgress =>
    refine ensureOpen_twin.bind fun _ _ _ _ _ => modify_twin fun p q ht _ => ⟨?_, rfl⟩
    have hset := ht.map_sameTree (f := fun p => { p with progress := none }) (fun _ => rfl)
      fun _ => ⟨rfl, rfl, rfl, rfl⟩
    exact hset.record .progressHidden
  | close => exact modify_twin fun _ _ ht _ => ht.shut
  | observe =>
    refine .modifyGet fun p q ht _ => ⟨?_, le_refl _, ?_⟩
    · exact ht.map_sameTree
        (f := fun p => { p with mailboxes := p.mailboxes ++ [{ connected := ! p.closed }] })
        (fun _ => rfl) fun _ => ⟨rfl, rfl, rfl, rfl⟩
    · exact congrArg (fun ms : List Mailbox => (⟨ms.length⟩ : Observer)) ht.mailboxes_eq

/-! ### Changes by others -/

namespace Op

variable {R : Tables → α → β → Prop}

/-- Changing an element that is looked for first: it stands in both pages. -/
theorem changeAt_twin {h k : Handle} (hl : L.Links h k) {f : Place → Page → α × Page}
    {g : Place → Page → β × Page} (hfg : ∀ p q place, p.Twins q → L ≤ p.tables q →
      place ∈ p.places → (f place p).2.Twins (g place q).2 ∧
        p.tables q ≤ (f place p).2.tables (g place q).2 ∧
          R ((f place p).2.tables (g place q).2) (f place p).1 (g place q).1) :
    Twin R L (do let place ← locate h; modifyGet (f place))
      (do let place ← locate k; modifyGet (g place)) := by
  intro p q ht hle
  rw [run_bind, run_bind, locate_reads h p, locate_reads k q]
  dsimp only
  have hlocated := ht.located (hl.mono hle)
  generalize hplace : located h p = x at hlocated
  generalize located k q = y at hlocated
  cases hlocated with
  | error e e' => exact ⟨ht, le_refl _, .error e e'⟩
  | ok hsame =>
    subst hsame
    obtain ⟨htwins, hgrow, hab⟩ := hfg p q _ ht hle (located_mem hplace)
    exact ⟨htwins, hgrow, .ok hab⟩

end Op

theorem Twins.places_eq (ht : p.Twins q) : p.places = q.places := by
  unfold places
  rw [ht.root_eq]

open Op in
/-- **Appending does the same to twins.** -/
theorem append_twin (parent : String) (trees : List Tree) :
    Op.Twin (fun _ => (· = ·)) L (append parent trees) (append parent trees) := by
  refine (select_twin .none parent).bind fun M hs ks _ hlinked => ?_
  cases hlinked with
  | nil => exact .throw _ _
  | @cons h k hs ks hl =>
    refine changeAt_twin hl fun p q place ht _ hplace => ⟨?_, le_refl _, ?_⟩
    · exact ht.map (f := fun p => notify { p with
          root := p.root.appendTo place.id (Tree.numberAll p.nextId trees).1
          nextId := (Tree.numberAll p.nextId trees).2 }
          ((Tree.numberAll p.nextId trees).2 - p.nextId))
        (fun _ => rfl) (ht.sound.appended hplace trees _)
        (ht.sound'.appended (ht.places_eq ▸ hplace) trees _)
    · dsimp only
      rw [ht.nextId_eq]

/-- Linked handles are those of the same nodes. -/
theorem filterMap_handles {hs ks : List Handle} (hl : List.Forall₂ (p.tables q).Links hs ks) :
    (hs.filterMap fun h => p.handles[h.id]?) = ks.filterMap fun k => q.handles[k.id]? := by
  induction hl with
  | nil => rfl
  | cons hlink _ ih =>
    obtain ⟨id, hleft, hright⟩ := hlink
    rw [List.filterMap_cons_some (f := fun h : Handle => p.handles[h.id]?) hleft,
      List.filterMap_cons_some (f := fun k : Handle => q.handles[k.id]?) hright, ih]

open Op in
/-- **Taking elements out does the same to twins.** -/
theorem remove_twin (selector : String) :
    Op.Twin (fun _ => (· = ·)) L (remove selector) (remove selector) := by
  refine (select_twin .none selector).bind fun M hs ks _ hlinked => ?_
  refine .modifyGet fun p q ht hle => ?_
  have hids := filterMap_handles (hlinked.imp fun _ _ hl => hl.mono hle)
  dsimp only
  rw [hids]
  generalize (ks.filterMap fun k : Handle => q.handles[k.id]?) = ids
  refine ⟨?_, ?_, rfl⟩
  · split
    · exact ht.map (f := fun p => { p with root := p.root.without ids }) (fun _ => rfl)
        (ht.sound.withdrawn ids _) (ht.sound'.withdrawn ids _)
    · exact ht.map (f := fun p => notify { p with root := p.root.without ids } ids.length)
        (fun _ => rfl) (ht.sound.withdrawn ids _) (ht.sound'.withdrawn ids _)
  · split <;> exact le_refl _

/-- Clicks the first element a selector matches, if it matches any. -/
def clickFirst (selector : String) : Op (Option Handle) := do
  match ← select none selector with
  | [] => return none
  | h :: _ =>
    click h false
    return some h

open Op in
/-- **Clicking does the same to twins.** -/
theorem clickFirst_twin (selector : String) :
    Op.Twin (fun M => Option.Rel M.Links) L (clickFirst selector) (clickFirst selector) := by
  refine (select_twin .none selector).bind fun M hs ks _ hlinked => ?_
  cases hlinked with
  | nil => exact .pure fun _ _ => .none
  | @cons h k hs ks hl =>
    refine (answer_twin (.click false hl)).bind fun N _ _ hle _ => ?_
    exact .pure fun _ hle' => .some (hl.mono (le_trans hle hle'))

/-! ### Observers -/

theorem Twins.mailbox_eq (ht : p.Twins q) (o : Observer) : p.mailbox o = q.mailbox o :=
  ht.congr (mailbox · o) fun _ => rfl

theorem Twins.updateMailbox (ht : p.Twins q) (o : Observer) (f : Mailbox → Mailbox) :
    (p.updateMailbox o f).Twins (q.updateMailbox o f) :=
  ht.map_sameTree (fun _ => rfl) fun p => p.updateMailbox_sameTree o f

/-! ## A page is its own twin -/

/-- What a selector matches below a handle it matches below a place. -/
theorem located_of_matched {h : Handle} {selector : String} {ids : List Nat}
    (hm : matched (some h) selector p = .ok ids) : ∃ place, located h p = .ok place := by
  unfold matched at hm
  dsimp only at hm
  cases hplace : located h p with
  | ok place => exact ⟨place, rfl⟩
  | error e =>
    rw [hplace] at hm
    cases hopen : p.opened with
    | error e =>
      rw [hopen] at hm
      cases hm
    | ok u =>
      rw [hopen] at hm
      cases hsel : Css.Selector.parse selector with
      | error flaw =>
        rw [hsel] at hm
        cases hm
      | ok selectors =>
        rw [hsel] at hm
        cases hm

/-- A handle that was given out is linked to itself. -/
theorem links_self {h : Handle} (hh : h.id < p.handles.length) : (p.tables p).Links h h :=
  ⟨p.handles[h.id], List.getElem?_eq_getElem hh, List.getElem?_eq_getElem hh⟩

/-- A call about a handle that was given out is linked to itself. -/
theorem call_links_self {c : Call} (hc : ∀ h, c.about? = some h → h.id < p.handles.length) :
    c.Links (p.tables p) c := by
  cases c with
  | query scope selector =>
    refine .query selector ?_
    cases scope with
    | none => exact .none
    | some h => exact .some (links_self (hc h rfl))
  | text h => exact .text (links_self (hc h rfl))
  | style h property => exact .style property (links_self (hc h rfl))
  | rect h => exact .rect (links_self (hc h rfl))
  | nested h => exact .nested (links_self (hc h rfl))
  | isChecked h => exact .isChecked (links_self (hc h rfl))
  | scroll h => exact .scroll (links_self (hc h rfl))
  | focus h => exact .focus (links_self (hc h rfl))
  | click h openInTab => exact .click openInTab (links_self (hc h rfl))
  | pointer h phase point => exact .pointer phase point (links_self (hc h rfl))
  | setHidden h b => exact .setHidden b (links_self (hc h rfl))
  | paint h passed => exact .paint passed (links_self (hc h rfl))
  | showProgress message => exact .showProgress message
  | hideProgress => exact .hideProgress
  | close => exact .close
  | observe => exact .observe

/-- A call about any other handle comes to nothing. -/
theorem perform_of_unknown {c : Call} {h : Handle} (hc : c.about? = some h)
    (hh : ¬ h.id < p.handles.length) : (p.perform c).2 = p := by
  have hnone : p.place? h = none := by
    unfold place?
    rw [List.getElem?_eq_none (Nat.le_of_not_lt hh)]
    rfl
  have hlocated : ∀ place, located h p ≠ .ok place := by
    intro place hplace
    rw [(located_eq_ok.1 hplace).2] at hnone
    cases hnone
  rcases perform_cases c p with hread | rfl | ⟨e, -, hfails⟩ | ⟨p', a, hmade, hmakes⟩
  · rcases perform_read hread p with ⟨scope, selector, rfl⟩ | hsame
    · obtain rfl : scope = some h := hc
      change ((select (some h) selector).run.run p).2 = p
      rw [select_run]
      cases hm : matched (some h) selector p with
      | error e => rfl
      | ok ids =>
        obtain ⟨place, hplace⟩ := located_of_matched hm
        exact absurd hplace (hlocated place)
    · exact hsame
  · cases hc
  · rw [hfails]
  · rw [hmakes]
    cases c with
    | scroll | focus | click | pointer | setHidden | paint =>
      cases hc
      rw [effect] at hmade
      obtain ⟨place, hplace, -⟩ := altered_eq_ok hmade
      exact absurd hplace (hlocated place)
    | query | text | style | rect | nested | isChecked | observe =>
      cases hmade
      rfl
    | showProgress | hideProgress | close => cases hc

/-- **Every page that can come to be is its own twin**: what it recorded it recorded of handles that
it had given out. -/
theorem Reached.twins (h : p.Reached) : p.Twins p := by
  induction h with
  | ofTree t nested =>
    exact ⟨rfl, sound_ofTree t nested, sound_ofTree t nested,
      ⟨fun _ hh => absurd hh List.not_mem_nil, fun _ hk => absurd hk List.not_mem_nil⟩, .nil, .nil⟩
  | @step p p' _ hstep ih =>
    cases hstep with
    | perform c =>
      by_cases hc : ∀ h, c.about? = some h → h.id < p.handles.length
      · exact (answer_twin (call_links_self hc) p p ih (le_refl _)).twins
      · simp only [not_forall] at hc
        obtain ⟨h, habout, hh⟩ := hc
        rw [perform_of_unknown habout hh]
        exact ih
    | append parent trees => exact (append_twin parent trees p p ih (le_refl _)).twins
    | remove selector => exact (remove_twin selector p p ih (le_refl _)).twins
    | receive o =>
      unfold receive
      dsimp only
      split
      · exact ih
      · split
        · exact ih.updateMailbox o _
        · exact ih
    | drain o => exact ih.updateMailbox o _
    | drop o => exact ih.updateMailbox o _
    | checkedAll selector =>
      rcases checkedAll_eq selector p with h | h
      · rw [h]
        exact (Op.select_twin .none selector p p ih (le_refl _)).twins
      · rw [h]
        exact ih

end Page
end ConsentWalker
