import ConsentWalker.Page.Call
/-!
# Page — handles given out

Reading from a page gives out handles and changes nothing else: the page `Grows`. Reading again from
a page that has grown since answers the same and gives out no more (`SteadyAt`), as long as the
question is about handles that had been given out (`perform_steady`).
-/

namespace ConsentWalker
namespace Page

/-- **A page that gave out more handles**, and is the same otherwise. -/
def Grows (p p' : Page) : Prop := ∃ more, p' = { p with handles := p.handles ++ more }

namespace Grows

variable {p p' p₁ p₂ : Page}

theorem refl (p : Page) : p.Grows p := ⟨[], by rw [List.append_nil]⟩

theorem trans (h₁ : p.Grows p₁) (h₂ : p₁.Grows p₂) : p.Grows p₂ := by
  obtain ⟨more₁, rfl⟩ := h₁
  obtain ⟨more₂, rfl⟩ := h₂
  exact ⟨more₁ ++ more₂, by rw [List.append_assoc]⟩

theorem closed_eq (h : p.Grows p') : p'.closed = p.closed := by
  obtain ⟨more, rfl⟩ := h
  rfl

theorem mailboxes_eq (h : p.Grows p') : p'.mailboxes = p.mailboxes := by
  obtain ⟨more, rfl⟩ := h
  rfl

theorem mailbox_eq (h : p.Grows p') (o : Observer) : p'.mailbox o = p.mailbox o := by
  obtain ⟨more, rfl⟩ := h
  rfl

/-- A page that grows knows no fewer handles. -/
theorem length_le (h : p.Grows p') : p.handles.length ≤ p'.handles.length := by
  obtain ⟨more, rfl⟩ := h
  simp

/-- A handle that was given out denotes what it did. -/
theorem place?_eq (hg : p.Grows p') {h : Handle} (hh : h.id < p.handles.length) :
    p'.place? h = p.place? h := by
  obtain ⟨more, rfl⟩ := hg
  unfold place?
  rw [List.getElem?_append_left hh]

end Grows

/-! ## Steady answers -/

variable {α β : Type} {p : Page}

/-- **A question that is steady at a page** lets it grow, and is answered the same ever after, which
gives out no more handles. -/
structure SteadyAt (f : Page → α × Page) (p : Page) : Prop where
  grows : p.Grows (f p).2
  again : ∀ p', (f p).2.Grows p' → f p' = ((f p).1, p')

namespace SteadyAt

/-- What is read off a page that stays as it is. -/
theorem of_pure {f : Page → α} (hf : ∀ p', p.Grows p' → f p' = f p) :
    SteadyAt (fun p => (f p, p)) p :=
  ⟨.refl p, fun p' hg => by rw [hf p' hg]⟩

/-- What is made of an answer is as steady as the answer. -/
theorem map {f : Page → α × Page} (hf : SteadyAt f p) (g : α → β) :
    SteadyAt (fun p => (g (f p).1, (f p).2)) p :=
  ⟨hf.grows, fun p' hp' => by rw [hf.again p' hp']⟩

/-- One question after another. -/
theorem bind {f : Page → α × Page} {g : α → Page → β × Page} (hf : SteadyAt f p)
    (hg : SteadyAt (g (f p).1) (f p).2) : SteadyAt (fun p => g (f p).1 (f p).2) p := by
  refine ⟨hf.grows.trans hg.grows, fun p' hp' => ?_⟩
  have hfirst := hf.again p' (hg.grows.trans hp')
  rw [hfirst]
  exact hg.again p' hp'

end SteadyAt

/-! ## Naming -/

/-- The position of a number among handles, once some are appended. -/
theorem idxOf?_append (ids more : List Nat) (id : Nat) :
    (ids ++ more).idxOf? id =
      (ids.idxOf? id).or ((more.idxOf? id).map fun i => i + ids.length) :=
  List.findIdx?_append

/-- **Naming a node gives it a handle once and for all.** -/
theorem name_steady (p : Page) (id : Nat) : SteadyAt (name · id) p := by
  cases hi : p.handles.idxOf? id with
  | some i =>
    have hname : p.name id = (⟨i⟩, p) := by
      unfold name
      rw [hi]
    refine ⟨hname ▸ .refl p, ?_⟩
    rw [hname]
    rintro p' ⟨more, rfl⟩
    unfold name
    rw [idxOf?_append, hi]
    rfl
  | none =>
    have hname : p.name id = (⟨p.handles.length⟩, { p with handles := p.handles ++ [id] }) := by
      unfold name
      rw [hi]
    refine ⟨hname ▸ ⟨[id], rfl⟩, ?_⟩
    rw [hname]
    rintro p' ⟨more, rfl⟩
    unfold name
    rw [idxOf?_append, idxOf?_append, hi]
    simp [List.idxOf?_cons]

/-- A name that was given denotes a number. -/
theorem name_lt (p : Page) (id : Nat) : (p.name id).1.id < (p.name id).2.handles.length := by
  unfold name
  cases hi : p.handles.idxOf? id with
  | some i => exact (List.idxOf?_eq_some_iff.1 hi).1
  | none => simp

theorem nameAll_steady (p : Page) (ids : List Nat) : SteadyAt (nameAll · ids) p := by
  induction ids generalizing p with
  | nil => exact .of_pure fun _ _ => rfl
  | cons id ids ih =>
    exact (name_steady p id).bind (g := fun h p => ((h :: (p.nameAll ids).1), (p.nameAll ids).2))
      ((ih _).map _)

/-- Names that are given out are known from then on. -/
theorem nameAll_lt (p : Page) (ids : List Nat) :
    ∀ h ∈ (p.nameAll ids).1, h.id < (p.nameAll ids).2.handles.length := by
  induction ids generalizing p with
  | nil => simp [nameAll]
  | cons id ids ih =>
    intro h hmem
    rcases List.mem_cons.1 hmem with rfl | hmem
    · have hgrows := (nameAll_steady (p.name id).2 ids).grows
      exact Nat.lt_of_lt_of_le (name_lt p id) hgrows.length_le
    · exact ih _ h hmem

/-! ## Reading -/

/-- Operations one after another: the first fails and nothing else is done, or it does not. -/
theorem run_bind (op : Op α) (k : α → Op β) (p : Page) :
    (op >>= k).run.run p =
      match (op.run.run p).1 with
      | .ok a => (k a).run.run (op.run.run p).2
      | .error e => (.error e, (op.run.run p).2) := by
  change (ExceptT.bindCont k (op.run.run p).1).run (op.run.run p).2 = _
  cases (op.run.run p).1 <;> rfl

/-- An operation that **only reads**: its answer, read off the page. -/
def Reads (op : Op α) (f : Page → Except PageError α) : Prop := ∀ p, op.run.run p = (f p, p)

namespace Reads

theorem pure (a : α) : Reads (Pure.pure a : Op α) fun _ => .ok a := fun _ => rfl

theorem get : Reads (MonadState.get : Op Page) .ok := fun _ => rfl

theorem bind {op : Op α} {k : α → Op β} {f : Page → Except PageError α}
    {g : α → Page → Except PageError β} (hop : Reads op f) (hk : ∀ a, Reads (k a) (g a)) :
    Reads (op >>= k) fun p => (f p).bind fun a => g a p := by
  intro p
  rw [run_bind, hop p]
  dsimp only
  cases f p with
  | ok a => exact hk a p
  | error e => rfl

end Reads

/-- Whether a page is open. -/
def opened (p : Page) : Except PageError Unit := if p.closed then .error .closed else .ok ()

theorem ensureOpen_reads : Reads ensureOpen opened := by
  intro p
  unfold ensureOpen opened
  rw [run_bind]
  cases hc : p.closed <;> simp [hc, Reads.get p] <;> rfl

/-- The place of a handle, as far as it can be told. -/
def located (h : Handle) (p : Page) : Except PageError Place :=
  p.opened.bind fun _ =>
    match p.place? h with
    | some place => .ok place
    | none => .error (.stale h)

theorem locate_reads (h : Handle) : Reads (locate h) (located h) := by
  refine ensureOpen_reads.bind fun _ => Reads.get.bind (g := fun q _ => match q.place? h with
    | some place => .ok place
    | none => .error (.stale h)) fun q p => ?_
  cases q.place? h <;> rfl

/-- The element of a handle, as far as it can be told. -/
def elementOf (h : Handle) (p : Page) : Except PageError Element :=
  (located h p).bind fun place =>
    match place.element? with
    | some e => .ok e
    | none => .error (.stale h)

theorem element_reads (h : Handle) : Reads (element h) (elementOf h) := by
  refine (locate_reads h).bind fun place p => ?_
  cases place.element? <;> rfl

/-- The numbers of what a selector matches below a place, as far as they can be told. -/
def matched (scope : Option Handle) (selector : String) (p : Page) : Except PageError (List Nat) :=
  p.opened.bind fun _ =>
    match Css.Selector.parse selector with
    | .error flaw => .error (.invalidSelector selector flaw.message)
    | .ok selectors =>
      let origin : Except PageError Place :=
        match scope with
        | some h => located h p
        | none => .ok (.root p.root)
      origin.map fun origin => (origin.below.filter (Css.selects selectors)).map Place.id

/-- **A selection names what a selector matches**, and does nothing else. -/
theorem select_run (scope : Option Handle) (selector : String) (p : Page) :
    (select scope selector).run.run p =
      match matched scope selector p with
      | .ok ids => (.ok (p.nameAll ids).1, (p.nameAll ids).2)
      | .error e => (.error e, p) := by
  unfold select matched
  rw [run_bind, ensureOpen_reads p]
  dsimp only
  cases p.opened with
  | error e => rfl
  | ok u =>
    cases hsel : Css.Selector.parse selector with
    | error flaw => rfl
    | ok selectors =>
      cases scope with
      | none => rfl
      | some h =>
        dsimp only
        rw [run_bind, locate_reads h p]
        dsimp only
        cases located h p <;> rfl

/-! ### Reading from a page that has grown -/

namespace Grows

variable {p' : Page}

theorem opened_eq (hg : p.Grows p') : p'.opened = p.opened := by
  unfold opened
  rw [hg.closed_eq]

/-- A known handle is located alike on a page that has grown. -/
theorem located_eq (hg : p.Grows p') {h : Handle} (hh : h.id < p.handles.length) :
    located h p' = located h p := by
  unfold located
  rw [hg.opened_eq, hg.place?_eq hh]

theorem elementOf_eq (hg : p.Grows p') {h : Handle} (hh : h.id < p.handles.length) :
    elementOf h p' = elementOf h p := by
  unfold elementOf
  rw [hg.located_eq hh]

/-- What matches below a known element does so alike on a page that has grown. -/
theorem matched_eq (hg : p.Grows p') {scope : Option Handle}
    (hscope : ∀ h, scope = some h → h.id < p.handles.length) (selector : String) :
    matched scope selector p' = matched scope selector p := by
  unfold matched
  rw [hg.opened_eq]
  cases scope with
  | none =>
    obtain ⟨more, rfl⟩ := hg
    rfl
  | some h =>
    dsimp only
    rw [hg.located_eq (hscope h rfl)]

end Grows

end Page

/-- The element a call is about. -/
def Call.about? : Call → Option Handle
  | .query scope _ => scope
  | .text h | .style h _ | .rect h | .nested h | .isChecked h => some h
  | .scroll h | .focus h | .click h _ | .pointer h _ _ | .setHidden h _ | .paint h _ => some h
  | .showProgress _ | .hideProgress | .close | .observe => none

namespace Page

/-- Asking for matches a second time gives out no more handles. -/
theorem select_steady {scope : Option Handle} {selector : String} {p : Page}
    (hscope : ∀ h, scope = some h → h.id < p.handles.length) :
    SteadyAt (fun p => (select scope selector).run.run p) p := by
  cases hm : matched scope selector p with
  | ok ids =>
    have hrun : (select scope selector).run.run p =
        (.ok (p.nameAll ids).1, (p.nameAll ids).2) := by
      rw [select_run, hm]
    have hsteady := nameAll_steady p ids
    refine ⟨hrun ▸ hsteady.grows, ?_⟩
    rw [hrun]
    intro p' hg
    rw [select_run, (hsteady.grows.trans hg).matched_eq hscope, hm]
    dsimp only
    rw [hsteady.again p' hg]
  | error e =>
    have hrun : (select scope selector).run.run p = (.error e, p) := by
      rw [select_run, hm]
    refine ⟨hrun ▸ .refl p, ?_⟩
    rw [hrun]
    intro p' hg
    rw [select_run, hg.matched_eq hscope, hm]

/-- **A question about a handle that was given out is steady.** -/
theorem perform_steady {c : Call} (hc : c.isRead = true) {p : Page}
    (hh : ∀ h, c.about? = some h → h.id < p.handles.length) : SteadyAt (perform · c) p := by
  have reads : ∀ {f : Page → Except PageError c.Result}, Reads (answer c) f →
      (∀ p', p.Grows p' → f p' = f p) → SteadyAt (perform · c) p := by
    intro f hf hsame
    have heq : (perform · c) = fun p => (f p, p) := funext hf
    rw [heq]
    exact .of_pure hsame
  cases c with
  | query scope selector => exact select_steady hh
  | text h =>
    refine reads ((locate_reads h).bind fun place => Reads.pure _) fun p' hg => ?_
    rw [hg.located_eq (hh h rfl)]
  | style h property =>
    refine reads ((element_reads h).bind fun e => Reads.pure _) fun p' hg => ?_
    rw [hg.elementOf_eq (hh h rfl)]
  | rect h | nested h | isChecked h =>
    refine reads ((locate_reads h).bind fun place => Reads.get.bind fun q => Reads.pure _)
      fun p' hg => ?_
    rw [hg.located_eq (hh h rfl)]
    obtain ⟨more, rfl⟩ := hg
    rfl
  | _ => cases hc

/-- What reads is a query, or leaves the page as it is. -/
theorem perform_read {c : Call} (hc : c.isRead = true) (p : Page) :
    (∃ scope selector, c = .query scope selector) ∨ (p.perform c).2 = p := by
  have reads : ∀ {f : Page → Except PageError c.Result}, Reads (answer c) f →
      (p.perform c).2 = p := by
    intro f hf
    have hsame : p.perform c = (f p, p) := hf p
    rw [hsame]
  cases c with
  | query scope selector => exact .inl ⟨scope, selector, rfl⟩
  | text h => exact .inr (reads ((locate_reads h).bind fun place => Reads.pure _))
  | style h property => exact .inr (reads ((element_reads h).bind fun e => Reads.pure _))
  | rect h | nested h | isChecked h =>
    exact .inr (reads ((locate_reads h).bind fun place => Reads.get.bind fun q => Reads.pure _))
  | _ => cases hc

/-- Reading gives out handles at most, also about elements that are not there. -/
theorem perform_grows {c : Call} (hc : c.isRead = true) (p : Page) : p.Grows (p.perform c).2 := by
  rcases perform_read hc p with ⟨scope, selector, rfl⟩ | hsame
  · change p.Grows ((select scope selector).run.run p).2
    rw [select_run]
    cases matched scope selector p with
    | ok ids => exact (nameAll_steady p ids).grows
    | error e => exact .refl p
  · rw [hsame]
    exact .refl p

/-- What a selection finds it has given handles. -/
theorem select_lt {scope : Option Handle} {selector : String} {p : Page} {hs : List Handle}
    (h : ((select scope selector).run.run p).1 = .ok hs) :
    ∀ k ∈ hs, k.id < ((select scope selector).run.run p).2.handles.length := by
  rw [select_run] at h ⊢
  cases hm : matched scope selector p with
  | ok ids =>
    rw [hm] at h
    cases h
    exact nameAll_lt p ids
  | error e =>
    rw [hm] at h
    cases h

end Page
end ConsentWalker
