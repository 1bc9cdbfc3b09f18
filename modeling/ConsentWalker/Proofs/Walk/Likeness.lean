import ConsentWalker.Proofs.Page.Outlines
import ConsentWalker.Proofs.Walk.Alone
import ConsentWalker.Proofs.Walk.Consenting
import ConsentWalker.Proofs.Walk.Custody
/-!
# Walk — worlds that are alike but for the outlines

A routine comes to the same in worlds whose pages are alike but for the outlines (`Alike.alone`). So
does who looks for an element again: nothing a step does changes where a query leads, so the second
look finds what the first has found, and gives out no handles (`Lookup.Finds.again`). That is why an
element can be outlined after its question was answered, and nothing else comes of it
(`Matcher.outline_after`).
-/

namespace ConsentWalker

/-! ## Worlds that are alike -/

namespace World

variable {α : Type} {w w' : World} {r : Routine α}

/-- **Worlds without faults whose pages are alike** but for the outlines. -/
structure Alike (w w' : World) : Prop where
  page : w.page.Alike w'.page
  planned : w.faults.planned = []
  planned' : w'.faults.planned = []

theorem Alike.perform (h : w.Alike w') (c : Call) :
    (w.perform c).1 = (w'.perform c).1 ∧ (w.perform c).2.Alike (w'.perform c).2 := by
  obtain ⟨hanswer, hpage, hplanned⟩ := perform_eq h.planned c
  obtain ⟨hanswer', hpage', hplanned'⟩ := perform_eq h.planned' c
  obtain ⟨hsame, halike⟩ := h.page.perform c
  refine ⟨by rw [hanswer, hanswer', hsame], ⟨?_, hplanned, hplanned'⟩⟩
  rw [hpage, hpage']
  exact halike

theorem Alike.drop (h : w.Alike w') (o : Observer) : (w.drop o).Alike (w'.drop o) :=
  ⟨congrArg (Page.drop · o) h.page, h.planned, h.planned'⟩

/-- **Collecting comes to the same** in worlds that are alike. -/
theorem Alike.collect? (h : w.Alike w') (o : Observer) :
    (w.collect? o = none ∧ w'.collect? o = none) ∨ ∃ records w₁ w₁',
      w.collect? o = some (records, w₁) ∧ w'.collect? o = some (records, w₁') ∧ w₁.Alike w₁' := by
  have hbox : w.page.mailbox o = w'.page.mailbox o := h.page.congr (Page.mailbox · o) fun _ => rfl
  rcases collect?_agree hbox with hnone | ⟨records, ⟨hsome, hsome'⟩ | ⟨hsome, hsome'⟩⟩
  · exact .inl hnone
  · exact .inr ⟨records, w, w', hsome, hsome', h⟩
  · refine .inr ⟨records, _, _, hsome, hsome', ⟨?_, h.planned, h.planned'⟩⟩
    exact congrArg (fun p => (Page.drain p o).2) h.page

/-- **A routine comes to the same in worlds that are alike**, and leaves them so. -/
theorem Alike.alone (h : w.Alike w') (r : Routine α) :
    (alone r w).1 = (alone r w').1 ∧ (alone r w).2.Alike (alone r w').2 := by
  induction r generalizing w w' with
  | done a => exact ⟨rfl, h⟩
  | call c next ih =>
    obtain ⟨hanswer, halike⟩ := h.perform c
    have hrest := ih (w.perform c).1 halike
    unfold World.alone
    dsimp only
    rw [← hanswer]
    exact hrest
  | note n next ih =>
    have htold : (w.tell n).Alike (w'.tell n) := ⟨h.page, h.planned, h.planned'⟩
    exact ih htold
  | sleep d next ih =>
    have hlater : World.Alike { w with clock := w.clock + d } { w' with clock := w'.clock + d } :=
      ⟨h.page, h.planned, h.planned'⟩
    exact ih hlater
  | pause next ih => exact ih h
  | await o next ih =>
    rcases h.collect? o with ⟨hnone, hnone'⟩ | ⟨records, w₁, w₁', hsome, hsome', halike⟩
    · rw [alone_await_none hnone, alone_await_none hnone']
      exact ih none h
    · rw [alone_await_some hsome, alone_await_some hsome']
      exact ih records halike
  | drop o next ih => exact ih (h.drop o)
  | report v next ih =>
    have hseen : (w.sight v).Alike (w'.sight v) := ⟨h.page, h.planned, h.planned'⟩
    exact ih hseen

/-- **Where nobody else acts the tree is left alone**, and the page stays sound. -/
theorem alone_keeps (r : Routine α) (hp : w.page.Sound) :
    w.page.Keeps (alone r w).2.page ∧ (alone r w).2.page.Sound := by
  refine alone_preserves (P := fun w₁ => w.page.Keeps w₁.page ∧ w₁.page.Sound) ?_ (fun _ _ h => h) r
    ⟨.refl _, hp⟩
  rintro a w₁ w₂ ⟨hkeeps, hsound⟩ hm
  cases hm with
  | call c =>
    rcases w₁.perform_or c with ⟨e, faults, h⟩ | ⟨faults, h⟩
    · rw [h]
      exact ⟨hkeeps, hsound⟩
    · rw [h]
      exact ⟨hkeeps.trans (Page.perform_keeps c _), hsound.perform c⟩
  | @collect o _ _ h =>
    rcases collect?_cases h with rfl | rfl
    · exact ⟨hkeeps, hsound⟩
    · have hsame := w₁.page.updateMailbox_sameTree o fun m => { m with queue := [] }
      exact ⟨hkeeps.trans hsame.keeps, hsame.sound hsound⟩
  | drop o =>
    have hsame := w₁.page.updateMailbox_sameTree o fun m => { m with queue := [], dropped := true }
    exact ⟨hkeeps.trans hsame.keeps, hsame.sound hsound⟩
  | note | rest | report => exact ⟨hkeeps, hsound⟩

/-- **Nothing that is done on a closed page changes it**, as long as observers are let alone. -/
theorem alone_of_closed (hr : r.Only Act.IsAside) (hw : w.faults.planned = [])
    (hclosed : w.page.closed = true) :
    (alone r w).2.page = w.page ∧ (alone r w).2.faults.planned = [] := by
  induction r generalizing w with
  | done a => exact ⟨rfl, hw⟩
  | call c next ih =>
    obtain ⟨-, hpage, hplanned⟩ := perform_eq hw c
    rw [Page.perform_of_closed hclosed (hr (.error .closed)).1] at hpage
    have hrest := ih (w.perform c).1 (hr _).2 hplanned (by rw [hpage]; exact hclosed)
    rw [hpage] at hrest
    exact hrest
  | note n next ih => exact ih (w := w.tell n) hr.2 hw hclosed
  | sleep d next ih => exact ih (w := { w with clock := w.clock + d }) hr.2 hw hclosed
  | pause next ih => exact ih hr.2 hw hclosed
  | await => exact absurd (hr none).1 id
  | drop => exact absurd hr.1 id
  | report v next ih => exact ih (w := w.sight v) hr.2 hw hclosed

end World

/-! ## Looking for an element again -/

/-- Whatever reads gives out handles at most. -/
theorem Routine.Only.readOn_grows {α : Type} {r : Routine α} (hr : r.Only Act.IsLook) (p : Page) :
    p.Grows (r.readOn p).2 := by
  induction r generalizing p with
  | done a => exact .refl p
  | call c next ih => exact (Page.perform_grows (hr (.error .closed)).1 p).trans (ih _ (hr _).2 _)
  | note n next ih => exact ih hr.2 p
  | sleep | pause | drop | report => exact absurd hr.1 id
  | await => exact absurd (hr none).1 id

namespace Page

variable {p q : Page}

/-- Which handles nodes get depends on those given out so far, and on nothing else. -/
theorem nameAll_congr (h : q.handles = p.handles) (ids : List Nat) :
    (q.nameAll ids).1 = (p.nameAll ids).1 ∧
      (q.nameAll ids).2.handles = (p.nameAll ids).2.handles := by
  induction ids generalizing p q with
  | nil => exact ⟨rfl, h⟩
  | cons id ids ih =>
    have hname : (q.name id).1 = (p.name id).1 ∧ (q.name id).2.handles = (p.name id).2.handles := by
      unfold name
      rw [h]
      cases p.handles.idxOf? id with
      | some i => exact ⟨rfl, h⟩
      | none => exact ⟨rfl, rfl⟩
    obtain ⟨hrest, hhandles⟩ := ih hname.2
    refine ⟨?_, hhandles⟩
    rw [nameAll, nameAll]
    dsimp only
    rw [hname.1, hrest]

/-- **Where elements stand is a matter of the tree**: it is told alike by pages with the same
one. -/
theorem SameTree.perform (h : p.SameTree q) (hclosed : q.closed = p.closed) {c : Call}
    (hc : c.isFind = true) :
    (q.perform c).1 = (p.perform c).1 ∧ (p.perform c).2.SameTree (q.perform c).2 ∧
      (q.perform c).2.closed = (p.perform c).2.closed := by
  have hopened : q.opened = p.opened := by
    unfold opened
    rw [hclosed]
  have hplace : ∀ k, q.place? k = p.place? k := fun k => by
    unfold place?
    rw [h.handles, h.root]
  have hlocated : ∀ k, located k q = located k p := fun k => by
    unfold located
    rw [hopened, hplace]
  have reads : ∀ {f : Page → Except PageError c.Result}, Reads (answer c) f → f q = f p →
      (q.perform c).1 = (p.perform c).1 ∧ (p.perform c).2.SameTree (q.perform c).2 ∧
        (q.perform c).2.closed = (p.perform c).2.closed := by
    intro f hf hsame
    have hp : p.perform c = (f p, p) := hf p
    have hq : q.perform c = (f q, q) := hf q
    rw [hp, hq]
    exact ⟨hsame, h, hclosed⟩
  cases c with
  | query scope selector =>
    have hmatched : matched scope selector q = matched scope selector p := by
      unfold matched
      rw [hopened]
      cases scope with
      | none =>
        dsimp only
        rw [h.root]
      | some k =>
        dsimp only
        rw [hlocated]
    change ((select scope selector).run.run q).1 = ((select scope selector).run.run p).1 ∧
      ((select scope selector).run.run p).2.SameTree ((select scope selector).run.run q).2 ∧
      ((select scope selector).run.run q).2.closed = ((select scope selector).run.run p).2.closed
    rw [select_run, select_run, hmatched]
    cases matched scope selector p with
    | error e => exact ⟨rfl, h, hclosed⟩
    | ok ids =>
      obtain ⟨hsame, hhandles⟩ := nameAll_congr h.handles ids
      have hgrows := (nameAll_steady p ids).grows
      have hgrows' := (nameAll_steady q ids).grows
      have hkeeps := Keeps.of_grows hgrows
      have hkeeps' := Keeps.of_grows hgrows'
      refine ⟨congrArg Except.ok hsame, ⟨?_, ?_, ?_, hhandles⟩, ?_⟩
      · exact hkeeps'.root.trans (h.root.trans hkeeps.root.symm)
      · exact hkeeps'.nextId.trans (h.nextId.trans hkeeps.nextId.symm)
      · exact hkeeps'.nested.trans (h.nested.trans hkeeps.nested.symm)
      · exact hgrows'.closed_eq.trans (hclosed.trans hgrows.closed_eq.symm)
  | text k =>
    refine reads ((locate_reads k).bind fun place => Reads.pure (Node.text place.node)) ?_
    rw [hlocated]
  | style k property =>
    refine reads ((element_reads k).bind fun e => Reads.pure (e.style property)) ?_
    unfold elementOf
    rw [hlocated]
  | rect k =>
    refine reads ((locate_reads k).bind fun place => Reads.get.bind fun q =>
      Reads.pure (layout q place)) ?_
    have hlayout : q.layout = p.layout := congrArg Sight.rect h.keeps.sight_eq
    rw [hlocated]
    change (located k p).bind (fun place => .ok (q.layout place)) = _
    rw [hlayout]
    rfl
  | nested k =>
    refine reads ((locate_reads k).bind fun _ => Reads.get.bind fun q => Reads.pure q.nested) ?_
    rw [hlocated]
    change (located k p).bind (fun _ => .ok q.nested) = _
    rw [h.nested]
    rfl
  | _ => cases hc

end Page

/-- What looks for elements comes to the same on pages with the same tree. -/
theorem Routine.Only.readOn_sameTree {α : Type} {r : Routine α} (hr : r.Only Act.IsFind)
    {p q : Page} (h : p.SameTree q) (hclosed : q.closed = p.closed) :
    (r.readOn q).1 = (r.readOn p).1 ∧ (r.readOn p).2.SameTree (r.readOn q).2 := by
  induction r generalizing p q with
  | done a => exact ⟨rfl, h⟩
  | call c next ih =>
    obtain ⟨hanswer, hsame, hclosed'⟩ := h.perform hclosed (hr (.error .closed)).1
    have hrest := ih (p.perform c).1 (hr _).2 hsame hclosed'
    rw [Routine.readOn, hanswer]
    exact hrest
  | note n next ih => exact ih hr.2 h hclosed
  | sleep | pause | drop | report => exact absurd hr.1 id
  | await => exact absurd (hr none).1 id

/-- **Who looks for an element again finds the same**, and is given no handle that there was not, as
long as the tree was left alone and the page is not closed meanwhile. -/
theorem Lookup.Finds.again {α : Type} {q : Lookup α} (hq : q.Finds) {p p' : Page}
    (hsteady : Page.SteadyAt q.run.readOn p) (hk : (q.run.readOn p).2.Keeps p')
    (hclosed : p'.closed = p.closed) : q.run.readOn p' = ((q.run.readOn p).1, p') := by
  -- a page that looks like the later one, and differs from the earlier one in its handles alone
  let grown : Page := { (q.run.readOn p).2 with handles := p'.handles }
  have hgrows : (q.run.readOn p).2.Grows grown := by
    obtain ⟨more, hmore⟩ := hk.handles
    exact ⟨more, by rw [hmore]⟩
  have hsame : grown.SameTree p' := ⟨hk.root, hk.nextId, hk.nested, rfl⟩
  have hclosed' : p'.closed = grown.closed := hclosed.trans hsteady.grows.closed_eq.symm
  have hagain := hsteady.again grown hgrows
  obtain ⟨hanswer, htree⟩ := Routine.Only.readOn_sameTree hq hsame hclosed'
  rw [hagain] at hanswer htree
  obtain ⟨more, hmore⟩ := Routine.Only.readOn_grows hq.looks p'
  have hnone : more = [] := by
    have hhandles := htree.handles
    rw [hmore] at hhandles
    exact List.append_cancel_left_eq .. ▸ (hhandles.trans (List.append_nil _).symm)
  refine Prod.ext hanswer ?_
  rw [hmore, hnone, List.append_nil]

/-! ## Outlining -/

section Outlining

variable {p p' : Page} {base : Option Handle} {m : Matcher} {q : Query}

/-- A base below which something is found was given out. -/
theorem Query.baseKnown_of_ok (hp : p.Sound) (hopen : p.closed = false) {found : Option Handle}
    (hok : ((q.target? base).run.readOn p).1 = .ok found) : BaseKnown p.handles.length base := by
  obtain ⟨-, -, hagree⟩ := Sight.target?_means hp hopen q base
  rw [hok] at hagree
  generalize hm : (do return (← p.sight.seek false q (p.origin base)).head? :
    Except PageError (Option Place)) = meant at hagree
  cases hagree with
  | ok _ =>
    obtain ⟨qs, hqs, -⟩ := Json.bind_eq_ok.1 hm
    obtain ⟨o, ho, -⟩ := Sight.seek_below _ _ _ _ qs hqs
    rintro h rfl
    obtain ⟨-, hid⟩ := Page.place?_eq_some (Page.located_eq_ok.1 ho).2
    exact (List.getElem?_eq_some_iff.1 hid).1

/-- What a query finds denotes a place. -/
theorem Query.denotes_of_ok (hp : p.Sound) (hopen : p.closed = false) {h : Handle}
    (hok : ((q.target? base).run.readOn p).1 = .ok (some h)) :
    ∃ place, ((q.target? base).run.readOn p).2.Denotes h place := by
  obtain ⟨-, -, hagree⟩ := Sight.target?_means hp hopen q base
  rw [hok] at hagree
  generalize (do return (← p.sight.seek false q (p.origin base)).head? :
    Except PageError (Option Place)) = meant at hagree
  cases hagree with
  | ok hfound => cases hfound with | some hd => exact ⟨_, hd⟩

/-- Reading the state of an element that is denoted does not fail, and leaves the page as it is. -/
theorem Matcher.state_onPage (m : Matcher) (hopen : p.closed = false) {h : Handle} {place : Place}
    (hd : p.Denotes h place) : ∃ b, (m.state h).run.readOn p = (.ok b, p) := by
  cases m with
  | css => exact ⟨true, rfl⟩
  | checkbox => exact ⟨_, isChecked_eq hopen hd⟩

/-- Putting a question leaves the page as looking for its element does. -/
theorem Matcher.holds_page (m : Matcher) (base : Option Handle) (p : Page) :
    ((m.holds base).run.readOn p).2 = ((m.target.target? base).run.readOn p).2 := by
  unfold holds
  rw [Lookup.readOn_bind]
  generalize (m.target.target? base).run.readOn p = r
  obtain ⟨_ | _ | h, p₁⟩ := r
  · rfl
  · rfl
  · cases m with
    | css => rfl
    | checkbox =>
      rcases Page.perform_read (c := .isChecked h) rfl p₁ with ⟨scope, selector, hquery⟩ | hsame
      · cases hquery
      · exact hsame

/-- A question that is answered has been put about an element, or about none. -/
theorem Matcher.target_of_holds {b : Bool} (hok : ((m.holds base).run.readOn p).1 = .ok b) :
    ∃ found, ((m.target.target? base).run.readOn p).1 = .ok found := by
  unfold holds at hok
  rw [Lookup.readOn_bind] at hok
  cases h : ((m.target.target? base).run.readOn p).1 with
  | ok found => exact ⟨found, rfl⟩
  | error e =>
    rw [h] at hok
    cases hok

/-- **Outlining after a question was answered** does not fail, and leaves an open page alike. -/
theorem Matcher.outline_after (hp : p.Sound) (hopen : p.closed = false) {b : Bool}
    (hok : ((m.holds base).run.readOn p).1 = .ok b)
    (hk : ((m.holds base).run.readOn p).2.Keeps p') (hopen' : p'.closed = false) (wanted : Bool) :
    ∃ p'', (m.outline base wanted).run.readOn p' = (.ok (), p'') ∧ p'.Alike p'' := by
  rw [m.holds_page base p] at hk
  obtain ⟨found, hfound⟩ := target_of_holds hok
  have hsteady := (m.target.target?_steady (Query.baseKnown_of_ok hp hopen hfound) p
    (Nat.le_refl _)).1
  have hagain := (m.target.target?_finds base).again hsteady hk (hopen'.trans hopen.symm)
  rw [hfound] at hagain
  unfold outline
  rw [Lookup.readOn_bind, hagain]
  cases found with
  | none => exact ⟨p', rfl, .refl p'⟩
  | some h =>
    obtain ⟨place, hd⟩ := Query.denotes_of_ok hp hopen hfound
    have hd' : p'.Denotes h place := hd.keeps hk
    obtain ⟨c, hstate⟩ := m.state_onPage hopen' hd'
    have hpaint : p'.perform (.paint h (c == wanted)) =
        (.ok (), Page.outlined h (c == wanted) p') :=
      Page.acts_run hopen' hd'.1 fun _ => Page.outlined h (c == wanted)
    refine ⟨Page.outlined h (c == wanted) p', ?_, Page.outlined_alike h _ p'⟩
    change (m.state h >>= fun b => ask (.paint h (b == wanted))).run.readOn p' = _
    rw [Lookup.readOn_bind, hstate]
    exact hpaint

end Outlining

end ConsentWalker
