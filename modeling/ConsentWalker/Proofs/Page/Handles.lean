import ConsentWalker.Proofs.Page.Twins
/-!
# Page — handles as identities

A number stands for one node as long as a page lasts: a node that was taken out does not come back,
and what looks like it has another number (`Retains`). The table of handles holds every number once
and is only extended, so a handle stands for one node and a node has one handle.

A call about a handle asks first whether its node can still be reached. It fails as stale if not,
and succeeds if so (`perform_located`): only elements are given handles (`Reached.namesElements`).
`Later.identifies` puts this together for any two moments of a page.
-/

namespace ConsentWalker

/-- A call whose selector can be read, if it has one. -/
def Call.IsValid : Call → Prop
  | .query _ selector => ∃ selectors, Css.Selector.parse selector = .ok selectors
  | _ => True

namespace Page

variable {p p₁ p₂ p' : Page} {h : Handle} {i : Nat}

/-- **A node is in a page**: it can be reached from the document. -/
def Holds (p : Page) (i : Nat) : Prop := ∃ q ∈ p.places, q.id = i

instance (p : Page) (i : Nat) : Decidable (p.Holds i) :=
  inferInstanceAs (Decidable (∃ q ∈ p.places, q.id = i))

/-- **A query gives a handle for a node**, which stand at the same position in its answer and among
what its selector matches. -/
def Gives (p p' : Page) (h : Handle) (i : Nat) : Prop :=
  ∃ (scope : Option Handle) (selector : String) (ids : List Nat) (hs : List Handle) (k : Nat),
    matched scope selector p = .ok ids ∧ p.perform (.query scope selector) = (.ok hs, p') ∧
      ids[k]? = some i ∧ hs[k]? = some h

/-- Some query up to now gave a handle for a node. -/
def Returned (p : Page) (h : Handle) (i : Nat) : Prop :=
  ∃ p₁ p₂ : Page, p₁.Gives p₂ h i ∧ p₂.Later p

/-! ## What a step does to the tree -/

/-- **A page in which elements were given handles**, and no more. -/
structure Names (p p' : Page) : Prop where
  keeps : p.Keeps p'
  named : ∀ i ∈ p'.handles, i ∈ p.handles ∨ ∃ q ∈ p.places, q.id = i ∧ q.node.isElement = true

theorem Names.of_sameTree (h : p.SameTree p') : p.Names p' :=
  ⟨h.keeps, fun _ hi => .inl (h.handles ▸ hi)⟩

theorem mem_nameAll {ids : List Nat} (hi : i ∈ (p.nameAll ids).2.handles) :
    i ∈ p.handles ∨ i ∈ ids := by
  induction ids generalizing p with
  | nil => exact .inl hi
  | cons id ids ih =>
    rcases ih (p := (p.name id).2) hi with hname | hrest
    · unfold name at hname
      cases hfound : p.handles.idxOf? id with
      | some k =>
        rw [hfound] at hname
        exact .inl hname
      | none =>
        rw [hfound] at hname
        rcases List.mem_append.1 hname with hold | hnew
        · exact .inl hold
        · exact .inr (List.mem_cons.2 (.inl (List.mem_singleton.1 hnew)))
    · exact .inr (List.mem_cons_of_mem _ hrest)

/-- A selection names what it matches. -/
theorem select_names (scope : Option Handle) (selector : String) (p : Page) :
    p.Names ((select scope selector).run.run p).2 := by
  rw [select_run]
  cases hm : matched scope selector p with
  | error e => exact .of_sameTree (.refl p)
  | ok ids =>
    refine ⟨.of_grows (nameAll_steady p ids).grows, fun i hi => ?_⟩
    obtain ⟨qs, rfl, hqs⟩ := matched_places hm
    rcases mem_nameAll hi with hold | hnew
    · exact .inl hold
    · obtain ⟨q, hq, rfl⟩ := List.mem_map.1 hnew
      exact .inr ⟨q, (hqs q hq).1, rfl, (hqs q hq).2⟩

theorem perform_names (c : Call) (p : Page) : p.Names (p.perform c).2 := by
  rcases perform_query_or c p with ⟨scope, selector, rfl⟩ | hsame
  · exact select_names scope selector p
  · exact .of_sameTree hsame

/-- **What may happen to the tree of a page in one step**: elements are named first, and then the
tree is left alone, grows below one of its places, or loses nodes. -/
theorem Step.tree (h : p.Step p') : ∃ q, p.Names q ∧ (q.SameTree p' ∨
    (∃ place ∈ q.places, ∃ trees mailboxes, p' = appended place trees mailboxes q) ∨
    ∃ ids mailboxes, p' = withdrawn ids mailboxes q) := by
  have alone : p.Names p := .of_sameTree (.refl p)
  cases h with
  | perform c => exact ⟨_, perform_names c p, .inl (.refl _)⟩
  | append parent trees =>
    refine ⟨_, select_names none parent p, ?_⟩
    rcases append_cases parent trees p with h | ⟨place, mailboxes, hplace, h⟩
    · rw [h]
      exact .inl (.refl _)
    · exact .inr (.inl ⟨place, hplace, trees, mailboxes, h⟩)
  | remove selector =>
    refine ⟨_, select_names none selector p, ?_⟩
    rcases remove_cases selector p with h | ⟨ids, mailboxes, h⟩
    · rw [h]
      exact .inl (.refl _)
    · exact .inr (.inr ⟨ids, mailboxes, h⟩)
  | receive o => exact ⟨p, alone, .inl (p.receive_sameTree o)⟩
  | drain o => exact ⟨p, alone, .inl (p.updateMailbox_sameTree o _)⟩
  | drop o => exact ⟨p, alone, .inl (p.updateMailbox_sameTree o _)⟩
  | checkedAll selector =>
    rcases checkedAll_eq selector p with h | h
    · rw [h]
      exact ⟨_, select_names none selector p, .inl (.refl _)⟩
    · rw [h]
      exact ⟨p, alone, .inl (.refl p)⟩

/-! ## Numbers stand for nodes -/

/-- The marks of a page are those of its root and its places. -/
theorem marks_eq (p : Page) : p.root.marks = p.root.mark :: p.places.map fun q => q.node.mark := by
  have hnodes : p.places.map Place.node = Node.allAmong p.root.children :=
    Place.map_node_allAmong _ _ _
  have hplaces : p.places.map (fun q => q.node.mark) = Node.marksAmong p.root.children := by
    rw [Node.marksAmong, ← hnodes, List.map_map]
    rfl
  rw [hplaces]
  cases p.root with
  | mk id c cs => exact Node.marks_mk id c cs

/-- What stands in a page has one of its marks. -/
theorem mark_mem {q : Place} (hq : q ∈ p.places) : q.node.mark ∈ p.root.marks := by
  rw [marks_eq]
  exact List.mem_cons_of_mem _ (List.mem_map_of_mem hq)

/-- A mark of a page, but for that of its root, is that of something that stands in it. -/
theorem exists_of_mark {m : Nat × Content} (hm : m ∈ p.root.marks) (hroot : m.1 ≠ p.root.id) :
    ∃ q ∈ p.places, q.node.mark = m := by
  rw [marks_eq] at hm
  rcases List.mem_cons.1 hm with rfl | hplace
  · exact absurd rfl hroot
  · exact List.mem_map.1 hplace

/-- **What is there now and had a number then was there then**, and was the same. -/
def Retains (p p' : Page) : Prop := ∀ m ∈ p'.root.marks, m.1 < p.nextId → m ∈ p.root.marks

theorem Step.retains (h : p.Step p') : p.Retains p' := by
  intro m hm hlt
  obtain ⟨q, hnames, hsame | ⟨place, -, trees, mailboxes, rfl⟩ | ⟨ids, mailboxes, rfl⟩⟩ := h.tree
  · rw [hsame.root, hnames.keeps.root] at hm
    exact hm
  · rw [← hnames.keeps.root]
    refine (Node.mem_marks_appendTo place.id _ q.root hm).resolve_right fun hnew => ?_
    -- new nodes have new numbers
    have hid : m.1 ∈ Node.idsAmong (Tree.numberAll q.nextId trees).1 := by
      rw [Node.idsAmong_eq_map_marks]
      exact List.mem_map_of_mem hnew
    have hnext := hnames.keeps.nextId
    rw [ids_numberAll] at hid
    omega
  · rw [← hnames.keeps.root]
    exact (Node.marks_without ids q.root).subset hm

theorem Later.retains (hl : p.Later p') : p.Retains p' := by
  have hboth := hl.keeps (P := fun q => p.Precedes q ∧ p.Retains q) (fun p₁ p₂ hp₁ hstep =>
      ⟨hp₁.1.trans hstep.precedes, fun m hm hlt =>
        hp₁.2 m (hstep.retains m hm (Nat.lt_of_lt_of_le hlt hp₁.1.nextId)) hlt⟩)
    ⟨.refl p, fun _ hm _ => hm⟩
  exact hboth.2

/-- A node that has a number of then stood in the page then. -/
theorem Retains.place (h : p.Retains p') (hroot : p'.root.id = p.root.id) (hp' : p'.Sound)
    {q : Place}
    (hq : q ∈ p'.places) (hlt : q.id < p.nextId) : ∃ r ∈ p.places, r.node.mark = q.node.mark :=
  exists_of_mark (h _ (mark_mem hq) hlt) (hroot ▸ hp'.id_ne_root hq)

/-- **What is a node once is that node ever after**, by its number. -/
theorem Later.content_eq (hl : p.Later p') (hp : p.Reached) {q r : Place} (hq : q ∈ p.places)
    (hr : r ∈ p'.places) (hid : r.id = q.id) : r.node.content = q.node.content := by
  have hlt := hp.sound.id_lt hq
  obtain ⟨q', hq', hmark⟩ :=
    hl.retains.place hl.precedes.rootId (hl.reached hp).sound hr (hid ▸ hlt)
  have hid' : q'.id = q.id := (congrArg Prod.fst hmark).trans hid
  obtain rfl : q' = q := hp.sound.eq_of_id hq' hq hid'
  exact (congrArg Prod.snd hmark).symm

/-! ## Only elements have handles -/

/-- Every node of a page that has a handle is an element. -/
def NamesElements (p : Page) : Prop := ∀ q ∈ p.places, q.id ∈ p.handles → q.node.isElement = true

theorem Step.namesElements (h : p.Step p') (hp : p.Sound) (hn : p.NamesElements) :
    p'.NamesElements := by
  intro q hq hid
  have hold : q.id ∈ p.handles ∨ ∃ r ∈ p.places, r.id = q.id ∧ r.node.isElement = true := by
    obtain ⟨q₁, hnames, hsame | ⟨place, -, trees, mailboxes, rfl⟩ | ⟨ids, mailboxes, rfl⟩⟩ := h.tree
    · exact hnames.named _ (hsame.handles ▸ hid)
    · exact hnames.named _ hid
    · exact hnames.named _ hid
  have hlt : q.id < p.nextId := by
    rcases hold with hhandle | ⟨r, hr, hid, -⟩
    · exact hp.known _ hhandle
    · exact hid ▸ hp.id_lt hr
  obtain ⟨q', hq', hmark⟩ := h.retains.place h.precedes.rootId (h.sound hp) hq hlt
  have hid' : q'.id = q.id := congrArg Prod.fst hmark
  have hcontent : q'.node.content = q.node.content := congrArg Prod.snd hmark
  have helement : q'.node.isElement = true := by
    rcases hold with hhandle | ⟨r, hr, hid, helement⟩
    · exact hn q' hq' (hid' ▸ hhandle)
    · rw [hp.eq_of_id hq' hr (hid'.trans hid.symm)]
      exact helement
  unfold Node.isElement at helement ⊢
  rw [← hcontent]
  exact helement

/-- **In every page that can come to be, what has a handle is an element.** -/
theorem Reached.namesElements (hp : p.Reached) : p.NamesElements := by
  induction hp with
  | ofTree t nested => exact fun _ _ hid => absurd hid List.not_mem_nil
  | step hp hstep ih => exact hstep.namesElements hp.sound ih

/-! ## Calls about a handle -/

theorem run_locate {α : Type} (h : Handle) (k : Place → Op α) (p : Page) :
    (locate h >>= k).run.run p =
      match located h p with
      | .ok place => (k place).run.run p
      | .error e => (.error e, p) := by
  rw [run_bind, locate_reads h p]
  cases located h p <;> rfl

/-- **A call about a handle comes down to whether its element can be found.** -/
theorem perform_located {c : Call} (hc : c.about? = some h) (hv : c.IsValid) (p : Page) :
    (∀ e, located h p = .error e → (p.perform c).1 = .error e) ∧
      ∀ q, located h p = .ok q → q.node.isElement = true → ∃ a, (p.perform c).1 = .ok a := by
  have finds : ∀ {k : Place → Op c.Result}, answer c = locate h >>= k →
      (∀ q, ∃ a, ((k q).run.run p).1 = .ok a) →
      (∀ e, located h p = .error e → (p.perform c).1 = .error e) ∧
        ∀ q, located h p = .ok q → q.node.isElement = true → ∃ a, (p.perform c).1 = .ok a := by
    intro k hk hsucceeds
    have hrun : p.perform c = (locate h >>= k).run.run p := by
      unfold perform
      rw [hk]
    rw [hrun, run_locate]
    constructor
    · intro e he
      rw [he]
    · intro q hq _
      rw [hq]
      exact hsucceeds q
  cases c with
  | query scope selector =>
    obtain rfl : scope = some h := hc
    obtain ⟨selectors, hsel⟩ := hv
    have hanswer : (p.perform (.query (some h) selector)).1 = _ :=
      congrArg Prod.fst (select_run (some h) selector p)
    have hmatched : matched (some h) selector p = (located h p).map fun origin =>
        (origin.below.filter (Css.selects selectors)).map Place.id := by
      unfold matched
      rw [hsel]
      unfold located
      cases p.opened <;> rfl
    constructor
    · intro e he
      rw [hanswer, hmatched, he]
      rfl
    · intro q hq _
      rw [hanswer, hmatched, hq]
      exact ⟨_, rfl⟩
  | style k property =>
    obtain rfl : k = h := Option.some.inj hc
    have hanswer : (p.perform (.style k property)).1 =
        (elementOf k p).bind fun e => .ok (e.style property) :=
      congrArg Prod.fst (((element_reads k).bind fun e => Reads.pure _) p)
    unfold elementOf at hanswer
    constructor
    · intro e he
      rw [hanswer, he]
      rfl
    · intro q hq helement
      obtain ⟨e, he⟩ := Option.isSome_iff_exists.1 helement
      have he' : q.element? = some e := he
      rw [hanswer, hq]
      simp only [Except.bind, he']
      exact ⟨_, rfl⟩
  | text k | rect k | nested k | isChecked k | scroll k | focus k | click k | pointer k
  | setHidden k | paint k =>
    obtain rfl : k = h := Option.some.inj hc
    exact finds rfl fun q => ⟨_, rfl⟩
  | showProgress | hideProgress | close | observe => cases hc

/-- A handle denotes nothing once its node is out of the page. -/
theorem Sound.place?_eq_none (hp : p.Sound) (hi : p.handles[h.id]? = some i) :
    p.place? h = none ↔ ¬ p.Holds i := by
  constructor
  · rintro hnone ⟨q, hq, rfl⟩
    rw [hp.place?_iff.2 ⟨hq, hi⟩] at hnone
    cases hnone
  · intro hgone
    refine Option.eq_none_iff_forall_ne_some.2 fun q hq => hgone ?_
    obtain ⟨hmem, hid⟩ := place?_eq_some hq
    exact ⟨q, hmem, Option.some.inj (hid.symm.trans hi)⟩

/-- **A call about a handle of an open page fails as stale** exactly if the node is out of the
page. -/
theorem Reached.stale_iff (hp : p.Reached) (hopen : p.closed = false) {c : Call} (hv : c.IsValid)
    (hc : c.about? = some h) (hi : p.handles[h.id]? = some i) :
    (p.perform c).1 = .error (.stale h) ↔ ¬ p.Holds i := by
  obtain ⟨hfails, hsucceeds⟩ := perform_located hc hv p
  rw [← hp.sound.place?_eq_none hi]
  cases hplace : p.place? h with
  | none =>
    have hlocated : located h p = .error (.stale h) := by
      unfold located opened
      rw [if_neg (Bool.eq_false_iff.1 hopen), hplace]
      rfl
    exact ⟨fun _ => rfl, fun _ => hfails _ hlocated⟩
  | some q =>
    obtain ⟨hmem, hid⟩ := place?_eq_some hplace
    have helement := hp.namesElements q hmem (List.mem_of_getElem? hid)
    obtain ⟨a, ha⟩ := hsucceeds q (located_eq_ok.2 ⟨hopen, hplace⟩) helement
    rw [ha]
    constructor
    · intro hfailed
      cases hfailed
    · intro hnone
      cases hnone

/-! ## What queries answer -/

/-- The table of handles is one to one: it finds nodes by positions, and positions by nodes. -/
theorem Sound.getElem?_handles_iff (hp : p.Sound) {n : Nat} :
    p.handles[n]? = some i ↔ p.handles.idxOf? i = some n := by
  rw [List.idxOf?_eq_some_iff]
  constructor
  · intro hn
    obtain ⟨hlt, rfl⟩ := List.getElem?_eq_some_iff.1 hn
    refine ⟨hlt, rfl, fun k hk hsame => ?_⟩
    have heq : k = n := (List.Nodup.getElem_inj_iff hp.named).1 hsame
    omega
  · rintro ⟨hlt, hsame, -⟩
    rw [List.getElem?_eq_getElem hlt, hsame]

/-- **A query answers with the handle the table has for the node**, and only for nodes that are
there. -/
theorem Gives.spec (hg : p.Gives p' h i) : p'.handles[h.id]? = some i ∧ p.Holds i ∧ p.Step p' := by
  obtain ⟨scope, selector, ids, hs, k, hm, hrun, hi, hh⟩ := hg
  have hrun' : (select scope selector).run.run p = (.ok hs, p') := hrun
  rw [select_run, hm] at hrun'
  have hhs : (p.nameAll ids).1 = hs := Except.ok.inj (congrArg Prod.fst hrun')
  obtain rfl : (p.nameAll ids).2 = p' := congrArg Prod.snd hrun'
  refine ⟨?_, ?_, ?_⟩
  · have hnames := List.forall₂_iff_get.1 (nameAll_names p ids)
    obtain ⟨hk, rfl⟩ := List.getElem?_eq_some_iff.1 hi
    subst hhs
    obtain ⟨hk', rfl⟩ := List.getElem?_eq_some_iff.1 hh
    exact hnames.2 k hk' hk
  · obtain ⟨q, hq, hid⟩ := List.mem_map.1 (matched_mem hm i (List.mem_of_getElem? hi))
    exact ⟨q, hq, hid⟩
  · have hstep : p.Step (p.perform (.query scope selector)).2 := .perform _
    rw [hrun] at hstep
    exact hstep

/-- What was returned once stands in the table ever after. -/
theorem Returned.named (hr : p.Returned h i) : p.handles[h.id]? = some i := by
  obtain ⟨p₁, p₂, hg, hl⟩ := hr
  exact Tables.getElem?_of_prefix hl.precedes.handles hg.spec.1

/-! ## Identity -/

/-- **Handles are identities.** At any two moments of a page, the one later than the other, a number
stands for one node, and the table of handles is one to one and is extended at its end only. What
queries have returned are the same handles exactly if they are the same nodes. In an open page a
call about a handle fails as stale exactly if its node is out of the page. A node that was out of
the page at the first moment is so at the second, and has its handle still, which no query
returns. -/
theorem Later.identifies (hl : p.Later p') (hp : p.Reached) :
    (∀ q ∈ p.places, ∀ r ∈ p'.places, r.id = q.id → r.node.content = q.node.content) ∧
    (p.handles <+: p'.handles ∧ ∀ n i, p'.handles[n]? = some i ↔ p'.handles.idxOf? i = some n) ∧
    (∀ h i h' i', p'.Returned h i → p'.Returned h' i' → (h = h' ↔ i = i')) ∧
    (p'.closed = false → ∀ (c : Call) h i,
      c.IsValid → c.about? = some h → p'.handles[h.id]? = some i →
      ((p'.perform c).1 = .error (.stale h) ↔ ¬ p'.Holds i)) ∧
    ∀ (h : Handle) i, p.handles[h.id]? = some i → ¬ p.Holds i →
      p'.handles[h.id]? = some i ∧ ¬ p'.Holds i ∧ ∀ p₁ i', ¬ p'.Gives p₁ h i' := by
  have hp' := hl.reached hp
  have hprecedes := hl.precedes
  refine ⟨fun q hq r hr hid => hl.content_eq hp hq hr hid,
    ⟨hprecedes.handles, fun n i => hp'.sound.getElem?_handles_iff⟩, fun h i h' i' hr hr' => ?_,
    fun hopen c h i hv hc hi => hp'.stale_iff hopen hv hc hi, fun h i hi hgone => ?_⟩
  · constructor
    · rintro rfl
      exact Option.some.inj (hr.named.symm.trans hr'.named)
    · rintro rfl
      exact Tables.handle_eq_of_nodup hp'.sound.named hr.named hr'.named
  · have hi' := Tables.getElem?_of_prefix hprecedes.handles hi
    have hnone := hprecedes.gone hp.sound hp'.sound (List.getElem?_eq_some_iff.1 hi).1
      ((hp.sound.place?_eq_none hi).2 hgone)
    have hgone' := (hp'.sound.place?_eq_none hi').1 hnone
    refine ⟨hi', hgone', fun p₁ i' hg => hgone' ?_⟩
    -- a query returns what is there, under the handle the table has for it
    obtain ⟨hnamed, hholds, hstep⟩ := hg.spec
    have hsame := Tables.getElem?_of_prefix hstep.precedes.handles hi'
    obtain rfl : i = i' := Option.some.inj (hsame.symm.trans hnamed)
    exact hholds

/-- A button to accept. -/
def acceptButton : Tree :=
  .node (.element { name := "button", attributes := [("id", "accept")] }) []

/-- A page out of which a button was taken after handles were asked for. -/
def removedPage : Page :=
  let page := ofTree (.node .document [.node (.element { name := "body" }) [acceptButton]]) false
  ((remove "#accept").run.run (page.perform (.query none "button")).2).2

theorem reached_removedPage : removedPage.Reached :=
  .step (.step (.ofTree _ _) (.perform _)) (.remove "#accept")

/-- The page after a button was appended that looks like the other one. -/
def replacedPage : Page := ((append "body" [acceptButton]).run.run removedPage).2

/-- The button that was taken out is stale, and the one that looks like it has another handle. -/
theorem replaced_identifies :
    (replacedPage.perform (.query none "#accept")).1.toOption = some [⟨2⟩] ∧
      (replacedPage.perform (.click ⟨0⟩ false)).1 = .error (.stale ⟨0⟩) ∧
      ∀ p₁ i, ¬ replacedPage.Gives p₁ ⟨0⟩ i := by
  have hlater : removedPage.Later replacedPage := .tail .refl (.append "body" [acceptButton])
  have hopen : replacedPage.closed = false := by decide +kernel
  obtain ⟨-, -, -, hstale, hgone⟩ := hlater.identifies reached_removedPage
  obtain ⟨hhandle, hout, hnever⟩ := hgone ⟨0⟩ 2 (by decide +kernel) (by decide +kernel)
  exact ⟨by decide +kernel, (hstale hopen (.click ⟨0⟩ false) ⟨0⟩ 2 trivial rfl hhandle).2 hout,
    hnever⟩

end Page
end ConsentWalker
