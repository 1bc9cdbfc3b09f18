import Mathlib.Logic.Relation
import ConsentWalker.Proofs.Page.Identity
/-!
# Page — pages as they can come to be

What is done to a page, operation by operation: each looks whether it can be done, and either fails
and changes nothing or changes the page as said (`alters_run`). Calls keep the tree
(`perform_keeps`); only others append to it and take out of it, and all of them keep a page sound.
So every page that was made of a tree and went through any of this is sound (`Reached.sound`).
-/

namespace ConsentWalker
namespace Page

variable {p p' : Page}

/-! ## Operations that act -/

/-- The page after what is done to an element, if the element can be found. -/
def altered (h : Handle) (g : Place → Page → Page) (p : Page) : Except PageError Page :=
  (located h p).map fun place => g place p

/-- The outcome of an operation that acts: the page it makes, or the one that was left alone. -/
def outcome (p : Page) : Except PageError Page → Except PageError Unit × Page
  | .ok p' => (.ok (), p')
  | .error e => (.error e, p)

/-- **To do something to an element**, it is looked for first. -/
theorem alters_run (h : Handle) (g : Place → Page → Page) (p : Page) :
    (do let place ← locate h; modify (g place) : Op Unit).run.run p =
      p.outcome (altered h g p) := by
  rw [run_bind, locate_reads h p]
  unfold altered
  cases located h p <;> rfl

/-- The page after something is done to it, if it is open. -/
def alteredOpen (g : Page → Page) (p : Page) : Except PageError Page := p.opened.map fun _ => g p

theorem altersOpen_run (g : Page → Page) (p : Page) :
    (do ensureOpen; modify g : Op Unit).run.run p = p.outcome (alteredOpen g p) := by
  rw [run_bind, ensureOpen_reads p]
  unfold alteredOpen
  cases p.opened <;> rfl

/-- An operation with an outcome fails and leaves the page alone, or makes another one of it. -/
theorem outcome_cases {op : Op Unit} {made : Except PageError Page}
    (h : op.run.run p = p.outcome made) :
    (∃ e, made = .error e ∧ op.run.run p = (.error e, p)) ∨
      ∃ p' a, made = .ok p' ∧ op.run.run p = (.ok a, p') := by
  cases made with
  | error e => exact .inl ⟨e, rfl, h⟩
  | ok p' => exact .inr ⟨p', (), rfl, h⟩

/-- Only an open page has anything done to it. -/
theorem alteredOpen_eq_ok {g : Page → Page} (h : alteredOpen g p = .ok p') :
    p.closed = false ∧ p' = g p := by
  unfold alteredOpen opened at h
  cases hp : p.closed with
  | true =>
    rw [if_pos hp] at h
    cases h
  | false =>
    rw [if_neg (Bool.eq_false_iff.1 hp)] at h
    cases h
    exact ⟨rfl, rfl⟩

/-- Only in an open page an element is found. -/
theorem located_eq_ok {h : Handle} {place : Place} :
    located h p = .ok place ↔ p.closed = false ∧ p.place? h = some place := by
  unfold located opened
  cases p.closed <;> cases p.place? h <;> simp [Except.bind]

/-- What is located is a place of the page. -/
theorem located_mem {h : Handle} {place : Place} (hl : located h p = .ok place) :
    place ∈ p.places :=
  (place?_eq_some (located_eq_ok.1 hl).2).1

/-- What is done to an element is done to one that was found. -/
theorem altered_eq_ok {h : Handle} {g : Place → Page → Page} (ha : altered h g p = .ok p') :
    ∃ place, located h p = .ok place ∧ p' = g place p := by
  unfold altered at ha
  cases hl : located h p with
  | error e =>
    rw [hl] at ha
    cases ha
  | ok place =>
    rw [hl] at ha
    cases ha
    exact ⟨place, rfl, rfl⟩

/-- The page after a click at a place. -/
def clickedAt (h : Handle) (openInTab : Bool) (place : Place) (p : Page) : Page :=
  record (match p.controlOf? place with
    | some control => p.activate control
    | none => p) (.click h openInTab)

/-- The page after an element was hidden or shown again. -/
def concealed (h : Handle) (b : Bool) (p : Page) : Page :=
  record { p with hidden := if b then insertHandle h p.hidden else p.hidden.filter (· ≠ h) }
    (.hidden h b)

/-- The page after an element was outlined. -/
def outlined (h : Handle) (passed : Bool) (p : Page) : Page :=
  record { p with painted := p.painted ++ [(h, passed)] } (.painted h passed)

/-- The page after it was closed. -/
def shut (p : Page) : Page :=
  if p.closed then p
  else
    record { p with
      closed := true, mailboxes := p.mailboxes.map fun m => { m with connected := false } } .closed

/-- **What a call that does something makes of a page**, if it does not fail. -/
def effect : Call → Page → Except PageError Page
  | .scroll h, p => altered h (fun _ => (·.record (.scroll h))) p
  | .focus h, p => altered h (fun _ => (·.record (.focus h))) p
  | .click h openInTab, p => altered h (clickedAt h openInTab) p
  | .pointer h phase point, p => altered h (fun _ => (·.record (.pointer h phase point))) p
  | .setHidden h b, p => altered h (fun _ => concealed h b) p
  | .paint h passed, p => altered h (fun _ => outlined h passed) p
  | .showProgress message, p =>
    alteredOpen (fun p => record { p with progress := some message } (.progress message)) p
  | .hideProgress, p => alteredOpen (fun p => record { p with progress := none } .progressHidden) p
  | .close, p => .ok p.shut
  | _, p => .ok p

/-- **Every call reads, observes, or has its effect**, and one that fails has none. -/
theorem perform_cases (c : Call) (p : Page) : c.isRead = true ∨ c = .observe ∨
    (∃ e, effect c p = .error e ∧ p.perform c = (.error e, p)) ∨
    ∃ p' a, effect c p = .ok p' ∧ p.perform c = (.ok a, p') := by
  cases c with
  | query | text | style | rect | nested | isChecked => exact .inl rfl
  | observe => exact .inr (.inl rfl)
  | scroll h => exact .inr (.inr (outcome_cases (alters_run h _ p)))
  | focus h => exact .inr (.inr (outcome_cases (alters_run h _ p)))
  | click h b => exact .inr (.inr (outcome_cases (alters_run h _ p)))
  | pointer h phase point => exact .inr (.inr (outcome_cases (alters_run h _ p)))
  | setHidden h b => exact .inr (.inr (outcome_cases (alters_run h _ p)))
  | paint h b => exact .inr (.inr (outcome_cases (alters_run h _ p)))
  | showProgress m => exact .inr (.inr (outcome_cases (altersOpen_run _ p)))
  | hideProgress => exact .inr (.inr (outcome_cases (altersOpen_run _ p)))
  | close => exact .inr (.inr (.inr ⟨p.shut, (), rfl, rfl⟩))

/-! ## Calls keep the tree -/

/-- **A page with the same tree and the same handles**, whatever is written beside them. -/
structure SameTree (p p' : Page) : Prop where
  root : p'.root = p.root
  nextId : p'.nextId = p.nextId
  nested : p'.nested = p.nested
  handles : p'.handles = p.handles

namespace SameTree

theorem refl (p : Page) : p.SameTree p := ⟨rfl, rfl, rfl, rfl⟩

theorem keeps (h : p.SameTree p') : p.Keeps p' :=
  ⟨h.root, h.nextId, h.nested, h.handles ▸ List.prefix_rfl⟩

theorem sound (h : p.SameTree p') (hp : p.Sound) : p'.Sound := by
  obtain ⟨hroot, hnext, -, hhandles⟩ := h
  constructor
  · rw [hroot]
    exact hp.numbered
  · rw [hroot, hnext]
    exact hp.fresh
  · rw [hhandles, hnext]
    exact hp.known
  · rw [hhandles]
    exact hp.named

end SameTree

/-- Reaching a control switches it, and does nothing else. -/
theorem activate_eq (p : Page) (control : Place) :
    ∃ switched, p.activate control = { p with switched } := by
  unfold activate
  split
  · exact ⟨p.switched, rfl⟩
  · split
    · exact ⟨_, rfl⟩
    · exact ⟨_, rfl⟩
    · exact ⟨p.switched, rfl⟩

/-- A click switches controls and is recorded. -/
theorem clickedAt_eq (h : Handle) (openInTab : Bool) (place : Place) (p : Page) :
    ∃ switched, clickedAt h openInTab place p =
      { p with switched, events := p.events ++ [.click h openInTab] } := by
  unfold clickedAt
  split
  · next control _ =>
    obtain ⟨switched, hswitched⟩ := p.activate_eq control
    exact ⟨switched, by rw [hswitched]; rfl⟩
  · exact ⟨p.switched, rfl⟩

theorem clickedAt_sameTree (h : Handle) (openInTab : Bool) (place : Place) (p : Page) :
    p.SameTree (clickedAt h openInTab place p) := by
  obtain ⟨switched, hclicked⟩ := clickedAt_eq h openInTab place p
  rw [hclicked]
  exact ⟨rfl, rfl, rfl, rfl⟩

theorem shut_sameTree (p : Page) : p.SameTree p.shut := by
  unfold shut
  split
  · exact .refl p
  · exact ⟨rfl, rfl, rfl, rfl⟩

/-- **No effect of a call is on the tree.** -/
theorem effect_sameTree (c : Call) (h : effect c p = .ok p') : p.SameTree p' := by
  cases c with
  | scroll | focus | pointer | setHidden | paint =>
    rw [effect] at h
    obtain ⟨q, -, rfl⟩ := altered_eq_ok h
    exact ⟨rfl, rfl, rfl, rfl⟩
  | click k b =>
    rw [effect] at h
    obtain ⟨q, -, rfl⟩ := altered_eq_ok h
    exact clickedAt_sameTree k b q p
  | showProgress | hideProgress =>
    rw [effect] at h
    obtain ⟨-, rfl⟩ := alteredOpen_eq_ok h
    exact ⟨rfl, rfl, rfl, rfl⟩
  | close =>
    cases h
    exact p.shut_sameTree
  | query | text | style | rect | nested | isChecked | observe =>
    cases h
    exact .refl p

/-- A call names what it matches, or leaves tree and handles as they are. -/
theorem perform_query_or (c : Call) (p : Page) :
    (∃ scope selector, c = .query scope selector) ∨ p.SameTree (p.perform c).2 := by
  rcases perform_cases c p with hread | rfl | ⟨e, -, hp⟩ | ⟨p', a, hmade, hp⟩
  · rcases perform_read hread p with hquery | hsame
    · exact .inl hquery
    · right
      rw [hsame]
      exact .refl p
  · exact .inr ⟨rfl, rfl, rfl, rfl⟩
  · right
    rw [hp]
    exact .refl p
  · right
    rw [hp]
    exact effect_sameTree c hmade

/-- **No call changes the tree of a page**, whether it fails or not. -/
theorem perform_keeps (c : Call) (p : Page) : p.Keeps (p.perform c).2 := by
  rcases perform_query_or c p with ⟨scope, selector, rfl⟩ | hsame
  · exact .of_grows (perform_grows rfl p)
  · exact hsame.keeps

theorem Sound.perform (hp : p.Sound) (c : Call) : (p.perform c).2.Sound := by
  rcases perform_query_or c p with ⟨scope, selector, rfl⟩ | hsame
  · exact hp.select scope selector
  · exact hsame.sound hp

/-! ## Changes by others -/

/-- A page to which trees were appended below a place, as observers are told of it. -/
def appended (place : Place) (trees : List Tree) (mailboxes : List Mailbox) (p : Page) : Page where
  __ := p
  root := p.root.appendTo place.id (Tree.numberAll p.nextId trees).1
  nextId := (Tree.numberAll p.nextId trees).2
  mailboxes := mailboxes

/-- A page out of which nodes were taken, as observers are told of it. -/
def withdrawn (ids : List Nat) (mailboxes : List Mailbox) (p : Page) : Page where
  __ := p
  root := p.root.without ids
  mailboxes := mailboxes

/-- **What appending comes to**: handles for what the selector matches, and nodes below one of its
places at most. -/
theorem append_cases (parent : String) (trees : List Tree) (p : Page) :
    ((append parent trees).run.run p).2 = ((select none parent).run.run p).2 ∨
      ∃ place mailboxes, place ∈ ((select none parent).run.run p).2.places ∧
        ((append parent trees).run.run p).2 =
          appended place trees mailboxes ((select none parent).run.run p).2 := by
  unfold append
  rw [run_bind]
  cases ((select none parent).run.run p).1 with
  | error e => exact .inl rfl
  | ok hs =>
    cases hs with
    | nil => exact .inl rfl
    | cons h rest =>
      dsimp only
      rw [run_bind, locate_reads h]
      dsimp only
      cases hplace : located h ((select none parent).run.run p).2 with
      | error e => exact .inl rfl
      | ok place => exact .inr ⟨place, _, located_mem hplace, rfl⟩

/-- **What taking elements out comes to**: handles for what the selector matches, and a tree without
some nodes. -/
theorem remove_cases (selector : String) (p : Page) :
    ((remove selector).run.run p).2 = ((select none selector).run.run p).2 ∨
      ∃ ids mailboxes, ((remove selector).run.run p).2 =
        withdrawn ids mailboxes ((select none selector).run.run p).2 := by
  unfold remove
  rw [run_bind]
  cases ((select none selector).run.run p).1 with
  | error e => exact .inl rfl
  | ok hs =>
    generalize ((select none selector).run.run p).2 = q
    right
    let ids := hs.filterMap fun h : Handle => q.handles[h.id]?
    by_cases hempty : ids.isEmpty = true
    · refine ⟨ids, q.mailboxes, ?_⟩
      change (if ids.isEmpty then withdrawn ids q.mailboxes q else _) = _
      rw [if_pos hempty]
    · refine ⟨ids, q.mailboxes.map (Mailbox.deliver ids.length), ?_⟩
      change (if ids.isEmpty then _ else withdrawn ids (q.mailboxes.map _) q) = _
      rw [if_neg hempty]

/-! ## Pages that others have changed -/

/-- The nodes of numbered trees have the numbers from the next one on. -/
theorem ids_numberAll (next : Nat) (trees : List Tree) {i : Nat} :
    i ∈ Node.idsAmong (Tree.numberAll next trees).1 ↔
      next ≤ i ∧ i < (Tree.numberAll next trees).2 := by
  obtain ⟨hle, hids⟩ := Tree.idsAmong_numberAll next trees
  rw [hids, List.mem_range'_1]
  omega

theorem Sound.appended (hp : p.Sound) {place : Place} (hplace : place ∈ p.places)
    (trees : List Tree) (mailboxes : List Mailbox) :
    (appended place trees mailboxes p).Sound := by
  obtain ⟨hle, hids⟩ := Tree.idsAmong_numberAll p.nextId trees
  have hcount : ∀ i, (p.appended place trees mailboxes).root.ids.count i = _ := fun i =>
    Node.count_ids_appendTo place.id (Tree.numberAll p.nextId trees).1 i p.root
  have hone : p.root.ids.count place.id = 1 := List.count_eq_one_of_mem hp.numbered (id_mem hplace)
  simp only [hone, Nat.one_mul] at hcount
  constructor
  · rw [List.nodup_iff_count_le_one]
    intro i
    rw [hcount]
    by_cases hi : i ∈ p.root.ids
    · have hnew : i ∉ Node.idsAmong (Tree.numberAll p.nextId trees).1 := by
        rw [ids_numberAll]
        have hlt := hp.fresh i hi
        omega
      rw [List.count_eq_zero_of_not_mem hnew, Nat.add_zero]
      exact List.nodup_iff_count_le_one.1 hp.numbered i
    · rw [List.count_eq_zero_of_not_mem hi, Nat.zero_add, hids]
      exact List.nodup_iff_count_le_one.1 List.nodup_range' i
  · intro i hi
    change i < (Tree.numberAll p.nextId trees).2
    rw [← List.count_pos_iff, hcount] at hi
    by_cases hold : i ∈ p.root.ids
    · exact Nat.lt_of_lt_of_le (hp.fresh i hold) hle
    · rw [List.count_eq_zero_of_not_mem hold, Nat.zero_add, List.count_pos_iff, ids_numberAll] at hi
      exact hi.2
  · exact fun i hi => Nat.lt_of_lt_of_le (hp.known i hi) hle
  · exact hp.named

theorem Sound.withdrawn (hp : p.Sound) (ids : List Nat) (mailboxes : List Mailbox) :
    (withdrawn ids mailboxes p).Sound := by
  have hsub := Node.ids_without ids p.root
  exact ⟨hp.numbered.sublist hsub, fun i hi => hp.fresh i (hsub.subset hi), hp.known, hp.named⟩

theorem Sound.append (hp : p.Sound) (parent : String) (trees : List Tree) :
    ((append parent trees).run.run p).2.Sound := by
  have hsel := hp.select none parent
  rcases append_cases parent trees p with h | ⟨place, mailboxes, hplace, h⟩
  · rw [h]
    exact hsel
  · rw [h]
    exact hsel.appended hplace trees mailboxes

theorem Sound.remove (hp : p.Sound) (selector : String) :
    ((remove selector).run.run p).2.Sound := by
  have hsel := hp.select none selector
  rcases remove_cases selector p with h | ⟨ids, mailboxes, h⟩
  · rw [h]
    exact hsel
  · rw [h]
    exact hsel.withdrawn ids mailboxes

/-! ## What was there before -/

/-- **A page that came of another one**: handles stay, and a node that was not there then and had a
number does not come up again. -/
structure Precedes (p p' : Page) : Prop where
  rootId : p'.root.id = p.root.id
  nextId : p.nextId ≤ p'.nextId
  handles : p.handles <+: p'.handles
  old : ∀ i ∈ p'.root.ids, i < p.nextId → i ∈ p.root.ids

namespace Precedes

variable {p₁ : Page}

theorem trans (h₁ : p.Precedes p₁) (h₂ : p₁.Precedes p') : p.Precedes p' where
  rootId := h₂.rootId.trans h₁.rootId
  nextId := Nat.le_trans h₁.nextId h₂.nextId
  handles := h₁.handles.trans h₂.handles
  old i hi hlt := h₁.old i (h₂.old i hi (Nat.lt_of_lt_of_le hlt h₁.nextId)) hlt

/-- A page whose tree was left alone comes of the one it was. -/
theorem of_keeps (h : p.Keeps p') : p.Precedes p' where
  rootId := by rw [h.root]
  nextId := Nat.le_of_eq h.nextId.symm
  handles := h.handles
  old i hi _ := h.root ▸ hi

theorem refl (p : Page) : p.Precedes p := of_keeps (.refl p)

theorem appended (place : Place) (trees : List Tree) (mailboxes : List Mailbox) (p : Page) :
    p.Precedes (appended place trees mailboxes p) := by
  obtain ⟨hle, -⟩ := Tree.idsAmong_numberAll p.nextId trees
  refine ⟨?_, hle, List.prefix_rfl, fun i hi hlt => ?_⟩
  · change (p.root.appendTo place.id _).id = p.root.id
    cases p.root with
    | mk n c cs => rfl
  · have hcount := Node.count_ids_appendTo place.id (Tree.numberAll p.nextId trees).1 i p.root
    have hnew : i ∉ Node.idsAmong (Tree.numberAll p.nextId trees).1 := by
      rw [ids_numberAll]
      omega
    rw [List.count_eq_zero_of_not_mem hnew, Nat.mul_zero, Nat.add_zero] at hcount
    have hpos : 0 < (p.root.appendTo place.id (Tree.numberAll p.nextId trees).1).ids.count i :=
      List.count_pos_iff.2 hi
    rw [hcount] at hpos
    exact List.count_pos_iff.1 hpos

theorem withdrawn (ids : List Nat) (mailboxes : List Mailbox) (p : Page) :
    p.Precedes (withdrawn ids mailboxes p) := by
  refine ⟨?_, Nat.le_refl _, List.prefix_rfl, fun i hi _ => ?_⟩
  · change (p.root.without ids).id = p.root.id
    cases p.root with
    | mk n c cs => rfl
  · exact (Node.ids_without ids p.root).subset hi

/-- **What is gone stays gone**: a handle that denoted nothing will not denote anything. -/
theorem gone (h : p.Precedes p') (hp : p.Sound) (hp' : p'.Sound) {k : Handle}
    (hk : k.id < p.handles.length) (hnone : p.place? k = none) : p'.place? k = none := by
  obtain ⟨i, hi⟩ : ∃ i, p.handles[k.id]? = some i := ⟨_, List.getElem?_eq_getElem hk⟩
  have hi' : p'.handles[k.id]? = some i := by
    obtain ⟨more, hmore⟩ := h.handles
    rw [← hmore, List.getElem?_append_left hk, hi]
  have habsent : i ∉ p.places.map Place.id := by
    intro hmem
    obtain ⟨q, hq, rfl⟩ := List.mem_map.1 hmem
    rw [hp.place?_iff.2 ⟨hq, hi⟩] at hnone
    cases hnone
  by_contra hsome
  obtain ⟨q, hq⟩ := Option.ne_none_iff_exists'.1 hsome
  obtain ⟨hmem, hid⟩ := place?_eq_some hq
  obtain rfl : i = q.id := Option.some.inj (hi'.symm.trans hid)
  have hold := h.old q.id (id_mem hmem) (hp.known _ (List.mem_of_getElem? hi))
  rw [ids_eq] at hold
  rcases List.mem_cons.1 hold with hroot | hold
  · exact hp'.id_ne_root hmem (hroot.trans h.rootId.symm)
  · exact habsent hold

end Precedes

/-! ## Pages that can come to be -/

/-- **What may happen to a page**: calls, changes by others, and what observers do. -/
inductive Step (p : Page) : Page → Prop where
  | perform (c : Call) : Step p (p.perform c).2
  | append (parent : String) (trees : List Tree) : Step p ((append parent trees).run.run p).2
  | remove (selector : String) : Step p ((remove selector).run.run p).2
  | receive (o : Observer) : Step p (p.receive o).2
  | drain (o : Observer) : Step p (p.drain o).2
  | drop (o : Observer) : Step p (p.drop o)
  | checkedAll (selector : String) : Step p (p.checkedAll selector).2

theorem updateMailbox_sameTree (p : Page) (o : Observer) (f : Mailbox → Mailbox) :
    p.SameTree (p.updateMailbox o f) :=
  ⟨rfl, rfl, rfl, rfl⟩

theorem receive_sameTree (p : Page) (o : Observer) : p.SameTree (p.receive o).2 := by
  unfold receive
  dsimp only
  split
  · exact .refl p
  · split
    · exact p.updateMailbox_sameTree o _
    · exact .refl p

/-- Asking for checked states names the elements, or does nothing. -/
theorem checkedAll_eq (selector : String) (p : Page) :
    (p.checkedAll selector).2 = ((select none selector).run.run p).2 ∨
      (p.checkedAll selector).2 = p := by
  unfold checkedAll
  rcases (select none selector).run.run p with ⟨_ | hs, q⟩
  · exact .inr rfl
  · exact .inl rfl

/-- **Whatever happens keeps a page sound.** -/
theorem Step.sound (h : p.Step p') (hp : p.Sound) : p'.Sound := by
  cases h with
  | perform c => exact hp.perform c
  | append parent trees => exact hp.append parent trees
  | remove selector => exact hp.remove selector
  | receive o => exact (p.receive_sameTree o).sound hp
  | drain o => exact (p.updateMailbox_sameTree o _).sound hp
  | drop o => exact (p.updateMailbox_sameTree o _).sound hp
  | checkedAll selector =>
    rcases checkedAll_eq selector p with h | h
    · rw [h]
      exact hp.select none selector
    · rw [h]
      exact hp

/-- What was taken out before stays out, whatever happens. -/
theorem Step.precedes (h : p.Step p') : p.Precedes p' := by
  have selects : ∀ selector, p.Precedes ((select none selector).run.run p).2 := fun selector =>
    .of_keeps (.of_grows (perform_grows (c := .query none selector) rfl p))
  cases h with
  | perform c => exact .of_keeps (perform_keeps c p)
  | append parent trees =>
    rcases append_cases parent trees p with h | ⟨place, mailboxes, -, h⟩
    · rw [h]
      exact selects parent
    · rw [h]
      exact (selects parent).trans (.appended place trees mailboxes _)
  | remove selector =>
    rcases remove_cases selector p with h | ⟨ids, mailboxes, h⟩
    · rw [h]
      exact selects selector
    · rw [h]
      exact (selects selector).trans (.withdrawn ids mailboxes _)
  | receive o => exact .of_keeps (p.receive_sameTree o).keeps
  | drain o => exact .of_keeps (p.updateMailbox_sameTree o _).keeps
  | drop o => exact .of_keeps (p.updateMailbox_sameTree o _).keeps
  | checkedAll selector =>
    rcases checkedAll_eq selector p with h | h
    · rw [h]
      exact selects selector
    · rw [h]
      exact .refl p

/-- **A page later on**, after any number of things happened to it. -/
abbrev Later : Page → Page → Prop := Relation.ReflTransGen Step

/-- What each thing that may happen keeps is kept. -/
theorem Later.keeps {P : Page → Prop} (hl : p.Later p') (hkept : ∀ p₁ p₂, P p₁ → p₁.Step p₂ → P p₂)
    (hp : P p) : P p' := by
  induction hl with
  | refl => exact hp
  | tail _ hstep ih => exact hkept _ _ ih hstep

theorem Later.precedes (hl : p.Later p') : p.Precedes p' :=
  hl.keeps (P := p.Precedes) (fun _ _ h hstep => h.trans hstep.precedes) (.refl p)

/-- **A page as it can come to be**: made of a tree, and whatever may happen to it after that. -/
inductive Reached : Page → Prop where
  | ofTree (t : Tree) (nested : Bool) : Reached (.ofTree t nested)
  | step {p p' : Page} : Reached p → p.Step p' → Reached p'

/-- The page of a tree is sound: its nodes are numbered in order, and it has given out no handle. -/
theorem sound_ofTree (t : Tree) (nested : Bool) : (ofTree t nested).Sound := by
  obtain ⟨hlt, hids⟩ := Tree.ids_number 0 t
  refine ⟨?_, fun i hi => ?_, by simp [ofTree], List.nodup_nil⟩
  · change (t.number 0).1.ids.Nodup
    rw [hids]
    exact List.nodup_range'
  · change i ∈ (t.number 0).1.ids at hi
    change i < (t.number 0).2
    rw [hids, List.mem_range'_1] at hi
    omega

/-- What comes of a page that can come to be can come to be. -/
theorem Later.reached (hl : p.Later p') (hp : p.Reached) : p'.Reached :=
  hl.keeps (fun _ _ => .step) hp

/-- **Every page that can come to be is sound.** -/
theorem Reached.sound (h : p.Reached) : p.Sound := by
  induction h with
  | ofTree t nested => exact sound_ofTree t nested
  | step _ hstep ih => exact hstep.sound ih

end Page
end ConsentWalker
