import Mathlib.Data.List.Nodup
import ConsentWalker.Proofs.Page.Growth
/-!
# Page — nodes and their numbers

Every node of a page has a number of its own, and every handle names a node of its own
(`Page.Sound`). It holds of a page as it is made and is kept by whatever is done to it, so it holds
of every page that can come to be (`Reached.sound`).

So a number denotes one place: `Sound.place?_eq` finds a place again by its number, and
`below_infix` says that what stands below a place stands below everything above it.
-/

namespace ConsentWalker

/-! ## Numbers of nodes -/

namespace Node

/-- The numbers of some nodes and of all nodes below them. -/
def idsAmong (ns : List Node) : List Nat := (allAmong ns).map id

@[simp] theorem idsAmong_nil : idsAmong [] = [] := rfl

@[simp] theorem idsAmong_cons (n : Node) (ns : List Node) :
    idsAmong (n :: ns) = n.ids ++ idsAmong ns := by
  simp [idsAmong, ids, allAmong]

@[simp] theorem idsAmong_append (ns ms : List Node) :
    idsAmong (ns ++ ms) = idsAmong ns ++ idsAmong ms := by
  induction ns with
  | nil => rfl
  | cons n ns ih => rw [List.cons_append, idsAmong_cons, idsAmong_cons, ih, List.append_assoc]

@[simp] theorem ids_mk (n : Nat) (c : Content) (cs : List Node) :
    (Node.mk n c cs).ids = n :: idsAmong cs := by
  simp [ids, idsAmong, all, id]

/-- The number of a node, and what it is. -/
def mark (n : Node) : Nat × Content := (n.id, n.content)

/-- The marks of a node and of all nodes below it. -/
def marks (n : Node) : List (Nat × Content) := n.all.map mark

/-- The marks of some nodes and of all nodes below them. -/
def marksAmong (ns : List Node) : List (Nat × Content) := (allAmong ns).map mark

@[simp] theorem marksAmong_nil : marksAmong [] = [] := rfl

@[simp] theorem marksAmong_cons (n : Node) (ns : List Node) :
    marksAmong (n :: ns) = n.marks ++ marksAmong ns := by
  simp [marksAmong, marks, allAmong]

@[simp] theorem marksAmong_append (ns ms : List Node) :
    marksAmong (ns ++ ms) = marksAmong ns ++ marksAmong ms := by
  induction ns with
  | nil => rfl
  | cons n ns ih => rw [List.cons_append, marksAmong_cons, marksAmong_cons, ih, List.append_assoc]

@[simp] theorem marks_mk (n : Nat) (c : Content) (cs : List Node) :
    (Node.mk n c cs).marks = (n, c) :: marksAmong cs := by
  simp [marks, marksAmong, all, mark, id, content]

/-- The numbers of nodes are part of their marks. -/
theorem ids_eq_map_marks (n : Node) : n.ids = n.marks.map Prod.fst := by
  rw [ids, marks, List.map_map]
  rfl

/-- The numbers of nodes are those of their marks. -/
theorem idsAmong_eq_map_marks (ns : List Node) : idsAmong ns = (marksAmong ns).map Prod.fst := by
  rw [idsAmong, marksAmong, List.map_map]
  rfl

mutual

/-- **Taking nodes out takes marks out**, and changes the order of none. -/
theorem marks_without (gone : List Nat) : (n : Node) → (n.without gone).marks.Sublist n.marks
  | .mk n c cs => by
    rw [without, marks_mk, marks_mk]
    exact (marksAmong_without gone cs).cons_cons (n, c)

theorem marksAmong_without (gone : List Nat) :
    (ns : List Node) → (marksAmong (withoutAmong gone ns)).Sublist (marksAmong ns)
  | [] => .slnil
  | n :: rest => by
    rw [withoutAmong, marksAmong_cons]
    split
    · exact (marksAmong_without gone rest).trans (List.sublist_append_right _ _)
    · rw [marksAmong_cons]
      exact (marks_without gone n).append (marksAmong_without gone rest)

end

/-- So it takes numbers out. -/
theorem ids_without (gone : List Nat) (n : Node) : ((n.without gone).ids).Sublist n.ids := by
  rw [ids_eq_map_marks, ids_eq_map_marks]
  exact (marks_without gone n).map Prod.fst

mutual

/-- **Appending adds marks of new nodes** and no others. -/
theorem mem_marks_appendTo {m : Nat × Content} (target : Nat) (new : List Node) :
    (n : Node) → m ∈ (n.appendTo target new).marks → m ∈ n.marks ∨ m ∈ marksAmong new
  | .mk n c cs, hm => by
    rw [appendTo, marks_mk] at hm
    rw [marks_mk]
    rcases List.mem_cons.1 hm with hself | hbelow
    · exact .inl (List.mem_cons.2 (.inl hself))
    · have hrest : m ∈ marksAmong (appendAmong target new cs) → m ∈ (n, c) :: marksAmong cs ∨
          m ∈ marksAmong new := fun h =>
        (mem_marksAmong_append target new cs h).imp_left (List.mem_cons_of_mem _)
      split at hbelow
      · rw [marksAmong_append] at hbelow
        rcases List.mem_append.1 hbelow with hold | hnew
        · exact hrest hold
        · exact .inr hnew
      · exact hrest hbelow

theorem mem_marksAmong_append {m : Nat × Content} (target : Nat) (new : List Node) :
    (ns : List Node) → m ∈ marksAmong (appendAmong target new ns) →
      m ∈ marksAmong ns ∨ m ∈ marksAmong new
  | [], hm => .inl hm
  | n :: rest, hm => by
    rw [appendAmong, marksAmong_cons] at hm
    rw [marksAmong_cons]
    rcases List.mem_append.1 hm with hm | hm
    · exact (mem_marks_appendTo target new n hm).imp_left (List.mem_append_left _)
    · exact (mem_marksAmong_append target new rest hm).imp_left (List.mem_append_right _)

end

mutual

/-- **Nodes are appended wherever their number is asked for**, so with a number that stands once
they are appended once. -/
theorem count_ids_appendTo (target : Nat) (new : List Node) (i : Nat) : (n : Node) →
    (n.appendTo target new).ids.count i =
      n.ids.count i + n.ids.count target * (idsAmong new).count i
  | .mk n c cs => by
    have hrest := count_idsAmong_append target new i cs
    rw [appendTo]
    by_cases ht : n = target
    · subst ht
      simp only [if_pos, ids_mk, idsAmong_append, List.count_cons, List.count_append, hrest]
      simp only [beq_self_eq_true, if_true, Nat.add_mul, Nat.one_mul]
      omega
    · have hne : (n == target) = false := by simpa using ht
      simp only [if_neg ht, ids_mk, List.count_cons, hrest, hne]
      simp only [Bool.false_eq_true, if_false, Nat.add_zero]
      omega

theorem count_idsAmong_append (target : Nat) (new : List Node) (i : Nat) : (ns : List Node) →
    (idsAmong (appendAmong target new ns)).count i =
      (idsAmong ns).count i + (idsAmong ns).count target * (idsAmong new).count i
  | [] => by simp [appendAmong]
  | n :: rest => by
    rw [appendAmong, idsAmong_cons, idsAmong_cons, List.count_append, List.count_append,
      List.count_append, count_ids_appendTo target new i n, count_idsAmong_append target new i rest,
      Nat.add_mul]
    omega

end
end Node

namespace Tree

mutual

/-- **Numbering gives the numbers from the first to the last in document order**, each once. -/
theorem ids_number (next : Nat) : (t : Tree) → next < (t.number next).2 ∧
    (t.number next).1.ids = List.range' next ((t.number next).2 - next)
  | .node c cs => by
    obtain ⟨hle, hids⟩ := idsAmong_numberAll (next + 1) cs
    rw [number]
    refine ⟨hle, ?_⟩
    dsimp only
    rw [Node.ids_mk, hids, ← List.range'_succ]
    congr 1
    omega

theorem idsAmong_numberAll (next : Nat) : (ts : List Tree) → next ≤ (numberAll next ts).2 ∧
    Node.idsAmong (numberAll next ts).1 = List.range' next ((numberAll next ts).2 - next)
  | [] => by simp [numberAll]
  | t :: rest => by
    obtain ⟨hlt, hids⟩ := ids_number next t
    obtain ⟨hle, hrest⟩ := idsAmong_numberAll (number next t).2 rest
    rw [numberAll]
    refine ⟨by dsimp only; omega, ?_⟩
    dsimp only
    have hstart : (number next t).2 = next + ((number next t).2 - next) := by omega
    have hlength : ((number next t).2 - next) +
        ((numberAll (number next t).2 rest).2 - (number next t).2) =
        (numberAll (number next t).2 rest).2 - next := by omega
    rw [Node.idsAmong_cons, hids, hrest, ← hlength, ← List.range'_append_1, ← hstart]

end
end Tree

/-! ## Places -/

namespace Place

mutual

/-- The nodes at the places of a tree are its nodes, in order. -/
theorem map_node_allAt (above : List Level) (left right : List Node) :
    (n : Node) → (allAt above left right n).map Place.node = n.all
  | .mk id c cs => by
    rw [allAt, Node.all, List.map_cons, map_node_allAmong _ [] cs]
    rfl

theorem map_node_allAmong (above : List Level) (left : List Node) :
    (ns : List Node) → (allAmong above left ns).map Place.node = Node.allAmong ns
  | [] => rfl
  | n :: rest => by
    rw [allAmong, Node.allAmong, List.map_append, map_node_allAt above left rest n,
      map_node_allAmong above (n :: left) rest]

end

/-- The numbers below a place are those below its node. -/
theorem map_id_below (p : Place) : p.below.map Place.id = Node.idsAmong p.node.children := by
  have hnodes : p.below.map Place.node = Node.allAmong p.node.children :=
    map_node_allAmong _ _ _
  rw [Node.idsAmong, ← hnodes, List.map_map]
  rfl

mutual

/-- **What stands below a place of a tree stands in the tree**, in one piece. -/
theorem withBelow_infix_allAt {q : Place} (above : List Level) (left right : List Node) :
    (n : Node) → q ∈ allAt above left right n → q.withBelow <:+: allAt above left right n
  | .mk id c cs, hq => by
    rw [allAt] at hq ⊢
    rcases List.mem_cons.1 hq with rfl | hq
    · exact List.infix_rfl
    · exact (withBelow_infix_allAmong _ [] cs hq).trans (List.suffix_cons _ _).isInfix

theorem withBelow_infix_allAmong {q : Place} (above : List Level) (left : List Node) :
    (ns : List Node) → q ∈ allAmong above left ns → q.withBelow <:+: allAmong above left ns
  | [], hq => by cases hq
  | n :: rest, hq => by
    rw [allAmong] at hq ⊢
    rcases List.mem_append.1 hq with hq | hq
    · exact (withBelow_infix_allAt above left rest n hq).trans (List.prefix_append _ _).isInfix
    · exact (withBelow_infix_allAmong above (n :: left) rest hq).trans
        (List.suffix_append _ _).isInfix

end

/-- **What stands below a place stands below all that is above it.** -/
theorem below_infix {p q : Place} (hq : q ∈ p.below) : q.below <:+: p.below :=
  (List.suffix_cons q q.below).isInfix.trans (withBelow_infix_allAmong _ [] _ hq)

/-! ### What is above -/

mutual

/-- What stands above some places stands above each of them and what is below it. -/
theorem suffix_of_mem_allAt {x : Place} (above : List Level) (left right : List Node) :
    (n : Node) → x ∈ allAt above left right n → above <:+ x.above
  | .mk id c cs, hx => by
    rw [allAt] at hx
    rcases List.mem_cons.1 hx with rfl | hx
    · exact List.suffix_rfl
    · exact (List.suffix_cons _ _).trans (suffix_of_mem_allAmong _ [] cs hx)

/-- A place among some trees has what is above them above it. -/
theorem suffix_of_mem_allAmong {x : Place} (above : List Level) (left : List Node) :
    (ns : List Node) → x ∈ allAmong above left ns → above <:+ x.above
  | [], hx => by cases hx
  | n :: rest, hx => by
    rw [allAmong] at hx
    rcases List.mem_append.1 hx with hx | hx
    · exact suffix_of_mem_allAt above left rest n hx
    · exact suffix_of_mem_allAmong above (n :: left) rest hx

end

theorem mem_ofLevels {q : Place} {levels : List Level} :
    q ∈ ofLevels levels ↔ q.level :: q.above <:+ levels := by
  induction levels with
  | nil =>
    rw [ofLevels, List.suffix_nil]
    exact ⟨nofun, nofun⟩
  | cons level above ih =>
    rw [ofLevels, List.mem_cons, ih, List.suffix_cons_iff, List.cons.injEq]
    obtain ⟨l, a⟩ := q
    simp only [mk.injEq]

/-- **A place stands above everything below it.** -/
theorem mem_ancestors {p x : Place} (hx : x ∈ p.below) : p ∈ x.ancestors :=
  mem_ofLevels.2 (suffix_of_mem_allAmong _ [] _ hx)

/-- Two places neither of which stands inside the other. -/
def Apart (p q : Place) : Prop := p ≠ q ∧ p ∉ q.ancestors ∧ q ∉ p.ancestors

/-- **Of two places with something below both, one stands inside the other.** -/
theorem Apart.disjoint {p q : Place} (h : p.Apart q) : p.below.Disjoint q.below := by
  intro x hp hq
  obtain ⟨hne, hpq, hqp⟩ := h
  have hx : p.level :: p.above <:+ x.above := mem_ofLevels.1 (mem_ancestors hp)
  have hx' : q.level :: q.above <:+ x.above := mem_ofLevels.1 (mem_ancestors hq)
  -- both chains end in the one above what is below both, so one of them ends in the other
  have inside : ∀ {a b : Place}, a ≠ b → a ∉ b.ancestors →
      ¬ a.level :: a.above <:+ b.level :: b.above := by
    intro a b hne habove hsuffix
    rcases List.suffix_cons_iff.1 hsuffix with heq | hsuffix
    · rw [List.cons.injEq] at heq
      obtain ⟨l, as⟩ := a
      obtain ⟨l', bs⟩ := b
      obtain ⟨rfl, rfl⟩ := heq
      exact hne rfl
    · exact habove (mem_ofLevels.2 hsuffix)
  rcases List.suffix_or_suffix_of_suffix hx hx' with hsuffix | hsuffix
  · exact inside hne hpq hsuffix
  · exact inside hne.symm hqp hsuffix

end Place

/-- What a selector matches is an element. -/
theorem Css.isElement_of_selects {selectors : List Css.Complex} {q : Place}
    (h : Css.selects selectors q = true) : q.node.isElement = true := by
  have accepts : ∀ (anchor : Nat) (cs : List Css.Complex), Css.anyAccepts anchor q cs = true →
      q.node.isElement = true := by
    intro anchor cs
    induction cs with
    | nil => exact fun h => absurd h Bool.false_ne_true
    | cons c rest ih =>
      intro h
      rw [Css.anyAccepts, Bool.or_eq_true] at h
      rcases h with h | h
      · cases c with
        | mk subject left =>
          rw [Css.Complex.accepts] at h
          cases he : q.element? with
          | none =>
            rw [he] at h
            cases h
          | some e => exact Option.isSome_iff_exists.2 ⟨e, he⟩
      · exact ih h
  exact accepts q.id selectors h

/-! ## Pages -/

/-- **A page in which numbers and handles are unmistakable.** -/
structure Page.Sound (p : Page) : Prop where
  /-- Every node has a number of its own. -/
  numbered : p.root.ids.Nodup
  /-- The next new node will have another number. -/
  fresh : ∀ i ∈ p.root.ids, i < p.nextId
  /-- Every handle was given to a node that is or was there. -/
  known : ∀ i ∈ p.handles, i < p.nextId
  /-- No node was given two handles. -/
  named : p.handles.Nodup

namespace Page

variable {p p' : Page}

/-! ### Finding a place again -/

theorem map_id_places (p : Page) : p.places.map Place.id = Node.idsAmong p.root.children :=
  Place.map_id_below _

/-- The numbers below the root are those of nodes of the page. -/
theorem ids_eq (p : Page) : p.root.ids = p.root.id :: p.places.map Place.id := by
  rw [map_id_places]
  cases p.root with
  | mk id c cs => rw [Node.ids_mk]; rfl

/-- A place of the page has the number of a node of it. -/
theorem id_mem {q : Place} (hq : q ∈ p.places) : q.id ∈ p.root.ids := by
  rw [ids_eq]
  exact List.mem_cons_of_mem _ (List.mem_map_of_mem hq)

/-- That number was given out. -/
theorem Sound.id_lt (hp : p.Sound) {q : Place} (hq : q ∈ p.places) : q.id < p.nextId :=
  hp.fresh _ (id_mem hq)

/-- It was not given to the document itself, which is no place of the page. -/
theorem Sound.id_ne_root (hp : p.Sound) {q : Place} (hq : q ∈ p.places) : q.id ≠ p.root.id := by
  intro hid
  have hids := hp.numbered
  rw [ids_eq, List.nodup_cons] at hids
  exact hids.1 (hid ▸ List.mem_map_of_mem hq)

/-- No two places of a sound page have one number. -/
theorem Sound.places_nodup (hp : p.Sound) : (p.places.map Place.id).Nodup := by
  have hids := hp.numbered
  rw [ids_eq] at hids
  exact (List.nodup_cons.1 hids).2

/-- **Two places of a page with one number are one place.** -/
theorem Sound.eq_of_id (hp : p.Sound) {q r : Place} (hq : q ∈ p.places) (hr : r ∈ p.places)
    (hid : q.id = r.id) : q = r :=
  List.inj_on_of_nodup_map hp.places_nodup hq hr hid

/-- What stands in one piece of a page stands there once. -/
theorem Sound.nodup_of_infix (hp : p.Sound) {qs : List Place} (h : qs <:+: p.places) : qs.Nodup :=
  .of_map Place.id (hp.places_nodup.sublist (h.sublist.map Place.id))

/-- **A place is found again by its number.** -/
theorem Sound.place?_eq (hp : p.Sound) {q : Place} (hq : q ∈ p.places) :
    p.root.place? q.id = some q := by
  have hfound : p.root.place? q.id = p.places.find? fun r => r.id == q.id := rfl
  obtain ⟨r, hr⟩ : ∃ r, p.places.find? (fun r => r.id == q.id) = some r := by
    rw [← Option.isSome_iff_exists, List.find?_isSome]
    exact ⟨q, hq, by simp⟩
  have hid : r.id = q.id := by simpa using List.find?_some hr
  rw [hfound, hr, hp.eq_of_id (List.mem_of_find?_eq_some hr) hq hid]

/-- What a handle denotes is a place of the page, with the number the handle was given for. -/
theorem place?_eq_some {h : Handle} {q : Place} (hq : p.place? h = some q) :
    q ∈ p.places ∧ p.handles[h.id]? = some q.id := by
  obtain ⟨i, hi, hplace⟩ := Option.bind_eq_some_iff.1 hq
  have hid : q.id = i := by
    have hfound := List.find?_some hplace
    simpa using hfound
  exact ⟨List.mem_of_find?_eq_some hplace, by rw [hi, hid]⟩

/-- **A handle denotes a place** of a sound page exactly if it was given for its number. -/
theorem Sound.place?_iff (hp : p.Sound) {h : Handle} {q : Place} :
    p.place? h = some q ↔ q ∈ p.places ∧ p.handles[h.id]? = some q.id := by
  refine ⟨place?_eq_some, fun ⟨hq, hi⟩ => ?_⟩
  unfold place?
  rw [hi]
  exact hp.place?_eq hq

/-! ### What is kept -/

/-- **A page whose tree was left alone**: the same nodes stand in the same places, and what had a
handle has it still. -/
structure Keeps (p p' : Page) : Prop where
  root : p'.root = p.root
  nextId : p'.nextId = p.nextId
  nested : p'.nested = p.nested
  handles : p.handles <+: p'.handles

namespace Keeps

variable {p₁ p₂ : Page}

theorem refl (p : Page) : p.Keeps p := ⟨rfl, rfl, rfl, List.prefix_rfl⟩

theorem trans (h₁ : p.Keeps p₁) (h₂ : p₁.Keeps p₂) : p.Keeps p₂ :=
  ⟨h₂.root.trans h₁.root, h₂.nextId.trans h₁.nextId, h₂.nested.trans h₁.nested,
    h₁.handles.trans h₂.handles⟩

theorem of_grows (h : p.Grows p') : p.Keeps p' := by
  obtain ⟨more, rfl⟩ := h
  exact ⟨rfl, rfl, rfl, List.prefix_append _ _⟩

/-- A page that keeps another has its places. -/
theorem places_eq (h : p.Keeps p') : p'.places = p.places := by
  unfold places
  rw [h.root]

/-- What a handle denoted it denotes still. -/
theorem place? (h : p.Keeps p') {k : Handle} {q : Place} (hq : p.place? k = some q) :
    p'.place? k = some q := by
  unfold Page.place? at *
  obtain ⟨more, hmore⟩ := h.handles
  obtain ⟨i, hi, hplace⟩ := Option.bind_eq_some_iff.1 hq
  rw [← hmore, List.getElem?_append_left (List.getElem?_eq_some_iff.1 hi).1, hi, h.root]
  exact hplace

end Keeps

/-! ### Naming keeps a page sound -/

/-- Giving a handle to a node that was numbered keeps a page sound. -/
theorem Sound.name (hp : p.Sound) {i : Nat} (hi : i < p.nextId) : (p.name i).2.Sound := by
  unfold Page.name
  cases hfound : p.handles.idxOf? i with
  | some k => exact hp
  | none =>
    have hnew : i ∉ p.handles := List.idxOf?_eq_none_iff.1 hfound
    refine ⟨hp.numbered, hp.fresh, fun k hk => ?_, ?_⟩
    · rcases List.mem_append.1 hk with hk | hk
      · exact hp.known k hk
      · rw [List.mem_singleton.1 hk]
        exact hi
    · exact List.nodup_append.2 ⟨hp.named, by simp, fun a ha b hb => by
        rw [List.mem_singleton.1 hb]
        rintro rfl
        exact hnew ha⟩

/-- So does giving handles to several nodes. -/
theorem Sound.nameAll (hp : p.Sound) {ids : List Nat} (hids : ∀ i ∈ ids, i < p.nextId) :
    (p.nameAll ids).2.Sound := by
  induction ids generalizing p with
  | nil => exact hp
  | cons i ids ih =>
    have hsame : (p.name i).2.nextId = p.nextId := (Keeps.of_grows (name_steady p i).grows).nextId
    have hrest : ∀ k ∈ ids, k < (p.name i).2.nextId := by
      intro k hk
      rw [hsame]
      exact hids k (List.mem_cons_of_mem _ hk)
    exact ih (hp.name (hids i List.mem_cons_self)) hrest

/-- **What a selector matches are elements of the page**, told by their numbers. -/
theorem matched_places {scope : Option Handle} {selector : String} {ids : List Nat}
    (hm : matched scope selector p = .ok ids) :
    ∃ qs : List Place, ids = qs.map Place.id ∧
      ∀ q ∈ qs, q ∈ p.places ∧ q.node.isElement = true := by
  unfold matched at hm
  cases hopen : p.opened with
  | error e => rw [hopen] at hm; cases hm
  | ok u =>
    rw [hopen] at hm
    cases hsel : Css.Selector.parse selector with
    | error flaw => simp only [hsel, Except.bind] at hm; cases hm
    | ok selectors =>
      simp only [hsel, Except.bind] at hm
      -- whatever the origin is, what stands below it stands below the root
      have among : ∀ {origin : Place}, (∀ q ∈ origin.below, q ∈ p.places) →
          ids = (origin.below.filter (Css.selects selectors)).map Place.id →
          ∃ qs : List Place, ids = qs.map Place.id ∧
            ∀ q ∈ qs, q ∈ p.places ∧ q.node.isElement = true := by
        intro origin hbelow hids
        refine ⟨_, hids, fun q hq => ?_⟩
        obtain ⟨hq, hselects⟩ := List.mem_filter.1 hq
        exact ⟨hbelow q hq, Css.isElement_of_selects hselects⟩
      cases scope with
      | none => exact among (fun q hq => hq) (Except.ok.inj hm).symm
      | some h =>
        unfold located at hm
        rw [hopen] at hm
        cases hplace : p.place? h with
        | none => simp only [hplace, Except.bind] at hm; cases hm
        | some origin =>
          simp only [hplace, Except.bind] at hm
          have hinfix := Place.below_infix (place?_eq_some hplace).1
          exact among (fun q hq => hinfix.subset hq) (Except.ok.inj hm).symm

/-- What matches are places of the page. -/
theorem matched_mem {scope : Option Handle} {selector : String} {ids : List Nat}
    (hm : matched scope selector p = .ok ids) : ∀ i ∈ ids, i ∈ p.places.map Place.id := by
  obtain ⟨qs, rfl, hqs⟩ := matched_places hm
  exact fun i hi => List.map_subset Place.id (fun q hq => (hqs q hq).1) hi

/-- Asking for matches keeps a page sound. -/
theorem Sound.select (hp : p.Sound) (scope : Option Handle) (selector : String) :
    ((select scope selector).run.run p).2.Sound := by
  rw [select_run]
  cases hm : matched scope selector p with
  | error e => exact hp
  | ok ids =>
    refine hp.nameAll fun i hi => hp.fresh i ?_
    rw [ids_eq]
    exact List.mem_cons_of_mem _ (matched_mem hm i hi)

end Page
end ConsentWalker
