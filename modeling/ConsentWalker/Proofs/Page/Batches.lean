import Mathlib.Data.List.TakeWhile
import ConsentWalker.Proofs.Page.Atomicity
import ConsentWalker.Proofs.Page.Subscribers
/-!
# Page — batches

Every change of a page makes one batch for each observer that is there to be told: it was made
before, it was not given up, and the page is open. `Page.batches` are those that some happenings
make, and `Page.fetchedAll` are those an observer takes out of its queue meanwhile, one by one or
all at once.

**What was fetched and what still waits are the batches that were made**, in their order, as long as
the observer is held (`fetchedAll_append_queue`). One step says this of one mailbox
(`mailbox_after`), and what an operation does to all of them is `Posts`. That the page delivers to
them until it is closed, and to none after that, is an invariant (`Linked`).

`Lists` are those who are held, and `batches_delivered` puts both together.
-/

namespace ConsentWalker

/-! ## Sizes -/

namespace Tree

mutual

/-- The number of nodes of a tree. -/
def size : Tree → Nat
  | .node _ cs => sizeAll cs + 1

/-- The number of nodes of some trees. -/
def sizeAll : List Tree → Nat
  | [] => 0
  | t :: rest => t.size + sizeAll rest

end

mutual

/-- Numbering a tree takes as many numbers as it has nodes. -/
theorem number_next (next : Nat) : (t : Tree) → (t.number next).2 = next + t.size
  | .node c cs => by
    have hrest := numberAll_next (next + 1) cs
    rw [number, size]
    dsimp only
    omega

theorem numberAll_next (next : Nat) : (ts : List Tree) → (numberAll next ts).2 = next + sizeAll ts
  | [] => rfl
  | t :: rest => by
    have hfirst := number_next next t
    have hrest := numberAll_next (t.number next).2 rest
    rw [numberAll, sizeAll]
    dsimp only
    omega

end
end Tree

/-! ## Happenings -/

/-- **What happens to a page**: it is asked for something, or one of its observers fetches what
waits for it, or is given up. -/
inductive Happening where
  | operation (op : Operation)
  | receive (o : Observer)
  | drain (o : Observer)
  | drop (o : Observer)

namespace Happening

/-- Whether an observer is given up. -/
def givesUp (o : Observer) : Happening → Bool
  | .drop o' => o' == o
  | _ => false

/-- Whether an observer hears of nothing that happens after this: it is given up, or the page is
closed. -/
def silences (o : Observer) : Happening → Bool
  | .drop o' => o' == o
  | .operation (.call .close) => true
  | _ => false

theorem silences_of_givesUp {o : Observer} {x : Happening} (hx : x.givesUp o = true) :
    x.silences o = true := by
  cases x with
  | drop o' => exact hx
  | operation | receive | drain => cases hx

theorem eq_close_of_silences {o : Observer} {x : Happening} (hs : x.silences o = true)
    (hx : x.givesUp o = false) : x = .operation (.call .close) := by
  unfold silences at hs
  split at hs
  · exact absurd (hs.symm.trans hx) Bool.noConfusion
  · rfl
  · cases hs

end Happening

/-- The batch in an answer, if there is one. -/
def Receipt.batch? : Receipt → Option Nat
  | .batch records => some records
  | _ => none

/-- The answer to who asks for the next batch while these wait. -/
def Receipt.ofQueue (closed : Bool) : List Nat → Receipt
  | records :: _ => .batch records
  | [] => if closed then .ended else .pending

namespace Page

variable {p p' : Page} {o : Observer} {x : Happening} {xs : List Happening}

/-- The page after something happened. -/
def after (p : Page) : Happening → Page
  | .operation op => (p.operate op).2
  | .receive o => (p.receive o).2
  | .drain o => (p.drain o).2
  | .drop o => p.drop o

/-- The page after some things happened, in order. -/
def afterAll (p : Page) : List Happening → Page
  | [] => p
  | x :: xs => (p.after x).afterAll xs

/-- **The batch a change makes**: a record for each node that is appended, or for each element that
is matched to be taken out. What fails makes none, and neither does taking nothing out. -/
def batch? (p : Page) : Happening → Option Nat
  | .operation (.append parent trees) =>
    (p.operate (.append parent trees)).1.toOption.map fun _ => Tree.sizeAll trees
  | .operation (.remove selector) =>
    ((matched none selector p).toOption.map List.length).filter (· ≠ 0)
  | _ => none

/-- The batches of all changes, in order. -/
def batches (p : Page) : List Happening → List Nat
  | [] => []
  | x :: xs => (p.batch? x).toList ++ (p.after x).batches xs

/-- **The batches an observer takes out of its queue**, one or all of them. -/
def fetched (p : Page) (o : Observer) : Happening → List Nat
  | .receive o' => if o' = o then (p.receive o).1.batch?.toList else []
  | .drain o' => if o' = o then (p.mailbox o).queue else []
  | _ => []

/-- The batches an observer takes out of its queue in the end, in order. -/
def fetchedAll (p : Page) (o : Observer) : List Happening → List Nat
  | [] => []
  | x :: xs => p.fetched o x ++ (p.after x).fetchedAll o xs

/-- The observers that are held after something happened: a new one too, and not one that was given
up. -/
def holding (p : Page) (os : List Observer) : Happening → List Observer
  | .operation (.call .observe) => os ++ (p.perform .observe).1.toOption.toList
  | .drop o => os.filter (· ≠ o)
  | _ => os

/-- The observers that are held after some things happened. -/
def holdingAll (p : Page) (os : List Observer) : List Happening → List Observer
  | [] => os
  | x :: xs => (p.after x).holdingAll (p.holding os x) xs

theorem step_after (p : Page) (x : Happening) : p.Step (p.after x) := by
  cases x with
  | operation op => exact step_operate op p
  | receive o => exact .receive o
  | drain o => exact .drain o
  | drop o => exact .drop o

/-- All that may happen to a page is one of these. -/
theorem Step.exists_after (h : p.Step p') : ∃ x, p' = p.after x := by
  cases h with
  | perform c => exact ⟨.operation (.call c), rfl⟩
  | append parent trees => exact ⟨.operation (.append parent trees), rfl⟩
  | remove selector => exact ⟨.operation (.remove selector), rfl⟩
  | receive o => exact ⟨.receive o, rfl⟩
  | drain o => exact ⟨.drain o, rfl⟩
  | drop o => exact ⟨.drop o, rfl⟩
  | checkedAll selector => exact ⟨.operation (.checkedAll selector), rfl⟩

theorem Reached.afterAll (hp : p.Reached) (xs : List Happening) : (p.afterAll xs).Reached := by
  induction xs generalizing p with
  | nil => exact hp
  | cons x xs ih => exact ih (.step hp (p.step_after x))

/-! ## What becomes of the mailboxes -/

/-- A call does nothing to any mailbox, but to observe and to close. -/
theorem perform_mailboxes {c : Call} (hobserve : c ≠ .observe) (hclose : c ≠ .close) (p : Page) :
    (p.perform c).2.mailboxes = p.mailboxes := by
  rcases perform_cases c p with hread | hobserve' | ⟨e, -, hrun⟩ | ⟨p', a, hmade, hrun⟩
  · obtain ⟨more, hmore⟩ := perform_grows hread p
    rw [hmore]
  · exact absurd hobserve' hobserve
  · rw [hrun]
  · rw [hrun]
    exact effect_mailboxes_eq hclose hmade

/-- **What an operation does to the mailboxes**: a change is put into all of them, observing makes
one more, closing disconnects them, and nothing else does anything. -/
inductive Posts (p : Page) (op : Operation) : Prop where
  | batch (records : Nat) : p.batch? (.operation op) = some records → p.closed = false →
      (p.operate op).2.mailboxes = p.mailboxes.map (Mailbox.deliver records) →
      (p.operate op).2.closed = false → Posts p op
  | observed : op = .call .observe → Posts p op
  | closed : op = .call .close → p.closed = false → Posts p op
  | nothing : p.batch? (.operation op) = none → op ≠ .call .observe →
      (p.operate op).2.mailboxes = p.mailboxes → (p.operate op).2.closed = p.closed → Posts p op

/-- Appending puts a batch of as many records as nodes were copied into the mailboxes, or fails. -/
theorem append_posts (parent : String) (trees : List Tree) (p : Page) :
    p.Posts (.append parent trees) := by
  have hgrows := select_grows parent p
  -- it fails, and the page has at most given out handles
  have fails : ∀ e, (append parent trees).run.run p =
      (.error e, ((select none parent).run.run p).2) →
      p.Posts (.append parent trees) := by
    intro e hrun
    refine .nothing ?_ nofun ?_ ?_
    · rw [batch?, operate, hrun]
      rfl
    · rw [operate, hrun]
      exact hgrows.mailboxes_eq
    · rw [operate, hrun]
      exact hgrows.closed_eq
  cases hsel : ((select none parent).run.run p).1 with
  | error e =>
    refine fails e ?_
    unfold append
    rw [run_bind, hsel]
  | ok hs =>
    cases hs with
    | nil =>
      refine fails (.script ("`" ++ parent ++ "` matched nothing to append to")) ?_
      unfold append
      rw [run_bind, hsel]
      rfl
    | cons h rest =>
      cases hplace : located h ((select none parent).run.run p).2 with
      | error e =>
        refine fails e ?_
        unfold append
        rw [run_bind, hsel]
        dsimp only
        rw [run_locate, hplace]
      | ok place =>
        generalize hq : ((select none parent).run.run p).2 = q at *
        have hopen : q.closed = false := (located_eq_ok.1 hplace).1
        let count := (Tree.numberAll q.nextId trees).2 - q.nextId
        have hcount : count = Tree.sizeAll trees := by
          have hnext := Tree.numberAll_next q.nextId trees
          omega
        have hrun : (append parent trees).run.run p =
            (.ok count, appended place trees (q.mailboxes.map (Mailbox.deliver count)) q) := by
          unfold append
          rw [run_bind, hsel, hq]
          dsimp only
          rw [run_locate, hplace]
          rfl
        refine .batch (Tree.sizeAll trees) ?_ (hgrows.closed_eq ▸ hopen) ?_ ?_
        · rw [batch?, operate, hrun]
          rfl
        · rw [operate, hrun, ← hcount, ← hgrows.mailboxes_eq]
          rfl
        · rw [operate, hrun]
          exact hopen

/-- Names are given to the nodes they are asked for. -/
theorem handles_nameAll (p : Page) (ids : List Nat) :
    (p.nameAll ids).1.filterMap (fun h => (p.nameAll ids).2.handles[h.id]?) = ids := by
  have hnames := nameAll_names p ids
  generalize (p.nameAll ids).2 = q at hnames
  generalize (p.nameAll ids).1 = hs at hnames
  induction hnames with
  | nil => rfl
  | cons hname _ ih =>
    rw [List.filterMap_cons_some (f := fun h : Handle => q.handles[h.id]?) hname, ih]

/-- Taking elements out puts a batch of as many records as elements were matched into the mailboxes,
if it is any number but none, or fails. -/
theorem remove_posts (selector : String) (p : Page) : p.Posts (.remove selector) := by
  have hgrows := select_grows selector p
  have hsel := select_run none selector p
  cases hm : matched none selector p with
  | error e =>
    have hrun : (remove selector).run.run p = (.error e, p) := by
      unfold remove
      rw [run_bind, hsel, hm]
    have hpage : (p.operate (.remove selector)).2 = p := congrArg Prod.snd hrun
    refine .nothing ?_ nofun ?_ ?_
    · rw [batch?, hm]
      rfl
    · rw [hpage]
    · rw [hpage]
  | ok ids =>
    have hopen : p.closed = false := by
      by_contra hclosed
      rw [matched_of_closed (by simpa using hclosed)] at hm
      cases hm
    have hids := p.handles_nameAll ids
    rw [hm] at hsel
    dsimp only at hsel
    rw [hsel] at hgrows
    generalize (p.nameAll ids).2 = q at *
    generalize (p.nameAll ids).1 = hs at *
    have hpage : (p.operate (.remove selector)).2 =
        if ids.isEmpty then { q with root := q.root.without ids }
          else { q with root := q.root.without ids }.notify ids.length := by
      rw [← hids]
      change ((remove selector).run.run p).2 = _
      unfold remove
      rw [run_bind, hsel]
      rfl
    cases ids with
    | nil =>
      refine .nothing ?_ nofun ?_ ?_
      · rw [batch?, hm]
        rfl
      · rw [hpage]
        exact hgrows.mailboxes_eq
      · rw [hpage]
        exact hgrows.closed_eq
    | cons i ids =>
      refine .batch (i :: ids).length ?_ hopen ?_ ?_
      · rw [batch?, hm]
        rfl
      · rw [hpage, ← hgrows.mailboxes_eq]
        rfl
      · rw [hpage]
        exact hgrows.closed_eq.trans hopen

theorem checkedAll_grows (selector : String) (p : Page) : p.Grows (p.checkedAll selector).2 := by
  rcases checkedAll_eq selector p with h | h
  · rw [h]
    exact select_grows selector p
  · rw [h]
    exact .refl p

/-- **What any operation does to the mailboxes.** -/
theorem operate_posts (op : Operation) (p : Page) : p.Posts op := by
  cases op with
  | append parent trees => exact append_posts parent trees p
  | remove selector => exact remove_posts selector p
  | checked selector | checkedAll selector =>
    have hgrows := checkedAll_grows selector p
    exact .nothing rfl nofun hgrows.mailboxes_eq hgrows.closed_eq
  | call c =>
    by_cases hobserve : c = .observe
    · exact .observed (by rw [hobserve])
    · by_cases hclose : c = .close
      · subst hclose
        cases hp : p.closed with
        | false => exact .closed rfl hp
        | true =>
          have hpage : (p.operate (.call .close)).2 = p := perform_of_closed hp nofun
          exact .nothing rfl nofun (by rw [hpage]) (by rw [hpage])
      · refine .nothing rfl (fun h => hobserve (Operation.call.inj h))
          (perform_mailboxes hobserve hclose p) ?_
        rcases perform_records c p with ⟨h, -⟩ | h
        · exact absurd h hclose
        · exact h.closed

/-! ## Who is told -/

/-- **An open page delivers to every mailbox, and a closed one to none.** -/
def Linked (p : Page) : Prop := ∀ m ∈ p.mailboxes, m.connected = ! p.closed

theorem mailbox_mem (ho : o.index < p.mailboxes.length) : p.mailbox o ∈ p.mailboxes := by
  unfold mailbox
  rw [List.getElem?_eq_getElem ho]
  exact List.getElem_mem ho

/-- An observer that was not given up is one of the page's. -/
theorem lt_of_not_dropped (hm : (p.mailbox o).dropped = false) : o.index < p.mailboxes.length := by
  by_contra ho
  unfold mailbox at hm
  rw [List.getElem?_eq_none (Nat.le_of_not_lt ho)] at hm
  cases hm

theorem mailboxes_observe (p : Page) :
    (p.perform .observe).2.mailboxes = p.mailboxes ++ [{ connected := ! p.closed }] := rfl

theorem shut_closed (p : Page) : p.shut.closed = true := by
  unfold shut
  split
  · assumption
  · rfl

theorem mailboxes_close (hp : p.closed = false) : (p.perform .close).2.mailboxes =
    p.mailboxes.map fun m => { m with connected := false } := by
  change p.shut.mailboxes = _
  unfold shut
  rw [if_neg (Bool.eq_false_iff.1 hp)]
  rfl

/-- **No operation but to observe does anything to who is held.** -/
theorem operate_spares {op : Operation} (hop : op ≠ .call .observe) (own : List Observer)
    (p : Page) :
    Spares own p (p.operate op).2 := by
  cases op with
  | call c => exact perform_spares (fun hc => hop (congrArg Operation.call hc)) p
  | append parent trees => exact append_spares parent trees p
  | remove selector => exact remove_spares selector p
  | checked selector | checkedAll selector => exact .of_grows (checkedAll_grows selector p)

/-- No operation forgets an observer. -/
theorem mailboxes_length_le (op : Operation) (p : Page) :
    p.mailboxes.length ≤ (p.operate op).2.mailboxes.length := by
  by_cases hop : op = .call .observe
  · subst hop
    change _ ≤ (p.perform .observe).2.mailboxes.length
    rw [mailboxes_observe, List.length_append]
    exact Nat.le_add_right _ _
  · exact (operate_spares hop [] p).length

/-- **An operation gives up nobody, and adds its batch to the queue of everybody who is held.** -/
theorem mailbox_operate (hl : p.Linked) (ho : o.index < p.mailboxes.length) (op : Operation) :
    ((p.operate op).2.mailbox o).dropped = (p.mailbox o).dropped ∧
      ((p.operate op).2.mailbox o).queue = (p.mailbox o).queue ++
        if (p.mailbox o).dropped then [] else (p.batch? (.operation op)).toList := by
  cases operate_posts op p with
  | batch records hbatch hopen hboxes _ =>
    rw [mailbox_of_map hboxes ho, hbatch]
    have hconnected := hl _ (mailbox_mem ho)
    rw [hopen] at hconnected
    unfold Mailbox.deliver Mailbox.isLive
    rw [hconnected]
    cases hm : (p.mailbox o).dropped <;> simp [hm]
  | observed h =>
    subst h
    have hbox : (p.operate (.call .observe)).2.mailbox o = p.mailbox o := by
      unfold mailbox
      change (p.perform .observe).2.mailboxes[o.index]?.getD _ = _
      rw [mailboxes_observe, List.getElem?_append_left ho]
    rw [hbox]
    exact ⟨rfl, by simp [batch?]⟩
  | closed h hopen =>
    subst h
    have hbox := mailbox_of_map (mailboxes_close hopen) ho
    change ((p.perform .close).2.mailbox o).dropped = _ ∧ ((p.perform .close).2.mailbox o).queue = _
    rw [hbox]
    exact ⟨rfl, by simp [batch?]⟩
  | nothing hbatch _ hboxes _ =>
    have hbox : (p.operate op).2.mailbox o = p.mailbox o := by
      unfold mailbox
      rw [hboxes]
    rw [hbox, hbatch]
    exact ⟨rfl, by simp⟩

/-- Receiving changes nothing, or takes what it receives out of its queue. -/
theorem receive_page (p : Page) (o : Observer) : (p.receive o).2 = p ∨
    ∃ rest, (p.receive o).2 = p.updateMailbox o fun m => { m with queue := rest } := by
  unfold receive
  dsimp only
  split
  · exact .inl rfl
  · split
    · exact .inr ⟨_, rfl⟩
    · exact .inl rfl

/-- Fetching and giving up leave open who is told. -/
theorem Linked.update (hl : p.Linked) {f : Mailbox → Mailbox}
    (hf : ∀ m, (f m).connected = m.connected) :
    (p.updateMailbox o f).Linked := by
  intro m hm
  change m.connected = ! p.closed
  obtain ⟨i, hi⟩ := List.mem_iff_getElem?.1 hm
  change (p.mailboxes.modify o.index f)[i]? = some m at hi
  rw [List.getElem?_modify] at hi
  obtain ⟨n, hn, rfl⟩ := Option.map_eq_some_iff.1 hi
  have hn' := hl n (List.mem_of_getElem? hn)
  split
  · rw [hf]
    exact hn'
  · exact hn'

/-- **Whatever happens keeps a page linked.** -/
theorem Linked.after (hl : p.Linked) (x : Happening) : (p.after x).Linked := by
  cases x with
  | operation op =>
    intro m hm
    change m ∈ (p.operate op).2.mailboxes at hm
    change m.connected = ! (p.operate op).2.closed
    cases operate_posts op p with
    | batch records _ hopen hboxes hopen' =>
      rw [hboxes] at hm
      obtain ⟨n, hn, rfl⟩ := List.mem_map.1 hm
      have hconnected := hl n hn
      rw [hopen] at hconnected
      rw [hopen']
      unfold Mailbox.deliver
      split <;> exact hconnected
    | observed h =>
      subst h
      rcases List.mem_append.1 hm with hm | hm
      · exact hl m hm
      · rw [List.mem_singleton.1 hm]
        rfl
    | closed h hopen =>
      subst h
      change m ∈ (p.perform .close).2.mailboxes at hm
      rw [mailboxes_close hopen] at hm
      obtain ⟨n, -, rfl⟩ := List.mem_map.1 hm
      have hclosed : (p.operate (.call .close)).2.closed = true := p.shut_closed
      rw [hclosed]
      rfl
    | nothing _ _ hboxes hclosed =>
      rw [hboxes] at hm
      rw [hclosed]
      exact hl m hm
  | receive o =>
    change (p.receive o).2.Linked
    rcases p.receive_page o with h | ⟨rest, h⟩
    · rw [h]
      exact hl
    · rw [h]
      exact hl.update fun _ => rfl
  | drain o => exact hl.update fun _ => rfl
  | drop o => exact hl.update fun _ => rfl

/-- **Every page that can come to be is linked.** -/
theorem Reached.linked (hp : p.Reached) : p.Linked := by
  induction hp with
  | ofTree t nested => exact fun m hm => absurd hm List.not_mem_nil
  | step _ hstep ih =>
    obtain ⟨x, rfl⟩ := hstep.exists_after
    exact ih.after x

/-! ## What is fetched -/

/-- The first batch that waits is received. -/
theorem receive_cons (hm : (p.mailbox o).dropped = false) {records : Nat} {rest : List Nat}
    (hq : (p.mailbox o).queue = records :: rest) :
    p.receive o = (.batch records, p.updateMailbox o fun m => { m with queue := rest }) := by
  unfold receive
  dsimp only
  rw [hm, hq, if_neg Bool.false_ne_true]

/-- Where none waits there is none yet, or there will be none any more. -/
theorem receive_nil (hm : (p.mailbox o).dropped = false) (hq : (p.mailbox o).queue = []) :
    p.receive o = (if (p.mailbox o).connected then .pending else .ended, p) := by
  unfold receive
  dsimp only
  rw [hm, hq, if_neg Bool.false_ne_true]

/-- Who was given up receives nothing. -/
theorem receive_dropped (hm : (p.mailbox o).dropped = true) : p.receive o = (.dropped, p) := by
  unfold receive
  dsimp only
  rw [hm, if_pos rfl]

/-- Receiving does nothing to the mailboxes of others. -/
theorem mailbox_receive_of_ne {o' : Observer} (ho : o ≠ o') :
    (p.receive o').2.mailbox o = p.mailbox o := by
  rcases p.receive_page o' with h | ⟨rest, h⟩
  · rw [h]
  · rw [h, mailbox_updateMailbox_of_ne ho]

/-- **One thing that happens to an observer that is held**: what it fetches and what waits for it
then are what waited for it before and the batch that is made. -/
theorem mailbox_after (hl : p.Linked) (hm : (p.mailbox o).dropped = false)
    (hx : x.givesUp o = false) :
    ((p.after x).mailbox o).dropped = false ∧
      p.fetched o x ++ ((p.after x).mailbox o).queue =
        (p.mailbox o).queue ++ (p.batch? x).toList := by
  -- what is not about this observer leaves its mailbox alone
  have aside : p.batch? x = none → p.fetched o x = [] → (p.after x).mailbox o = p.mailbox o →
      ((p.after x).mailbox o).dropped = false ∧
        p.fetched o x ++ ((p.after x).mailbox o).queue =
            (p.mailbox o).queue ++ (p.batch? x).toList := by
    intro hbatch hfetched hbox
    rw [hbatch, hfetched, hbox]
    exact ⟨hm, (List.append_nil _).symm⟩
  cases x with
  | operation op =>
    obtain ⟨hdropped, hqueue⟩ := mailbox_operate hl (lt_of_not_dropped hm) op
    rw [hm] at hdropped hqueue
    exact ⟨hdropped, hqueue⟩
  | receive o' =>
    by_cases ho : o' = o
    · subst ho
      have hbatch : p.batch? (.receive o') = none := rfl
      have hfetched : p.fetched o' (.receive o') = (p.receive o').1.batch?.toList := if_pos rfl
      rw [hbatch, hfetched, after]
      cases hq : (p.mailbox o').queue with
      | nil =>
        rw [receive_nil hm hq]
        refine ⟨hm, ?_⟩
        cases (p.mailbox o').connected <;> exact hq
      | cons records rest =>
        rw [receive_cons hm hq, mailbox_updateMailbox hm]
        exact ⟨hm, (List.append_nil _).symm⟩
    · exact aside rfl (if_neg ho) (mailbox_receive_of_ne (Ne.symm ho))
  | drain o' =>
    by_cases ho : o' = o
    · subst ho
      have hbox : (p.after (.drain o')).mailbox o' = { p.mailbox o' with queue := [] } :=
        mailbox_drain hm
      have hfetched : p.fetched o' (.drain o') = (p.mailbox o').queue := if_pos rfl
      rw [hbox, hfetched]
      exact ⟨hm, rfl⟩
    · exact aside rfl (if_neg ho) (mailbox_updateMailbox_of_ne (Ne.symm ho) _)
  | drop o' =>
    have hne : o ≠ o' := by
      rintro rfl
      simp [Happening.givesUp] at hx
    exact aside rfl rfl (mailbox_updateMailbox_of_ne hne _)

/-- Nothing that happens forgets an observer. -/
theorem length_le_after (x : Happening) (p : Page) :
    p.mailboxes.length ≤ (p.after x).mailboxes.length := by
  have updates : ∀ o f, p.mailboxes.length ≤ (p.updateMailbox o f).mailboxes.length := fun o f =>
    Nat.le_of_eq (List.length_modify ..).symm
  cases x with
  | operation op => exact mailboxes_length_le op p
  | receive o =>
    rw [after]
    rcases p.receive_page o with h | ⟨rest, h⟩
    · rw [h]
    · rw [h]
      exact updates o _
  | drain o => exact updates o _
  | drop o => exact updates o _

/-- An observer that was given up: nothing waits for it any more. -/
structure GivenUp (p : Page) (o : Observer) : Prop where
  known : o.index < p.mailboxes.length
  dropped : (p.mailbox o).dropped = true
  queue : (p.mailbox o).queue = []

/-- **Who gives an observer up has nothing left of it.** -/
theorem givenUp_after (ho : o.index < p.mailboxes.length) (hx : x.givesUp o = true) :
    (p.after x).GivenUp o ∧ p.fetched o x = [] := by
  have hknown := Nat.lt_of_lt_of_le ho (length_le_after x p)
  cases x with
  | drop o' =>
    obtain rfl : o' = o := beq_iff_eq.1 hx
    have hbox : (p.after (.drop o')).mailbox o' =
        { p.mailbox o' with queue := [], dropped := true } :=
      mailbox_updateMailbox_self ho _
    exact ⟨⟨hknown, by rw [hbox], by rw [hbox]⟩, rfl⟩
  | operation | receive | drain => cases hx

/-- Nothing is got any more from an observer that was given up. -/
theorem GivenUp.after (hl : p.Linked) (hg : p.GivenUp o) (x : Happening) :
    (p.after x).GivenUp o ∧ p.fetched o x = [] := by
  obtain ⟨hknown, hdropped, hqueue⟩ := hg
  have hknown' := Nat.lt_of_lt_of_le hknown (length_le_after x p)
  have aside : (p.after x).mailbox o = p.mailbox o → (p.after x).GivenUp o := fun hbox =>
    ⟨hknown', hbox ▸ hdropped, hbox ▸ hqueue⟩
  cases x with
  | operation op =>
    obtain ⟨hdropped', hqueue'⟩ := mailbox_operate hl hknown op
    rw [hdropped, hqueue] at *
    exact ⟨⟨hknown', hdropped', hqueue'⟩, rfl⟩
  | receive o' =>
    by_cases ho : o = o'
    · subst ho
      have hnothing := receive_dropped hdropped
      refine ⟨aside ?_, ?_⟩
      · rw [Page.after, hnothing]
      · rw [fetched, hnothing]
        exact ite_self _
    · exact ⟨aside (mailbox_receive_of_ne ho), if_neg (Ne.symm ho)⟩
  | drain o' =>
    refine ⟨?_, by rw [fetched, hqueue, ite_self]⟩
    by_cases ho : o = o'
    · subst ho
      have hbox : (p.after (.drain o)).mailbox o = { p.mailbox o with queue := [] } :=
        mailbox_updateMailbox_self hknown _
      exact ⟨hknown', by rw [hbox]; exact hdropped, by rw [hbox]⟩
    · exact aside (mailbox_updateMailbox_of_ne ho _)
  | drop o' =>
    refine ⟨?_, rfl⟩
    by_cases ho : o = o'
    · subst ho
      exact (givenUp_after (x := .drop o) hknown (beq_self_eq_true o)).1
    · exact aside (mailbox_updateMailbox_of_ne ho _)

theorem GivenUp.fetchedAll (hl : p.Linked) (hg : p.GivenUp o) (xs : List Happening) :
    p.fetchedAll o xs = [] := by
  induction xs generalizing p with
  | nil => rfl
  | cons x xs ih =>
    obtain ⟨hg', hnothing⟩ := hg.after hl x
    rw [Page.fetchedAll, hnothing, ih (hl.after x) hg', List.append_nil]

/-! ## Runs -/

/-- A closed page makes no batch. -/
theorem batch?_of_closed (hp : p.closed = true) (x : Happening) : p.batch? x = none := by
  cases x with
  | operation op =>
    cases operate_posts op p with
    | batch _ _ hopen _ _ =>
      rw [hp] at hopen
      cases hopen
    | observed h =>
      subst h
      rfl
    | closed h _ =>
      subst h
      rfl
    | nothing hbatch _ _ _ => exact hbatch
  | receive | drain | drop => rfl

/-- It stays closed, so it makes none ever after. -/
theorem batches_of_closed (hp : p.closed = true) (xs : List Happening) : p.batches xs = [] := by
  induction xs generalizing p with
  | nil => rfl
  | cons x xs ih =>
    rw [batches, batch?_of_closed hp, ih ((p.step_after x).still hp).closed]
    rfl

/-- **What an observer fetched, and what waits for it still or waited when it was given up, are the
batches that were made** until it was given up or the page was closed. -/
theorem fetchedAll_append_queue (hl : p.Linked) (hm : (p.mailbox o).dropped = false)
    (xs : List Happening) :
    p.fetchedAll o xs ++ ((p.afterAll (xs.takeWhile fun x => ! x.givesUp o)).mailbox o).queue =
      (p.mailbox o).queue ++ p.batches (xs.takeWhile fun x => ! x.silences o) := by
  induction xs generalizing p with
  | nil => exact (List.append_nil _).symm
  | cons x xs ih =>
    cases hx : x.givesUp o with
    | true =>
      obtain ⟨hg, hnothing⟩ := givenUp_after (lt_of_not_dropped hm) hx
      have hsilent := Happening.silences_of_givesUp hx
      rw [fetchedAll, hnothing, hg.fetchedAll (hl.after x)]
      simp only [List.takeWhile_cons, hx, hsilent]
      exact (List.append_nil _).symm
    | false =>
      obtain ⟨hm', hstep⟩ := mailbox_after hl hm hx
      have hrest := ih (hl.after x) hm'
      have hmade : p.batches ((x :: xs).takeWhile fun x => ! x.silences o) =
          (p.batch? x).toList ++ (p.after x).batches (xs.takeWhile fun x => ! x.silences o) := by
        cases hs : x.silences o with
        | false => simp only [List.takeWhile_cons, hs, Bool.not_false, if_true, batches]
        | true =>
          -- then the page was closed
          obtain rfl := Happening.eq_close_of_silences hs hx
          have hclosed : (p.after (.operation (.call .close))).closed = true := p.shut_closed
          rw [batches_of_closed hclosed]
          simp only [List.takeWhile_cons, hs]
          rfl
      rw [fetchedAll, hmade, List.takeWhile_cons, if_pos (by rw [hx]; rfl), afterAll,
        List.append_assoc, hrest, ← List.append_assoc, hstep, List.append_assoc]

/-! ## Who is held -/

/-- The observers of a page that are held, each listed once. -/
structure Lists (p : Page) (os : List Observer) : Prop where
  nodup : os.Nodup
  mem_iff : ∀ o, o ∈ os ↔ (p.mailbox o).dropped = false

/-- Who is held after an observer was made. -/
theorem dropped_observe (p : Page) (o : Observer) :
    ((p.perform .observe).2.mailbox o).dropped = false ↔
    (p.mailbox o).dropped = false ∨ o = ⟨p.mailboxes.length⟩ := by
  unfold mailbox
  rw [mailboxes_observe]
  rcases Nat.lt_trichotomy o.index p.mailboxes.length with hlt | heq | hgt
  · rw [List.getElem?_append_left hlt]
    refine ⟨.inl, fun h => h.resolve_right ?_⟩
    rintro rfl
    exact Nat.lt_irrefl _ hlt
  · have ho : o = ⟨p.mailboxes.length⟩ := congrArg Observer.mk heq
    subst ho
    simp
  · have hbeyond : o ≠ ⟨p.mailboxes.length⟩ := by
      rintro rfl
      exact Nat.lt_irrefl _ hgt
    rw [List.getElem?_eq_none (Nat.le_of_lt hgt),
      List.getElem?_eq_none (by rw [List.length_append]; exact hgt)]
    simp [hbeyond]

/-- What is done to a mailbox without giving it up gives nobody up. -/
theorem dropped_update {f : Mailbox → Mailbox} (hf : ∀ m, (f m).dropped = m.dropped)
    (o o' : Observer) :
    ((p.updateMailbox o' f).mailbox o).dropped = (p.mailbox o).dropped := by
  unfold mailbox updateMailbox
  rw [List.getElem?_modify]
  cases p.mailboxes[o.index]? with
  | none => rfl
  | some m =>
    change (if o'.index = o.index then f m else m).dropped = m.dropped
    split
    · exact hf m
    · rfl

theorem dropped_receive (p : Page) (o o' : Observer) :
    ((p.receive o').2.mailbox o).dropped = (p.mailbox o).dropped := by
  rcases p.receive_page o' with h | ⟨rest, h⟩
  · rw [h]
  · rw [h]
    exact dropped_update (f := fun m => { m with queue := rest }) (fun _ => rfl) o o'

/-- Who is held after an observer was given up. -/
theorem dropped_drop (p : Page) (o o' : Observer) : ((p.drop o').mailbox o).dropped = false ↔
    (p.mailbox o).dropped = false ∧ o ≠ o' := by
  by_cases ho : o = o'
  · subst ho
    refine ⟨fun hm => ?_, fun h => absurd rfl h.2⟩
    by_cases hknown : o.index < p.mailboxes.length
    · have hgiven : (p.drop o).GivenUp o :=
        (givenUp_after (x := .drop o) hknown (beq_self_eq_true o)).1
      rw [hgiven.dropped] at hm
      cases hm
    · have hlength : (p.drop o).mailboxes.length = p.mailboxes.length := List.length_modify ..
      exact absurd (hlength ▸ lt_of_not_dropped hm) hknown
  · have hbox : (p.drop o').mailbox o = p.mailbox o := mailbox_updateMailbox_of_ne ho _
    rw [hbox]
    exact ⟨fun hm => ⟨hm, ho⟩, And.left⟩

/-- **Who is held after something happened.** -/
theorem Lists.after {os : List Observer} (hl : p.Lists os) (x : Happening) :
    (p.after x).Lists (p.holding os x) := by
  obtain ⟨hnodup, hmem⟩ := hl
  cases x with
  | operation op =>
    by_cases hop : op = .call .observe
    · subst hop
      have hnew : (⟨p.mailboxes.length⟩ : Observer) ∉ os := fun hin =>
        Nat.lt_irrefl _ (lt_of_not_dropped ((hmem _).1 hin))
      refine ⟨List.nodup_append.2 ⟨hnodup, List.nodup_singleton _, ?_⟩, fun o => ?_⟩
      · rintro o ho o' ho' rfl
        rw [List.mem_singleton.1 ho'] at ho
        exact hnew ho
      · change o ∈ os ++ [⟨p.mailboxes.length⟩] ↔ ((p.perform .observe).2.mailbox o).dropped = false
        rw [List.mem_append, List.mem_singleton, hmem, dropped_observe]
    · have hholding : p.holding os (.operation op) = os := by
        unfold holding
        split
        · next heq => exact absurd (Happening.operation.inj heq) hop
        · contradiction
        · rfl
      rw [hholding]
      exact ⟨hnodup, fun o => (hmem o).trans
        (by rw [Page.after, (operate_spares hop [o] p).kept o (List.mem_singleton.2 rfl)])⟩
  | receive o' => exact ⟨hnodup, fun o => (hmem o).trans (by rw [Page.after, dropped_receive])⟩
  | drain o' =>
    have hsame : ∀ o, ((p.after (.drain o')).mailbox o).dropped = (p.mailbox o).dropped := fun o =>
      dropped_update (f := fun m => { m with queue := [] }) (fun _ => rfl) o o'
    exact ⟨hnodup, fun o => (hmem o).trans (by rw [hsame])⟩
  | drop o' =>
    refine ⟨hnodup.filter _, fun o => ?_⟩
    rw [Page.after, dropped_drop, ← hmem]
    change o ∈ os.filter (· ≠ o') ↔ _
    rw [List.mem_filter, decide_eq_true_iff]

theorem Lists.afterAll {os : List Observer} (hl : p.Lists os) (xs : List Happening) :
    (p.afterAll xs).Lists (p.holdingAll os xs) := by
  induction xs generalizing p os with
  | nil => exact hl
  | cons x xs ih => exact ih (hl.after x)

/-- **Those who are held are told, all of them as long as the page is open.** -/
theorem Lists.observerCount {os : List Observer} (hos : p.Lists os) (hl : p.Linked) :
    p.observerCount = if p.closed then 0 else os.length := by
  cases hp : p.closed with
  | true =>
    rw [if_pos rfl]
    refine List.countP_eq_zero.2 fun m hm hlive => ?_
    have hconnected := hl m hm
    rw [hp] at hconnected
    unfold Mailbox.isLive at hlive
    rw [hconnected] at hlive
    cases hlive
  | false =>
    rw [if_neg Bool.false_ne_true]
    have hlive : ∀ i ∈ List.range p.mailboxes.length,
        (p.mailbox ⟨i⟩).isLive = ! (p.mailbox ⟨i⟩).dropped := by
      intro i hi
      have hconnected := hl _ (mailbox_mem (o := ⟨i⟩) (List.mem_range.1 hi))
      rw [hp] at hconnected
      unfold Mailbox.isLive
      rw [hconnected]
      rfl
    have hcount : p.observerCount =
        ((List.range p.mailboxes.length).filter fun i => ! (p.mailbox ⟨i⟩).dropped).length := by
      rw [p.observerCount_range, ← List.countP_eq_length_filter]
      exact List.countP_congr fun i hi => by rw [hlive i hi]
    have hperm : (os.map Observer.index).Perm
        ((List.range p.mailboxes.length).filter fun i => ! (p.mailbox ⟨i⟩).dropped) := by
      refine (List.perm_ext_iff_of_nodup (hos.nodup.map fun o o' h => congrArg Observer.mk h)
        (List.nodup_range.filter _)).2 fun i => ?_
      rw [List.mem_filter, List.mem_range, Bool.not_eq_true', List.mem_map]
      constructor
      · rintro ⟨o, ho, rfl⟩
        have hm := (hos.mem_iff o).1 ho
        exact ⟨lt_of_not_dropped hm, hm⟩
      · rintro ⟨-, hm⟩
        exact ⟨⟨i⟩, (hos.mem_iff _).2 hm, rfl⟩
    rw [hcount, ← hperm.length_eq, List.length_map]

/-! ## Delivery -/

/-- Who is not given up stays held. -/
theorem Linked.held (hl : p.Linked) (hm : (p.mailbox o).dropped = false)
    (hkept : ∀ x ∈ xs, x.givesUp o = false) :
    (p.afterAll xs).Linked ∧ ((p.afterAll xs).mailbox o).dropped = false := by
  induction xs generalizing p with
  | nil => exact ⟨hl, hm⟩
  | cons x xs ih =>
    obtain ⟨hx, hxs⟩ := List.forall_mem_cons.1 hkept
    exact ih (hl.after x) (mailbox_after hl hm hx).1 hxs

/-- An observer that is held receives the first batch that waits, and the end only if none waits on
a closed page. -/
theorem receive_ofQueue (hl : p.Linked) (hm : (p.mailbox o).dropped = false) :
    (p.receive o).1 = .ofQueue p.closed (p.mailbox o).queue := by
  cases hq : (p.mailbox o).queue with
  | cons records rest => rw [receive_cons hm hq, Receipt.ofQueue]
  | nil =>
    rw [receive_nil hm hq, hl _ (mailbox_mem (lt_of_not_dropped hm)), Receipt.ofQueue]
    cases p.closed <;> rfl

/-- **No batch is lost, made twice or moved.** Whatever has happened to a page, it counts those
observers that were made and not given up, and none once it is closed. Whoever observes it then has
got, whatever happens after that, the batches of all changes up to where it was given up or the page
closed, in their order, but for those that wait for it. As long as it is not given up it gets the
next of them each time it asks, and the end only after the last; if it drains its queue it gets the
rest of them at once. -/
theorem batches_delivered (t : Tree) (nested : Bool) (before : List Happening) :
    let p := (ofTree t nested).afterAll before
    p.observerCount = (if p.closed then 0 else ((ofTree t nested).holdingAll [] before).length) ∧
    ∃ o p₁, p.perform .observe = (.ok o, p₁) ∧ ∀ xs : List Happening,
      let q := p₁.afterAll xs
      let got := p₁.fetchedAll o xs
      let due := p₁.batches (xs.takeWhile fun x => ! x.silences o)
      got ++ ((p₁.afterAll (xs.takeWhile fun x => ! x.givesUp o)).mailbox o).queue = due ∧
      ((∀ x ∈ xs, x.givesUp o = false) →
        (q.receive o).1 = .ofQueue q.closed (due.drop got.length) ∧
        (q.drain o).1 = (due.drop got.length).foldr (· + ·) 0 ∧
          ((q.drain o).2.mailbox o).queue = []) := by
  intro p
  have hreached : p.Reached := (Reached.ofTree t nested).afterAll before
  have hlists : (ofTree t nested).Lists [] := by
    refine ⟨.nil, fun o => ⟨fun h => absurd h List.not_mem_nil, fun hm => ?_⟩⟩
    exact absurd (lt_of_not_dropped hm) (Nat.not_lt_zero _)
  let o : Observer := ⟨p.mailboxes.length⟩
  let p₁ := (p.perform .observe).2
  have hbox : p₁.mailbox o = { connected := ! p.closed } := by
    change p₁.mailboxes[p.mailboxes.length]?.getD _ = _
    rw [mailboxes_observe, List.getElem?_concat_length]
    rfl
  have hm : (p₁.mailbox o).dropped = false := by rw [hbox]
  have hlinked : p₁.Linked := (hreached.step (.perform .observe)).linked
  refine ⟨(hlists.afterAll before).observerCount hreached.linked, o, p₁, rfl, ?_⟩
  intro xs q got due
  have hdue : got ++ ((p₁.afterAll (xs.takeWhile fun x => ! x.givesUp o)).mailbox o).queue =
      due := by
    have hall := fetchedAll_append_queue hlinked hm xs
    rw [hbox, List.nil_append] at hall
    exact hall
  refine ⟨hdue, fun hkept => ?_⟩
  have hall : xs.takeWhile (fun x => ! x.givesUp o) = xs :=
    List.takeWhile_eq_self_iff.2 fun x hx => by rw [hkept x hx]; rfl
  have hrest : due.drop got.length = (q.mailbox o).queue := by
    rw [← hdue, hall, List.drop_left]
  have hheld := hlinked.held hm hkept
  rw [hrest]
  refine ⟨?_, rfl, by rw [mailbox_drain hheld.2]⟩
  exact receive_ofQueue hheld.1 hheld.2

end Page
end ConsentWalker
