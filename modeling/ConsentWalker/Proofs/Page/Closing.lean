import ConsentWalker.Proofs.Page.Delivery
import ConsentWalker.Proofs.Page.Outlines
/-!
# Page — what is left of a page that was closed

A page records that it was closed, once, and nothing after that (`Sealed`): a closed page fails
whatever is asked of it, but for being observed. What observers have not fetched yet stays for them,
and nothing is added to it (`Still`). So everything that may happen to a closed page leaves it
still, and every page that can come to be is sealed.
-/

namespace ConsentWalker
namespace Page

variable {p p' : Page} {o : Observer}

/-! ## What waits for observers -/

/-- The batches that wait to be fetched, of all observers. -/
def queued (p : Page) : Nat := p.mailboxes.foldr (fun m n => m.queue.length + n) 0

/-- What waits after a mailbox was changed, beside what waited before. -/
theorem queued_updateMailbox {m : Mailbox} (ho : p.mailboxes[o.index]? = some m)
    (f : Mailbox → Mailbox) :
    (p.updateMailbox o f).queued + m.queue.length = p.queued + (f m).queue.length := by
  unfold queued updateMailbox
  generalize p.mailboxes = ms at ho
  generalize o.index = i at ho
  dsimp only
  induction ms generalizing i with
  | nil => cases ho
  | cons n rest ih =>
    cases i with
    | zero =>
      obtain rfl : n = m := Option.some.inj ho
      rw [List.modify_zero_cons, List.foldr_cons, List.foldr_cons]
      omega
    | succ i =>
      have hrest := ih i ho
      rw [List.modify_succ_cons, List.foldr_cons, List.foldr_cons]
      omega

/-- No more waits after a change that adds nothing. -/
theorem queued_updateMailbox_le {f : Mailbox → Mailbox}
    (hf : ∀ m, p.mailboxes[o.index]? = some m → (f m).queue.length ≤ m.queue.length) :
    (p.updateMailbox o f).queued ≤ p.queued := by
  cases ho : p.mailboxes[o.index]? with
  | none =>
    unfold queued updateMailbox
    dsimp only
    exact Nat.le_of_eq (by rw [List.modify_eq_self (List.getElem?_eq_none_iff.1 ho)])
  | some m =>
    have heq := queued_updateMailbox ho f
    have hle := hf m ho
    omega

/-- **Who drains a queue that is not empty leaves less to wait.** -/
theorem drain_queued (hq : (p.mailbox o).queue ≠ []) : (p.drain o).2.queued < p.queued := by
  unfold mailbox at hq
  cases ho : p.mailboxes[o.index]? with
  | none =>
    rw [ho] at hq
    exact absurd rfl hq
  | some m =>
    rw [ho] at hq
    have heq := queued_updateMailbox ho fun m => { m with queue := [] }
    have hpos : 0 < m.queue.length := List.length_pos_iff.2 hq
    change (p.updateMailbox o _).queued < p.queued
    rw [List.length_nil] at heq
    omega

/-! ## Nothing happens to a closed page -/

/-- A closed page answers no question. -/
theorem perform_read_closed (hp : p.closed = true) {c : Call} (hc : c.isRead = true) :
    (p.perform c).1 = .error .closed := by
  have hlocated : ∀ h, located h p = .error .closed := fun h => by
    unfold located opened
    rw [if_pos hp]
    rfl
  have reads : ∀ {f : Page → Except PageError c.Result}, Reads (answer c) f →
      (p.perform c).1 = f p :=
    fun hf => congrArg Prod.fst (hf p)
  cases c with
  | query scope selector =>
    change ((select scope selector).run.run p).1 = _
    rw [select_run, matched_of_closed hp]
  | text h =>
    rw [reads ((locate_reads h).bind fun place => Reads.pure _), hlocated]
    rfl
  | style h property =>
    rw [reads ((element_reads h).bind fun e => Reads.pure _)]
    unfold elementOf
    rw [hlocated]
    rfl
  | rect h | nested h | isChecked h =>
    rw [reads ((locate_reads h).bind fun place => Reads.get.bind fun q => Reads.pure _), hlocated]
    rfl
  | _ => cases hc

/-- **A closed page on which nothing happened**, but that observers fetched what waited for them,
were given up, or came too late. -/
structure Still (p p' : Page) : Prop where
  closed : p'.closed = true
  events : p'.events = p.events
  queued : p'.queued ≤ p.queued
  deaf : (∀ m ∈ p.mailboxes, m.connected = false) → ∀ m ∈ p'.mailboxes, m.connected = false

namespace Still

theorem refl (hp : p.closed = true) : p.Still p := ⟨hp, rfl, Nat.le_refl _, fun h => h⟩

/-- Fetching, and giving an observer up. -/
theorem update (hp : p.closed = true) {f : Mailbox → Mailbox}
    (hf : ∀ m, p.mailboxes[o.index]? = some m → (f m).queue.length ≤ m.queue.length)
    (hconnected : ∀ m, (f m).connected = m.connected) : p.Still (p.updateMailbox o f) := by
  refine ⟨hp, rfl, queued_updateMailbox_le hf, fun hdeaf m hm => ?_⟩
  obtain ⟨i, hi⟩ := List.mem_iff_getElem?.1 hm
  change (p.mailboxes.modify o.index f)[i]? = some m at hi
  rw [List.getElem?_modify] at hi
  obtain ⟨n, hn, rfl⟩ := Option.map_eq_some_iff.1 hi
  have hn' := hdeaf n (List.mem_of_getElem? hn)
  split
  · rw [hconnected]
    exact hn'
  · exact hn'

/-- Whoever observes a closed page is not told of anything. -/
theorem observe (hp : p.closed = true) : p.Still (p.perform .observe).2 := by
  have hbox : (p.perform .observe).2.mailboxes = p.mailboxes ++ [{ connected := ! p.closed }] := rfl
  refine ⟨hp, rfl, ?_, fun hdeaf m hm => ?_⟩
  · unfold Page.queued
    exact Nat.le_of_eq (by rw [hbox, List.foldr_append]; rfl)
  · rw [hbox] at hm
    rcases List.mem_append.1 hm with hm | hm
    · exact hdeaf m hm
    · rw [List.mem_singleton.1 hm, hp]
      rfl

theorem perform (hp : p.closed = true) (c : Call) : p.Still (p.perform c).2 := by
  by_cases hc : c = .observe
  · rw [hc]
    exact .observe hp
  · rw [perform_of_closed hp hc]
    exact .refl hp

theorem drain (hp : p.closed = true) (o : Observer) : p.Still (p.drain o).2 :=
  update hp (fun _ _ => Nat.zero_le _) fun _ => rfl

theorem drop (hp : p.closed = true) (o : Observer) : p.Still (p.drop o) :=
  update hp (fun _ _ => Nat.zero_le _) fun _ => rfl

end Still

/-- Nothing is appended to a closed page. -/
theorem append_of_closed (hp : p.closed = true) (parent : String) (trees : List Tree) :
    ((append parent trees).run.run p).2 = p := by
  unfold append
  rw [run_bind, select_closed hp]

/-- Nothing is taken out of a closed page. -/
theorem remove_of_closed (hp : p.closed = true) (selector : String) :
    ((remove selector).run.run p).2 = p := by
  unfold remove
  rw [run_bind, select_closed hp]

/-- **Whatever may happen to a closed page, nothing does.** -/
theorem Step.still (h : p.Step p') (hp : p.closed = true) : p.Still p' := by
  cases h with
  | perform c => exact .perform hp c
  | append parent trees =>
    rw [append_of_closed hp]
    exact .refl hp
  | remove selector =>
    rw [remove_of_closed hp]
    exact .refl hp
  | receive o =>
    unfold Page.receive
    dsimp only
    split
    · exact .refl hp
    · split
      · next records rest hqueue =>
        -- the batch that is fetched was the first of those that waited
        refine .update hp (fun m hm => ?_) fun _ => rfl
        unfold mailbox at hqueue
        rw [hm] at hqueue
        change m.queue = _ at hqueue
        rw [hqueue]
        exact Nat.le_succ _
      · exact .refl hp
  | drain o => exact .drain hp o
  | drop o => exact .drop hp o
  | checkedAll selector =>
    rcases checkedAll_eq selector p with h | h
    · rw [h, select_closed hp]
      exact .refl hp
    · rw [h]
      exact .refl hp

/-! ## The record of a page -/

/-- A record that says once that the page was closed, and nothing after that. -/
def EndsClosed (events : List PageEvent) : Prop :=
  ∃ before, events = before ++ [.closed] ∧ .closed ∉ before

/-- **A page whose record says when it was closed**, and ends there. Its observers were disconnected
then. -/
structure Sealed (p : Page) : Prop where
  last : p.closed = true → EndsClosed p.events
  unsaid : p.closed = false → .closed ∉ p.events
  deaf : p.closed = true → ∀ m ∈ p.mailboxes, m.connected = false

/-- A page was not closed, whatever else was recorded. -/
structure Records (p p' : Page) : Prop where
  closed : p'.closed = p.closed
  events : ∃ more, p'.events = p.events ++ more ∧ .closed ∉ more

namespace Records

theorem of_eq (hclosed : p'.closed = p.closed) (hevents : p'.events = p.events) : p.Records p' :=
  ⟨hclosed, [], by rw [hevents, List.append_nil], List.not_mem_nil⟩

theorem of_grows (h : p.Grows p') : p.Records p' := by
  obtain ⟨more, rfl⟩ := h
  exact .of_eq rfl rfl

theorem record (hclosed : p'.closed = p.closed) {e : PageEvent}
    (hevents : p'.events = p.events ++ [e]) (he : e ≠ .closed) : p.Records p' :=
  ⟨hclosed, [e], hevents, fun h => he (List.mem_singleton.1 h).symm⟩

theorem trans {p₁ : Page} (h : p.Records p₁) (h' : p₁.Records p') : p.Records p' := by
  obtain ⟨more, hmore, hno⟩ := h.events
  obtain ⟨more', hmore', hno'⟩ := h'.events
  refine ⟨h'.closed.trans h.closed, more ++ more',
    by rw [hmore', hmore, List.append_assoc], fun hmem => ?_⟩
  rcases List.mem_append.1 hmem with hmem | hmem
  · exact hno hmem
  · exact hno' hmem

end Records

/-- **A call closes the page, or does not record that it did.** -/
theorem effect_records (c : Call) (h : effect c p = .ok p') :
    c = .close ∧ p' = p.shut ∨ p.Records p' := by
  cases c with
  | scroll | focus | pointer | setHidden | paint =>
    rw [effect] at h
    obtain ⟨q, -, rfl⟩ := altered_eq_ok h
    exact .inr (.record rfl rfl PageEvent.noConfusion)
  | click k b =>
    rw [effect] at h
    obtain ⟨q, -, rfl⟩ := altered_eq_ok h
    refine .inr ?_
    unfold clickedAt
    split
    · next control _ =>
      obtain ⟨switched, hswitched⟩ := p.activate_eq control
      rw [hswitched]
      exact .record rfl rfl PageEvent.noConfusion
    · exact .record rfl rfl PageEvent.noConfusion
  | showProgress | hideProgress =>
    rw [effect] at h
    obtain ⟨-, rfl⟩ := alteredOpen_eq_ok h
    exact .inr (.record rfl rfl PageEvent.noConfusion)
  | close =>
    cases h
    exact .inl ⟨rfl, rfl⟩
  | query | text | style | rect | nested | isChecked | observe =>
    cases h
    exact .inr (.of_eq rfl rfl)

theorem perform_records (c : Call) (p : Page) :
    c = .close ∧ (p.perform c).2 = p.shut ∨ p.Records (p.perform c).2 := by
  rcases perform_cases c p with hread | rfl | ⟨e, -, hp⟩ | ⟨p', a, hmade, hp⟩
  · exact .inr (.of_grows (perform_grows hread p))
  · exact .inr (.of_eq rfl rfl)
  · rw [hp]
    exact .inr (.of_eq rfl rfl)
  · rw [hp]
    exact effect_records c hmade

theorem receive_records (p : Page) (o : Observer) : p.Records (p.receive o).2 := by
  unfold receive
  dsimp only
  split
  · exact .of_eq rfl rfl
  · split <;> exact .of_eq rfl rfl

/-- **Only a call closes a page.** -/
theorem Step.records (h : p.Step p') : p' = p.shut ∨ p.Records p' := by
  cases h with
  | perform c =>
    rcases perform_records c p with ⟨-, h⟩ | h
    · exact .inl h
    · exact .inr h
  | append parent trees =>
    have hgrows := select_grows parent p
    right
    rcases append_cases parent trees p with h | ⟨place, mailboxes, -, h⟩
    · rw [h]
      exact .of_grows hgrows
    · rw [h]
      exact (Records.of_grows hgrows).trans (.of_eq rfl rfl)
  | remove selector =>
    have hgrows := select_grows selector p
    right
    rcases remove_cases selector p with h | ⟨ids, mailboxes, h⟩
    · rw [h]
      exact .of_grows hgrows
    · rw [h]
      exact (Records.of_grows hgrows).trans (.of_eq rfl rfl)
  | receive o => exact .inr (p.receive_records o)
  | drain o => exact .inr (.of_eq rfl rfl)
  | drop o => exact .inr (.of_eq rfl rfl)
  | checkedAll selector =>
    right
    rcases checkedAll_eq selector p with h | h
    · rw [h]
      exact .of_grows (select_grows selector p)
    · rw [h]
      exact .of_eq rfl rfl

/-- **Whatever may happen keeps a page sealed.** -/
theorem Step.sealed (h : p.Step p') (hp : p.Sealed) : p'.Sealed := by
  cases hclosed : p.closed with
  | true =>
    have hstill := h.still hclosed
    refine ⟨fun _ => ?_, fun hopen => ?_, fun _ => hstill.deaf (hp.deaf hclosed)⟩
    · rw [hstill.events]
      exact hp.last hclosed
    · rw [hstill.closed] at hopen
      cases hopen
  | false =>
    have hunsaid := hp.unsaid hclosed
    rcases h.records with rfl | ⟨hsame, more, hmore, hno⟩
    · unfold shut
      rw [if_neg (Bool.eq_false_iff.1 hclosed)]
      refine ⟨fun _ => ⟨p.events, rfl, hunsaid⟩, Bool.noConfusion, fun _ m hm => ?_⟩
      obtain ⟨n, -, rfl⟩ := List.mem_map.1 hm
      rfl
    · have hopen : p'.closed ≠ true := by
        rw [hsame, hclosed]
        exact Bool.false_ne_true
      refine ⟨fun h => absurd h hopen, fun _ hmem => ?_, fun h => absurd h hopen⟩
      rw [hmore] at hmem
      rcases List.mem_append.1 hmem with hmem | hmem
      · exact hunsaid hmem
      · exact hno hmem

/-- **Every page that can come to be is sealed.** -/
theorem Reached.sealed (h : p.Reached) : p.Sealed := by
  induction h with
  | ofTree t nested => exact ⟨Bool.noConfusion, fun _ => List.not_mem_nil, Bool.noConfusion⟩
  | step _ hstep ih => exact hstep.sealed ih

end Page
end ConsentWalker
