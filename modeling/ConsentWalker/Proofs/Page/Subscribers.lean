import ConsentWalker.Proofs.Page.Delivery
import ConsentWalker.Proofs.Page.Reached
import Mathlib.Data.List.Nodup
/-!
# Page — observers and who holds them

A page numbers its observers and never forgets one; it does not know who holds them. `held` are
those of a holder that were not given up, `strangers` counts the live ones of everybody else, and
`observerCount_eq` puts the two together.

What happens to a page **spares** a holder's observers if none of them is given up and one whose
channel has ended stays that way (`Spares`). Calls and changes do, and so does whatever others do
with observers of their own.
-/

namespace ConsentWalker
namespace Page

variable {p p' p₁ : Page} {o : Observer} {own : List Observer}

/-! ## Held observers -/

/-- The observers of a holder that were not given up. -/
def held (p : Page) (own : List Observer) : List Observer :=
  own.filter fun o => ! (p.mailbox o).dropped

/-- **An observer whose channel has ended**: nothing waits for it, and nothing will come. -/
def HasEnded (p : Page) (o : Observer) : Prop :=
  (p.mailbox o).connected = false ∧ (p.mailbox o).queue = []

/-- Whether an observer is live and in a list. -/
def isLiveAmong (p : Page) (own : List Observer) (o : Observer) : Bool :=
  own.contains o && (p.mailbox o).isLive

/-- The number of live observers that are not in a list. -/
def strangers (p : Page) (own : List Observer) : Nat :=
  (List.range p.mailboxes.length).countP fun i => (p.mailbox ⟨i⟩).isLive && ! own.contains ⟨i⟩

/-- The mailboxes of a page are those of its observers. -/
theorem map_mailbox_range (p : Page) :
    (List.range p.mailboxes.length).map (fun i => p.mailbox ⟨i⟩) = p.mailboxes := by
  refine List.ext_getElem (by simp) fun i hi hi' => ?_
  simp only [List.getElem_map, List.getElem_range, mailbox]
  rw [List.getElem?_eq_getElem hi', Option.getD_some]

theorem observerCount_range (p : Page) :
    p.observerCount = (List.range p.mailboxes.length).countP fun i => (p.mailbox ⟨i⟩).isLive := by
  unfold observerCount
  conv_lhs => rw [← p.map_mailbox_range]
  rw [List.countP_map]
  rfl

/-- **All live observers are the holder's or strangers.** -/
theorem observerCount_eq (p : Page) (own : List Observer) :
    p.observerCount = p.strangers own +
      (List.range p.mailboxes.length).countP fun i => p.isLiveAmong own ⟨i⟩ := by
  have hsplit : ∀ is : List Nat, is.countP (fun i => (p.mailbox ⟨i⟩).isLive) =
      is.countP (fun i => (p.mailbox ⟨i⟩).isLive && ! own.contains ⟨i⟩) +
        is.countP fun i => p.isLiveAmong own ⟨i⟩ := by
    intro is
    induction is with
    | nil => rfl
    | cons i is ih =>
      rw [List.countP_cons, List.countP_cons, List.countP_cons, ih]
      unfold isLiveAmong
      cases (p.mailbox ⟨i⟩).isLive <;> cases own.contains ⟨i⟩ <;> simp <;> omega
  rw [observerCount_range, hsplit]
  rfl

/-- A holder's observer is live only if it is held. -/
theorem mem_held_of_isLiveAmong (h : p.isLiveAmong own o = true) : o ∈ p.held own := by
  unfold isLiveAmong Mailbox.isLive at h
  simp only [Bool.and_eq_true, List.contains_iff_mem] at h
  exact List.mem_filter.2 ⟨h.1, h.2.2⟩

/-- **Who holds no observer adds none to the count.** -/
theorem observerCount_of_held_nil (h : p.held own = []) : p.observerCount = p.strangers own := by
  rw [observerCount_eq p own, Nat.add_eq_left, List.countP_eq_zero]
  intro i _ hlive
  have hheld := mem_held_of_isLiveAmong hlive
  rw [h] at hheld
  cases hheld

/-- **Who holds one observer adds one to the count**, as long as the page delivers. -/
theorem observerCount_of_held_one (hknown : ∀ o ∈ own, o.index < p.mailboxes.length)
    (h : p.held own = [o]) :
    p.observerCount = p.strangers own + if (p.mailbox o).connected then 1 else 0 := by
  have hmem : o ∈ own ∧ (! (p.mailbox o).dropped) = true := by
    apply List.mem_filter.1
    change o ∈ p.held own
    rw [h]
    exact List.mem_singleton.2 rfl
  have hlive : ∀ i, p.isLiveAmong own ⟨i⟩ = (i == o.index && (p.mailbox o).connected) := by
    intro i
    by_cases hi : i = o.index
    · subst hi
      have hcontains : own.contains o = true := List.contains_iff_mem.2 hmem.1
      unfold isLiveAmong Mailbox.isLive
      rw [hcontains, hmem.2]
      simp
    · rw [beq_eq_false_iff_ne.2 hi, Bool.false_and, Bool.eq_false_iff]
      intro hlive
      have hheld := mem_held_of_isLiveAmong hlive
      rw [h, List.mem_singleton] at hheld
      exact hi (congrArg Observer.index hheld)
  rw [observerCount_eq p own]
  congr 1
  simp only [hlive]
  cases (p.mailbox o).connected with
  | false => simp
  | true =>
    simp only [Bool.and_true, if_true]
    exact List.count_eq_one_of_mem List.nodup_range (List.mem_range.2 (hknown o hmem.1))

/-- The mailbox of an observer that the page knows, after it was changed. -/
theorem mailbox_updateMailbox_self (ho : o.index < p.mailboxes.length) (f : Mailbox → Mailbox) :
    (p.updateMailbox o f).mailbox o = f (p.mailbox o) := by
  unfold mailbox updateMailbox
  rw [List.getElem?_modify_eq, List.getElem?_eq_getElem ho]
  rfl

/-- The mailbox of another one. -/
theorem mailbox_updateMailbox_of_ne {o' : Observer} (hne : o' ≠ o) (f : Mailbox → Mailbox) :
    (p.updateMailbox o f).mailbox o' = p.mailbox o' := by
  have hindex : o.index ≠ o'.index := fun heq => hne (congrArg Observer.mk heq.symm)
  unfold mailbox updateMailbox
  rw [List.getElem?_modify_ne _ _ hindex]

/-- The mailbox of an observer that the page knows, after something was done to all of them. -/
theorem mailbox_of_map {f : Mailbox → Mailbox} (h : p'.mailboxes = p.mailboxes.map f)
    (ho : o.index < p.mailboxes.length) : p'.mailbox o = f (p.mailbox o) := by
  unfold mailbox
  rw [h, List.getElem?_map, List.getElem?_eq_getElem ho]
  rfl

/-! ## Sparing them -/

/-- **What happens to a page spares a holder's observers**: it gives none of them up, and revives
none whose channel has ended. -/
structure Spares (own : List Observer) (p p' : Page) : Prop where
  length : p.mailboxes.length ≤ p'.mailboxes.length
  kept : ∀ o ∈ own, (p'.mailbox o).dropped = (p.mailbox o).dropped
  ended : ∀ o ∈ own, p.HasEnded o → p'.HasEnded o

namespace Spares

theorem held_eq (h : Spares own p p') : p'.held own = p.held own := by
  unfold held
  refine List.filter_congr fun o ho => ?_
  rw [h.kept o ho]

theorem of_mailboxes_eq (h : p'.mailboxes = p.mailboxes) : Spares own p p' := by
  have hbox : ∀ o, p'.mailbox o = p.mailbox o := fun o => by
    unfold mailbox
    rw [h]
  refine ⟨Nat.le_of_eq (by rw [h]), fun o _ => by rw [hbox], fun o _ hended => ?_⟩
  unfold HasEnded at *
  rw [hbox]
  exact hended

/-- Something is done to every mailbox alike. -/
theorem of_map {f : Mailbox → Mailbox} (h : p'.mailboxes = p.mailboxes.map f)
    (hkept : ∀ m, (f m).dropped = m.dropped)
    (hended : ∀ m : Mailbox, m.connected = false → m.queue = [] →
      (f m).connected = false ∧ (f m).queue = []) : Spares own p p' := by
  have hnone : ∀ o : Observer, ¬ o.index < p.mailboxes.length → p'.mailbox o = p.mailbox o := by
    intro o ho
    unfold mailbox
    rw [h, List.getElem?_map, List.getElem?_eq_none (Nat.le_of_not_lt ho)]
    rfl
  refine ⟨Nat.le_of_eq (by rw [h, List.length_map]), fun o _ => ?_, fun o _ hend => ?_⟩
  · by_cases ho : o.index < p.mailboxes.length
    · rw [mailbox_of_map h ho, hkept]
    · rw [hnone o ho]
  · unfold HasEnded at *
    by_cases ho : o.index < p.mailboxes.length
    · rw [mailbox_of_map h ho]
      exact hended _ hend.1 hend.2
    · rw [hnone o ho]
      exact hend

/-- **Delivering** adds to the queues of live observers only. -/
theorem of_deliver {records : Nat} (h : p'.mailboxes = p.mailboxes.map (Mailbox.deliver records)) :
    Spares own p p' := by
  refine of_map h (fun m => ?_) fun m hconnected hqueue => ?_
  · unfold Mailbox.deliver
    split <;> rfl
  · have hdead : m.isLive = false := by
      unfold Mailbox.isLive
      rw [hconnected]
      rfl
    unfold Mailbox.deliver
    rw [hdead]
    exact ⟨hconnected, hqueue⟩

/-- **Disconnecting** gives none up. -/
theorem of_disconnect (h : p'.mailboxes = p.mailboxes.map fun m => { m with connected := false }) :
    Spares own p p' :=
  of_map h (fun _ => rfl) fun _ _ hqueue => ⟨rfl, hqueue⟩

/-- Others may observe too. -/
theorem of_append (hknown : ∀ o ∈ own, o.index < p.mailboxes.length) {ms : List Mailbox}
    (h : p'.mailboxes = p.mailboxes ++ ms) : Spares own p p' := by
  have hbox : ∀ o ∈ own, p'.mailbox o = p.mailbox o := by
    intro o ho
    unfold mailbox
    rw [h, List.getElem?_append_left (hknown o ho)]
  refine ⟨by rw [h, List.length_append]; omega, fun o ho => by rw [hbox o ho], fun o ho hend => ?_⟩
  unfold HasEnded at *
  rw [hbox o ho]
  exact hend

/-- Others do as they like with observers of their own. -/
theorem of_update (ho : o ∉ own) (f : Mailbox → Mailbox) : Spares own p (p.updateMailbox o f) := by
  have hbox : ∀ o' ∈ own, (p.updateMailbox o f).mailbox o' = p.mailbox o' := by
    intro o' ho'
    refine mailbox_updateMailbox_of_ne ?_ f
    rintro rfl
    exact ho ho'
  refine ⟨by simp [updateMailbox], fun o' ho' => by rw [hbox o' ho'], fun o' ho' hend => ?_⟩
  unfold HasEnded at *
  rw [hbox o' ho']
  exact hend

/-- **Fetching what was told** gives up no observer, whosever it is. -/
theorem of_drain (hknown : ∀ o ∈ own, o.index < p.mailboxes.length) (o : Observer) :
    Spares own p (p.drain o).2 := by
  unfold drain
  by_cases ho : o ∈ own
  · have hbox := mailbox_updateMailbox_self (hknown o ho) fun m => { m with queue := [] }
    refine ⟨by simp [updateMailbox], fun o' _ => ?_, fun o' _ hend => ?_⟩
    · by_cases hsame : o' = o
      · rw [hsame, hbox]
      · rw [mailbox_updateMailbox_of_ne hsame]
    · unfold HasEnded at *
      by_cases hsame : o' = o
      · subst hsame
        rw [hbox]
        exact ⟨hend.1, rfl⟩
      · rw [mailbox_updateMailbox_of_ne hsame]
        exact hend
  · exact of_update ho _

/-- A page that has given out handles only has told nobody of anything. -/
theorem of_grows (h : p.Grows p') : Spares own p p' := by
  obtain ⟨more, rfl⟩ := h
  exact of_mailboxes_eq rfl

theorem trans (h₁ : Spares own p p₁) (h₂ : Spares own p₁ p') : Spares own p p' where
  length := Nat.le_trans h₁.length h₂.length
  kept o ho := (h₂.kept o ho).trans (h₁.kept o ho)
  ended o ho hend := h₂.ended o ho (h₁.ended o ho hend)

end Spares

/-- Clicking, hiding and the like happen to no mailbox. -/
theorem effect_mailboxes_eq {c : Call} (hc : c ≠ .close) (h : effect c p = .ok p') :
    p'.mailboxes = p.mailboxes := by
  cases c with
  | scroll | focus | pointer | setHidden | paint =>
    rw [effect] at h
    obtain ⟨q, -, rfl⟩ := altered_eq_ok h
    rfl
  | click k b =>
    rw [effect] at h
    obtain ⟨q, -, rfl⟩ := altered_eq_ok h
    obtain ⟨switched, hclicked⟩ := clickedAt_eq k b q p
    rw [hclicked]
  | showProgress | hideProgress =>
    rw [effect] at h
    obtain ⟨-, rfl⟩ := alteredOpen_eq_ok h
    rfl
  | close => exact absurd rfl hc
  | query | text | style | rect | nested | isChecked | observe =>
    cases h
    rfl

/-- Closing disconnects all mailboxes, and nothing else is done to them. -/
theorem effect_mailboxes {c : Call} (h : effect c p = .ok p') : p'.mailboxes = p.mailboxes ∨
    p'.mailboxes = p.mailboxes.map fun m => { m with connected := false } := by
  by_cases hc : c = .close
  · subst hc
    cases h
    unfold shut
    split
    · exact .inl rfl
    · exact .inr rfl
  · exact .inl (effect_mailboxes_eq hc h)

/-- **Nobody is told of anything by a call**: a queue that is empty stays so. -/
theorem perform_queue (hq : (p.mailbox o).queue = []) (c : Call) :
    ((p.perform c).2.mailbox o).queue = [] := by
  rcases perform_cases c p with hread | rfl | ⟨e, -, hp⟩ | ⟨p', a, hmade, hp⟩
  · rw [(perform_grows hread p).mailbox_eq]
    exact hq
  · have hobserve : (p.perform .observe).2.mailboxes =
        p.mailboxes ++ [{ connected := ! p.closed }] := rfl
    unfold mailbox at *
    rw [hobserve]
    by_cases ho : o.index < p.mailboxes.length
    · rw [List.getElem?_append_left ho]
      exact hq
    · rw [List.getElem?_append_right (Nat.le_of_not_lt ho)]
      cases o.index - p.mailboxes.length <;> rfl
  · rw [hp]
    exact hq
  · rw [hp]
    unfold mailbox at *
    rcases effect_mailboxes hmade with h | h
    · rw [h]
      exact hq
    · rw [h, List.getElem?_map]
      cases hbox : p.mailboxes[o.index]? with
      | none => rfl
      | some m =>
        rw [hbox] at hq
        exact hq

/-- **Every call but to observe spares all observers.** -/
theorem perform_spares {c : Call} (hc : c ≠ .observe) (p : Page) :
    Spares own p (p.perform c).2 := by
  rcases perform_cases c p with hread | hobserve | ⟨e, -, hp⟩ | ⟨p', a, hmade, hp⟩
  · exact .of_grows (perform_grows hread p)
  · exact absurd hobserve hc
  · rw [hp]
    exact .of_mailboxes_eq rfl
  · rw [hp]
    rcases effect_mailboxes hmade with h | h
    · exact .of_mailboxes_eq h
    · exact .of_disconnect h

/-- Who appends spares all observers. -/
theorem append_spares (parent : String) (trees : List Tree) (p : Page) :
    Spares own p ((append parent trees).run.run p).2 := by
  have hselect : Spares own p ((select none parent).run.run p).2 :=
    .of_grows (select_grows parent p)
  unfold append
  rw [run_bind]
  cases ((select none parent).run.run p).1 with
  | error e => exact hselect
  | ok hs =>
    cases hs with
    | nil => exact hselect
    | cons h rest =>
      dsimp only
      rw [run_bind, locate_reads h]
      dsimp only
      cases located h ((select none parent).run.run p).2 with
      | error e => exact hselect
      | ok place => exact hselect.trans (.of_deliver rfl)

/-- Who takes elements out spares all observers. -/
theorem remove_spares (selector : String) (p : Page) :
    Spares own p ((remove selector).run.run p).2 := by
  have hselect : Spares own p ((select none selector).run.run p).2 :=
    .of_grows (select_grows selector p)
  unfold remove
  rw [run_bind]
  cases ((select none selector).run.run p).1 with
  | error e => exact hselect
  | ok hs =>
    generalize ((select none selector).run.run p).2 = q at *
    refine hselect.trans ?_
    let ids := hs.filterMap fun h : Handle => q.handles[h.id]?
    change Spares own q (if ids.isEmpty then { q with root := q.root.without ids }
      else { q with root := q.root.without ids }.notify ids.length)
    split
    · exact .of_mailboxes_eq rfl
    · exact .of_deliver rfl

/-! ## What others do -/

/-- **What others may do to a page** on which a holder's observers are not theirs: anything but
fetch from these or give them up. -/
inductive Shared (own : List Observer) (p : Page) : Page → Prop where
  | rest : Shared own p p
  | perform (c : Call) : Shared own p (p.perform c).2
  | append (parent : String) (trees : List Tree) :
      Shared own p ((append parent trees).run.run p).2
  | remove (selector : String) : Shared own p ((remove selector).run.run p).2
  | receive {o : Observer} : o ∉ own → Shared own p (p.receive o).2
  | drain {o : Observer} : o ∉ own → Shared own p (p.drain o).2
  | drop {o : Observer} : o ∉ own → Shared own p (p.drop o)

/-- **Others spare the holder's observers.** -/
theorem Shared.spares (hknown : ∀ o ∈ own, o.index < p.mailboxes.length) (h : p.Shared own p') :
    Spares own p p' := by
  cases h with
  | rest => exact .of_mailboxes_eq rfl
  | perform c =>
    by_cases hc : c = .observe
    · subst hc
      exact .of_append hknown rfl
    · exact perform_spares hc p
  | append parent trees => exact append_spares parent trees p
  | remove selector => exact remove_spares selector p
  | @receive o ho =>
    unfold Page.receive
    dsimp only
    split
    · exact .of_mailboxes_eq rfl
    · split
      · exact .of_update ho _
      · exact .of_mailboxes_eq rfl
  | drain ho => exact .of_update ho _
  | drop ho => exact .of_update ho _

end Page
end ConsentWalker
