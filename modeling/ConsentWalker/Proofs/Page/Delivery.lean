import ConsentWalker.Proofs.Page.Growth
/-!
# Page — telling observers of changes

An open page puts every change into the queues of its observers, a closed one changes no more. So an
observer that is live (`Hears`) and finds its queue empty knows that nothing has changed: the page
has at most given out handles, or was closed (`append_told`, `remove_told`, `close_told`).
-/

namespace ConsentWalker

namespace Node

mutual

/-- Taking no nodes out changes none. -/
theorem without_nil : (n : Node) → n.without [] = n
  | .mk id c cs => by rw [without, withoutAmong_nil cs]

theorem withoutAmong_nil : (ns : List Node) → withoutAmong [] ns = ns
  | [] => rfl
  | n :: rest => by
    rw [withoutAmong, without_nil n, withoutAmong_nil rest]
    rfl

end
end Node

namespace Page

variable {p p' : Page} {o : Observer}

/-! ## Mailboxes -/

/-- The mailbox of an observer that was not given up, after it was changed. -/
theorem mailbox_updateMailbox (hm : (p.mailbox o).dropped = false) (f : Mailbox → Mailbox) :
    (p.updateMailbox o f).mailbox o = f (p.mailbox o) := by
  unfold mailbox updateMailbox at *
  rw [List.getElem?_modify_eq]
  cases h : p.mailboxes[o.index]? with
  | none =>
    rw [h] at hm
    cases hm
  | some m => rfl

theorem updateMailbox_updateMailbox (f g : Mailbox → Mailbox) :
    (p.updateMailbox o f).updateMailbox o g = p.updateMailbox o (g ∘ f) := by
  unfold updateMailbox
  rw [List.modify_modify_eq]

/-- Draining a mailbox empties it, and leaves it as it is otherwise. -/
theorem mailbox_drain (hm : (p.mailbox o).dropped = false) :
    (p.drain o).2.mailbox o = { p.mailbox o with queue := [] } :=
  mailbox_updateMailbox hm _

/-- **An observer that hears of every change**: it was not given up, and the page delivers to it
unless it is closed. -/
structure Hears (p : Page) (o : Observer) : Prop where
  kept : (p.mailbox o).dropped = false
  delivers : p.closed = true ∨ (p.mailbox o).connected = true

theorem Hears.isLive (ho : p.Hears o) (hp : p.closed = false) : (p.mailbox o).isLive = true := by
  have hconnected : (p.mailbox o).connected = true := by
    rcases ho.delivers with hclosed | hconnected
    · rw [hp] at hclosed
      cases hclosed
    · exact hconnected
  unfold Mailbox.isLive
  rw [hconnected, ho.kept]
  rfl

theorem Hears.of_isLive (hm : (p.mailbox o).isLive = true) : p.Hears o := by
  unfold Mailbox.isLive at hm
  rw [Bool.and_eq_true, Bool.not_eq_true'] at hm
  exact ⟨hm.2, .inr hm.1⟩

/-- **Nothing but handles was given out, or the page was closed.** -/
def Quiet (p p' : Page) : Prop := p.Grows p' ∨ p'.closed = true

/-- A change that an observer hears of, unless there was none: who finds an empty queue afterwards
found one before, and has missed nothing. -/
structure Told (o : Observer) (p p' : Page) : Prop where
  hears : p'.Hears o
  missed : (p'.mailbox o).queue = [] → (p.mailbox o).queue = [] ∧ Quiet p p'

theorem Grows.told (hg : p.Grows p') (ho : p.Hears o) : Told o p p' := by
  refine ⟨?_, fun hq => ⟨?_, .inl hg⟩⟩
  · have hbox := hg.mailbox_eq o
    have hclosed := hg.closed_eq
    exact ⟨hbox ▸ ho.kept, by rw [hbox, hclosed]; exact ho.delivers⟩
  · rw [← hg.mailbox_eq]
    exact hq

theorem Quiet.trans {q : Page} (h : Quiet p p') (h' : Quiet p' q) : Quiet p q := by
  rcases h' with hg' | hclosed
  · rcases h with hg | hclosed
    · exact .inl (hg.trans hg')
    · exact .inr (hg'.closed_eq.trans hclosed)
  · exact .inr hclosed

theorem Told.trans {q : Page} (h : Told o p p') (h' : Told o p' q) : Told o p q := by
  refine ⟨h'.hears, fun hq => ?_⟩
  obtain ⟨hq', hquiet'⟩ := h'.missed hq
  obtain ⟨hq'', hquiet⟩ := h.missed hq'
  exact ⟨hq'', hquiet.trans hquiet'⟩

/-- **A delivery reaches every live observer.** -/
theorem notify_told (ho : (p.mailbox o).isLive = true) {q : Page}
    (hq : q.mailboxes = p.mailboxes) (records : Nat) : Told o p (q.notify records) := by
  have hbox : (q.notify records).mailbox o = (p.mailbox o).deliver records := by
    unfold notify mailbox at *
    rw [List.getElem?_map, hq]
    cases h : p.mailboxes[o.index]? with
    | none =>
      rw [h] at ho
      cases ho
    | some m => rfl
  have hdeliver : (p.mailbox o).deliver records =
      { p.mailbox o with queue := (p.mailbox o).queue ++ [records] } := if_pos ho
  rw [hdeliver] at hbox
  refine ⟨.of_isLive ?_, fun hempty => ?_⟩
  · rw [hbox]
    exact ho
  · rw [hbox] at hempty
    simp at hempty

/-! ## Changes -/

/-- Nobody selects anything in a closed page. -/
theorem select_closed (hp : p.closed = true) (scope : Option Handle) (selector : String) :
    (select scope selector).run.run p = (.error .closed, p) := by
  have hopened : p.opened = .error .closed := by
    unfold opened
    rw [if_pos hp]
  rw [select_run]
  unfold matched
  rw [hopened]
  rfl

/-- A selection lets the page grow. -/
theorem select_grows (selector : String) (p : Page) :
    p.Grows ((select none selector).run.run p).2 :=
  (select_steady (by rintro h ⟨⟩)).grows

/-- **Appending is told, or it appends nothing.** -/
theorem append_told (parent : String) (trees : List Tree) (ho : p.Hears o) :
    Told o p ((append parent trees).run.run p).2 := by
  unfold append
  rw [run_bind]
  by_cases hclosed : p.closed = true
  · rw [select_closed hclosed]
    exact (Grows.refl p).told ho
  · have hlive := ho.isLive (Bool.eq_false_iff.2 hclosed)
    have hgrows := select_grows parent p
    have htold := hgrows.told ho
    cases hsel : ((select none parent).run.run p).1 with
    | error e => exact htold
    | ok hs =>
      cases hs with
      | nil => exact htold
      | cons h rest =>
        dsimp only
        rw [run_bind, locate_reads h]
        dsimp only
        cases located h ((select none parent).run.run p).2 with
        | error e => exact htold
        | ok target =>
          have hlive' : (((select none parent).run.run p).2.mailbox o).isLive = true := by
            rw [hgrows.mailbox_eq]
            exact hlive
          refine htold.trans ?_
          change Told o _ (notify { ((select none parent).run.run p).2 with
            root := _, nextId := _ } _)
          refine notify_told hlive' ?_ _
          rfl

/-- **Taking elements out is told, or it takes out none.** -/
theorem remove_told (selector : String) (ho : p.Hears o) :
    Told o p ((remove selector).run.run p).2 := by
  unfold remove
  rw [run_bind]
  by_cases hclosed : p.closed = true
  · rw [select_closed hclosed]
    exact (Grows.refl p).told ho
  · have hlive := ho.isLive (Bool.eq_false_iff.2 hclosed)
    have hgrows := select_grows selector p
    have htold := hgrows.told ho
    cases hsel : ((select none selector).run.run p).1 with
    | error e => exact htold
    | ok hs =>
      generalize hq : ((select none selector).run.run p).2 = q at *
      have hlive' : (q.mailbox o).isLive = true := by
        rw [hgrows.mailbox_eq]
        exact hlive
      refine htold.trans ?_
      let ids := hs.filterMap fun h : Handle => q.handles[h.id]?
      change Told o q (if ids.isEmpty then { q with root := q.root.without ids }
        else { q with root := q.root.without ids }.notify ids.length)
      split
      · next hempty =>
        rw [List.isEmpty_iff.1 hempty, Node.without_nil]
        exact (Grows.refl q).told (.of_isLive hlive')
      · refine notify_told hlive' ?_ _
        rfl

/-- **Closing is no change of what there is to find**: nothing is found in a closed page. -/
theorem close_told (ho : p.Hears o) : Told o p (close.run.run p).2 := by
  change Told o p (if p.closed then p else
    record { p with
      closed := true, mailboxes := p.mailboxes.map fun m => { m with connected := false } } .closed)
  split
  · exact (Grows.refl p).told ho
  · -- the mailbox is disconnected, and stays as it is otherwise
    have hkept := ho.kept
    have hbox : mailbox (record { p with
        closed := true
        mailboxes := p.mailboxes.map fun m => { m with connected := false } } .closed) o =
        { p.mailbox o with connected := false } := by
      unfold mailbox record at *
      dsimp only
      rw [List.getElem?_map]
      cases h : p.mailboxes[o.index]? with
      | none =>
        rw [h] at hkept
        cases hkept
      | some m => rfl
    refine ⟨⟨?_, .inl rfl⟩, fun hq => ⟨?_, .inr rfl⟩⟩
    · rw [hbox]
      exact hkept
    · rw [hbox] at hq
      exact hq

end Page
end ConsentWalker
