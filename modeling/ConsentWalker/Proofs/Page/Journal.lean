import ConsentWalker.Proofs.Page.Closing
import ConsentWalker.Proofs.Page.Cover
/-!
# Page — the record as a journal

Beside the record of what was done to it a page keeps what came of that: which elements are hidden,
what is outlined, the message that is shown, whether it is closed. All of it can be told from the
record alone, by what the latest event says in each respect (`latest?`): whatever may happen either
leaves record and page as they are, or records one event and does to the page what the event says
(`Step.logs`). So `Reached.recorded` holds of every page that can come to be.
-/

namespace ConsentWalker

/-! ## What events say -/

namespace PageEvent

/-- What an event says about an element: whether it is hidden from then on. -/
def hides? (h : Handle) : PageEvent → Option Bool
  | .hidden k b => if k = h then some b else none
  | _ => none

/-- The outline that an event is about. -/
def outlines? : PageEvent → Option (Handle × Bool)
  | .painted h passed => some (h, passed)
  | _ => none

/-- What an event says about the message: which one is shown from then on, if any. -/
def shows? : PageEvent → Option (Option String)
  | .progress message => some (some message)
  | .progressHidden => some none
  | _ => none

end PageEvent

/-- What a call that succeeds adds to the record of an open page. -/
def Call.event? : Call → Option PageEvent
  | .scroll h => some (.scroll h)
  | .focus h => some (.focus h)
  | .click h openInTab => some (.click h openInTab)
  | .pointer h phase point => some (.pointer h phase point)
  | .setHidden h b => some (.hidden h b)
  | .paint h passed => some (.painted h passed)
  | .showProgress message => some (.progress message)
  | .hideProgress => some .progressHidden
  | .close => some .closed
  | .query .. | .text _ | .style .. | .rect _ | .nested _ | .isChecked _ | .observe => none

/-- **The latest of what events say** in one respect. -/
def latest? {α : Type} (told : PageEvent → Option α) (events : List PageEvent) : Option α :=
  (events.filterMap told).getLast?

/-- One more event has the last word, if it says anything. -/
theorem latest?_append {α : Type} (told : PageEvent → Option α) (events : List PageEvent)
    (e : PageEvent) :
    latest? told (events ++ [e]) = (told e).or (latest? told events) := by
  unfold latest?
  rw [List.filterMap_append]
  cases he : told e with
  | none => rw [List.filterMap_cons_none he, List.filterMap_nil, List.append_nil]; rfl
  | some a => rw [List.filterMap_cons_some he, List.filterMap_nil, List.getLast?_concat]; rfl

namespace Page

variable {p p' : Page} {e : PageEvent} {h k : Handle}

/-! ## What events do -/

/-- **A page to which was done what an event says.** -/
def noted (e : PageEvent) (p : Page) : Page :=
  match e with
  | .hidden h b =>
    { p with hidden := if b then insertHandle h p.hidden else p.hidden.filter (· ≠ h) }
  | .painted h passed => { p with painted := p.painted ++ [(h, passed)] }
  | .progress message => { p with progress := some message }
  | .progressHidden => { p with progress := none }
  | _ => p

/-- An event decides about the element it speaks of, and about no other. -/
theorem mem_hidden_noted :
    k ∈ (p.noted e).hidden ↔ (e.hides? k).getD (decide (k ∈ p.hidden)) = true := by
  cases e with
  | hidden h b =>
    unfold noted PageEvent.hides?
    dsimp only
    by_cases hk : h = k
    · subst hk
      cases b <;> simp [mem_insertHandle]
    · have hk' : k ≠ h := fun heq => hk heq.symm
      cases b <;> simp [mem_insertHandle, hk, hk']
  | _ => simp [noted, PageEvent.hides?]

/-- A handle that is put into an ascending list has its place in it. -/
theorem insertHandle_ascending (h : Handle) {hs : List Handle}
    (hs' : hs.Pairwise fun a b => a.id < b.id) :
    (insertHandle h hs).Pairwise fun a b => a.id < b.id := by
  induction hs with
  | nil => exact List.pairwise_singleton _ _
  | cons k rest ih =>
    obtain ⟨hfirst, hrest⟩ := List.pairwise_cons.1 hs'
    unfold insertHandle
    split
    · next hlt =>
      refine List.pairwise_cons.2 ⟨fun b hb => ?_, hs'⟩
      rcases List.mem_cons.1 hb with rfl | hb
      · exact hlt
      · exact Nat.lt_trans hlt (hfirst b hb)
    · split
      · exact hs'
      · next hge hne =>
        refine List.pairwise_cons.2 ⟨fun b hb => ?_, ih hrest⟩
        rcases mem_insertHandle.1 hb with rfl | hb
        · have hid : b.id ≠ k.id := fun hid => hne (congrArg Handle.mk hid)
          omega
        · exact hfirst b hb

theorem ascending_noted (hp : p.hidden.Pairwise fun a b => a.id < b.id) :
    (p.noted e).hidden.Pairwise fun a b => a.id < b.id := by
  cases e with
  | hidden h b =>
    cases b with
    | true => exact insertHandle_ascending h hp
    | false => exact hp.filter _
  | _ => exact hp

theorem painted_noted : (p.noted e).painted = p.painted ++ e.outlines?.toList := by
  cases e <;> simp [noted, PageEvent.outlines?]

theorem progress_noted : (p.noted e).progress = e.shows?.getD p.progress := by
  cases e <;> rfl

theorem events_noted : (p.noted e).events = p.events := by
  cases e <;> rfl

/-! ## Whatever happens is recorded -/

/-- **Pages with the same record**, and with the same in what it tells of. -/
structure SameRecord (p p' : Page) : Prop where
  events : p'.events = p.events
  hidden : p'.hidden = p.hidden
  painted : p'.painted = p.painted
  progress : p'.progress = p.progress

theorem SameRecord.refl (p : Page) : p.SameRecord p := ⟨rfl, rfl, rfl, rfl⟩

theorem SameRecord.of_grows (h : p.Grows p') : p.SameRecord p' := by
  obtain ⟨more, rfl⟩ := h
  exact ⟨rfl, rfl, rfl, rfl⟩

theorem SameRecord.trans {p₁ : Page} (h : p.SameRecord p₁) (h' : p₁.SameRecord p') :
    p.SameRecord p' :=
  ⟨h'.events.trans h.events, h'.hidden.trans h.hidden, h'.painted.trans h.painted,
    h'.progress.trans h.progress⟩

/-- **A page recorded an event, and did what it says**; or nothing happened to it that is
recorded. -/
def Logs (e : Option PageEvent) (p p' : Page) : Prop :=
  (e.elim p fun e => (p.noted e).record e).SameRecord p'

/-- An act that is logged is recorded at the end, or not at all. -/
theorem Logs.events_eq {e : Option PageEvent} (h : Logs e p p') :
    p'.events = p.events ++ e.toList := by
  cases e with
  | none => exact h.events.trans (List.append_nil _).symm
  | some e => exact h.events.trans (congrArg (· ++ [e]) events_noted)

/-- **Every effect of a call is recorded as its event.** Only closing a closed page is not. -/
theorem effect_logs (c : Call) (h : effect c p = .ok p') :
    p.closed = true ∧ Logs none p p' ∨ Logs c.event? p p' := by
  cases c with
  | scroll | focus | pointer | setHidden | paint =>
    rw [effect] at h
    obtain ⟨q, -, rfl⟩ := altered_eq_ok h
    exact .inr (.refl _)
  | click k b =>
    rw [effect] at h
    obtain ⟨q, -, rfl⟩ := altered_eq_ok h
    obtain ⟨switched, hclicked⟩ := clickedAt_eq k b q p
    rw [hclicked]
    exact .inr ⟨rfl, rfl, rfl, rfl⟩
  | showProgress | hideProgress =>
    rw [effect] at h
    obtain ⟨-, rfl⟩ := alteredOpen_eq_ok h
    exact .inr (.refl _)
  | close =>
    cases h
    unfold shut
    split
    · next hclosed => exact .inl ⟨hclosed, .refl p⟩
    · exact .inr ⟨rfl, rfl, rfl, rfl⟩
  | query | text | style | rect | nested | isChecked | observe =>
    cases h
    exact .inr (.refl p)

theorem perform_logs (c : Call) (p : Page) : ∃ e, Logs e p (p.perform c).2 := by
  rcases perform_cases c p with hread | rfl | ⟨e, -, hp⟩ | ⟨p', a, hmade, hp⟩
  · exact ⟨none, .of_grows (perform_grows hread p)⟩
  · exact ⟨none, rfl, rfl, rfl, rfl⟩
  · rw [hp]
    exact ⟨none, .refl p⟩
  · rw [hp]
    rcases effect_logs c hmade with ⟨-, hlogs⟩ | hlogs
    · exact ⟨none, hlogs⟩
    · exact ⟨c.event?, hlogs⟩

/-- **Whatever may happen to a page is recorded as one event**, which the page follows, or changes
nothing that is recorded. -/
theorem Step.logs (h : p.Step p') : ∃ e, Logs e p p' := by
  cases h with
  | perform c => exact perform_logs c p
  | append parent trees =>
    have hselect : p.SameRecord ((select none parent).run.run p).2 :=
      .of_grows (select_grows parent p)
    rcases append_cases parent trees p with h | ⟨place, mailboxes, -, h⟩
    · exact ⟨none, h ▸ hselect⟩
    · rw [h]
      exact ⟨none, hselect.trans ⟨rfl, rfl, rfl, rfl⟩⟩
  | remove selector =>
    have hselect : p.SameRecord ((select none selector).run.run p).2 :=
      .of_grows (select_grows selector p)
    rcases remove_cases selector p with h | ⟨ids, mailboxes, h⟩
    · exact ⟨none, h ▸ hselect⟩
    · rw [h]
      exact ⟨none, hselect.trans ⟨rfl, rfl, rfl, rfl⟩⟩
  | receive o =>
    refine ⟨none, ?_⟩
    unfold Page.receive
    dsimp only
    split
    · exact .refl p
    · split <;> exact ⟨rfl, rfl, rfl, rfl⟩
  | drain o => exact ⟨none, rfl, rfl, rfl, rfl⟩
  | drop o => exact ⟨none, rfl, rfl, rfl, rfl⟩
  | checkedAll selector =>
    refine ⟨none, ?_⟩
    rcases checkedAll_eq selector p with h | h
    · rw [h]
      exact .of_grows (select_grows selector p)
    · rw [h]
      exact .refl p

/-! ## The record tells it all -/

/-- **A page whose record tells what is hidden, outlined and shown.** -/
structure Journaled (p : Page) : Prop where
  hidden : ∀ h, h ∈ p.hidden ↔ latest? (·.hides? h) p.events = some true
  ascending : p.hidden.Pairwise fun a b => a.id < b.id
  painted : p.painted = p.events.filterMap PageEvent.outlines?
  progress : p.progress = (latest? PageEvent.shows? p.events).join

theorem Journaled.congr (hp : p.Journaled) (h : p.SameRecord p') : p'.Journaled := by
  obtain ⟨hevents, hhidden, hpainted, hprogress⟩ := h
  constructor
  · rw [hevents, hhidden]
    exact hp.hidden
  · rw [hhidden]
    exact hp.ascending
  · rw [hevents, hpainted]
    exact hp.painted
  · rw [hevents, hprogress]
    exact hp.progress

/-- **One event more tells of a page that followed it.** -/
theorem Journaled.noted (hp : p.Journaled) (e : PageEvent) : ((p.noted e).record e).Journaled := by
  have hevents : ((p.noted e).record e).events = p.events ++ [e] := congrArg (· ++ [e]) events_noted
  constructor
  · intro h
    rw [hevents, latest?_append]
    refine mem_hidden_noted.trans ?_
    cases e.hides? h with
    | none => exact decide_eq_true_iff.trans (hp.hidden h)
    | some b => exact Option.some_inj.symm
  · exact ascending_noted hp.ascending
  · rw [hevents, List.filterMap_append, ← hp.painted]
    refine painted_noted.trans (congrArg (p.painted ++ ·) ?_)
    cases e <;> rfl
  · rw [hevents, latest?_append]
    refine progress_noted.trans ?_
    cases e.shows? with
    | none => exact hp.progress
    | some message => rfl

/-- Whatever happens to a page keeps its journal. -/
theorem Step.journaled (h : p.Step p') (hp : p.Journaled) : p'.Journaled := by
  obtain ⟨e, hlogs⟩ := h.logs
  cases e with
  | none => exact hp.congr hlogs
  | some e => exact (hp.noted e).congr hlogs

/-- What calls leave can come to be. -/
theorem Reached.performAll (hp : p.Reached) (calls : List Call) :
    (calls.foldl (fun p c => (p.perform c).2) p).Reached := by
  induction calls generalizing p with
  | nil => exact hp
  | cons c rest ih => exact ih (hp.step (.perform c))

/-- **Every page that can come to be is told of by its record.** -/
theorem Reached.journaled (h : p.Reached) : p.Journaled := by
  induction h with
  | ofTree t nested => exact ⟨fun h => ⟨nofun, nofun⟩, .nil, rfl, rfl⟩
  | step _ hstep ih => exact hstep.journaled ih

/-- What a record ends with stands there once. -/
theorem EndsClosed.last {before after events : List PageEvent} (h : EndsClosed events)
    (hevents : events = before ++ .closed :: after) : .closed ∉ before ∧ after = [] := by
  obtain ⟨recorded, hrecorded, hno⟩ := h
  rw [hevents] at hrecorded
  rcases List.eq_nil_or_concat after with rfl | ⟨inner, e, rfl⟩
  · obtain rfl := List.append_cancel_right hrecorded
    exact ⟨hno, rfl⟩
  · -- the event would stand among those before the last
    rw [List.concat_eq_append, ← List.cons_append, ← List.append_assoc] at hrecorded
    obtain ⟨rfl, -⟩ := List.append_inj' hrecorded rfl
    exact absurd (List.mem_append_right _ List.mem_cons_self) hno

/-- **The record is a faithful journal.** After whatever may have happened to a page, those elements
are hidden of which the latest such event tells so, each listed once. The outlines are those of the
record, in their order, and the message is the one that was shown last, unless it was taken away
since. The page is closed exactly if its closing is recorded, which is so once and comes last. -/
theorem Reached.recorded (hp : p.Reached) :
    (∀ h, h ∈ p.hidden ↔ latest? (·.hides? h) p.events = some true) ∧
    p.hidden.Pairwise (fun a b => a.id < b.id) ∧
    p.painted = p.events.filterMap PageEvent.outlines? ∧
    p.progress = (latest? PageEvent.shows? p.events).join ∧
    (p.closed = true ↔ .closed ∈ p.events) ∧
    ∀ before after, p.events = before ++ .closed :: after → .closed ∉ before ∧ after = [] := by
  obtain ⟨hhidden, hascending, hpainted, hprogress⟩ := hp.journaled
  have hsealed := hp.sealed
  have hclosed : p.closed = true ↔ .closed ∈ p.events := by
    cases hc : p.closed with
    | true =>
      obtain ⟨recorded, hrecorded, -⟩ := hsealed.last hc
      exact ⟨fun _ => hrecorded ▸ List.mem_append_right _ List.mem_cons_self, fun _ => rfl⟩
    | false => exact ⟨Bool.noConfusion, fun hmem => absurd hmem (hsealed.unsaid hc)⟩
  refine ⟨hhidden, hascending, hpainted, hprogress, hclosed, fun before after hevents => ?_⟩
  have hmem : .closed ∈ p.events := hevents ▸ List.mem_append_right _ List.mem_cons_self
  exact (hsealed.last (hclosed.2 hmem)).last hevents

/-- A page of two notices that were hidden, of which one was shown again and the other taken out. -/
def noticedPage : Page :=
  let notice (name : String) : Tree :=
    .node (.element { name := "p", attributes := [("id", name)] }) []
  let page := ofTree
    (.node .document [.node (.element { name := "body" }) [notice "a", notice "b"]]) false
  let calls : List Call :=
    [.query none "p", .setHidden ⟨0⟩ true, .setHidden ⟨1⟩ true, .showProgress "hiding",
      .setHidden ⟨0⟩ false,
      .paint ⟨1⟩ true]
  ((remove "#b").run.run (calls.foldl (fun p c => (p.perform c).2) page)).2

theorem reached_noticedPage : noticedPage.Reached := by
  unfold noticedPage
  exact .step ((Reached.ofTree _ false).performAll _) (.remove "#b")

/-- The notice that was taken out counts as hidden still, as the record says, and the other one does
not. -/
theorem noticed_recorded :
    noticedPage.hidden = [⟨1⟩] ∧ latest? (·.hides? ⟨1⟩) noticedPage.events = some true ∧
      noticedPage.place? ⟨1⟩ = none ∧ latest? (·.hides? ⟨0⟩) noticedPage.events ≠ some true ∧
      noticedPage.painted = noticedPage.events.filterMap PageEvent.outlines? ∧
      noticedPage.progress = some "hiding" := by
  obtain ⟨hhidden, -, hpainted, -⟩ := reached_noticedPage.recorded
  have hlist : noticedPage.hidden = [⟨1⟩] := by decide +kernel
  exact ⟨hlist, (hhidden ⟨1⟩).1 (hlist ▸ List.mem_cons_self), by decide +kernel,
    fun h => absurd ((hhidden ⟨0⟩).2 h) (hlist ▸ by decide), hpainted, by decide +kernel⟩

end Page
end ConsentWalker
