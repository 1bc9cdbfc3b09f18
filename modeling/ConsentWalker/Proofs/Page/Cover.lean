import ConsentWalker.Proofs.Page.Reached
/-!
# Page — what may be covered

What calls leave behind on a page: elements that were hidden and not shown again, and a progress
message that was not taken away. `Cover` keeps account of both from the calls alone, and
`CoveredBy.perform` says that a page never shows more of it than the account has, whichever calls
fail: who fails to show an element again has lost the element, or the page is closed.

Others who append, take out or click cover nothing and uncover nothing (`Leaves`). An element they
take out stays out, so one that was lost does not come back hidden.
-/

namespace ConsentWalker

/-- What may still be covered after some calls. -/
structure Cover where
  /-- The elements that were to be hidden and not shown again since. -/
  hidden : List Handle := []
  /-- Whether a progress message was to be shown and not taken away since. -/
  shown : Bool := false
  deriving DecidableEq, Repr

namespace Cover

/-- The account after one more call. -/
def after (c : Cover) : Call → Cover
  | .setHidden h true => { c with hidden := c.hidden ++ [h] }
  | .setHidden h false => { c with hidden := c.hidden.filter (· ≠ h) }
  | .showProgress _ => { c with shown := true }
  | .hideProgress => { c with shown := false }
  | _ => c

/-- The account after some calls. -/
def afterAll (c : Cover) (calls : List Call) : Cover := calls.foldl after c

theorem afterAll_append (c : Cover) (calls more : List Call) :
    c.afterAll (calls ++ more) = (c.afterAll calls).afterAll more :=
  List.foldl_append

end Cover

/-- A call that covers or uncovers something. -/
def Call.covers : Call → Bool
  | .setHidden .. | .showProgress _ | .hideProgress => true
  | _ => false

namespace Page

variable {p₀ p p' : Page} {c : Cover}

/-- **Nothing is covered**: no message is shown, and no element of the page is hidden. -/
def Uncovered (p : Page) : Prop := p.progress = none ∧ ∀ h ∈ p.hidden, p.place? h = none

instance (p : Page) : Decidable p.Uncovered := inferInstanceAs (Decidable (_ ∧ _))

/-! ## Leaving covers alone -/

/-- **A page that came of another one while nothing was covered or uncovered.** -/
structure Leaves (p p' : Page) : Prop where
  precedes : p.Precedes p'
  sound : p.Sound → p'.Sound
  hidden : p'.hidden = p.hidden
  progress : p'.progress = p.progress
  closed : p.closed = true → p'.closed = true

namespace Leaves

variable {p₁ : Page}

theorem refl (p : Page) : p.Leaves p := ⟨.refl p, id, rfl, rfl, id⟩

theorem trans (h₁ : p.Leaves p₁) (h₂ : p₁.Leaves p') : p.Leaves p' where
  precedes := h₁.precedes.trans h₂.precedes
  sound := h₂.sound ∘ h₁.sound
  hidden := h₂.hidden.trans h₁.hidden
  progress := h₂.progress.trans h₁.progress
  closed := h₂.closed ∘ h₁.closed

/-- What may happen to a page is sound and brings nothing back. -/
theorem of_step (hs : p.Step p') (hhidden : p'.hidden = p.hidden)
    (hprogress : p'.progress = p.progress) (hclosed : p.closed = true → p'.closed = true) :
    p.Leaves p' :=
  ⟨hs.precedes, hs.sound, hhidden, hprogress, hclosed⟩

theorem of_sameTree (hs : p.SameTree p') (hhidden : p'.hidden = p.hidden)
    (hprogress : p'.progress = p.progress) (hclosed : p.closed = true → p'.closed = true) :
    p.Leaves p' :=
  ⟨.of_keeps hs.keeps, hs.sound, hhidden, hprogress, hclosed⟩

end Leaves

/-- What other calls do covers nothing. -/
theorem effect_leaves {call : Call} (hcall : call.covers = false) (h : effect call p = .ok p') :
    p.Leaves p' := by
  cases call with
  | setHidden | showProgress | hideProgress => cases hcall
  | scroll | focus | pointer | paint =>
    rw [effect] at h
    obtain ⟨q, -, rfl⟩ := altered_eq_ok h
    exact .of_sameTree ⟨rfl, rfl, rfl, rfl⟩ rfl rfl id
  | click k b =>
    rw [effect] at h
    obtain ⟨q, -, rfl⟩ := altered_eq_ok h
    obtain ⟨switched, hclicked⟩ := clickedAt_eq k b q p
    rw [hclicked]
    exact .of_sameTree ⟨rfl, rfl, rfl, rfl⟩ rfl rfl id
  | close =>
    cases h
    unfold shut
    split
    · exact .refl p
    · exact .of_sameTree ⟨rfl, rfl, rfl, rfl⟩ rfl rfl fun _ => rfl
  | query | text | style | rect | nested | isChecked | observe =>
    cases h
    exact .refl p

theorem Leaves.of_grows (hg : p.Grows p') (hs : p.Step p') : p.Leaves p' := by
  obtain ⟨more, rfl⟩ := hg
  exact .of_step hs rfl rfl id

/-- **Whatever else is called, covers are left alone**, whether it fails or not. -/
theorem perform_leaves (call : Call) (hcall : call.covers = false) (p : Page) :
    p.Leaves (p.perform call).2 := by
  rcases perform_cases call p with hread | rfl | ⟨e, -, hp⟩ | ⟨p', a, hmade, hp⟩
  · exact .of_grows (perform_grows hread p) (.perform call)
  · exact .of_sameTree ⟨rfl, rfl, rfl, rfl⟩ rfl rfl id
  · rw [hp]
    exact .refl p
  · rw [hp]
    exact effect_leaves hcall hmade

/-- **In a closed page nothing is covered or uncovered.** -/
theorem perform_leaves_of_closed (hp : p.closed = true) (call : Call) :
    p.Leaves (p.perform call).2 := by
  by_cases hcall : call.covers = false
  · exact perform_leaves call hcall p
  · rcases perform_cases call p with hread | rfl | ⟨e, -, hfails⟩ | ⟨p', a, hmade, -⟩
    · exact .of_grows (perform_grows hread p) (.perform call)
    · exact absurd rfl hcall
    · rw [hfails]
      exact .refl p
    · cases call with
      | setHidden h b =>
        rw [effect] at hmade
        obtain ⟨q, hq, -⟩ := altered_eq_ok hmade
        rw [(located_eq_ok.1 hq).1] at hp
        cases hp
      | showProgress | hideProgress =>
        rw [effect] at hmade
        rw [(alteredOpen_eq_ok hmade).1] at hp
        cases hp
      | _ => exact absurd rfl hcall

/-- Whoever appends covers nothing. -/
theorem append_leaves (parent : String) (trees : List Tree) (p : Page) :
    p.Leaves ((append parent trees).run.run p).2 := by
  have hselects : p.Leaves ((select none parent).run.run p).2 :=
    perform_leaves (.query none parent) rfl p
  rcases append_cases parent trees p with h | ⟨place, mailboxes, hplace, h⟩
  · rw [h]
    exact hselects
  · rw [h]
    exact hselects.trans
      ⟨.appended place trees mailboxes _, fun hs => hs.appended hplace trees mailboxes, rfl, rfl,
        id⟩

/-- Whoever takes elements out covers nothing. -/
theorem remove_leaves (selector : String) (p : Page) :
    p.Leaves ((remove selector).run.run p).2 := by
  have hselects : p.Leaves ((select none selector).run.run p).2 :=
    perform_leaves (.query none selector) rfl p
  rcases remove_cases selector p with h | ⟨ids, mailboxes, h⟩
  · rw [h]
    exact hselects
  · rw [h]
    exact hselects.trans
      ⟨.withdrawn ids mailboxes _, fun hs => hs.withdrawn ids mailboxes, rfl, rfl, id⟩

/-- Observers leave covers alone. -/
theorem updateMailbox_leaves (o : Observer) (f : Mailbox → Mailbox) (p : Page) :
    p.Leaves (p.updateMailbox o f) :=
  .of_sameTree (p.updateMailbox_sameTree o f) rfl rfl id

/-! ## Pages under an account -/

/-- **A page that is covered by no more than an account says**, and that came of another. Once it is
closed nobody can uncover anything; if it was closed from the first, nothing was covered either. -/
structure CoveredBy (p₀ p : Page) (c : Cover) : Prop where
  sound : p.Sound
  named : ∀ h ∈ p.hidden, h.id < p.handles.length
  before : p₀.closed = true → p.closed = true ∧ p.hidden = [] ∧ p.progress = none
  covered : p.closed = true ∨
    (∀ h ∈ p.hidden, p.place? h = none ∨ h ∈ c.hidden) ∧ (p.progress = none ∨ c.shown = true)

namespace CoveredBy

/-- **Under an empty account nothing is covered**, unless the page was closed meanwhile. -/
theorem uncovered (hp : p₀.CoveredBy p {}) :
    p.Uncovered ∨ p₀.closed = false ∧ p.closed = true := by
  rcases hp.covered with hclosed | ⟨hhidden, hprogress⟩
  · cases h₀ : p₀.closed with
    | false => exact .inr ⟨rfl, hclosed⟩
    | true =>
      obtain ⟨-, hhidden, hprogress⟩ := hp.before h₀
      refine .inl ⟨hprogress, ?_⟩
      rw [hhidden]
      simp
  · refine .inl ⟨?_, fun h hh => ?_⟩
    · rcases hprogress with hnone | hshown
      · exact hnone
      · cases hshown
    · rcases hhidden h hh with hgone | hmem
      · exact hgone
      · cases hmem

/-- What leaves covers alone leaves a page under its account. -/
theorem leaves (hp : p₀.CoveredBy p c) (h : p.Leaves p') : p₀.CoveredBy p' c := by
  refine ⟨h.sound hp.sound, fun k hk => ?_, fun h₀ => ?_, ?_⟩
  · rw [h.hidden] at hk
    exact Nat.lt_of_lt_of_le (hp.named k hk) h.precedes.handles.length_le
  · obtain ⟨hclosed, hhidden, hprogress⟩ := hp.before h₀
    exact ⟨h.closed hclosed, h.hidden.trans hhidden, h.progress.trans hprogress⟩
  · rcases hp.covered with hclosed | ⟨hhidden, hprogress⟩
    · exact .inl (h.closed hclosed)
    · rw [h.hidden, h.progress]
      refine .inr ⟨fun k hk => ?_, hprogress⟩
      rcases hhidden k hk with hgone | hmem
      · exact .inl (h.precedes.gone hp.sound (h.sound hp.sound) (hp.named k hk) hgone)
      · exact .inr hmem

end CoveredBy

theorem mem_insertHandle {h k : Handle} {hs : List Handle} :
    k ∈ insertHandle h hs ↔ k = h ∨ k ∈ hs := by
  induction hs with
  | nil => simp [insertHandle]
  | cons l rest ih =>
    unfold insertHandle
    split
    · rw [List.mem_cons]
    · split
      · next heq =>
        subst heq
        simp
      · rw [List.mem_cons, List.mem_cons, ih]
        exact or_left_comm

/-- Hiding an element of an open page and showing it again, if it is there. -/
theorem setHidden_page (hp : p.closed = false) (h : Handle) (b : Bool) :
    (p.place? h = none ∧ (p.perform (.setHidden h b)).2 = p) ∨
      ∃ q, p.place? h = some q ∧ (p.perform (.setHidden h b)).2 = concealed h b p := by
  have hrun := alters_run h (fun _ => concealed h b) p
  rcases outcome_cases hrun with ⟨e, hmade, hrun⟩ | ⟨p', a, hmade, hrun⟩
  · refine .inl ⟨?_, congrArg Prod.snd hrun⟩
    by_contra hne
    obtain ⟨q, hq⟩ := Option.ne_none_iff_exists'.1 hne
    unfold altered at hmade
    rw [located_eq_ok.2 ⟨hp, hq⟩] at hmade
    cases hmade
  · obtain ⟨q, hq, rfl⟩ := altered_eq_ok hmade
    exact .inr ⟨q, (located_eq_ok.1 hq).2, congrArg Prod.snd hrun⟩

/-- What is done to an open page is done. -/
theorem altersOpen_of_open (hp : p.closed = false) (g : Page → Page) :
    (do ensureOpen; modify g : Op Unit).run.run p = (.ok (), g p) := by
  rw [altersOpen_run]
  unfold alteredOpen opened
  rw [if_neg (by simp [hp])]
  rfl

namespace CoveredBy

/-- An open page that was changed beside its tree is under an account if what is covered now is. -/
theorem of_open {c' : Cover} (hp : p₀.CoveredBy p c) (hopen : p.closed = false)
    (hs : p.SameTree p') (hnamed : ∀ k ∈ p'.hidden, k.id < p.handles.length)
    (hhidden : ∀ k ∈ p'.hidden, p.place? k = none ∨ k ∈ c'.hidden)
    (hprogress : p'.progress = none ∨ c'.shown = true) : p₀.CoveredBy p' c' := by
  have hplace : ∀ k, p'.place? k = p.place? k := by
    intro k
    unfold place?
    rw [hs.handles, hs.root]
  refine ⟨hs.sound hp.sound, fun k hk => ?_, fun h₀ => ?_, .inr ⟨fun k hk => ?_, hprogress⟩⟩
  · rw [hs.handles]
    exact hnamed k hk
  · rw [(hp.before h₀).1] at hopen
    cases hopen
  · rw [hplace]
    exact hhidden k hk

/-- Hiding an element, or showing it again, is in the account. -/
theorem setHidden (hp : p₀.CoveredBy p c) (hopen : p.closed = false) (h : Handle) (b : Bool) :
    p₀.CoveredBy (p.perform (.setHidden h b)).2 (c.after (.setHidden h b)) := by
  obtain ⟨hhidden, hprogress⟩ := hp.covered.resolve_left (by simp [hopen])
  rcases setHidden_page hopen h b with ⟨hgone, hpage⟩ | ⟨q, hq, hpage⟩
  · -- the element is gone, and stays in the list of hidden ones if it was there
    rw [hpage]
    refine hp.of_open hopen (.refl p) hp.named (fun k hk => ?_) ?_
    · rcases hhidden k hk with hnone | hmem
      · exact .inl hnone
      · by_cases hkh : k = h
        · exact .inl (hkh ▸ hgone)
        · cases b <;> simp [Cover.after, hmem, hkh]
    · cases b <;> exact hprogress
  · rw [hpage]
    have hh : h.id < p.handles.length := (List.getElem?_eq_some_iff.1 (place?_eq_some hq).2).1
    cases b with
    | true =>
      refine hp.of_open hopen ⟨rfl, rfl, rfl, rfl⟩ (fun k hk => ?_) (fun k hk => ?_) hprogress
      · rcases mem_insertHandle.1 hk with rfl | hk
        · exact hh
        · exact hp.named k hk
      · rcases mem_insertHandle.1 hk with rfl | hk
        · exact .inr (List.mem_append_right _ List.mem_cons_self)
        · exact (hhidden k hk).imp_right (List.mem_append_left _)
    | false =>
      refine hp.of_open hopen ⟨rfl, rfl, rfl, rfl⟩ (fun k hk => ?_) (fun k hk => ?_) hprogress
      · exact hp.named k (List.mem_filter.1 hk).1
      · obtain ⟨hmem, hne⟩ := List.mem_filter.1 hk
        exact (hhidden k hmem).imp_right fun hk => List.mem_filter.2 ⟨hk, hne⟩

/-- **No call covers more than the account says**, whether it fails or not. -/
theorem perform (hp : p₀.CoveredBy p c) (call : Call) :
    p₀.CoveredBy (p.perform call).2 (c.after call) := by
  cases hopen : p.closed with
  | true =>
    have hl := perform_leaves_of_closed hopen call
    obtain ⟨hsound, hnamed, hbefore, -⟩ := hp.leaves hl
    exact ⟨hsound, hnamed, hbefore, .inl (hl.closed hopen)⟩
  | false =>
    obtain ⟨hhidden, hprogress⟩ := hp.covered.resolve_left (by simp [hopen])
    cases call with
    | setHidden h b => exact hp.setHidden hopen h b
    | showProgress m =>
      have hpage : (p.perform (.showProgress m)).2 = _ :=
        congrArg Prod.snd (altersOpen_of_open hopen _)
      rw [hpage]
      exact hp.of_open hopen ⟨rfl, rfl, rfl, rfl⟩ hp.named hhidden (.inr rfl)
    | hideProgress =>
      have hpage : (p.perform .hideProgress).2 = _ :=
        congrArg Prod.snd (altersOpen_of_open hopen _)
      rw [hpage]
      exact hp.of_open hopen ⟨rfl, rfl, rfl, rfl⟩ hp.named hhidden (.inl rfl)
    | _ => exact hp.leaves (perform_leaves _ rfl p)

end CoveredBy
end Page
end ConsentWalker
