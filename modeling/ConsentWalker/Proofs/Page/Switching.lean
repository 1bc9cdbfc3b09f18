import ConsentWalker.Proofs.Page.Reached
/-!
# Page — switching checkboxes

What is done to a page changes the checked state of some elements and clicks some, in order
(`Page.Toggles`). A click on a checkbox, or on what reaches it, switches that one and no other
(`clickedAt_toggles`); everything else that is asked of a page or done to its elements switches
none.
-/

namespace ConsentWalker

/-- The element that was clicked, if an event is a click. -/
def PageEvent.click? : PageEvent → Option Handle
  | .click h _ => some h
  | _ => none

/-- A place that holds a checkbox. -/
def Place.IsCheckbox (q : Place) : Prop := q.element?.bind Element.inputKind? = some "checkbox"

namespace Page

variable {p p' p₁ p₂ : Page}

/-- The elements clicked so far, in order. -/
def clicks (p : Page) : List Handle := p.events.filterMap PageEvent.click?

/-- **A page on which buttons were clicked and boxes switched.** Handles may have been given out,
and other things recorded. -/
structure Toggles (p p' : Page) (buttons boxes : List Place) : Prop where
  keeps : p.Keeps p'
  sound : p'.Sound
  closed : p'.closed = p.closed
  clicks : ∃ hs, p'.clicks = p.clicks ++ hs ∧
    List.Forall₂ (fun h q => p'.place? h = some q) hs buttons
  switched : ∀ q ∈ boxes, p'.isCheckedAt q = ! p.isCheckedAt q
  others : ∀ q ∈ p.places, q ∉ boxes → p'.isCheckedAt q = p.isCheckedAt q

namespace Toggles

variable {b₁ b₂ x₁ x₂ : List Place}

/-- Where nothing was clicked, and nothing recorded about checked states. -/
theorem of_switched_eq (hk : p.Keeps p') (hs : p'.Sound) (hclosed : p'.closed = p.closed)
    (hclicks : p'.clicks = p.clicks) (hsw : p'.switched = p.switched) : p.Toggles p' [] [] := by
  have hsame : ∀ q, p'.isCheckedAt q = p.isCheckedAt q := by
    intro q
    unfold isCheckedAt
    rw [hsw]
  exact ⟨hk, hs, hclosed, ⟨[], by rw [hclicks, List.append_nil], .nil⟩,
    by simp, fun q _ _ => hsame q⟩

theorem of_grows (hg : p.Grows p') (hs : p'.Sound) : p.Toggles p' [] [] := by
  have hk : p.Keeps p' := .of_grows hg
  obtain ⟨more, rfl⟩ := hg
  exact of_switched_eq hk hs rfl rfl rfl

/-- **First some are switched, then others.** -/
theorem trans (h₁ : p.Toggles p₁ b₁ x₁) (h₂ : p₁.Toggles p₂ b₂ x₂) (hx₁ : ∀ q ∈ x₁, q ∈ p.places)
    (hx₂ : ∀ q ∈ x₂, q ∈ p.places) (hdisjoint : x₁.Disjoint x₂) :
    p.Toggles p₂ (b₁ ++ b₂) (x₁ ++ x₂) where
  keeps := h₁.keeps.trans h₂.keeps
  sound := h₂.sound
  closed := h₂.closed.trans h₁.closed
  clicks := by
    obtain ⟨hs₁, hclicks₁, hdenote₁⟩ := h₁.clicks
    obtain ⟨hs₂, hclicks₂, hdenote₂⟩ := h₂.clicks
    refine ⟨hs₁ ++ hs₂, by rw [hclicks₂, hclicks₁, List.append_assoc], ?_⟩
    exact List.rel_append (hdenote₁.imp fun h q hd => h₂.keeps.place? hd) hdenote₂
  switched q hq := by
    rcases List.mem_append.1 hq with hq | hq
    · have hlater : p₂.isCheckedAt q = p₁.isCheckedAt q := by
        refine h₂.others q ?_ fun hq₂ => hdisjoint hq hq₂
        rw [h₁.keeps.places_eq]
        exact hx₁ q hq
      rw [hlater, h₁.switched q hq]
    · have hbefore : p₁.isCheckedAt q = p.isCheckedAt q :=
        h₁.others q (hx₂ q hq) fun hq₁ => hdisjoint hq₁ hq
      rw [h₂.switched q hq, hbefore]
  others q hplace hq := by
    rw [List.mem_append, not_or] at hq
    have hplace₁ : q ∈ p₁.places := by
      rw [h₁.keeps.places_eq]
      exact hplace
    rw [h₂.others q hplace₁ hq.2, h₁.others q hplace hq.1]

/-- What clicks and switches nothing may come before. -/
theorem after (h₁ : p.Toggles p₁ [] []) (h₂ : p₁.Toggles p₂ b₂ x₂) (hx₂ : ∀ q ∈ x₂, q ∈ p.places) :
    p.Toggles p₂ b₂ x₂ :=
  h₁.trans h₂ (by simp) hx₂ (by simp)

/-- What clicks and switches nothing may come after. -/
theorem before (h₁ : p.Toggles p₁ b₁ x₁) (h₂ : p₁.Toggles p₂ [] []) (hx₁ : ∀ q ∈ x₁, q ∈ p.places) :
    p.Toggles p₂ b₁ x₁ := by
  have h := h₁.trans h₂ hx₁ (by simp) (by simp)
  rwa [List.append_nil, List.append_nil] at h

end Toggles

/-! ## What acts on an element -/

variable {h : Handle} {q control : Place}

/-- What is done to an element that is denoted is done. -/
theorem altered_eq (hopen : p.closed = false) (hq : p.place? h = some q) (g : Place → Page → Page) :
    altered h g p = .ok (g q p) := by
  unfold altered
  rw [located_eq_ok.2 ⟨hopen, hq⟩]
  rfl

/-- **An operation that acts on an element that is denoted** does not fail. -/
theorem acts_run (hopen : p.closed = false) (hq : p.place? h = some q) (g : Place → Page → Page) :
    (do let place ← locate h; modify (g place) : Op Unit).run.run p = (.ok (), g q p) := by
  rw [alters_run, altered_eq hopen hq]
  rfl

/-- What is recorded about an element, other than a click, switches nothing. -/
theorem record_toggles (hp : p.Sound) {e : PageEvent} (he : e.click? = none) :
    p.Toggles (p.record e) [] [] := by
  have hsame : p.SameTree (p.record e) := ⟨rfl, rfl, rfl, rfl⟩
  refine .of_switched_eq hsame.keeps (hsame.sound hp) rfl ?_ rfl
  unfold clicks record
  rw [List.filterMap_append, List.filterMap_cons_none he, List.filterMap_nil, List.append_nil]

/-- Outlining an element switches nothing. -/
theorem outlined_toggles (hp : p.Sound) (h : Handle) (passed : Bool) :
    p.Toggles (outlined h passed p) [] [] := by
  have hsame : p.SameTree { p with painted := p.painted ++ [(h, passed)] } := ⟨rfl, rfl, rfl, rfl⟩
  have hpainted : p.Toggles { p with painted := p.painted ++ [(h, passed)] } [] [] :=
    .of_switched_eq hsame.keeps (hsame.sound hp) rfl rfl rfl
  exact hpainted.after (record_toggles hpainted.sound rfl) (by simp)

/-- **What a click reaches depends on the tree alone.** -/
theorem Keeps.controlOf?_eq (hk : p.Keeps p') (q : Place) : p'.controlOf? q = p.controlOf? q := by
  unfold controlOf?
  rw [hk.places_eq]

/-- A state that was written last is the one that counts. -/
theorem isCheckedAt_cons (p : Page) (i : Nat) (b : Bool) (switched : List (Nat × Bool))
    (r : Place) :
    ({ p with switched := (i, b) :: switched } : Page).isCheckedAt r =
      if r.id = i then b else ({ p with switched } : Page).isCheckedAt r := by
  unfold isCheckedAt
  rw [List.lookup_cons]
  by_cases hid : r.id = i
  · simp [hid]
  · have hne : (r.id == i) = false := by simpa using hid
    rw [hne, if_neg hid]

/-- **What reaching a checkbox writes.** -/
theorem activate_box (hbox : control.IsCheckbox) :
    p.activate control =
      { p with switched := (control.id, ! p.isCheckedAt control) :: p.switched } := by
  obtain ⟨e, he, hkind⟩ := Option.bind_eq_some_iff.1 hbox
  unfold activate
  rw [he]
  dsimp only
  rw [hkind]
  rfl

/-- **A click on what reaches a checkbox switches that one**, and no other element. -/
theorem clickedAt_toggles (hp : p.Sound) (hq : p.place? h = some q)
    (hcontrol : p.controlOf? q = some control) (hbox : control.IsCheckbox)
    (hplace : control ∈ p.places) (openInTab : Bool) :
    p.Toggles (clickedAt h openInTab q p) [q] [control] := by
  have hsame := clickedAt_sameTree h openInTab q p
  have heq : clickedAt h openInTab q p = record
      { p with switched := (control.id, ! p.isCheckedAt control) :: p.switched }
      (.click h openInTab) := by
    unfold clickedAt
    rw [hcontrol]
    dsimp only
    rw [activate_box hbox]
  have hchecked : ∀ r, (clickedAt h openInTab q p).isCheckedAt r =
      if r.id = control.id then ! p.isCheckedAt control else p.isCheckedAt r := by
    rw [heq]
    exact isCheckedAt_cons p control.id _ p.switched
  refine ⟨hsame.keeps, hsame.sound hp, ?_, ⟨[h], ?_, .cons (hsame.keeps.place? hq) .nil⟩, ?_, ?_⟩
  · rw [heq]
    rfl
  · rw [heq]
    unfold clicks record
    rw [List.filterMap_append]
    rfl
  · intro r hr
    rw [List.mem_singleton.1 hr, hchecked, if_pos rfl]
  · intro r hr hne
    have hid : r.id ≠ control.id := fun hid =>
      hne (List.mem_singleton.2 (hp.eq_of_id hr hplace hid))
    rw [hchecked, if_neg hid]

end Page
end ConsentWalker
