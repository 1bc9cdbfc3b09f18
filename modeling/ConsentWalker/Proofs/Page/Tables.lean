import Mathlib.Data.List.Forall2
import Mathlib.Logic.Equiv.Fintype
import Mathlib.Order.Defs.PartialOrder
import ConsentWalker.Proofs.Page.Cover
/-!
# Page — handles of the same nodes on two pages

Handles are numbers, given out in the order in which elements are found. Who asks a page one
question more changes the numbers of the handles that are given out after it. `Tables.Links` tells
which handle of one page and which of another are of the same node. Tables only grow, and with them
the links.

No handle is linked to two, so there is one renumbering of all handles that takes each to the one it
is linked to (`Tables.exists_renumbering`).
-/

namespace ConsentWalker

/-- The nodes that have handles on two pages, in the order of the handles. -/
structure Tables where
  left : List Nat
  right : List Nat

/-- Tables grow as pages give out handles. -/
instance : Preorder Tables where
  le L M := L.left <+: M.left ∧ L.right <+: M.right
  le_refl _ := ⟨List.prefix_rfl, List.prefix_rfl⟩
  le_trans _ _ _ h₁ h₂ := ⟨h₁.1.trans h₂.1, h₁.2.trans h₂.2⟩

namespace Tables

variable {L M : Tables} {h h' k k' : Handle}

/-- **Handles of one node**, the one on the left page and the other on the right. -/
def Links (L : Tables) (h k : Handle) : Prop :=
  ∃ id, L.left[h.id]? = some id ∧ L.right[k.id]? = some id

/-- What a prefix holds at a position is there still. -/
theorem getElem?_of_prefix {xs ys : List Nat} (hxs : xs <+: ys) {i id : Nat}
    (hi : xs[i]? = some id) : ys[i]? = some id := by
  obtain ⟨more, rfl⟩ := hxs
  rw [List.getElem?_append_left (List.getElem?_eq_some_iff.1 hi).1, hi]

/-- Handles that were linked are so ever after. -/
theorem Links.mono (hl : L.Links h k) (hle : L ≤ M) : M.Links h k := by
  obtain ⟨id, hleft, hright⟩ := hl
  exact ⟨id, getElem?_of_prefix hle.1 hleft, getElem?_of_prefix hle.2 hright⟩

/-- Two positions of a list without repetitions that hold the same are one. -/
theorem handle_eq_of_nodup {xs : List Nat} (hxs : xs.Nodup) {id : Nat} (hh : xs[h.id]? = some id)
    (hh' : xs[h'.id]? = some id) : h = h' := by
  obtain ⟨hlt, hid⟩ := List.getElem?_eq_some_iff.1 hh
  obtain ⟨hlt', hid'⟩ := List.getElem?_eq_some_iff.1 hh'
  obtain ⟨i⟩ := h
  obtain ⟨i'⟩ := h'
  exact congrArg Handle.mk ((List.Nodup.getElem_inj_iff hxs).1 (hid.trans hid'.symm))

/-- **A handle is linked to one handle at most**, from either side. -/
theorem Links.left_unique (hL : L.left.Nodup) (hl : L.Links h k) (hl' : L.Links h' k) : h = h' := by
  obtain ⟨id, hleft, hright⟩ := hl
  obtain ⟨id', hleft', hright'⟩ := hl'
  obtain rfl : id = id' := Option.some.inj (hright.symm.trans hright')
  exact handle_eq_of_nodup hL hleft hleft'

theorem Links.right_unique (hL : L.right.Nodup) (hl : L.Links h k) (hl' : L.Links h k') :
    k = k' := by
  obtain ⟨id, hleft, hright⟩ := hl
  obtain ⟨id', hleft', hright'⟩ := hl'
  obtain rfl : id = id' := Option.some.inj (hleft.symm.trans hleft')
  exact handle_eq_of_nodup hL hright hright'

/-- **Sets of handles of the same nodes.** -/
def LinksAll (L : Tables) (hs ks : List Handle) : Prop :=
  (∀ h ∈ hs, ∃ k ∈ ks, L.Links h k) ∧ ∀ k ∈ ks, ∃ h ∈ hs, L.Links h k

theorem LinksAll.mono {hs ks : List Handle} (hl : L.LinksAll hs ks) (hle : L ≤ M) :
    M.LinksAll hs ks := by
  refine ⟨fun h hh => ?_, fun k hk => ?_⟩
  · obtain ⟨k, hk, hlink⟩ := hl.1 h hh
    exact ⟨k, hk, hlink.mono hle⟩
  · obtain ⟨h, hh, hlink⟩ := hl.2 k hk
    exact ⟨h, hh, hlink.mono hle⟩

/-- Sets that are linked may have one linked pair more. -/
theorem LinksAll.insert {hs ks : List Handle} (hl : L.LinksAll hs ks) (hlink : L.Links h k) :
    L.LinksAll (Page.insertHandle h hs) (Page.insertHandle k ks) := by
  refine ⟨fun h' hh' => ?_, fun k' hk' => ?_⟩
  · rcases Page.mem_insertHandle.1 hh' with rfl | hh'
    · exact ⟨k, Page.mem_insertHandle.2 (.inl rfl), hlink⟩
    · obtain ⟨k', hk', hlink'⟩ := hl.1 h' hh'
      exact ⟨k', Page.mem_insertHandle.2 (.inr hk'), hlink'⟩
  · rcases Page.mem_insertHandle.1 hk' with rfl | hk'
    · exact ⟨h, Page.mem_insertHandle.2 (.inl rfl), hlink⟩
    · obtain ⟨h', hh', hlink'⟩ := hl.2 k' hk'
      exact ⟨h', Page.mem_insertHandle.2 (.inr hh'), hlink'⟩

/-- Sets that are linked may have one linked pair less. -/
theorem LinksAll.erase {hs ks : List Handle} (hL : L.left.Nodup) (hR : L.right.Nodup)
    (hl : L.LinksAll hs ks) (hlink : L.Links h k) :
    L.LinksAll (hs.filter (· ≠ h)) (ks.filter (· ≠ k)) := by
  refine ⟨fun h' hh' => ?_, fun k' hk' => ?_⟩
  · obtain ⟨hmem, hne⟩ := List.mem_filter.1 hh'
    obtain ⟨k', hk', hlink'⟩ := hl.1 h' hmem
    have hne' : k' ≠ k := by
      rintro rfl
      simp [hlink'.left_unique hL hlink] at hne
    exact ⟨k', List.mem_filter.2 ⟨hk', by simpa using hne'⟩, hlink'⟩
  · obtain ⟨hmem, hne⟩ := List.mem_filter.1 hk'
    obtain ⟨h', hh', hlink'⟩ := hl.2 k' hmem
    have hne' : h' ≠ h := by
      rintro rfl
      simp [hlink'.right_unique hR hlink] at hne
    exact ⟨h', List.mem_filter.2 ⟨hh', by simpa using hne'⟩, hlink'⟩

/-- What was given names for the same nodes is linked. -/
theorem linked_of_named {L : Tables} {hs ks : List Handle} {ids : List Nat}
    (hh : List.Forall₂ (fun (h : Handle) id => L.left[h.id]? = some id) hs ids)
    (hk : List.Forall₂ (fun (k : Handle) id => L.right[k.id]? = some id) ks ids) :
    List.Forall₂ L.Links hs ks := by
  induction hh generalizing ks with
  | nil =>
    cases hk
    exact .nil
  | cons h _ ih =>
    cases hk with
    | cons k hk => exact .cons ⟨_, h, k⟩ (ih hk)

end Tables

/-- **Events that are the same** but for the numbers of handles. -/
inductive PageEvent.Links (L : Tables) : PageEvent → PageEvent → Prop where
  | click {h k : Handle} (openInTab : Bool) :
      L.Links h k → Links L (.click h openInTab) (.click k openInTab)
  | scroll {h k : Handle} : L.Links h k → Links L (.scroll h) (.scroll k)
  | focus {h k : Handle} : L.Links h k → Links L (.focus h) (.focus k)
  | pointer {h k : Handle} (phase : Phase) (point : Point) :
      L.Links h k → Links L (.pointer h phase point) (.pointer k phase point)
  | hidden {h k : Handle} (b : Bool) : L.Links h k → Links L (.hidden h b) (.hidden k b)
  | painted {h k : Handle} (passed : Bool) :
      L.Links h k → Links L (.painted h passed) (.painted k passed)
  | progress (message : String) : Links L (.progress message) (.progress message)
  | progressHidden : Links L .progressHidden .progressHidden
  | closed : Links L .closed .closed

theorem PageEvent.Links.mono {L M : Tables} {e e' : PageEvent} (he : e.Links L e') (hle : L ≤ M) :
    e.Links M e' := by
  cases he with
  | click b hl => exact .click b (hl.mono hle)
  | scroll hl => exact .scroll (hl.mono hle)
  | focus hl => exact .focus (hl.mono hle)
  | pointer phase point hl => exact .pointer phase point (hl.mono hle)
  | hidden b hl => exact .hidden b (hl.mono hle)
  | painted b hl => exact .painted b (hl.mono hle)
  | progress message => exact .progress message
  | progressHidden => exact .progressHidden
  | closed => exact .closed

/-! ## Renumbering -/

/-- An event with its handle renumbered. -/
def PageEvent.renumber (f : Handle → Handle) : PageEvent → PageEvent
  | .click h openInTab => .click (f h) openInTab
  | .scroll h => .scroll (f h)
  | .focus h => .focus (f h)
  | .pointer h phase point => .pointer (f h) phase point
  | .hidden h b => .hidden (f h) b
  | .painted h passed => .painted (f h) passed
  | .progress message => .progress message
  | .progressHidden => .progressHidden
  | .closed => .closed

namespace Tables

variable {L : Tables}

/-- **A renumbering that follows the links**: one of all handles, of those that were not given out
too. -/
def Follows (ρ : Equiv.Perm Handle) (L : Tables) : Prop := ∀ h k, L.Links h k → ρ h = k

/-- **Whatever handles two pages gave out, there is a renumbering that follows their links.** -/
theorem exists_renumbering (hL : L.left.Nodup) (hR : L.right.Nodup) :
    ∃ ρ : Equiv.Perm Handle, L.Follows ρ := by
  let Pair := { x : Handle × Handle // L.Links x.1 x.2 }
  have hleft : Function.Injective fun x : Pair => x.1.1 := by
    rintro ⟨⟨h, k⟩, hl⟩ ⟨⟨h', k'⟩, hl'⟩ heq
    obtain rfl : h = h' := heq
    obtain rfl : k = k' := hl.right_unique hR hl'
    rfl
  have hright : Function.Injective fun x : Pair => x.1.2 := by
    rintro ⟨⟨h, k⟩, hl⟩ ⟨⟨h', k'⟩, hl'⟩ heq
    obtain rfl : k = k' := heq
    obtain rfl : h = h' := hl.left_unique hL hl'
    rfl
  -- there are no more pairs than handles on the left
  have hfinite : Finite Pair := by
    have hlt : ∀ x : Pair, x.1.1.id < L.left.length := by
      rintro ⟨⟨h, k⟩, id, hid, -⟩
      exact (List.getElem?_eq_some_iff.1 hid).1
    refine Finite.of_injective (fun x : Pair => (⟨x.1.1.id, hlt x⟩ : Fin L.left.length)) ?_
    intro x y heq
    have hid : x.1.1.id = y.1.1.id := congrArg Fin.val heq
    exact hleft (congrArg Handle.mk hid)
  obtain ⟨ρ, hρ⟩ := Equiv.Perm.exists_extending_pair _ _ hleft hright
  exact ⟨ρ, fun h k hl => hρ ⟨(h, k), hl⟩⟩

variable {ρ : Equiv.Perm Handle}

/-- What two pages had handles for at first keeps its handles. -/
theorem Follows.fixed (hρ : L.Follows ρ) {ids : List Nat} (hleft : ids <+: L.left)
    (hright : ids <+: L.right) {h : Handle} (hh : h.id < ids.length) : ρ h = h := by
  have hid : ids[h.id]? = some ids[h.id] := List.getElem?_eq_getElem hh
  exact hρ h h ⟨ids[h.id], getElem?_of_prefix hleft hid, getElem?_of_prefix hright hid⟩

/-- Sets of handles of the same nodes are the same but for the renumbering. -/
theorem Follows.mem_iff (hρ : L.Follows ρ) {hs ks : List Handle} (hl : L.LinksAll hs ks)
    (h : Handle) :
    ρ h ∈ ks ↔ h ∈ hs := by
  constructor
  · intro hk
    obtain ⟨h', hh', hlink⟩ := hl.2 _ hk
    obtain rfl : h' = h := ρ.injective (hρ _ _ hlink)
    exact hh'
  · intro hh
    obtain ⟨k, hk, hlink⟩ := hl.1 h hh
    rw [hρ _ _ hlink]
    exact hk

/-- Linked events, one after another, are the same but for the renumbering. -/
theorem Follows.events_eq (hρ : L.Follows ρ) {es es' : List PageEvent}
    (he : List.Forall₂ (PageEvent.Links L) es es') : es' = es.map (PageEvent.renumber ρ) := by
  induction he with
  | nil => rfl
  | cons hlink _ ih =>
    rw [List.map_cons, ← ih]
    congr 1
    cases hlink with
    | click b hl => rw [PageEvent.renumber, hρ _ _ hl]
    | scroll hl => rw [PageEvent.renumber, hρ _ _ hl]
    | focus hl => rw [PageEvent.renumber, hρ _ _ hl]
    | pointer phase point hl => rw [PageEvent.renumber, hρ _ _ hl]
    | hidden b hl => rw [PageEvent.renumber, hρ _ _ hl]
    | painted b hl => rw [PageEvent.renumber, hρ _ _ hl]
    | progress message => rfl
    | progressHidden => rfl
    | closed => rfl

/-- The same for whatever else is recorded of handles. -/
theorem Follows.marks_eq {α : Type} (hρ : L.Follows ρ) {xs ys : List (Handle × α)}
    (hx : List.Forall₂ (fun x y => L.Links x.1 y.1 ∧ x.2 = y.2) xs ys) :
    ys = xs.map fun x => (ρ x.1, x.2) := by
  induction hx with
  | nil => rfl
  | cons hlink _ ih => rw [List.map_cons, ← ih, hρ _ _ hlink.1, hlink.2]

end Tables
end ConsentWalker
