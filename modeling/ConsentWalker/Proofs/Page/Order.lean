import Mathlib.Data.List.Lex
import ConsentWalker.Proofs.Page.Activation
/-!
# Page — document order

A place has an address: its position among its siblings, after the positions of all that stands
above it (`Place.address`). Document order is the order of addresses, and the places of a page are
listed in it (`places_ordered`).

So what stands inside an element is a part of all places, in the order they have there: the part
whose ancestors include that element (`Sound.below_eq_filter`).
-/

namespace ConsentWalker
namespace Place

/-- The positions of some levels among their siblings, from the outermost in. -/
def addressOf (levels : List Level) : List Nat :=
  (levels.map fun level => level.left.length).reverse

/-- **Where a place stands**, counted from the document down. -/
def address (q : Place) : List Nat := addressOf (q.level :: q.above)

/-- One place stands before another in the document. -/
def Earlier (q r : Place) : Prop := List.Lex (· < ·) q.address r.address

/-- Whether a place stands above another. -/
def encloses (o q : Place) : Bool := q.ancestors.any fun a => a.id == o.id

/-! ## Addresses -/

theorem addressOf_cons (level : Level) (above : List Level) :
    addressOf (level :: above) = addressOf above ++ [level.left.length] := by
  rw [addressOf, List.map_cons, List.reverse_cons]
  rfl

/-- What stands at or below levels has an address that goes on from theirs. -/
theorem address_of_suffix {levels : List Level} {q : Place} (h : levels <:+ q.level :: q.above) :
    ∃ more, q.address = addressOf levels ++ more := by
  obtain ⟨inner, hinner⟩ := h
  refine ⟨addressOf inner, ?_⟩
  rw [address, ← hinner, addressOf, List.map_append, List.reverse_append]
  rfl

/-- **The address of what stands at a node or below it** begins with the position of that node. -/
theorem address_of_mem_allAt {q : Place} (above : List Level) (left right : List Node) (n : Node)
    (hq : q ∈ allAt above left right n) :
    ∃ more, q.address = addressOf above ++ left.length :: more := by
  have hlevels : (⟨n, left, right⟩ :: above : List Level) <:+ q.level :: q.above := by
    cases n with
    | mk id c cs =>
      rw [allAt] at hq
      rcases List.mem_cons.1 hq with rfl | hq
      · exact List.suffix_rfl
      · exact (suffix_of_mem_allAmong _ [] cs hq).trans (List.suffix_cons _ _)
  obtain ⟨more, hmore⟩ := address_of_suffix hlevels
  exact ⟨more, by rw [hmore, addressOf_cons, List.append_assoc]; rfl⟩

/-- Among siblings the positions go on from the number of those on the left. -/
theorem address_of_mem_allAmong {q : Place} (above : List Level) (left ns : List Node)
    (hq : q ∈ allAmong above left ns) :
    ∃ i more, left.length ≤ i ∧ q.address = addressOf above ++ i :: more := by
  induction ns generalizing left with
  | nil => cases hq
  | cons n rest ih =>
    rw [allAmong] at hq
    rcases List.mem_append.1 hq with hq | hq
    · obtain ⟨more, hmore⟩ := address_of_mem_allAt above left rest n hq
      exact ⟨left.length, more, Nat.le_refl _, hmore⟩
    · obtain ⟨i, more, hi, hmore⟩ := ih (n :: left) hq
      exact ⟨i, more, Nat.le_of_succ_le hi, hmore⟩

/-! ## The order of places -/

/-- What stands below a place comes after it. -/
theorem earlier_of_mem_below {q r : Place} (hr : r ∈ q.below) : q.Earlier r := by
  obtain ⟨i, more, -, hmore⟩ := address_of_mem_allAmong (q.level :: q.above) [] _ hr
  have hnil : List.Lex (· < ·) [] (i :: more) := .nil
  have happend := hnil.append_left _ q.address
  rw [List.append_nil] at happend
  rw [Earlier, hmore]
  exact happend

/-- What stands at a node or below it comes before what stands at the siblings after it. -/
theorem earlier_of_siblings {q r : Place} (above : List Level) (left rest : List Node) (n : Node)
    (hq : q ∈ allAt above left rest n) (hr : r ∈ allAmong above (n :: left) rest) :
    q.Earlier r := by
  obtain ⟨more, hmore⟩ := address_of_mem_allAt above left rest n hq
  obtain ⟨i, more', hi, hmore'⟩ := address_of_mem_allAmong above (n :: left) rest hr
  have hrel : List.Lex (· < ·) (left.length :: more) (i :: more') := .rel hi
  rw [Earlier, hmore, hmore']
  exact hrel.append_left _ _

mutual

/-- **The places of a tree are listed in document order.** -/
theorem allAt_ordered (above : List Level) (left right : List Node) :
    (n : Node) → (allAt above left right n).Pairwise Earlier
  | .mk id c cs => by
    rw [allAt]
    refine List.pairwise_cons.2 ⟨fun r hr => ?_, allAmong_ordered _ [] cs⟩
    exact earlier_of_mem_below (q := ⟨⟨.mk id c cs, left, right⟩, above⟩) hr

theorem allAmong_ordered (above : List Level) (left : List Node) :
    (ns : List Node) → (allAmong above left ns).Pairwise Earlier
  | [] => .nil
  | n :: rest => by
    rw [allAmong]
    refine List.pairwise_append.2
      ⟨allAt_ordered above left rest n, allAmong_ordered above (n :: left) rest,
      fun q hq r hr => earlier_of_siblings above left rest n hq hr⟩

end

/-! ## What stands inside -/

mutual

/-- What has a place of a tree above it stands below that place. -/
theorem mem_below_of_allAt {a x : Place} (above : List Level) (left right : List Node) :
    (n : Node) → x ∈ allAt above left right n → a ∈ x.ancestors → x ∈ a.below ∨ a ∈ ofLevels above
  | .mk id c cs, hx, ha => by
    rw [allAt] at hx
    rcases List.mem_cons.1 hx with rfl | hx
    · exact .inr ha
    · rcases mem_below_of_allAmong _ [] cs hx ha with hbelow | habove
      · exact .inl hbelow
      · rw [ofLevels] at habove
        rcases List.mem_cons.1 habove with rfl | habove
        · exact .inl hx
        · exact .inr habove

theorem mem_below_of_allAmong {a x : Place} (above : List Level) (left : List Node) :
    (ns : List Node) → x ∈ allAmong above left ns → a ∈ x.ancestors →
      x ∈ a.below ∨ a ∈ ofLevels above
  | [], hx, _ => by cases hx
  | n :: rest, hx, ha => by
    rw [allAmong] at hx
    rcases List.mem_append.1 hx with hx | hx
    · exact mem_below_of_allAt above left rest n hx ha
    · exact mem_below_of_allAmong above (n :: left) rest hx ha

end
end Place

namespace Page

open Place

variable {p : Page} {o q : Place}

/-- **The places of a page are listed in document order.** -/
theorem places_ordered (p : Page) : p.places.Pairwise Earlier := allAmong_ordered _ _ _

/-- **What stands below a place of a page is what it stands above.** -/
theorem Sound.encloses_iff (hp : p.Sound) (ho : o ∈ p.places) (hq : q ∈ p.places) :
    o.encloses q = true ↔ q ∈ o.below := by
  unfold encloses
  rw [List.any_eq_true]
  constructor
  · rintro ⟨a, ha, hid⟩
    have hid' : a.id = o.id := eq_of_beq hid
    -- the document has a number that no place has, so what stands above is a place too
    have hplace : a ∈ p.places := by
      rcases mem_below_of_ancestor hq ha with hbelow | rfl | hnone
      · exact hbelow
      · exact absurd hid'.symm (hp.id_ne_root ho)
      · cases hnone
    obtain rfl : a = o := hp.eq_of_id hplace ho hid'
    rcases mem_below_of_allAmong _ [] _ hq ha with hbelow | habove
    · exact hbelow
    · rw [ofLevels] at habove
      rcases List.mem_cons.1 habove with rfl | hnone
      · exact absurd rfl (hp.id_ne_root ho)
      · cases hnone
  · intro hbelow
    exact ⟨o, mem_ancestors hbelow, beq_self_eq_true _⟩

/-- **What stands below a place, in document order**, is the part of all places that it encloses. -/
theorem Sound.below_eq_filter (hp : p.Sound) (ho : o ∈ p.places) :
    o.below = p.places.filter o.encloses := by
  have hinfix : o.below <:+: p.places := below_infix ho
  have hnodup := hp.nodup_of_infix List.infix_rfl
  obtain ⟨before, after, hplaces⟩ := hinfix
  have hmem : ∀ q, q ∈ before ++ o.below ++ after → (o.encloses q = true ↔ q ∈ o.below) :=
    fun q hq => hp.encloses_iff ho (hplaces ▸ hq)
  rw [← hplaces] at hnodup ⊢
  obtain ⟨hfront, -, hback⟩ := List.nodup_append.1 hnodup
  obtain ⟨-, -, hbefore⟩ := List.nodup_append.1 hfront
  -- nothing around it stands in it, because no place is listed twice
  have hnone : before.filter o.encloses = [] := by
    refine List.filter_eq_nil_iff.2 fun q hq henclosed => ?_
    exact hbefore q hq q ((hmem q (by simp [hq])).1 henclosed) rfl
  have hnone' : after.filter o.encloses = [] := by
    refine List.filter_eq_nil_iff.2 fun q hq henclosed => ?_
    have hbelow := (hmem q (by simp [hq])).1 henclosed
    exact hback q (List.mem_append_right _ hbelow) q hq rfl
  have hall : o.below.filter o.encloses = o.below :=
    List.filter_eq_self.2 fun q hq => (hmem q (by simp [hq])).2 hq
  rw [List.filter_append, List.filter_append, hnone, hnone', hall, List.nil_append, List.append_nil]

end Page
end ConsentWalker
