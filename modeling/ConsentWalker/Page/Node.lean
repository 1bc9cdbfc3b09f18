import ConsentWalker.Page.Tree
/-!
# Page — nodes and their places

A `Node` is a tree whose nodes carry numbers. Numbering a tree gives each of its nodes a number of
its own, in document order.

A `Place` is a node together with what surrounds it: its siblings on both sides, and the same for
every node above. `Place.below` lists what stands below a place in document order, which is the
order of every query.
-/

namespace ConsentWalker

/-- A node of a page, by its number. -/
inductive Node where
  | mk (id : Nat) (content : Content) (children : List Node)
  deriving Repr, Inhabited

namespace Node

/-- The number of a node. -/
def id : Node → Nat
  | .mk n _ _ => n

/-- What a node is. -/
def content : Node → Content
  | .mk _ c _ => c

/-- The nodes right below. -/
def children : Node → List Node
  | .mk _ _ cs => cs

/-- The element a node is. -/
def element? (n : Node) : Option Element := n.content.element?

/-- Whether a node is an element. -/
def isElement (n : Node) : Bool := n.content.isElement

mutual

/-- The node and all nodes below it, in document order. -/
def all : Node → List Node
  | .mk id c cs => .mk id c cs :: allAmong cs

/-- Some nodes and all nodes below them, in document order. -/
def allAmong : List Node → List Node
  | [] => []
  | n :: rest => all n ++ allAmong rest

end

/-- The numbers of a node and of all nodes below it. -/
def ids (n : Node) : List Nat := n.all.map id

/-- The texts below a node, joined. -/
def text (n : Node) : String :=
  String.join <| n.all.map fun m =>
    match m.content with
    | .text s => s
    | _ => ""

/-! ## Changing a page -/

mutual

/-- Adds nodes after the children of the node of that number. -/
def appendTo (target : Nat) (new : List Node) : Node → Node
  | .mk id c cs =>
    let cs := appendAmong target new cs
    .mk id c (if id = target then cs ++ new else cs)

/-- Adds nodes after the children of the node of that number, wherever it is among some nodes. -/
def appendAmong (target : Nat) (new : List Node) : List Node → List Node
  | [] => []
  | n :: rest => appendTo target new n :: appendAmong target new rest

end

mutual

/-- Takes out the nodes below that have one of the numbers, with all that stands below them. -/
def without (gone : List Nat) : Node → Node
  | .mk id c cs => .mk id c (withoutAmong gone cs)

/-- Takes the nodes that have one of the numbers out of some nodes. -/
def withoutAmong (gone : List Nat) : List Node → List Node
  | [] => []
  | n :: rest =>
    if gone.contains n.id then withoutAmong gone rest
    else without gone n :: withoutAmong gone rest

end
end Node

/-! ## Numbering -/

namespace Tree

mutual

/-- Numbers a tree from a number on, and gives the number after the last one. -/
def number (next : Nat) : Tree → Node × Nat
  | .node c cs =>
    let (nodes, after) := numberAll (next + 1) cs
    (.mk next c nodes, after)

/-- Numbers some trees from a number on. -/
def numberAll (next : Nat) : List Tree → List Node × Nat
  | [] => ([], next)
  | t :: rest =>
    let (n, after) := number next t
    let (nodes, after) := numberAll after rest
    (n :: nodes, after)

end
end Tree

/-! ## Places -/

/-- A node among its siblings; the nearest ones on its left come first. -/
structure Level where
  node : Node
  left : List Node := []
  right : List Node := []
  deriving Repr, Inhabited

/-- A node in its page: its level, and the levels above, nearest first. -/
structure Place where
  level : Level
  above : List Level := []
  deriving Repr, Inhabited

namespace Place

/-- The node at a place. -/
def node (p : Place) : Node := p.level.node

/-- The number of the node at a place. -/
def id (p : Place) : Nat := p.node.id

/-- The element at a place. -/
def element? (p : Place) : Option Element := p.node.element?

/-- The place of a root. -/
def root (n : Node) : Place := ⟨⟨n, [], []⟩, []⟩

/-- The place above. -/
def parent? (p : Place) : Option Place :=
  match p.above with
  | [] => none
  | level :: above => some ⟨level, above⟩

/-- The places of some levels, each under the ones that follow it. -/
def ofLevels : List Level → List Place
  | [] => []
  | level :: above => ⟨level, above⟩ :: ofLevels above

/-- The places above, nearest first. -/
def ancestors (p : Place) : List Place := ofLevels p.above

/-- The places of siblings on the left, nearest first. -/
def leftPlaces (above : List Level) : List Node → List Node → List Place
  | [], _ => []
  | n :: left, right => ⟨⟨n, left, right⟩, above⟩ :: leftPlaces above left (n :: right)

/-- The places of siblings on the right, nearest first. -/
def rightPlaces (above : List Level) : List Node → List Node → List Place
  | _, [] => []
  | left, n :: right => ⟨⟨n, left, right⟩, above⟩ :: rightPlaces above (n :: left) right

/-- The siblings before a place, nearest first. -/
def before (p : Place) : List Place :=
  leftPlaces p.above p.level.left (p.node :: p.level.right)

/-- The siblings after a place, nearest first. -/
def after (p : Place) : List Place :=
  rightPlaces p.above (p.node :: p.level.left) p.level.right

mutual

/-- The place of a node between its siblings, and the places below it. -/
def allAt (above : List Level) (left right : List Node) : Node → List Place
  | .mk id c cs =>
    ⟨⟨.mk id c cs, left, right⟩, above⟩ ::
      allAmong (⟨.mk id c cs, left, right⟩ :: above) [] cs

/-- The places of siblings, the first of which has some on its left, and the places below them. -/
def allAmong (above : List Level) (left : List Node) : List Node → List Place
  | [] => []
  | n :: rest => allAt above left rest n ++ allAmong above (n :: left) rest

end

/-- The places below a place, in document order. -/
def below (p : Place) : List Place := allAmong (p.level :: p.above) [] p.node.children

/-- A place and the places below it. -/
def withBelow (p : Place) : List Place := p :: p.below

end Place

/-- The place of the node of that number below a root. -/
def Node.place? (root : Node) (id : Nat) : Option Place :=
  (Place.root root).below.find? fun p => p.id == id

end ConsentWalker
