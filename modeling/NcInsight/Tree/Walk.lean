import NcInsight.Tree.Basic

/-
Moving through a tree: up to the root, down in pre-order, and down to an offset.

Each move is bounded by the number of nodes, which is enough on every tree that passes
`Tree.defect?`: a chain of parents repeats no node, and a walk meets each node once.
-/
namespace NcInsight
namespace Tree

/-! ## Up -/

def ancestorsWithin (t : Tree) : Nat → NodeId → List NodeId
  | 0, _ => []
  | fuel + 1, id =>
      match t.parent id with
      | none => []
      | some p => p :: t.ancestorsWithin fuel p

/-- The strict ancestors, innermost first. -/
def ancestors (t : Tree) (id : NodeId) : List NodeId := t.ancestorsWithin t.size id

/-- The node, then its ancestors. -/
def lineage (t : Tree) (id : NodeId) : List NodeId := id :: t.ancestors id

/-- The node or its closest ancestor of a kind in `p`. -/
def findAncestor (t : Tree) (p : Kind → Bool) (id : NodeId) : Option NodeId :=
  (t.lineage id).find? fun a => p (t.kind a)

/-- The node or its closest ancestor of kind `k`. -/
def enclosing (t : Tree) (k : Kind) (id : NodeId) : Option NodeId := t.findAncestor (· == k) id

/-! ## Down in pre-order -/

/-- Visits the pending nodes in order.  The visitor says whether to go below a node. -/
def walkWithin {σ : Type} (t : Tree) (visit : NodeId → σ → σ × Bool) :
    Nat → List NodeId → σ → σ
  | 0, _, s => s
  | _ + 1, [], s => s
  | fuel + 1, id :: pending, s =>
      match visit id s with
      | (s, true) => t.walkWithin visit fuel (t.children id ++ pending) s
      | (s, false) => t.walkWithin visit fuel pending s

/-- Visits `id` and what is below it, parents first and left to right. -/
def walk {σ : Type} (t : Tree) (visit : NodeId → σ → σ × Bool) (id : NodeId) (s : σ) : σ :=
  t.walkWithin visit t.size [id] s

def visitsWithin (t : Tree) (enter : NodeId → Bool) : Nat → List NodeId → List NodeId
  | 0, _ => []
  | _ + 1, [] => []
  | fuel + 1, id :: pending =>
      id :: t.visitsWithin enter fuel (if enter id then t.children id ++ pending else pending)

/-- The nodes in the order of a walk that goes below a node iff `enter` holds of it. -/
def visits (t : Tree) (enter : NodeId → Bool) (id : NodeId) : List NodeId :=
  t.visitsWithin enter t.size [id]

/-- The node and everything below it, in pre-order. -/
def preorder (t : Tree) (id : NodeId) : List NodeId := t.visits (fun _ => true) id

/-- A walk whose visitor decides by the node alone is a fold over the visited nodes. -/
theorem walkWithin_eq_foldl {σ : Type} (t : Tree) (enter : NodeId → Bool)
    (f : σ → NodeId → σ) (fuel : Nat) (pending : List NodeId) (s : σ) :
    t.walkWithin (fun id s => (f s id, enter id)) fuel pending s =
      (t.visitsWithin enter fuel pending).foldl f s := by
  induction fuel generalizing pending s with
  | zero => rfl
  | succ fuel ih =>
      cases pending with
      | nil => rfl
      | cons id pending =>
          cases h : enter id <;> simp [walkWithin, visitsWithin, h, ih]

/-! ## Down to an offset -/

/-- The last of the children that touches the offset. -/
def touching (t : Tree) (offset : Nat) (id : NodeId) : Option NodeId :=
  ((t.children id).filter fun c => (t.span c).touches offset).getLast?

/-- The last of the children that ends before the offset. -/
def preceding (t : Tree) (offset : Nat) (id : NodeId) : Option NodeId :=
  ((t.children id).filter fun c =>
    !(t.span c).touches offset && (t.span c).stop ≤ offset).getLast?

def pathWithin (t : Tree) (offset : Nat) : Nat → NodeId → List NodeId
  | 0, id => [id]
  | fuel + 1, id =>
      match t.touching offset id with
      | some c => id :: t.pathWithin offset fuel c
      | none => id :: (t.preceding offset id).toList

/-- The nodes around an offset, outermost first.  Where no child touches the offset, the path
ends in the closest child before it. -/
def path (t : Tree) (offset : Nat) : List NodeId := t.pathWithin offset t.size root

/-- The innermost node at an offset. -/
def nodeAt (t : Tree) (offset : Nat) : NodeId := (t.path offset).getLast?.getD root

end Tree
end NcInsight
