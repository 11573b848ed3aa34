import NcInsight.Proofs.Tree.Nesting
import NcInsight.Tree.Annotate

/-
The shape of a tree: what its nodes are and where they stand, without what annotation adds.

Annotation changes links, tags and value types and nothing else, so everything that is
said of the shape of an array of nodes is said of the annotated tree too (`run_shape`).
-/
namespace NcInsight

/-- The node without its annotations. -/
def Node.bare (n : Node) : Node :=
  { kind := n.kind, span := n.span, field := n.field, parent := n.parent, children := n.children }

/-- Two arrays whose nodes differ in annotations at most. -/
def SameShape (a b : Array Node) : Prop :=
  a.size = b.size ∧ ∀ i, (a.getD i Node.blank).bare = (b.getD i Node.blank).bare

namespace SameShape

variable {a b c : Array Node}

theorem refl (a : Array Node) : SameShape a a := ⟨rfl, fun _ => rfl⟩

theorem symm (h : SameShape a b) : SameShape b a := ⟨h.1.symm, fun i => (h.2 i).symm⟩

theorem trans (hab : SameShape a b) (hbc : SameShape b c) : SameShape a c :=
  ⟨hab.1.trans hbc.1, fun i => (hab.2 i).trans (hbc.2 i)⟩

theorem modify (a : Array Node) (i : Nat) {f : Node → Node} (hf : ∀ n, (f n).bare = n.bare) :
    SameShape (a.modify i f) a := by
  refine ⟨Array.size_modify, fun j => ?_⟩
  simp only [Array.getD_eq_getD_getElem?, Array.getElem?_modify]
  split
  · cases a[j]? with
    | none => rfl
    | some n => exact hf n
  · rfl

theorem map (a : Array Node) {f : Node → Node} (hf : ∀ n, (f n).bare = n.bare) :
    SameShape (a.map f) a := by
  refine ⟨Array.size_map, fun j => ?_⟩
  simp only [Array.getD_eq_getD_getElem?, Array.getElem?_map]
  cases a[j]? with
  | none => rfl
  | some n => exact hf n

end SameShape

/-! ## Annotation keeps the shape -/

namespace Annotate

theorem bare_mark (d : Declaration) (id : DeclId) (n : Node) : (mark d id n).bare = n.bare := rfl

theorem bare_linkNode (source : String) (ds : Array Declaration) (n : Node) :
    (linkNode source ds n).bare = n.bare := by
  unfold linkNode
  split
  · rfl
  · split <;> rfl

theorem bare_tagNode (nodes : Array Node) (ds : Array Declaration) (n : Node) :
    (tagNode nodes ds n).bare = n.bare := by
  unfold tagNode
  split
  · simp only
    split <;> rfl
  · rfl

theorem collectOne_shape (source : String) (s : State) (id : NodeId) :
    SameShape (collectOne source s id).nodes s.nodes := by
  unfold collectOne
  split
  · exact SameShape.refl _
  · rename_i d _
    have hdef := SameShape.modify s.nodes id (bare_mark d s.declarations.size)
    simp only
    split
    · exact (SameShape.modify _ _ (bare_mark d _)).trans hdef
    · exact hdef

theorem foldl_collectOne_shape (source : String) (ids : List NodeId) (s : State) :
    SameShape (ids.foldl (collectOne source) s).nodes s.nodes := by
  induction ids generalizing s with
  | nil => exact SameShape.refl _
  | cons id ids ih => exact (ih _).trans (collectOne_shape source s id)

theorem collect_shape (source : String) (nodes : Array Node) :
    SameShape (collect source nodes).nodes nodes :=
  foldl_collectOne_shape source _ _

/-- What every single declaration keeps, as long as the shape is kept, holds when all are
collected. -/
theorem collect_of_step (source : String) (nodes : Array Node) (P : State → Prop)
    (hstart : P { nodes, declarations := #[] })
    (hstep : ∀ s i, SameShape s.nodes nodes → P s → P (collectOne source s i)) :
    P (collect source nodes) := by
  have hrun : ∀ (ids : List NodeId) (s : State), SameShape s.nodes nodes → P s →
      P (ids.foldl (collectOne source) s) := by
    intro ids
    induction ids with
    | nil => exact fun _ _ h => h
    | cons i ids ih =>
        exact fun s hs h => ih _ ((collectOne_shape source s i).trans hs) (hstep s i hs h)
  exact hrun _ _ (SameShape.refl nodes) hstart

theorem run_shape (source : String) (nodes : Array Node) :
    SameShape (run source nodes).nodes nodes := by
  have hcollect := collect_shape source nodes
  have hlink := SameShape.map (collect source nodes).nodes
    (bare_linkNode source (collect source nodes).declarations)
  have htag := SameShape.map
    ((collect source nodes).nodes.map (linkNode source (collect source nodes).declarations))
    (bare_tagNode
      ((collect source nodes).nodes.map (linkNode source (collect source nodes).declarations))
      (collect source nodes).declarations)
  exact htag.trans (hlink.trans hcollect)

end Annotate

/-! ## Queries that read the shape alone -/

namespace Tree

variable {t u : Tree}

theorem size_eq_of_shape (h : SameShape t.nodes u.nodes) : t.size = u.size := h.1

theorem kind_eq_of_shape (h : SameShape t.nodes u.nodes) (i : Nat) : t.kind i = u.kind i := by
  have hbare := congrArg Node.kind (h.2 i)
  exact hbare

theorem span_eq_of_shape (h : SameShape t.nodes u.nodes) (i : Nat) : t.span i = u.span i := by
  have hbare := congrArg Node.span (h.2 i)
  exact hbare

theorem field_eq_of_shape (h : SameShape t.nodes u.nodes) (i : Nat) : t.field i = u.field i := by
  have hbare := congrArg Node.field (h.2 i)
  exact hbare

theorem parent_eq_of_shape (h : SameShape t.nodes u.nodes) (i : Nat) : t.parent i = u.parent i := by
  have hbare := congrArg Node.parent (h.2 i)
  exact hbare

theorem children_eq_of_shape (h : SameShape t.nodes u.nodes) (i : Nat) :
    t.children i = u.children i := by
  have hbare := congrArg Node.children (h.2 i)
  exact hbare

theorem start_eq_of_shape (h : SameShape t.nodes u.nodes) (i : Nat) : t.start i = u.start i := by
  rw [start, start, span_eq_of_shape h]

theorem above_eq (h : ∀ i, t.parent i = u.parent i) (i : Nat) : t.above i = u.above i := by
  rw [above, above, h]

theorem encloses_iff (h : ∀ i, t.parent i = u.parent i) {i j : Nat} :
    t.Encloses i j ↔ u.Encloses i j := by
  simp only [Encloses, above_eq h]

/-- Nesting is a matter of the lines between nodes. -/
theorem Nested.congr (hu : u.Nested) (hsize : t.size = u.size)
    (hparent : ∀ i, t.parent i = u.parent i) (hchildren : ∀ i, t.children i = u.children i) :
    t.Nested where
  size_pos := by
    rw [hsize]
    exact hu.size_pos
  parent_root := by
    rw [hparent]
    exact hu.parent_root
  parent_eq hpos hi := by
    rw [hsize] at hi
    rw [hparent, above_eq hparent]
    exact hu.parent_eq hpos hi
  above_lt hpos hi := by
    rw [hsize] at hi
    rw [above_eq hparent]
    exact hu.above_lt hpos hi
  above_le hjk hk hup := by
    rw [hsize] at hk
    rw [above_eq hparent] at hup
    rw [above_eq hparent, above_eq hparent]
    exact hu.above_le hjk hk hup
  children_eq hi := by
    rw [hsize] at hi
    rw [hchildren, hu.children_eq hi, hsize]
    simp only [hparent]

theorem Nested.of_shape (hu : u.Nested) (h : SameShape t.nodes u.nodes) : t.Nested :=
  hu.congr (size_eq_of_shape h) (parent_eq_of_shape h) (children_eq_of_shape h)

end Tree
end NcInsight
