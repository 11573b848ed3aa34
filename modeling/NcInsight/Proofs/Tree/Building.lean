import NcInsight.Proofs.Tree.Shape
import NcInsight.Tree.Builder

/-
What the steps of a script do to the arena.

Every step is made of five moves: open a node, close one, add text, add a leaf, and annotate.
A property that the five moves keep is kept by every script (`KeptByMoves.run`).
-/
namespace NcInsight
namespace Builder

/-- What is built so far, as a tree without declarations. -/
def sofar (b : Builder) : Tree := { source := b.source, nodes := b.nodes, declarations := #[] }

@[simp] theorem size_sofar (b : Builder) : b.sofar.size = b.nodes.size := rfl

theorem getD_push (nodes : Array Node) (n : Node) (i : Nat) :
    (nodes.push n).getD i Node.blank =
      if i = nodes.size then n else nodes.getD i Node.blank := by
  simp only [Array.getD_eq_getD_getElem?, Array.getElem?_push]
  split <;> rfl

theorem getD_modify (nodes : Array Node) (f : Node → Node) {id i : Nat}
    (h : i = id → id < nodes.size) : (nodes.modify id f).getD i Node.blank =
      if i = id then f (nodes.getD i Node.blank) else nodes.getD i Node.blank := by
  simp only [Array.getD_eq_getD_getElem?, Array.getElem?_modify]
  by_cases hi : i = id
  · subst hi
    rw [if_pos rfl, if_pos rfl, Array.getElem?_eq_getElem (h rfl)]
    rfl
  · rw [if_neg hi, if_neg fun e => hi e.symm]

/-! ## Adding a node -/

section push

variable (b : Builder) (kind : Kind) (field : Option Field) (span : Span)

@[simp] theorem size_push : (b.push kind field span).nodes.size = b.nodes.size + 1 := by
  rw [push, Array.size_modify, Array.size_push]

@[simp] theorem source_push : (b.push kind field span).source = b.source := rfl

@[simp] theorem opened_push : (b.push kind field span).opened = b.opened := rfl

variable {b} (htop : b.top < b.nodes.size) (i : Nat)
include htop

/-- The new node stands last; the open node above it gets one more child. -/
theorem node_push : (b.push kind field span).sofar.node i =
    if i = b.nodes.size then { kind, span, field, parent := some b.top }
    else if i = b.top then
      { b.sofar.node i with children := (b.sofar.node i).children ++ [b.nodes.size] }
    else b.sofar.node i := by
  have hlt : b.top < (b.nodes.push { kind, span, field, parent := some b.top }).size := by
    rw [Array.size_push]
    exact Nat.lt_succ_of_lt htop
  simp only [Tree.node, sofar, push, getD_modify _ _ fun _ => hlt, getD_push]
  by_cases hi : i = b.nodes.size
  · rw [if_pos hi, if_pos hi, if_neg (by rw [hi]; exact Nat.ne_of_gt htop)]
  · simp only [if_neg hi]

theorem parent_push : (b.push kind field span).sofar.parent i =
    if i = b.nodes.size then some b.top else b.sofar.parent i := by
  rw [Tree.parent, node_push kind field span htop]
  split
  · rfl
  · split <;> rfl

theorem span_push : (b.push kind field span).sofar.span i =
    if i = b.nodes.size then span else b.sofar.span i := by
  rw [Tree.span, node_push kind field span htop]
  split
  · rfl
  · split <;> rfl

theorem children_push : (b.push kind field span).sofar.children i =
    if i = b.nodes.size then []
    else if i = b.top then b.sofar.children i ++ [b.nodes.size] else b.sofar.children i := by
  rw [Tree.children, node_push kind field span htop]
  split
  · rfl
  · split <;> rfl

theorem above_push : (b.push kind field span).sofar.above i =
    if i = b.nodes.size then b.top else b.sofar.above i := by
  rw [Tree.above, parent_push kind field span htop]
  split <;> rfl

end push

/-! ## Closing a node -/

section finish

variable {b : Builder} {id : Nat} {rest : List Nat}

/-- Closing changes the end of one span. -/
theorem node_finish (ho : b.opened = id :: rest) (hid : id < b.nodes.size) (i : Nat) :
    b.finish.sofar.node i =
      if i = id then
        { b.sofar.node i with
          span := ⟨(b.sofar.span i).start, closingEnd b.source (b.sofar.span i).start⟩ }
      else b.sofar.node i := by
  simp only [finish, ho, Tree.node, sofar, getD_modify _ _ fun _ => hid, Tree.span]

theorem finish_of_nil (ho : b.opened = []) : b.finish = b := by
  simp only [finish, ho]

theorem parent_finish (ho : b.opened = id :: rest) (hid : id < b.nodes.size) (i : Nat) :
    b.finish.sofar.parent i = b.sofar.parent i := by
  rw [Tree.parent, node_finish ho hid]
  split <;> rfl

theorem children_finish (ho : b.opened = id :: rest) (hid : id < b.nodes.size) (i : Nat) :
    b.finish.sofar.children i = b.sofar.children i := by
  rw [Tree.children, node_finish ho hid]
  split <;> rfl

theorem start_finish (ho : b.opened = id :: rest) (hid : id < b.nodes.size) (i : Nat) :
    b.finish.sofar.start i = b.sofar.start i := by
  rw [Tree.start, Tree.span, node_finish ho hid]
  split <;> rfl

theorem span_finish_of_ne (ho : b.opened = id :: rest) (hid : id < b.nodes.size) {i : Nat}
    (hi : i ≠ id) : b.finish.sofar.span i = b.sofar.span i := by
  rw [Tree.span, node_finish ho hid, if_neg hi]
  rfl

theorem stop_finish (ho : b.opened = id :: rest) (hid : id < b.nodes.size) :
    (b.finish.sofar.span id).stop = closingEnd b.source (b.sofar.start id) := by
  rw [Tree.span, node_finish ho hid, if_pos rfl]
  rfl

@[simp] theorem size_finish : b.finish.nodes.size = b.nodes.size := by
  unfold finish
  split
  · rfl
  · rw [Array.size_modify]

@[simp] theorem source_finish : b.finish.source = b.source := by
  unfold finish
  split <;> rfl

theorem opened_finish : b.finish.opened = b.opened.tail := by
  unfold finish
  split
  · rename_i h
    rw [h]
    rfl
  · rename_i h
    rw [h]
    rfl

theorem opened_foldl_finish (l : List NodeId) (b : Builder) (h : b.opened.length ≤ l.length) :
    (l.foldl (fun b _ => b.finish) b).opened = [] := by
  induction l generalizing b with
  | nil => exact List.eq_nil_of_length_eq_zero (Nat.le_zero.mp h)
  | cons x l ih =>
      refine ih b.finish ?_
      rw [opened_finish, List.length_tail]
      rw [List.length_cons] at h
      omega

theorem opened_close (b : Builder) : b.close.opened = [] :=
  opened_foldl_finish b.opened b (Nat.le_refl _)

end finish

/-! ## Moves -/

theorem close_of_finish (P : Builder → Prop) (hfinish : ∀ b, P b → P b.finish) {b : Builder}
    (hb : P b) : P b.close := by
  have hfold : ∀ (l : List NodeId) (b : Builder), P b → P (l.foldl (fun b _ => b.finish) b) := by
    intro l
    induction l with
    | nil => exact fun _ hb => hb
    | cons x l ih => exact fun b hb => ih b.finish (hfinish b hb)
  exact hfold b.opened b hb

/-- A property of what is built that no move of a script can break. -/
structure KeptByMoves (P : Builder → Prop) : Prop where
  start : ∀ {b}, P b → ∀ kind field, P (b.start kind field)
  finish : ∀ {b}, P b → P b.finish
  trivia : ∀ {b}, P b → ∀ text, P (b.trivia text)
  token : ∀ {b}, P b → ∀ kind text field, P (b.token kind text field)
  annotate : ∀ {b}, P b → ∀ nodes, SameShape nodes b.nodes → P { b with nodes }

namespace KeptByMoves

variable {P : Builder → Prop}

theorem setValueType (h : KeptByMoves P) {b : Builder} (hb : P b) (id : NodeId)
    (type : ValueType) : P (b.setValueType id type) :=
  h.annotate hb _ (SameShape.modify _ _ fun _ => rfl)

theorem inclusion (h : KeptByMoves P) {b : Builder} (hb : P b) (uri : String) :
    P (b.inclusion uri) :=
  h.finish (h.token (h.trivia (h.start hb _ _) _) _ _ _)

theorem definition (h : KeptByMoves P) {b : Builder} (hb : P b) (kind : Kind) (marker : String)
    (nameKind : Kind) (name value : String) (type : ValueType) :
    P (b.definition kind marker nameKind name value type) :=
  h.finish (h.setValueType
    (h.token (h.trivia (h.token (h.trivia (h.start hb _ _) _) _ _ _) _) _ _ _) _ _)

theorem step (h : KeptByMoves P) {b : Builder} (hb : P b) (s : Step) : P (b.step s) := by
  cases s with
  | start kind field => exact h.start hb kind field
  | finish => exact h.finish hb
  | token kind text field => exact h.token hb kind text field
  | trivia text => exact h.trivia hb text
  | inclusion uri => exact h.inclusion hb uri
  | varDef name value type => exact h.definition hb _ _ _ name value type
  | labelDef name value type => exact h.definition hb _ _ _ name value type
  | setValueType id type => exact h.setValueType hb id type
  | setReferenceTypes id types => exact h.annotate hb _ (SameShape.modify _ _ fun _ => rfl)
  | setLink id link => exact h.annotate hb _ (SameShape.modify _ _ fun _ => rfl)

theorem run (h : KeptByMoves P) {b : Builder} (hb : P b) (steps : List Step) :
    P (b.run steps) := by
  induction steps generalizing b with
  | nil => exact hb
  | cons s steps ih => exact ih (h.step hb s)

theorem close (h : KeptByMoves P) {b : Builder} (hb : P b) : P b.close :=
  close_of_finish P (fun _ => h.finish) hb

end KeptByMoves
end Builder
end NcInsight
