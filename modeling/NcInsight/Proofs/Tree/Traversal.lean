import NcInsight.Proofs.Tree.Walking

/-
Walks with a visitor that carries a state.

A walk keeps a list of pending nodes, and its visitor decides by what it has seen so far whether to
go below a node.  What it does is said a second time as a recursion over the tree
(`Rooted.fold`), and a third time as a run with no bound on its steps and with a record of the nodes
handed to the visitor (`Walks`).  In a tree that passes the check all three agree, the record holds
no node twice, and a visitor that always goes on is handed everything at or below the start
(`walk_complete`).
-/
namespace NcInsight
namespace Tree

variable {t : Tree}

/-! ## The line up -/

namespace Rooted

variable (h : t.Rooted)
include h

theorem isChain_lineage {i : NodeId} (hi : i < t.size) :
    (t.lineage i).IsChain fun c p => t.parent c = some p := by
  refine h.induct (P := fun i => (t.lineage i).IsChain fun c p => t.parent c = some p) ?_ ?_ hi
  · rw [h.lineage_root]
    exact List.IsChain.singleton root
  · intro p c hc ih
    rw [h.lineage_of_mem hc]
    exact ih.cons_cons (h.parent_of_mem hc)

theorem parent_mem_ancestors {i x p : NodeId} (hi : i < t.size) (hx : x ∈ t.lineage i)
    (hp : t.parent x = some p) : p ∈ t.ancestors i := by
  refine h.induct (P := fun i => x ∈ t.lineage i → p ∈ t.ancestors i) ?_ ?_ hi hx
  · intro hx
    rw [h.lineage_root, List.mem_singleton] at hx
    rw [hx, h.parent_root] at hp
    cases hp
  · intro q c hc ih hx
    rw [h.lineage_of_mem hc] at hx
    rw [h.ancestors_of_mem hc]
    rcases List.mem_cons.mp hx with rfl | hx
    · rw [h.parent_of_mem hc] at hp
      cases hp
      exact List.mem_cons_self
    · exact List.mem_cons_of_mem q (ih hx)

/-- A walk from any node starts as if the line down to it had been met. -/
theorem frontier_at {i : NodeId} (hi : i < t.size) : t.Frontier [i] (t.ancestors i) where
  nodup := h.nodup_lineage hi
  lt_size _ hx := h.lt_of_mem_lineage hi hx
  parent_seen _ hx _ hp := h.parent_mem_ancestors hi hx hp

/-- A walk from any node meets what is at or below it, as far as it goes below the nodes between. -/
theorem mem_visits_at {enter : NodeId → Bool} {n i : NodeId} (hn : n < t.size) :
    i ∈ t.visits enter n ↔ i < t.size ∧ n ∈ t.lineage i ∧
      ∀ a ∈ t.ancestors i, n ∈ t.lineage a → enter a = true := by
  have hf := h.frontier_at hn
  have hmet : t.Met enter [n] (t.visits enter n) :=
    h.met_visitsWithin enter hf (Nat.le_add_right t.size _)
  constructor
  · intro hi
    have hlt := ((h.nodup_visitsWithin enter t.size hf).2 i hi).1
    exact ⟨hlt, (hmet.mem_iff h hlt).mp hi⟩
  · intro hi
    exact (hmet.mem_iff h hi.1).mpr hi.2

end Rooted

/-! ## The recursion -/

section

variable {σ : Type} (visit : NodeId → σ → σ × Bool)

/-- Visits a node, and then its children from left to right if the visitor says so.  Each child has
a longer line above it. -/
def Rooted.fold (h : t.Rooted) (id : NodeId) (s : σ) : σ :=
  if (visit id s).2 then
    (t.children id).attach.foldl (fun s c => h.fold c.1 s) (visit id s).1
  else (visit id s).1
termination_by t.size - (t.ancestors id).length
decreasing_by
  have hlt := h.length_ancestors_lt (h.lt_of_mem c.2)
  rw [h.ancestors_of_mem c.2, List.length_cons] at hlt ⊢
  omega

theorem Rooted.fold_eq (h : t.Rooted) (id : NodeId) (s : σ) :
    h.fold visit id s =
      if (visit id s).2 then (t.children id).foldl (fun s c => h.fold visit c s) (visit id s).1
      else (visit id s).1 := by
  rw [fold, List.foldl_attach (f := fun s c => h.fold visit c s)]

/-! ## The walk -/

/-- A walk from the pending nodes with no bound on its steps, and the nodes handed to the visitor in
order. -/
inductive Walks (t : Tree) {σ : Type} (visit : NodeId → σ → σ × Bool) :
    List NodeId → σ → List NodeId → σ → Prop
  | done {s : σ} : Walks t visit [] s [] s
  | enter {id : NodeId} {pending met : List NodeId} {s s' s'' : σ}
      (hvisit : visit id s = (s', true))
      (hrest : Walks t visit (t.children id ++ pending) s' met s'') :
      Walks t visit (id :: pending) s (id :: met) s''
  | pass {id : NodeId} {pending met : List NodeId} {s s' s'' : σ}
      (hvisit : visit id s = (s', false))
      (hrest : Walks t visit pending s' met s'') : Walks t visit (id :: pending) s (id :: met) s''

/-- Run lemma: the bound of the walk is never met, since it meets a new node with each step. -/
theorem Rooted.walks_walkWithin (h : t.Rooted) {fuel : Nat} {pending seen : List NodeId}
    (hf : t.Frontier pending seen) (hfuel : t.size ≤ fuel + seen.length) (s : σ) :
    ∃ met, Walks t visit pending s met (t.walkWithin visit fuel pending s) := by
  induction fuel generalizing pending seen s with
  | zero =>
      have hlen := hf.length_le
      obtain rfl : pending = [] := List.eq_nil_of_length_eq_zero (by omega)
      exact ⟨[], .done⟩
  | succ fuel ih =>
      cases pending with
      | nil => exact ⟨[], .done⟩
      | cons id pending =>
          have hfuel' : t.size ≤ fuel + (id :: seen).length := by
            rw [List.length_cons]
            omega
          rw [walkWithin]
          cases hvisit : visit id s with
          | mk s' enter =>
              cases enter with
              | true =>
                  obtain ⟨met, hrest⟩ := ih (hf.enter h (List.Perm.refl _)) hfuel' s'
                  exact ⟨id :: met, .enter hvisit hrest⟩
              | false =>
                  obtain ⟨met, hrest⟩ := ih hf.pass hfuel' s'
                  exact ⟨id :: met, .pass hvisit hrest⟩

namespace Walks

variable {visit} {pending met seen : List NodeId} {s s' : σ}

/-- The pending nodes are dealt with one after the other, each with all that is below it. -/
theorem eq_foldl (hw : Walks t visit pending s met s') (h : t.Rooted) :
    s' = pending.foldl (fun s c => h.fold visit c s) s := by
  induction hw with
  | done => rfl
  | enter hvisit hrest ih =>
      rw [ih, List.foldl_append, List.foldl_cons, h.fold_eq visit, hvisit]
      rfl
  | pass hvisit hrest ih =>
      rw [ih, List.foldl_cons, h.fold_eq visit, hvisit]
      rfl

/-- No node is handed over twice, nor one that was met before. -/
theorem nodup (hw : Walks t visit pending s met s') (h : t.Rooted) (hf : t.Frontier pending seen) :
    met.Nodup ∧ ∀ i ∈ met, i < t.size ∧ i ∉ seen := by
  induction hw generalizing seen with
  | done => exact ⟨List.nodup_nil, fun i hi => by cases hi⟩
  | enter hvisit hrest ih => exact hf.nodup_cons (ih (hf.enter h (List.Perm.refl _)))
  | pass hvisit hrest ih => exact hf.nodup_cons (ih hf.pass)

/-- A visitor that always goes on is handed all that is below what it is handed. -/
theorem met_of_forall (hw : Walks t visit pending s met s')
    (hall : ∀ i s, (visit i s).2 = true) : t.Met (fun _ => true) pending met := by
  induction hw with
  | done => exact Met.nil t _
  | enter hvisit hrest ih => exact ih.goBelow rfl
  | @pass id pending met s s' s'' hvisit hrest ih =>
      have htrue := hall id s
      rw [hvisit] at htrue
      cases htrue

/-- If the visitor decides by the node alone, so does the way that the walk takes. -/
theorem met_eq (hw : Walks t visit pending s met s') {enter : NodeId → Bool}
    (henter : ∀ i s, (visit i s).2 = enter i) {fuel : Nat} (hfuel : met.length ≤ fuel) :
    met = t.visitsWithin enter fuel pending := by
  induction hw generalizing fuel with
  | done => cases fuel <;> rfl
  | @enter id pending met s s' s'' hvisit hrest ih =>
      have hid := henter id s
      rw [hvisit] at hid
      obtain ⟨fuel, rfl⟩ : ∃ n, fuel = n + 1 := Nat.exists_eq_add_one.mpr (Nat.zero_lt_of_lt hfuel)
      rw [visitsWithin, ← hid, if_pos rfl, ← ih (Nat.le_of_succ_le_succ hfuel)]
  | @pass id pending met s s' s'' hvisit hrest ih =>
      have hid := henter id s
      rw [hvisit] at hid
      obtain ⟨fuel, rfl⟩ : ∃ n, fuel = n + 1 := Nat.exists_eq_add_one.mpr (Nat.zero_lt_of_lt hfuel)
      rw [visitsWithin, ← hid, if_neg Bool.false_ne_true, ← ih (Nat.le_of_succ_le_succ hfuel)]

end Walks

theorem Rooted.walks_visits (h : t.Rooted) (enter : NodeId → Bool)
    (henter : ∀ i s, (visit i s).2 = enter i) (s : σ) :
    Walks t visit [root] s (t.visits enter root) (t.walk visit root s) := by
  have hf := Frontier.start h.toLinked
  obtain ⟨met, hw⟩ := h.walks_walkWithin visit hf (Nat.le_refl _) s
  obtain ⟨hnodup, hmet⟩ := hw.nodup h hf
  have hlength := length_le_size hnodup fun i hi => (hmet i hi).1
  rw [hw.met_eq henter hlength] at hw
  exact hw

end

/-- In a tree that passes the check, the line up from a node leads from node to parent, holds no
node twice and ends in the root, above which there is nothing.  A walk from the node comes to an
end, whatever its visitor; it leaves the state that the recursion leaves, and hands over nodes of
the tree only and none twice.  If the visitor always goes on, these are the node and all that is
below it. -/
theorem walk_complete {t : Tree} (hcheck : t.defect? = none) {n : NodeId} (hn : n < t.size) :
    ((n :: t.ancestors n).Nodup ∧ ((n :: t.ancestors n).IsChain fun c p => t.parent c = some p) ∧
      (n :: t.ancestors n).getLast? = some root ∧ t.parent root = none) ∧
    ∀ {σ : Type} (visit : NodeId → σ → σ × Bool) (s : σ),
      t.walk visit n s = (defect?_eq_none_iff.mp hcheck).toRooted.fold visit n s ∧
      ∃ met, Walks t visit [n] s met (t.walk visit n s) ∧ met.Nodup ∧ (∀ i ∈ met, i < t.size) ∧
        ((∀ i s, (visit i s).2 = true) → ∀ i, i < t.size → (i ∈ met ↔ n ∈ t.lineage i)) := by
  have h := (defect?_eq_none_iff.mp hcheck).toRooted
  refine ⟨⟨h.nodup_lineage hn, h.isChain_lineage hn, h.getLast?_lineage hn, h.parent_root⟩, ?_⟩
  intro σ visit s
  have hf := h.frontier_at hn
  obtain ⟨met, hw⟩ := h.walks_walkWithin visit hf (Nat.le_add_right t.size _) s
  obtain ⟨hnodup, hmet⟩ := hw.nodup h hf
  refine ⟨hw.eq_foldl h, met, hw, hnodup, fun i hi => (hmet i hi).1, fun hall i hi => ?_⟩
  rw [(hw.met_of_forall hall).mem_iff h hi]
  exact and_iff_left fun _ _ _ => rfl

/-- A file with a statement of one word, and a word behind it. -/
def forked : Tree :=
  { source := "R Q"
    nodes := #[
      { kind := .file .program, span := ⟨0, 3⟩, children := [1, 3] },
      { kind := .statement, span := ⟨0, 1⟩, parent := some 0, children := [2] },
      { kind := .symbol, span := ⟨0, 1⟩, parent := some 1 },
      { kind := .symbol, span := ⟨2, 3⟩, parent := some 0 }]
    declarations := #[] }

/-- Notes what it is handed, and goes below the first node only. -/
def shy (id : NodeId) (noted : List NodeId) : List NodeId × Bool := (noted ++ [id], noted.isEmpty)

/-- Notes what it is handed, and always goes on. -/
def bold (id : NodeId) (noted : List NodeId) : List NodeId × Bool := (noted ++ [id], true)

theorem walk_complete_forked :
    forked.defect? = none ∧ root < forked.size ∧ (2 :: forked.ancestors 2).getLast? = some root ∧
      forked.walk shy root [] = [0, 1, 3] ∧
      (∃ h : forked.Rooted, forked.walk shy root [] = h.fold shy root []) ∧
      (∀ i s, (bold i s).2 = true) ∧
      ∃ met, Walks forked bold [root] [] met (forked.walk bold root []) ∧
        (2 ∈ met ↔ root ∈ forked.lineage 2) := by
  have hcheck : forked.defect? = none := by decide
  have hroot : root < forked.size := by decide
  have hbold : ∀ i s, (bold i s).2 = true := fun _ _ => rfl
  obtain ⟨-, hwalk⟩ := walk_complete hcheck hroot
  obtain ⟨⟨-, -, hlast, -⟩, -⟩ := walk_complete hcheck (show 2 < forked.size by decide)
  obtain ⟨met, hmet, -, -, hall⟩ := (hwalk bold []).2
  exact ⟨hcheck, hroot, hlast, by decide, ⟨_, (hwalk shy []).1⟩, hbold, met, hmet,
    hall hbold 2 (by decide)⟩

end Tree
end NcInsight
