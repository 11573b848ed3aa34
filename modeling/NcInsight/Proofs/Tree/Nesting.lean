import Mathlib.Data.List.Sort
import NcInsight.Tree.Walk

/-
Trees whose array is in pre-order.

In such a tree a node stands behind its parent, and what lies below a node stands right behind
it without a gap.  `Nested` says so by the parents alone: no line from a node up to its
parent crosses another.  From it follow what the ancestors of a node are
(`mem_ancestors_iff`) and which nodes a walk meets (`visits_eq`): the walk meets, in the
order of the array, the nodes that have no closed node above them.
-/
namespace NcInsight
namespace Tree

/-- The parent of a node; the root is above itself. -/
def above (t : Tree) (id : Nat) : Nat := (t.parent id).getD 0

/-- Node `b` lies below node `a`: no node from `a` to `b` hangs from one before `a`. -/
def Encloses (t : Tree) (a b : Nat) : Prop :=
  a < b ∧ ∀ k, a < k → k ≤ b → a ≤ t.above k

theorem Encloses.trans {t : Tree} {a b c : Nat} (hab : t.Encloses a b) (hbc : t.Encloses b c) :
    t.Encloses a c := by
  refine ⟨Nat.lt_trans hab.1 hbc.1, fun k hk hkc => ?_⟩
  rcases Nat.lt_or_ge b k with hlt | hge
  · exact Nat.le_trans (Nat.le_of_lt hab.1) (hbc.2 k hlt hkc)
  · exact hab.2 k hk hge

structure Nested (t : Tree) : Prop where
  size_pos : 0 < t.size
  parent_root : t.parent 0 = none
  parent_eq : ∀ {i : Nat}, 0 < i → i < t.size → t.parent i = some (t.above i)
  above_lt : ∀ {i : Nat}, 0 < i → i < t.size → t.above i < i
  /-- The lines up to the parents do not cross. -/
  above_le : ∀ {j k : Nat}, j < k → k < t.size → t.above k < j → t.above k ≤ t.above j
  children_eq : ∀ {i : Nat}, i < t.size →
    t.children i = (List.range t.size).filter fun c => t.parent c == some i

theorem node_of_size_le {t : Tree} {i : Nat} (h : t.size ≤ i) : t.node i = Node.blank := by
  simp only [node, Array.getD_eq_getD_getElem?]
  rw [Array.getElem?_eq_none h]
  rfl

theorem children_of_size_le {t : Tree} {i : Nat} (h : t.size ≤ i) : t.children i = [] := by
  rw [children, node_of_size_le h]
  rfl

theorem lt_size_of_mem_children {t : Tree} {i c : Nat} (h : c ∈ t.children i) :
    i < t.size := by
  by_contra hi
  rw [children_of_size_le (by omega)] at h
  simp at h

theorem mem_children_of_childByField {t : Tree} {i c : NodeId} {f : Field}
    (h : t.childByField i f = some c) : c ∈ t.children i :=
  List.mem_of_find?_eq_some h

theorem mem_children_of_childOrFirst {t : Tree} {i c : NodeId} {f : Field}
    (h : t.childOrFirst i f = some c) : c ∈ t.children i := by
  rcases Option.or_eq_some_iff.mp h with hfield | ⟨-, hfirst⟩
  · exact mem_children_of_childByField hfield
  · exact List.mem_of_getElem? hfirst

theorem lt_size_of_isReference {t : Tree} {i : Nat} (h : t.isReference i = true) : i < t.size := by
  rcases Nat.lt_or_ge i t.size with hlt | hge
  · exact hlt
  · rw [isReference, kind, node_of_size_le hge] at h
    simp [Node.blank] at h

namespace Nested

variable {t : Tree}

theorem mem_children (h : t.Nested) {i c : Nat} :
    c ∈ t.children i ↔ 0 < c ∧ c < t.size ∧ t.above c = i := by
  constructor
  · intro hc
    rw [h.children_eq (lt_size_of_mem_children hc), List.mem_filter, List.mem_range] at hc
    have hp : t.parent c = some i := by simpa using hc.2
    have hpos : 0 < c := by
      rcases Nat.eq_zero_or_pos c with rfl | hpos
      · rw [h.parent_root] at hp
        cases hp
      · exact hpos
    exact ⟨hpos, hc.1, by rw [above, hp, Option.getD_some]⟩
  · rintro ⟨hpos, hlt, rfl⟩
    have hup := h.above_lt hpos hlt
    rw [h.children_eq (by omega), List.mem_filter, List.mem_range]
    exact ⟨hlt, by simp [h.parent_eq hpos hlt]⟩

theorem pairwise_children (h : t.Nested) (i : Nat) : (t.children i).Pairwise (· < ·) := by
  rcases Nat.lt_or_ge i t.size with hi | hi
  · rw [h.children_eq hi]
    exact List.pairwise_lt_range.filter _
  · rw [children_of_size_le hi]
    exact List.Pairwise.nil

/-! ## Ancestors -/

theorem ancestorsWithin_root (h : t.Nested) (fuel : Nat) :
    t.ancestorsWithin fuel 0 = [] := by
  cases fuel with
  | zero => rfl
  | succ fuel => rw [ancestorsWithin, h.parent_root]

theorem ancestorsWithin_eq (h : t.Nested) {i : Nat} (hi : i < t.size) {m n : Nat}
    (hm : i ≤ m) (hn : i ≤ n) : t.ancestorsWithin m i = t.ancestorsWithin n i := by
  induction i using Nat.strongRecOn generalizing m n with
  | ind i ih =>
      rcases Nat.eq_zero_or_pos i with rfl | hpos
      · rw [h.ancestorsWithin_root m, h.ancestorsWithin_root n]
      · have hup := h.above_lt hpos hi
        obtain ⟨m, rfl⟩ : ∃ k, m = k + 1 := ⟨m - 1, by omega⟩
        obtain ⟨n, rfl⟩ : ∃ k, n = k + 1 := ⟨n - 1, by omega⟩
        rw [ancestorsWithin, ancestorsWithin, h.parent_eq hpos hi]
        have hrec := ih (t.above i) hup (Nat.lt_trans hup hi)
          (show t.above i ≤ m by omega) (show t.above i ≤ n by omega)
        simp only [hrec]

theorem ancestors_root (h : t.Nested) : t.ancestors 0 = [] := h.ancestorsWithin_root t.size

theorem ancestors_eq (h : t.Nested) {i : Nat} (hpos : 0 < i) (hi : i < t.size) :
    t.ancestors i = t.above i :: t.ancestors (t.above i) := by
  have hup := h.above_lt hpos hi
  obtain ⟨n, hn⟩ : ∃ n, t.size = n + 1 := ⟨t.size - 1, by omega⟩
  have hrec := h.ancestorsWithin_eq (Nat.lt_trans hup hi)
    (show t.above i ≤ n by omega) (show t.above i ≤ n + 1 by omega)
  rw [ancestors, ancestors, hn, ancestorsWithin, h.parent_eq hpos hi]
  simp only [hrec]

/-- What lies below the parent's place stays below the parent. -/
theorem encloses_above (h : t.Nested) {i : Nat} (hpos : 0 < i) (hi : i < t.size) :
    t.Encloses (t.above i) i := by
  refine ⟨h.above_lt hpos hi, fun k hk hki => ?_⟩
  rcases Nat.lt_or_ge k i with hlt | hge
  · exact h.above_le hlt hi hk
  · rw [Nat.le_antisymm hki hge]

/-- The ancestors of a node are the nodes that it lies below. -/
theorem mem_ancestors_iff (h : t.Nested) {a b : Nat} (hb : b < t.size) :
    a ∈ t.ancestors b ↔ t.Encloses a b := by
  induction b using Nat.strongRecOn with
  | ind b ih =>
      rcases Nat.eq_zero_or_pos b with rfl | hpos
      · rw [h.ancestors_root]
        constructor
        · intro hmem
          simp at hmem
        · intro henc
          exact absurd henc.1 (Nat.not_lt_zero a)
      · have hup := h.above_lt hpos hb
        rw [h.ancestors_eq hpos hb, List.mem_cons, ih (t.above b) hup (by omega)]
        constructor
        · rintro (rfl | henc)
          · exact h.encloses_above hpos hb
          · exact henc.trans (h.encloses_above hpos hb)
        · intro henc
          have hle : a ≤ t.above b := henc.2 b henc.1 (Nat.le_refl b)
          rcases Nat.lt_or_eq_of_le hle with hlt | heq
          · exact .inr ⟨hlt, fun k hk hkb => henc.2 k hk (by omega)⟩
          · exact .inl heq

/-! ## Walks -/

/-- The nodes a walk has still to visit when it has passed all nodes before `i`: what hangs
from the nodes it has entered. -/
def pendingAt (t : Tree) (enter : Nat → Bool) (i : Nat) : List Nat :=
  (List.range t.size).filter fun j =>
    i ≤ j && (t.parent j).all (· < i) && (t.ancestors j).all enter

theorem mem_pendingAt {enter : Nat → Bool} {i j : Nat} :
    j ∈ pendingAt t enter i ↔
      j < t.size ∧ i ≤ j ∧ (t.parent j).all (· < i) = true ∧ (t.ancestors j).all enter = true := by
  rw [pendingAt, List.mem_filter, List.mem_range]
  simp only [Bool.and_eq_true, decide_eq_true_eq, and_assoc]

theorem pairwise_pendingAt (enter : Nat → Bool) (i : Nat) :
    (pendingAt t enter i).Pairwise (· < ·) := List.pairwise_lt_range.filter _

theorem all_ancestors_iff (h : t.Nested) {enter : Nat → Bool} {i : Nat} (hpos : 0 < i)
    (hi : i < t.size) : (t.ancestors i).all enter = true ↔
      enter (t.above i) = true ∧ (t.ancestors (t.above i)).all enter = true := by
  rw [h.ancestors_eq hpos hi, List.all_cons, Bool.and_eq_true]

theorem parent_all_lt_iff (h : t.Nested) {i j : Nat} (hpos : 0 < j) (hj : j < t.size) :
    (t.parent j).all (· < i) = true ↔ t.above j < i := by
  rw [h.parent_eq hpos hj, Option.all_some, decide_eq_true_eq]

/-- A node that the walk does not reach changes nothing. -/
theorem pendingAt_of_not_reached (h : t.Nested) {enter : Nat → Bool} {i : Nat}
    (hr : (t.ancestors i).all enter = false) :
    pendingAt t enter i = pendingAt t enter (i + 1) := by
  refine List.Pairwise.eq_of_mem_iff (pairwise_pendingAt enter i)
    (pairwise_pendingAt enter (i + 1)) fun j => ?_
  rw [mem_pendingAt, mem_pendingAt]
  constructor
  · rintro ⟨hj, hij, hp, hall⟩
    have hne : i ≠ j := by
      rintro rfl
      rw [hall] at hr
      cases hr
    have hpos : 0 < j := by omega
    have hup := (h.parent_all_lt_iff hpos hj).mp hp
    exact ⟨hj, by omega, (h.parent_all_lt_iff hpos hj).mpr (by omega), hall⟩
  · rintro ⟨hj, hij, hp, hall⟩
    have hpos : 0 < j := by omega
    have hup := (h.parent_all_lt_iff hpos hj).mp hp
    have hne : t.above j ≠ i := by
      intro e
      have := ((h.all_ancestors_iff hpos hj).mp hall).2
      rw [e, hr] at this
      cases this
    exact ⟨hj, by omega, (h.parent_all_lt_iff hpos hj).mpr (by omega), hall⟩

/-- A node that the walk reaches is the next one, and its children are put in front. -/
theorem pendingAt_of_reached (h : t.Nested) {enter : Nat → Bool} {i : Nat} (hi : i < t.size)
    (hr : (t.ancestors i).all enter = true) :
    ∃ rest, pendingAt t enter i = i :: rest ∧
      pendingAt t enter (i + 1) = if enter i then t.children i ++ rest else rest := by
  let rest := (List.range t.size).filter fun j =>
    i < j && decide (t.above j < i) && (t.ancestors j).all enter
  have hsorted : rest.Pairwise (· < ·) := List.pairwise_lt_range.filter _
  have hmem : ∀ j, j ∈ rest ↔
      j < t.size ∧ i < j ∧ t.above j < i ∧ (t.ancestors j).all enter = true := by
    intro j
    rw [List.mem_filter, List.mem_range]
    simp only [Bool.and_eq_true, decide_eq_true_eq, and_assoc]
  refine ⟨rest, ?_, ?_⟩
  · refine List.Pairwise.eq_of_mem_iff (pairwise_pendingAt enter i)
      (List.pairwise_cons.mpr ⟨fun j hj => ((hmem j).mp hj).2.1, hsorted⟩) fun j => ?_
    rw [mem_pendingAt, List.mem_cons, hmem]
    constructor
    · rintro ⟨hj, hij, hp, hall⟩
      rcases Nat.eq_or_lt_of_le hij with rfl | hlt
      · exact .inl rfl
      · exact .inr ⟨hj, hlt, (h.parent_all_lt_iff (by omega) hj).mp hp, hall⟩
    · rintro (rfl | ⟨hj, hij, hp, hall⟩)
      · refine ⟨hi, Nat.le_refl j, ?_, hr⟩
        rcases Nat.eq_zero_or_pos j with rfl | hpos
        · rw [h.parent_root, Option.all_none]
        · exact (h.parent_all_lt_iff hpos hi).mpr (h.above_lt hpos hi)
      · exact ⟨hj, by omega, (h.parent_all_lt_iff (by omega) hj).mpr hp, hall⟩
  · -- behind `i` come its children, if it is entered, and then what was already waiting
    have hnew : ∀ j, j ∈ pendingAt t enter (i + 1) ↔
        (j ∈ t.children i ∧ enter i = true) ∨ j ∈ rest := by
      intro j
      rw [mem_pendingAt, h.mem_children, hmem]
      constructor
      · rintro ⟨hj, hij, hp, hall⟩
        have hpos : 0 < j := by omega
        have hup := (h.parent_all_lt_iff hpos hj).mp hp
        rcases Nat.lt_or_eq_of_le (Nat.le_of_lt_succ hup) with hlt | heq
        · exact .inr ⟨hj, by omega, hlt, hall⟩
        · refine .inl ⟨⟨hpos, hj, heq⟩, ?_⟩
          rw [← heq]
          exact ((h.all_ancestors_iff hpos hj).mp hall).1
      · rintro (⟨⟨hpos, hj, rfl⟩, he⟩ | ⟨hj, hij, hp, hall⟩)
        · have hlt := h.above_lt hpos hj
          exact ⟨hj, hlt, (h.parent_all_lt_iff hpos hj).mpr (Nat.lt_succ_self _),
            (h.all_ancestors_iff hpos hj).mpr ⟨he, hr⟩⟩
        · exact ⟨hj, hij, (h.parent_all_lt_iff (by omega) hj).mpr (by omega), hall⟩
    have hcross : ∀ c ∈ t.children i, ∀ j ∈ rest, c < j := by
      intro c hc j hj
      obtain ⟨-, hcs, hca⟩ := h.mem_children.mp hc
      obtain ⟨hjs, hij, hja, -⟩ := (hmem j).mp hj
      rcases Nat.lt_or_ge c j with hlt | hge
      · exact hlt
      · have hne : j ≠ c := by rintro rfl; omega
        have := h.above_le (show j < c by omega) hcs (by omega)
        omega
    cases he : enter i with
    | true =>
        refine List.Pairwise.eq_of_mem_iff (pairwise_pendingAt enter (i + 1))
          (List.pairwise_append.mpr ⟨h.pairwise_children i, hsorted, hcross⟩) fun j => ?_
        rw [hnew, he, if_pos rfl, List.mem_append]
        simp
    | false =>
        refine List.Pairwise.eq_of_mem_iff (pairwise_pendingAt enter (i + 1)) hsorted fun j => ?_
        rw [hnew, he]
        simp

/-- The nodes from `i` on that a walk meets. -/
def reachedFrom (t : Tree) (enter : Nat → Bool) (i : Nat) : List Nat :=
  (List.range t.size).filter fun j => i ≤ j && (t.ancestors j).all enter

theorem reachedFrom_succ (t : Tree) (enter : Nat → Bool) {i : Nat} (hi : i < t.size) :
    reachedFrom t enter i =
      if (t.ancestors i).all enter then i :: reachedFrom t enter (i + 1)
      else reachedFrom t enter (i + 1) := by
  have hmem : ∀ k j, j ∈ reachedFrom t enter k ↔
      j < t.size ∧ k ≤ j ∧ (t.ancestors j).all enter = true := by
    intro k j
    rw [reachedFrom, List.mem_filter, List.mem_range]
    simp only [Bool.and_eq_true, decide_eq_true_eq]
  have hsorted : ∀ k, (reachedFrom t enter k).Pairwise (· < ·) :=
    fun k => List.pairwise_lt_range.filter _
  split
  · rename_i hr
    refine List.Pairwise.eq_of_mem_iff (hsorted i) (List.pairwise_cons.mpr
      ⟨fun j hj => ((hmem (i + 1) j).mp hj).2.1, hsorted (i + 1)⟩) fun j => ?_
    rw [hmem, List.mem_cons, hmem]
    constructor
    · rintro ⟨hj, hij, hall⟩
      rcases Nat.eq_or_lt_of_le hij with rfl | hlt
      · exact .inl rfl
      · exact .inr ⟨hj, hlt, hall⟩
    · rintro (rfl | ⟨hj, hij, hall⟩)
      · exact ⟨hi, Nat.le_refl j, hr⟩
      · exact ⟨hj, by omega, hall⟩
  · rename_i hr
    refine List.Pairwise.eq_of_mem_iff (hsorted i) (hsorted (i + 1)) fun j => ?_
    rw [hmem, hmem]
    constructor
    · rintro ⟨hj, hij, hall⟩
      have hne : i ≠ j := by rintro rfl; exact hr hall
      exact ⟨hj, by omega, hall⟩
    · rintro ⟨hj, hij, hall⟩
      exact ⟨hj, by omega, hall⟩

/-- Run lemma of a walk: from node `i` on it meets what its ancestors let it reach. -/
theorem visitsWithin_pendingAt (h : t.Nested) (enter : Nat → Bool) {rest fuel i : Nat}
    (hi : rest + i = t.size) (hf : rest ≤ fuel) :
    t.visitsWithin enter fuel (pendingAt t enter i) = reachedFrom t enter i := by
  induction rest generalizing fuel i with
  | zero =>
      have hnone : pendingAt t enter i = [] := by
        rw [List.eq_nil_iff_forall_not_mem]
        intro j hj
        obtain ⟨hj, hij, -⟩ := mem_pendingAt.mp hj
        omega
      have hdone : reachedFrom t enter i = [] := by
        rw [reachedFrom, List.filter_eq_nil_iff]
        intro j hj
        rw [List.mem_range] at hj
        simp only [Bool.and_eq_true, decide_eq_true_eq, not_and]
        omega
      rw [hnone, hdone]
      cases fuel <;> rfl
  | succ rest ih =>
      have hlt : i < t.size := by omega
      rw [reachedFrom_succ t enter hlt]
      cases hr : (t.ancestors i).all enter with
      | false =>
          rw [h.pendingAt_of_not_reached hr, ih (by omega) (by omega)]
          rfl
      | true =>
          obtain ⟨later, hnow, hnext⟩ := h.pendingAt_of_reached hlt hr
          obtain ⟨fuel, rfl⟩ : ∃ k, fuel = k + 1 := ⟨fuel - 1, by omega⟩
          rw [hnow, visitsWithin, ← hnext, ih (by omega) (by omega)]
          rfl

theorem pendingAt_zero (h : t.Nested) (enter : Nat → Bool) : pendingAt t enter 0 = [root] := by
  refine List.Pairwise.eq_of_mem_iff (pairwise_pendingAt enter 0)
    (List.pairwise_singleton _ root) fun j => ?_
  rw [mem_pendingAt, List.mem_singleton]
  constructor
  · rintro ⟨hj, -, hp, -⟩
    rcases Nat.eq_zero_or_pos j with rfl | hpos
    · rfl
    · exact absurd ((h.parent_all_lt_iff hpos hj).mp hp) (Nat.not_lt_zero _)
  · rintro rfl
    refine ⟨h.size_pos, Nat.le_refl 0, ?_, ?_⟩
    · rw [root, h.parent_root, Option.all_none]
    · rw [root, h.ancestors_root, List.all_nil]

/-- A walk from the root meets, in the order of the array, the nodes all of whose ancestors
are entered.  As many steps as there are nodes are enough for it. -/
theorem visitsWithin_root (h : t.Nested) (enter : Nat → Bool) {fuel : Nat}
    (hfuel : t.size ≤ fuel) : t.visitsWithin enter fuel [root] =
      (List.range t.size).filter fun i => (t.ancestors i).all enter := by
  have hrun := h.visitsWithin_pendingAt enter (show t.size + 0 = t.size from rfl) hfuel
  rw [h.pendingAt_zero] at hrun
  rw [hrun, reachedFrom]
  simp

theorem visits_eq (h : t.Nested) (enter : Nat → Bool) :
    t.visits enter root = (List.range t.size).filter fun i => (t.ancestors i).all enter :=
  h.visitsWithin_root enter (Nat.le_refl _)

/-- A visitor that enters every node is handed the whole array in order. -/
theorem walkWithin_root {σ : Type} (h : t.Nested) (f : σ → NodeId → σ) (s : σ) {fuel : Nat}
    (hfuel : t.size ≤ fuel) : t.walkWithin (fun id s => (f s id, true)) fuel [root] s =
      (List.range t.size).foldl f s := by
  have hmet : t.visitsWithin (fun _ => true) fuel [root] = List.range t.size := by
    rw [h.visitsWithin_root _ hfuel]
    simp
  rw [walkWithin_eq_foldl t (fun _ => true) f, hmet]

end Nested
end Tree
end NcInsight
