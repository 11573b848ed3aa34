import Mathlib.Data.List.Find
import NcInsight.Proofs.Tree.Walking

/-
Trees that have grown.

Nodes are put in between the children of a tree, and the nodes that were there get other numbers.
They keep their kinds, their roles and their order, so the line up from such a node is the old one
(`Grows.lineage_eq`), and no two of them become one (`Grows.injective`).  Whatever is below a new
node is new, and a walk of the grown tree meets the old nodes as a walk of the tree did
(`Grows.filter_visits`).
-/
namespace NcInsight
namespace Tree

/-- Whether a node is a node of `t` at its new number. -/
def isOld (t : Tree) (φ : NodeId → NodeId) (j : NodeId) : Bool :=
  (List.range t.size).any fun i => φ i == j

/-- Tree `u` is tree `t` with nodes put in.  Node `i` of `t` becomes `φ i`. -/
structure Grows (t u : Tree) (φ : NodeId → NodeId) : Prop where
  root : φ Tree.root = Tree.root
  kind : ∀ i < t.size, u.kind (φ i) = t.kind i
  field : ∀ i < t.size, u.field (φ i) = t.field i
  children : ∀ i < t.size, (u.children (φ i)).filter (t.isOld φ) = (t.children i).map φ

instance (t u : Tree) (φ : NodeId → NodeId) : Decidable (t.Grows u φ) :=
  decidable_of_iff (φ Tree.root = Tree.root ∧ (∀ i < t.size, u.kind (φ i) = t.kind i) ∧
      (∀ i < t.size, u.field (φ i) = t.field i) ∧
      ∀ i < t.size, (u.children (φ i)).filter (t.isOld φ) = (t.children i).map φ)
    ⟨fun h => ⟨h.1, h.2.1, h.2.2.1, h.2.2.2⟩, fun h => ⟨h.root, h.kind, h.field, h.children⟩⟩

variable {t u : Tree} {φ : NodeId → NodeId}

theorem isOld_iff {j : NodeId} : t.isOld φ j = true ↔ ∃ i < t.size, φ i = j := by
  simp [isOld]

theorem isOld_map {i : NodeId} (hi : i < t.size) : t.isOld φ (φ i) = true :=
  isOld_iff.mpr ⟨i, hi, rfl⟩

/-- Every node but the root is a child. -/
theorem Rooted.eq_root_or_mem (h : t.Rooted) {i : NodeId} (hi : i < t.size) :
    i = Tree.root ∨ ∃ p, i ∈ t.children p := by
  by_cases hroot : i = Tree.root
  · exact .inl hroot
  · obtain ⟨p, -, -, hc⟩ := h.listed hi hroot
    exact .inr ⟨p, hc⟩

namespace Grows

variable (h : t.Grows u φ)
include h

theorem mem_children {p c : NodeId} (hc : c ∈ t.children p) : φ c ∈ u.children (φ p) := by
  have hmem : φ c ∈ (t.children p).map φ := List.mem_map_of_mem hc
  rw [← h.children p (lt_size_of_mem_children hc)] at hmem
  exact List.mem_of_mem_filter hmem

/-- A child is found among the old ones if no new one is looked for. -/
theorem find?_children {i : NodeId} (hi : i < t.size) {p q : NodeId → Bool}
    (hold : ∀ c ∈ t.children i, p (φ c) = q c)
    (hnew : ∀ c ∈ u.children (φ i), t.isOld φ c = false → p c = false) :
    (u.children (φ i)).find? p = ((t.children i).find? q).map φ := by
  have hskip : (u.children (φ i)).find? p =
      ((u.children (φ i)).filter (t.isOld φ)).find? p := by
    rw [List.find?_filter]
    refine List.find?_congr fun c hc => ?_
    cases hc' : t.isOld φ c with
    | true => simp
    | false => simp [hnew c hc hc']
  rw [hskip, h.children i hi, List.find?_map]
  exact congrArg (Option.map φ) (List.find?_congr hold)

theorem childByField_eq (ht : t.Rooted) {i : NodeId} (hi : i < t.size) {f : Field}
    (hnew : ∀ c ∈ u.children (φ i), t.isOld φ c = false → u.field c ≠ some f) :
    u.childByField (φ i) f = (t.childByField i f).map φ := by
  refine h.find?_children hi (fun c hc => ?_) fun c hc hold => ?_
  · rw [h.field c (ht.lt_of_mem hc)]
  · simpa using hnew c hc hold

theorem childByKind_eq (ht : t.Rooted) {i : NodeId} (hi : i < t.size) {k : Kind}
    (hnew : ∀ c ∈ u.children (φ i), t.isOld φ c = false → u.kind c ≠ k) :
    u.childByKind (φ i) k = (t.childByKind i k).map φ := by
  refine h.find?_children hi (fun c hc => ?_) fun c hc hold => ?_
  · rw [h.kind c (ht.lt_of_mem hc)]
  · simpa using hnew c hc hold

theorem isOld_root (ht : t.Rooted) : t.isOld φ Tree.root = true :=
  isOld_iff.mpr ⟨Tree.root, ht.size_pos, h.root⟩

variable (ht : t.Rooted) (hu : u.Rooted)
include ht hu

/-! ## Up -/

theorem parentKind_eq {i : NodeId} (hi : i < t.size) : u.parentKind (φ i) = t.parentKind i := by
  rcases ht.eq_root_or_mem hi with rfl | ⟨p, hc⟩
  · rw [parentKind, parentKind, h.root, hu.parent_root, ht.parent_root]
    rfl
  · rw [parentKind, parentKind, hu.parent_of_mem (h.mem_children hc), ht.parent_of_mem hc,
      Option.map_some, Option.map_some, h.kind p (lt_size_of_mem_children hc)]

theorem lineage_eq {i : NodeId} (hi : i < t.size) : u.lineage (φ i) = (t.lineage i).map φ := by
  refine ht.induct (P := fun i => u.lineage (φ i) = (t.lineage i).map φ) ?_ ?_ hi
  · rw [h.root, hu.lineage_root, ht.lineage_root, List.map_singleton, h.root]
  · intro p c hc ih
    rw [hu.lineage_of_mem (h.mem_children hc), ht.lineage_of_mem hc, List.map_cons, ih]

theorem injective {i j : NodeId} (hi : i < t.size) (hj : j < t.size) (hij : φ i = φ j) :
    i = j := by
  refine ht.induct (P := fun i => ∀ j < t.size, φ i = φ j → i = j) ?_ ?_ hi j hj hij
  · intro j hj hij
    rcases ht.eq_root_or_mem hj with rfl | ⟨q, hq⟩
    · rfl
    · rw [h.root] at hij
      exact absurd (hij ▸ h.mem_children hq) (hu.root_not_mem (φ q))
  · intro p c hc ih j hj hij
    rcases ht.eq_root_or_mem hj with rfl | ⟨q, hq⟩
    · rw [h.root] at hij
      exact absurd (hij ▸ h.mem_children hc) (hu.root_not_mem (φ p))
    · -- the parents become one, so they are one, and it has no child twice
      have hparent := hu.parent_of_mem (h.mem_children hc)
      rw [hij, hu.parent_of_mem (h.mem_children hq)] at hparent
      obtain rfl := ih q (lt_size_of_mem_children hq) (Option.some.inj hparent).symm
      have hnodup := (hu.nodup_children (φ p)).filter (t.isOld φ)
      rw [h.children p (lt_size_of_mem_children hc)] at hnodup
      exact List.inj_on_of_nodup_map hnodup hc hq hij

theorem enclosing_eq {i : NodeId} (hi : i < t.size) (k : Kind) :
    u.enclosing k (φ i) = (t.enclosing k i).map φ := by
  rw [enclosing, enclosing, findAncestor, findAncestor, h.lineage_eq ht hu hi, List.find?_map]
  refine congrArg (Option.map φ) (List.find?_congr fun a ha => ?_)
  rw [Function.comp_apply, h.kind a (ht.lt_of_mem_lineage hi ha)]

/-! ## Down -/

/-- What is below a new node is new. -/
theorem isOld_child {j c : NodeId} (hj : t.isOld φ j = false)
    (hc : c ∈ u.children j) : t.isOld φ c = false := by
  rw [Bool.eq_false_iff]
  intro hold
  obtain ⟨i, hi, rfl⟩ := isOld_iff.mp hold
  rcases ht.eq_root_or_mem hi with rfl | ⟨p, hp⟩
  · exact hu.root_not_mem j (h.root ▸ hc)
  · have hparent := hu.parent_of_mem hc
    rw [hu.parent_of_mem (h.mem_children hp)] at hparent
    rw [← Option.some.inj hparent, isOld_map (lt_size_of_mem_children hp)] at hj
    cases hj

/-- Run lemma of the two walks: at an old node both take a step, at a new one only the second
does. -/
theorem filter_visitsWithin {enter enter' : NodeId → Bool}
    (henter : ∀ i < t.size, enter' (φ i) = enter i) {fuel bound : Nat}
    {pending seen pending' seen' : List NodeId} (hf : t.Frontier pending seen)
    (hf' : u.Frontier pending' seen') (hbound : t.size ≤ bound + seen.length)
    (hfuel : u.size ≤ fuel + seen'.length)
    (hpending : pending'.filter (t.isOld φ) = pending.map φ) :
    (u.visitsWithin enter' fuel pending').filter (t.isOld φ) =
      (t.visitsWithin enter bound pending).map φ := by
  induction fuel generalizing bound pending seen pending' seen' with
  | zero =>
      have hlen := hf'.length_le
      obtain rfl : pending' = [] := List.eq_nil_of_length_eq_zero (by omega)
      obtain rfl : pending = [] := List.map_eq_nil_iff.mp hpending.symm
      cases bound <;> rfl
  | succ fuel ih =>
      cases pending' with
      | nil =>
          obtain rfl : pending = [] := List.map_eq_nil_iff.mp hpending.symm
          cases bound <;> rfl
      | cons j pending' =>
          have hfuel' : u.size ≤ fuel + (j :: seen').length := by
            rw [List.length_cons]
            omega
          rw [visitsWithin]
          cases hold : t.isOld φ j with
          | false =>
              rw [List.filter_cons_of_neg (by simp [hold])] at hpending
              rw [List.filter_cons_of_neg (by simp [hold])]
              cases enter' j with
              | false => exact ih hf hf'.pass hbound hfuel' hpending
              | true =>
                  refine ih hf (hf'.enter hu (List.Perm.refl _)) hbound hfuel' ?_
                  have hnone : (u.children j).filter (t.isOld φ) = [] :=
                    List.filter_eq_nil_iff.mpr fun c hc => by
                      simp [h.isOld_child ht hu hold hc]
                  rw [if_pos rfl, List.filter_append, hnone, List.nil_append, hpending]
          | true =>
              rw [List.filter_cons_of_pos hold] at hpending
              obtain ⟨i, rest, rfl, rfl, hrest⟩ := List.map_eq_cons_iff.mp hpending.symm
              have hi := hf.lt_size i List.mem_cons_self
              have hlen := hf.length_le
              obtain ⟨bound, rfl⟩ : ∃ b, bound = b + 1 := by
                rw [List.length_cons] at hlen
                exact ⟨bound - 1, by omega⟩
              have hbound' : t.size ≤ bound + (i :: seen).length := by
                rw [List.length_cons]
                omega
              rw [List.filter_cons_of_pos hold, visitsWithin, List.map_cons, henter i hi]
              congr 1
              cases enter i with
              | false => exact ih hf.pass hf'.pass hbound' hfuel' hrest.symm
              | true =>
                  refine ih (hf.enter ht (List.Perm.refl _)) (hf'.enter hu (List.Perm.refl _))
                    hbound' hfuel' ?_
                  rw [if_pos rfl, if_pos rfl, List.filter_append, List.map_append, h.children i hi, hrest]

theorem filter_visits {enter enter' : NodeId → Bool}
    (henter : ∀ i < t.size, enter' (φ i) = enter i) :
    (u.visits enter' Tree.root).filter (t.isOld φ) = (t.visits enter Tree.root).map φ := by
  refine h.filter_visitsWithin ht hu henter (Frontier.start ht.toLinked)
    (Frontier.start hu.toLinked) (Nat.le_refl _) (Nat.le_refl _) ?_
  rw [List.filter_cons_of_pos (h.isOld_root ht), List.map_singleton, h.root]
  rfl

end Grows
end Tree
end NcInsight
