import NcInsight.Proofs.Tree.Validity
import NcInsight.Tree.Walk

/-
Moving through a tree that has one way to each node.

Such a way repeats no node, so the bound on the way up is never met: the ancestors of a child are
its parent and the ancestors of that (`Rooted.ancestors_of_mem`), and no node lies above itself
(`Rooted.nodup_lineage`).  A walk down meets a node exactly if it goes below each node on the line
from its start (`Met.mem_iff`), and then once (`Rooted.nodup_visits`), so from the root it meets the
outermost of the nodes that it does not go below (`Rooted.stops_or_enters`).  A walk that enters
less meets fewer nodes in the same order (`Rooted.visits_narrow`).
-/
namespace NcInsight
namespace Tree

variable {t : Tree}

theorem lt_size_of_kind {i : NodeId} (h : t.kind i ≠ .other) : i < t.size := by
  by_contra hi
  apply h
  rw [kind, node_of_size_le (Nat.le_of_not_lt hi)]
  rfl

theorem spec_of_enclosing {k : Kind} {i f : NodeId} (hf : t.enclosing k i = some f) :
    t.kind f = k ∧ f ∈ t.lineage i := by
  rw [enclosing, findAncestor] at hf
  exact ⟨by simpa using List.find?_some hf, List.mem_of_find?_eq_some hf⟩

namespace Rooted

variable (h : t.Rooted)
include h

/-! ## Up -/

/-- The nodes on a way, each reached by a first part of it and so by no other. -/
theorem exists_nodes {ks : List Nat} {i : NodeId} (hks : t.follow root ks = some i) :
    ∃ l : List NodeId, l.Nodup ∧ l.length = ks.length + 1 ∧
      ∀ x ∈ l, ∃ ls, ls.length ≤ ks.length ∧ t.follow root ls = some x := by
  induction ks using List.reverseRecOn generalizing i with
  | nil =>
      refine ⟨[i], List.nodup_singleton i, rfl, fun x hx => ⟨[], Nat.le_refl _, ?_⟩⟩
      rw [List.mem_singleton.mp hx]
      exact hks
  | append_singleton ks k ih =>
      obtain ⟨j, hj, hk⟩ := follow_concat_eq_some.mp hks
      obtain ⟨l, hnodup, hlen, hways⟩ := ih hj
      have hi := h.lt_of_mem (mem_children_of_child hk)
      rw [List.length_append, List.length_singleton]
      refine ⟨i :: l, List.nodup_cons.mpr ⟨fun hmem => ?_, hnodup⟩, by rw [List.length_cons, hlen],
        fun x hx => ?_⟩
      · obtain ⟨ls, hls, hfollow⟩ := hways i hmem
        rw [(h.way hi).unique hfollow hks, List.length_append, List.length_singleton] at hls
        omega
      · rcases List.mem_cons.mp hx with rfl | hx
        · exact ⟨ks ++ [k], by simp, hks⟩
        · obtain ⟨ls, hls, hfollow⟩ := hways x hx
          exact ⟨ls, Nat.le_succ_of_le hls, hfollow⟩

theorem lt_size_of_follow {ks : List Nat} {i : NodeId} (hks : t.follow root ks = some i) :
    i < t.size := by
  rcases List.eq_nil_or_concat ks with rfl | ⟨ks, k, rfl⟩
  · obtain rfl : root = i := by simpa [follow] using hks
    exact h.size_pos
  · rw [List.concat_eq_append, follow_concat_eq_some] at hks
    obtain ⟨j, -, hk⟩ := hks
    exact h.lt_of_mem (mem_children_of_child hk)

theorem length_way_lt {ks : List Nat} {i : NodeId} (hks : t.follow root ks = some i) :
    ks.length < t.size := by
  obtain ⟨l, hnodup, hlen, hways⟩ := h.exists_nodes hks
  have hle : l.length ≤ t.size := by
    refine length_le_size hnodup fun x hx => ?_
    obtain ⟨ls, -, hls⟩ := hways x hx
    exact h.lt_size_of_follow hls
  omega

/-- On the way up the bound does not matter, if it is no less than the length of the way down. -/
theorem ancestorsWithin_congr {ks : List Nat} {i : NodeId} (hks : t.follow root ks = some i)
    {m n : Nat} (hm : ks.length ≤ m) (hn : ks.length ≤ n) :
    t.ancestorsWithin m i = t.ancestorsWithin n i := by
  induction ks using List.reverseRecOn generalizing i m n with
  | nil =>
      obtain rfl : root = i := by simpa [follow] using hks
      have hnil : ∀ fuel, t.ancestorsWithin fuel root = [] := by
        intro fuel
        cases fuel with
        | zero => rfl
        | succ fuel => rw [ancestorsWithin, h.parent_root]
      rw [hnil, hnil]
  | append_singleton ks k ih =>
      obtain ⟨j, hj, hk⟩ := follow_concat_eq_some.mp hks
      rw [List.length_append, List.length_singleton] at hm hn
      obtain ⟨m, rfl⟩ : ∃ m', m = m' + 1 := ⟨m - 1, by omega⟩
      obtain ⟨n, rfl⟩ : ∃ n', n = n' + 1 := ⟨n - 1, by omega⟩
      have hparent := h.parent_of_mem (mem_children_of_child hk)
      simp only [ancestorsWithin, hparent]
      rw [ih hj (Nat.le_of_succ_le_succ hm) (Nat.le_of_succ_le_succ hn)]

theorem ancestors_root : t.ancestors root = [] := by
  obtain ⟨m, hm⟩ : ∃ m, t.size = m + 1 := ⟨t.size - 1, by have := h.size_pos; omega⟩
  rw [ancestors, hm, ancestorsWithin, h.parent_root]

theorem ancestors_of_mem {p c : NodeId} (hc : c ∈ t.children p) :
    t.ancestors c = p :: t.ancestors p := by
  obtain ⟨ks, hks, -⟩ := h.way (lt_size_of_mem_children hc)
  have hlen := h.length_way_lt hks
  obtain ⟨m, hm⟩ : ∃ m, t.size = m + 1 := ⟨t.size - 1, by omega⟩
  rw [ancestors, ancestors, hm, ancestorsWithin, h.parent_of_mem hc]
  exact congrArg (p :: ·) (h.ancestorsWithin_congr hks (by omega) (by omega))

theorem lineage_of_mem {p c : NodeId} (hc : c ∈ t.children p) :
    t.lineage c = c :: t.lineage p := by
  rw [lineage, h.ancestors_of_mem hc, lineage]

theorem lineage_root : t.lineage root = [root] := by
  rw [lineage, h.ancestors_root]

/-- Below a node of another kind, the closest node of a kind is the same. -/
theorem enclosing_of_mem {p c : NodeId} (hc : c ∈ t.children p) {k : Kind} (hk : t.kind c ≠ k) :
    t.enclosing k c = t.enclosing k p := by
  rw [enclosing, findAncestor, h.lineage_of_mem hc, List.find?_cons_of_neg (by simpa using hk)]
  rfl

/-- On the line up from a node, let all nodes of a kind be found.  Then the first node that is found
lies in the same node of that kind. -/
theorem enclosing_of_find? {p : NodeId → Bool} {k : Kind} (hk : ∀ i, t.kind i = k → p i = true)
    {n d f : NodeId} (hn : n < t.size) (hd : (t.lineage n).find? p = some d)
    (hf : t.enclosing k n = some f) : t.enclosing k d = some f := by
  refine h.induct (P := fun n => (t.lineage n).find? p = some d → t.enclosing k n = some f →
    t.enclosing k d = some f) ?_ ?_ hn hd hf
  · intro hd hf
    rw [h.lineage_root] at hd
    obtain rfl := List.mem_singleton.mp (List.mem_of_find?_eq_some hd)
    exact hf
  · intro q c hc ih hd hf
    rw [h.lineage_of_mem hc] at hd
    cases hp : p c with
    | true =>
        rw [List.find?_cons_of_pos hp] at hd
        obtain rfl := Option.some.inj hd
        exact hf
    | false =>
        have hkind : t.kind c ≠ k := by
          intro hkind
          rw [hk c hkind] at hp
          cases hp
        rw [List.find?_cons_of_neg (by rw [hp]; exact Bool.false_ne_true)] at hd
        exact ih hd ((h.enclosing_of_mem hc hkind).symm.trans hf)

/-- The line up from a node goes on above each of its nodes as it would from there. -/
theorem lineage_suffix {i x : NodeId} (hi : i < t.size) (hx : x ∈ t.lineage i) :
    t.lineage x <:+ t.lineage i := by
  refine h.induct (P := fun i => x ∈ t.lineage i → t.lineage x <:+ t.lineage i) ?_ ?_ hi hx
  · intro hx
    rw [h.lineage_root, List.mem_singleton] at hx
    subst hx
    exact List.suffix_rfl
  · intro p c hc ih hx
    rw [h.lineage_of_mem hc] at hx
    rcases List.mem_cons.mp hx with rfl | hx
    · exact List.suffix_rfl
    · rw [h.lineage_of_mem hc]
      exact (ih hx).trans (List.suffix_cons c _)

/-- No node lies above itself. -/
theorem nodup_lineage {i : NodeId} (hi : i < t.size) : (t.lineage i).Nodup := by
  refine h.induct (P := fun i => (t.lineage i).Nodup) ?_ ?_ hi
  · rw [h.lineage_root]
    exact List.nodup_singleton root
  · intro p c hc ih
    rw [h.lineage_of_mem hc]
    refine List.nodup_cons.mpr ⟨fun hmem => ?_, ih⟩
    -- the line up from the child would be part of the one from its parent, which is shorter
    have hle := (h.lineage_suffix (lt_size_of_mem_children hc) hmem).length_le
    rw [h.lineage_of_mem hc, List.length_cons] at hle
    omega

theorem lt_of_mem_lineage {i x : NodeId} (hi : i < t.size) (hx : x ∈ t.lineage i) :
    x < t.size := by
  refine h.induct (P := fun i => x ∈ t.lineage i → x < t.size) ?_ ?_ hi hx
  · intro hx
    rw [h.lineage_root, List.mem_singleton] at hx
    rw [hx]
    exact h.size_pos
  · intro p c hc ih hx
    rw [h.lineage_of_mem hc] at hx
    rcases List.mem_cons.mp hx with rfl | hx
    · exact h.lt_of_mem hc
    · exact ih hx

theorem getLast?_lineage {i : NodeId} (hi : i < t.size) : (t.lineage i).getLast? = some root := by
  refine h.induct (P := fun i => (t.lineage i).getLast? = some root) ?_ ?_ hi
  · rw [h.lineage_root]
    rfl
  · intro p c hc ih
    rw [h.lineage_of_mem hc, List.getLast?_cons, ih]
    rfl

theorem length_ancestors_lt {i : NodeId} (hi : i < t.size) : (t.ancestors i).length < t.size := by
  have hle := length_le_size (h.nodup_lineage hi) fun x hx => h.lt_of_mem_lineage hi hx
  rw [lineage, List.length_cons] at hle
  omega

end Rooted

/-! ## Down -/

/-- What a walk meets that starts at `pending`: these nodes, what is below a node that it
enters, and nothing else. -/
structure Met (t : Tree) (enter : NodeId → Bool) (pending met : List NodeId) : Prop where
  start : ∀ i ∈ pending, i ∈ met
  below : ∀ i ∈ met, enter i = true → ∀ c ∈ t.children i, c ∈ met
  only : ∀ i ∈ met, i ∈ pending ∨ ∃ p ∈ met, enter p = true ∧ i ∈ t.children p

namespace Met

variable {enter : NodeId → Bool} {id : NodeId} {pending met : List NodeId}

theorem nil (t : Tree) (enter : NodeId → Bool) : t.Met enter [] [] where
  start _ hi := hi
  below _ hi := absurd hi List.not_mem_nil
  only _ hi := .inl hi

theorem pass (hm : t.Met enter pending met) (hid : enter id = false) :
    t.Met enter (id :: pending) (id :: met) where
  start i hi := by
    rcases List.mem_cons.mp hi with rfl | hi
    · exact List.mem_cons_self
    · exact List.mem_cons_of_mem id (hm.start i hi)
  below i hi henter c hc := by
    rcases List.mem_cons.mp hi with rfl | hi
    · rw [hid] at henter
      cases henter
    · exact List.mem_cons_of_mem id (hm.below i hi henter c hc)
  only i hi := by
    rcases List.mem_cons.mp hi with rfl | hi
    · exact .inl List.mem_cons_self
    · rcases hm.only i hi with hpending | ⟨p, hp, henter, hc⟩
      · exact .inl (List.mem_cons_of_mem id hpending)
      · exact .inr ⟨p, List.mem_cons_of_mem id hp, henter, hc⟩

theorem goBelow (hm : t.Met enter (t.children id ++ pending) met) (hid : enter id = true) :
    t.Met enter (id :: pending) (id :: met) where
  start i hi := by
    rcases List.mem_cons.mp hi with rfl | hi
    · exact List.mem_cons_self
    · exact List.mem_cons_of_mem id (hm.start i (List.mem_append_right _ hi))
  below i hi henter c hc := by
    rcases List.mem_cons.mp hi with rfl | hi
    · exact List.mem_cons_of_mem i (hm.start c (List.mem_append_left _ hc))
    · exact List.mem_cons_of_mem id (hm.below i hi henter c hc)
  only i hi := by
    rcases List.mem_cons.mp hi with rfl | hi
    · exact .inl List.mem_cons_self
    · rcases hm.only i hi with hpending | ⟨p, hp, henter, hc⟩
      · rcases List.mem_append.mp hpending with hc | hpending
        · exact .inr ⟨id, List.mem_cons_self, hid, hc⟩
        · exact .inl (List.mem_cons_of_mem id hpending)
      · exact .inr ⟨p, List.mem_cons_of_mem id hp, henter, hc⟩

end Met

/-- Run lemma of the walk: it meets a node no more than once, so the bound is never met. -/
theorem Rooted.met_visitsWithin (h : t.Rooted) (enter : NodeId → Bool) {fuel : Nat}
    {pending seen : List NodeId} (hf : t.Frontier pending seen)
    (hfuel : t.size ≤ fuel + seen.length) :
    t.Met enter pending (t.visitsWithin enter fuel pending) := by
  induction fuel generalizing pending seen with
  | zero =>
      have hlen := hf.length_le
      obtain rfl : pending = [] := List.eq_nil_of_length_eq_zero (by omega)
      exact Met.nil t enter
  | succ fuel ih =>
      cases pending with
      | nil => exact Met.nil t enter
      | cons id pending =>
          have hfuel' : t.size ≤ fuel + (id :: seen).length := by
            rw [List.length_cons]
            omega
          rw [visitsWithin]
          cases hid : enter id with
          | true => exact (ih (hf.enter h (List.Perm.refl _)) hfuel').goBelow hid
          | false => exact (ih hf.pass hfuel').pass hid

/-- If the nodes met after `id` are new, with `id` among those seen, so is `id` with them. -/
theorem Frontier.nodup_cons {id : NodeId} {pending met seen : List NodeId}
    (hf : t.Frontier (id :: pending) seen)
    (hmet : met.Nodup ∧ ∀ i ∈ met, i < t.size ∧ i ∉ id :: seen) :
    (id :: met).Nodup ∧ ∀ i ∈ id :: met, i < t.size ∧ i ∉ seen := by
  obtain ⟨hnodup, hall⟩ := hmet
  refine ⟨List.nodup_cons.mpr ⟨fun hid => (hall id hid).2 List.mem_cons_self, hnodup⟩, ?_⟩
  intro i hi
  rcases List.mem_cons.mp hi with rfl | hi
  · exact ⟨hf.lt_size i List.mem_cons_self, hf.not_mem_seen⟩
  · exact ⟨(hall i hi).1, fun hseen => (hall i hi).2 (List.mem_cons_of_mem id hseen)⟩

/-- No node is met twice, nor one that was seen before. -/
theorem Rooted.nodup_visitsWithin (h : t.Rooted) (enter : NodeId → Bool) (fuel : Nat)
    {pending seen : List NodeId} (hf : t.Frontier pending seen) :
    (t.visitsWithin enter fuel pending).Nodup ∧
      ∀ i ∈ t.visitsWithin enter fuel pending, i < t.size ∧ i ∉ seen := by
  induction fuel generalizing pending seen with
  | zero => exact ⟨List.nodup_nil, fun i hi => by cases hi⟩
  | succ fuel ih =>
      cases pending with
      | nil => exact ⟨List.nodup_nil, fun i hi => by cases hi⟩
      | cons id pending =>
          rw [visitsWithin]
          refine hf.nodup_cons (ih ?_)
          split
          · exact hf.enter h (List.Perm.refl _)
          · exact hf.pass

theorem Rooted.nodup_visits (h : t.Rooted) (enter : NodeId → Bool) :
    (t.visits enter root).Nodup :=
  (h.nodup_visitsWithin enter t.size (Frontier.start h.toLinked)).1

/-- A walk meets what is at or below its start, as far as it goes below the nodes between. -/
theorem Met.mem_iff {enter : NodeId → Bool} {n : NodeId} {met : List NodeId}
    (hmet : t.Met enter [n] met) (h : t.Rooted) {i : NodeId} (hi : i < t.size) :
    i ∈ met ↔ n ∈ t.lineage i ∧ ∀ a ∈ t.ancestors i, n ∈ t.lineage a → enter a = true := by
  refine h.induct (P := fun i => i ∈ met ↔
    n ∈ t.lineage i ∧ ∀ a ∈ t.ancestors i, n ∈ t.lineage a → enter a = true) ?_ ?_ hi
  · rw [h.lineage_root, List.mem_singleton, h.ancestors_root]
    constructor
    · intro hroot
      rcases hmet.only root hroot with hstart | ⟨p, -, -, hc⟩
      · exact ⟨(List.mem_singleton.mp hstart).symm, fun a ha => by cases ha⟩
      · exact absurd hc (h.root_not_mem p)
    · intro hn
      exact hmet.start root (List.mem_singleton.mpr hn.1.symm)
  · intro p c hc ih
    have hfresh := List.nodup_cons.mp (h.lineage_of_mem hc ▸ h.nodup_lineage (h.lt_of_mem hc))
    rw [h.lineage_of_mem hc, List.mem_cons, h.ancestors_of_mem hc]
    constructor
    · intro hmem
      rcases hmet.only c hmem with hstart | ⟨q, hq, henter, hc'⟩
      · obtain rfl := List.mem_singleton.mp hstart
        refine ⟨.inl rfl, fun a ha hca => ?_⟩
        -- the start does not lie above itself
        have hsuffix := h.lineage_suffix (lt_size_of_mem_children hc) ha
        exact absurd (hsuffix.subset hca) hfresh.1
      · have hparent := h.parent_of_mem hc'
        rw [h.parent_of_mem hc] at hparent
        cases hparent
        obtain ⟨hn, hall⟩ := ih.mp hq
        refine ⟨.inr hn, fun a ha hna => ?_⟩
        rcases List.mem_cons.mp ha with rfl | ha
        · exact henter
        · exact hall a ha hna
    · intro hn
      obtain ⟨hn, hall⟩ := hn
      rcases hn with rfl | hn
      · exact hmet.start n List.mem_cons_self
      · have hp := ih.mpr ⟨hn, fun a ha => hall a (List.mem_cons_of_mem p ha)⟩
        exact hmet.below p hp (hall p List.mem_cons_self hn) c hc

theorem Rooted.mem_visits (h : t.Rooted) {enter : NodeId → Bool} {i : NodeId} :
    i ∈ t.visits enter root ↔ i < t.size ∧ ∀ a ∈ t.ancestors i, enter a = true := by
  have hmet : t.Met enter [root] (t.visits enter root) :=
    h.met_visitsWithin enter (Frontier.start h.toLinked) (Nat.le_refl _)
  have hroot : ∀ {j}, j < t.size → root ∈ t.lineage j := fun hj =>
    List.mem_of_getLast? (h.getLast?_lineage hj)
  constructor
  · intro hi
    have hlt : i < t.size := by
      rcases hmet.only i hi with hstart | ⟨p, -, -, hc⟩
      · rw [List.mem_singleton.mp hstart]
        exact h.size_pos
      · exact h.lt_of_mem hc
    refine ⟨hlt, fun a ha => ((hmet.mem_iff h hlt).mp hi).2 a ha (hroot ?_)⟩
    exact h.lt_of_mem_lineage hlt (List.mem_cons_of_mem i ha)
  · intro hi
    exact (hmet.mem_iff h hi.1).mpr ⟨hroot hi.1, fun a ha _ => hi.2 a ha⟩

/-! ## Two walks -/

section narrower

variable (h : t.Rooted) {narrow wide : NodeId → Bool}
include h

/-- The children of a node are below entered nodes only if the node is and is entered. -/
theorem Rooted.filter_children (id : NodeId) :
    ((t.children id).filter fun i => (t.ancestors i).all narrow) =
      if (t.ancestors id).all narrow && narrow id then t.children id else [] := by
  have hchild : ∀ c ∈ t.children id,
      (t.ancestors c).all narrow = ((t.ancestors id).all narrow && narrow id) := by
    intro c hc
    rw [h.ancestors_of_mem hc, List.all_cons, Bool.and_comm]
  rw [List.filter_congr hchild]
  cases (t.ancestors id).all narrow && narrow id <;> simp

/-- A walk that enters less skips nodes of the other and keeps the order; it never needs more
steps. -/
theorem Rooted.visitsWithin_narrow (hle : ∀ i, narrow i = true → wide i = true)
    {fuel bound : Nat} {pending seen : List NodeId} (hf : t.Frontier pending seen)
    (hfuel : t.size ≤ fuel + seen.length) (hbound : fuel ≤ bound) :
    t.visitsWithin narrow bound (pending.filter fun i => (t.ancestors i).all narrow) =
      (t.visitsWithin wide fuel pending).filter fun i => (t.ancestors i).all narrow := by
  induction fuel generalizing bound pending seen with
  | zero =>
      have hlen := hf.length_le
      obtain rfl : pending = [] := List.eq_nil_of_length_eq_zero (by omega)
      cases bound <;> rfl
  | succ fuel ih =>
      cases pending with
      | nil => cases bound <;> rfl
      | cons id pending =>
          have hfuel' : t.size ≤ fuel + (id :: seen).length := by
            rw [List.length_cons]
            omega
          -- what the wide walk goes on with, as the narrow one sees it
          have hnext : ∀ {bound}, fuel ≤ bound → t.visitsWithin narrow bound
              ((if (t.ancestors id).all narrow && narrow id then t.children id else []) ++
                pending.filter fun i => (t.ancestors i).all narrow) =
              (t.visitsWithin wide fuel
                (if wide id then t.children id ++ pending else pending)).filter
                  fun i => (t.ancestors i).all narrow := by
            intro bound hbound
            cases hwide : wide id with
            | true =>
                rw [← h.filter_children, ← List.filter_append, if_pos rfl]
                exact ih (hf.enter h (List.Perm.refl _)) hfuel' hbound
            | false =>
                have hnarrow : narrow id = false := by
                  rw [Bool.eq_false_iff]
                  intro hid
                  rw [hle id hid] at hwide
                  cases hwide
                rw [hnarrow, Bool.and_false, if_neg Bool.false_ne_true, if_neg Bool.false_ne_true]
                exact ih hf.pass hfuel' hbound
          rw [visitsWithin, List.filter_cons, List.filter_cons]
          cases hid : (t.ancestors id).all narrow with
          | false =>
              have hskip := hnext (Nat.le_of_succ_le hbound)
              rw [hid] at hskip
              exact hskip
          | true =>
              obtain ⟨bound, rfl⟩ : ∃ b, bound = b + 1 := ⟨bound - 1, by omega⟩
              have hstep := hnext (Nat.le_of_succ_le_succ hbound)
              rw [hid, Bool.true_and] at hstep
              rw [if_pos rfl, if_pos rfl, visitsWithin, ← hstep]
              cases narrow id <;> rfl

theorem Rooted.visits_narrow (hle : ∀ i, narrow i = true → wide i = true) :
    t.visits narrow root =
      (t.visits wide root).filter fun i => (t.ancestors i).all narrow := by
  have hwalk := h.visitsWithin_narrow hle (Frontier.start h.toLinked) (Nat.le_refl _)
    (Nat.le_refl t.size)
  rw [List.filter_cons, h.ancestors_root] at hwalk
  exact hwalk

end narrower

/-! ## Where a walk stops -/

theorem Rooted.stops_or_enters_of_above (h : t.Rooted) {enter : NodeId → Bool} {i : NodeId}
    (hi : i < t.size) (habove : ∀ a ∈ t.ancestors i, enter a = true) :
    (∃ b ∈ t.lineage i, enter b = false ∧ b ∈ t.visits enter root) ∨
      ∀ b ∈ t.lineage i, enter b = true := by
  cases henter : enter i with
  | false => exact .inl ⟨i, List.mem_cons_self, henter, h.mem_visits.mpr ⟨hi, habove⟩⟩
  | true =>
      refine .inr fun b hb => ?_
      rcases List.mem_cons.mp hb with rfl | hb
      · exact henter
      · exact habove b hb

/-- On the way down to a node a walk stops at a node that it has met, or it does not stop. -/
theorem Rooted.stops_or_enters (h : t.Rooted) (enter : NodeId → Bool) {i : NodeId}
    (hi : i < t.size) : (∃ b ∈ t.lineage i, enter b = false ∧ b ∈ t.visits enter root) ∨
      ∀ b ∈ t.lineage i, enter b = true := by
  refine h.induct (P := fun i => (∃ b ∈ t.lineage i, enter b = false ∧ b ∈ t.visits enter root) ∨
    ∀ b ∈ t.lineage i, enter b = true) ?_ ?_ hi
  · refine h.stops_or_enters_of_above h.size_pos fun a ha => ?_
    rw [h.ancestors_root] at ha
    cases ha
  · rintro p c hc (⟨b, hb, hmet⟩ | hentered)
    · refine .inl ⟨b, ?_, hmet⟩
      rw [h.lineage_of_mem hc]
      exact List.mem_cons_of_mem c hb
    · refine h.stops_or_enters_of_above (h.lt_of_mem hc) ?_
      rw [h.ancestors_of_mem hc]
      exact hentered

end Tree
end NcInsight
