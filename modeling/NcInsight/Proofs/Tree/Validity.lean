import Mathlib.Data.List.Induction
import Mathlib.Data.List.Nodup
import Mathlib.Data.List.Perm.Subperm
import NcInsight.Proofs.Tree.Nesting
import NcInsight.Tree.Defect

/-
What the check of a tree accepts.

The checks of single nodes make parents and children agree, which leaves room for a child listed
twice and for a ring of nodes apart from the root.  The search from the root excludes both, so
together they accept exactly the trees in which one way leads from the root to each node
(`check_accepts_wellFormed`).  A way is a list of positions among children, so that a child
listed twice is reached by two ways.
-/
namespace NcInsight
namespace Tree

/-- Goes down from a node by positions among the children. -/
def follow (t : Tree) : NodeId → List Nat → Option NodeId
  | id, [] => some id
  | id, k :: ks => (t.child id k).bind fun c => t.follow c ks

/-- Parents and children agree. -/
structure Linked (t : Tree) : Prop where
  size_pos : 0 < t.size
  parent_root : t.parent root = none
  child_spec : ∀ {i c : NodeId}, i < t.size → c ∈ t.children i → c < t.size ∧ t.parent c = some i
  listed : ∀ {i : NodeId}, i < t.size → i ≠ root →
    ∃ p, t.parent i = some p ∧ p < t.size ∧ i ∈ t.children p

/-- One way leads from the root to each node. -/
structure Rooted (t : Tree) : Prop extends t.Linked where
  way : ∀ {i : NodeId}, i < t.size → ∃! ks, t.follow root ks = some i

/-- The nodes form one tree below the node of a file, and each has its place in the text. -/
structure Formed (t : Tree) : Prop extends t.Rooted where
  root_isFile : (t.kind root).isFile = true
  span_spec : ∀ {i : NodeId}, i < t.size →
    t.start i ≤ (t.span i).stop ∧ (t.span i).stop ≤ Text.length t.source

/-- Besides, every link into the file itself leads to a declaration. -/
structure WellFormed (t : Tree) : Prop extends t.Formed where
  link_lt : ∀ {i : NodeId}, i < t.size → ∀ {d : DeclId}, (t.node i).link = some ⟨none, d⟩ →
    d < t.declarations.size

variable {t : Tree}

/-! ## The checks of single nodes -/

theorem node?_eq_none_iff {i : NodeId} : t.node? i = none ↔ t.size ≤ i :=
  Array.getElem?_eq_none_iff

theorem node?_eq_some {i : NodeId} (hi : i < t.size) : t.node? i = some (t.node i) := by
  rw [node?, node, Array.getD_eq_getD_getElem?]
  rw [show t.nodes[i]? = some t.nodes[i] from Array.getElem?_eq_getElem hi]
  rfl

theorem rootDefect?_eq_none_iff : t.rootDefect? = none ↔
    0 < t.size ∧ (t.kind root).isFile = true ∧ t.parent root = none := by
  rw [rootDefect?]
  rcases Nat.eq_zero_or_pos t.size with h0 | hpos
  · have hnone : t.node? root = none := node?_eq_none_iff.mpr (Nat.le_of_eq h0)
    simp [hnone, h0]
  · have hsome : t.node? root = some (t.node root) := node?_eq_some hpos
    rw [hsome]
    show (if (t.kind root).isFile then (t.parent root).map Defect.rootHasParent
      else some Defect.rootNotFile) = none ↔ _
    by_cases hfile : (t.kind root).isFile = true
    · rw [if_pos hfile, Option.map_eq_none_iff]
      exact ⟨fun h => ⟨hpos, hfile, h⟩, fun h => h.2.2⟩
    · rw [if_neg hfile]
      simp [hfile]

theorem spanDefect?_eq_none_iff {i : NodeId} : t.spanDefect? i (t.node i) = none ↔
    t.start i ≤ (t.span i).stop ∧ (t.span i).stop ≤ Text.length t.source := by
  show (if t.start i ≤ (t.span i).stop ∧ (t.span i).stop ≤ Text.length t.source then none
    else some _) = none ↔ _
  split
  · rename_i h
    simp [h]
  · rename_i h
    simp only [reduceCtorEq, false_iff]
    exact h

theorem childDefect?_eq_none_iff {i c : NodeId} :
    t.childDefect? i c = none ↔ c < t.size ∧ t.parent c = some i := by
  rw [childDefect?]
  rcases Nat.lt_or_ge c t.size with hc | hc
  · rw [node?_eq_some hc]
    show (if t.parent c = some i then none else some _) = none ↔ _
    by_cases hparent : t.parent c = some i
    · simp [hc, hparent]
    · simp [hparent]
  · rw [node?_eq_none_iff.mpr hc]
    simp [Nat.not_lt.mpr hc]

theorem parentDefect?_eq_none_iff {i : NodeId} : t.parentDefect? i (t.node i) = none ↔
    (i ≠ root → ∃ p, t.parent i = some p ∧ p < t.size ∧ i ∈ t.children p) := by
  rw [parentDefect?]
  by_cases hi : i = root
  · simp [hi]
  · rw [if_neg hi, show (t.node i).parent = t.parent i from rfl]
    cases hparent : t.parent i with
    | none => simp [hi]
    | some p =>
        rcases Nat.lt_or_ge p t.size with hp | hp
        · simp only [node?_eq_some hp]
          rw [show (t.node p).children = t.children p from rfl]
          by_cases hmem : i ∈ t.children p
          · simp [hmem, hp]
          · simp [hmem, hi]
        · simp only [node?_eq_none_iff.mpr hp]
          simp [hi, Nat.not_lt.mpr hp]

theorem linkDefect?_eq_none_iff {i : NodeId} : t.linkDefect? i (t.node i) = none ↔
    ∀ d, (t.node i).link = some ⟨none, d⟩ → d < t.declarations.size := by
  rw [linkDefect?]
  split
  · rename_i d hlink
    rw [hlink]
    by_cases hd : d < t.declarations.size
    · simp [hd]
    · simp [hd]
  · rename_i hother
    simp only [true_iff]
    intro d hlink
    exact absurd hlink (hother d)

theorem linkDefect?_eq_some {i : NodeId} {e : Defect}
    (h : t.linkDefect? i (t.node i) = some e) : ∃ d, (t.node i).link = some ⟨none, d⟩ ∧
      t.declarations.size ≤ d ∧ e = .declarationOutOfRange i d := by
  rw [linkDefect?] at h
  split at h
  · rename_i d hlink
    split at h
    · cases h
    · rename_i hd
      exact ⟨d, hlink, Nat.not_lt.mp hd, (Option.some.inj h).symm⟩
  · cases h

theorem nodeDefect?_eq_none_iff {i : NodeId} : t.nodeDefect? i = none ↔
    (t.start i ≤ (t.span i).stop ∧ (t.span i).stop ≤ Text.length t.source) ∧
      (∀ c ∈ t.children i, c < t.size ∧ t.parent c = some i) ∧
      (i ≠ root → ∃ p, t.parent i = some p ∧ p < t.size ∧ i ∈ t.children p) ∧
      ∀ d, (t.node i).link = some ⟨none, d⟩ → d < t.declarations.size := by
  rw [nodeDefect?, Option.or_eq_none_iff, Option.or_eq_none_iff, Option.or_eq_none_iff,
    spanDefect?_eq_none_iff, parentDefect?_eq_none_iff, linkDefect?_eq_none_iff,
    List.findSome?_eq_none_iff]
  simp only [childDefect?_eq_none_iff]
  rfl

theorem linked_of_checks (hroot : t.rootDefect? = none)
    (hnodes : ∀ i, i < t.size → t.nodeDefect? i = none) : t.Linked where
  size_pos := (rootDefect?_eq_none_iff.mp hroot).1
  parent_root := (rootDefect?_eq_none_iff.mp hroot).2.2
  child_spec hi hc := (nodeDefect?_eq_none_iff.mp (hnodes _ hi)).2.1 _ hc
  listed hi hne := (nodeDefect?_eq_none_iff.mp (hnodes _ hi)).2.2.1 hne

/-! ## Ways from the root -/

theorem follow_append (i : NodeId) (ks ls : List Nat) :
    t.follow i (ks ++ ls) = (t.follow i ks).bind fun j => t.follow j ls := by
  induction ks generalizing i with
  | nil => rfl
  | cons k ks ih =>
      rw [List.cons_append, follow, follow]
      cases t.child i k with
      | none => rfl
      | some c => exact ih c

theorem follow_concat_eq_some {i c : NodeId} {ks : List Nat} {k : Nat} :
    t.follow i (ks ++ [k]) = some c ↔ ∃ j, t.follow i ks = some j ∧ t.child j k = some c := by
  rw [follow_append, Option.bind_eq_some_iff]
  simp only [follow, Option.bind_fun_some]

theorem mem_children_of_child {j c : NodeId} {k : Nat} (h : t.child j k = some c) :
    c ∈ t.children j :=
  List.mem_of_getElem? h

namespace Linked

variable (h : t.Linked)
include h

theorem lt_of_mem {i c : NodeId} (hc : c ∈ t.children i) : c < t.size :=
  (h.child_spec (lt_size_of_mem_children hc) hc).1

theorem parent_of_mem {i c : NodeId} (hc : c ∈ t.children i) : t.parent c = some i :=
  (h.child_spec (lt_size_of_mem_children hc) hc).2

theorem root_not_mem (i : NodeId) : root ∉ t.children i := by
  intro hc
  have hparent := h.parent_of_mem hc
  rw [h.parent_root] at hparent
  cases hparent

/-- Where no child is listed twice, at most one way leads to a node: its last step starts at the
parent. -/
theorem way_unique (hnodup : ∀ j, j < t.size → (t.children j).Nodup) {i : NodeId}
    {ks ls : List Nat} (hks : t.follow root ks = some i) (hls : t.follow root ls = some i) :
    ks = ls := by
  induction ks using List.reverseRecOn generalizing i ls with
  | nil =>
      obtain rfl : root = i := by simpa [follow] using hks
      rcases List.eq_nil_or_concat ls with rfl | ⟨ls, l, rfl⟩
      · rfl
      · rw [List.concat_eq_append, follow_concat_eq_some] at hls
        obtain ⟨j, -, hl⟩ := hls
        exact absurd (mem_children_of_child hl) (h.root_not_mem j)
  | append_singleton ks k ih =>
      obtain ⟨j, hj, hk⟩ := follow_concat_eq_some.mp hks
      have hi := mem_children_of_child hk
      rcases List.eq_nil_or_concat ls with rfl | ⟨ls, l, rfl⟩
      · obtain rfl : root = i := by simpa [follow] using hls
        exact absurd hi (h.root_not_mem j)
      · rw [List.concat_eq_append] at hls ⊢
        obtain ⟨j', hj', hl⟩ := follow_concat_eq_some.mp hls
        have hparent := h.parent_of_mem (mem_children_of_child hl)
        rw [h.parent_of_mem hi] at hparent
        cases hparent
        rw [ih hj hj']
        have hlt : k < (t.children j).length := (List.getElem?_eq_some_iff.mp hk).1
        have hkl : k = l := (List.getElem?_inj hlt
          (hnodup j (lt_size_of_mem_children hi))).mp (hk.trans hl.symm)
        rw [hkl]

end Linked

namespace Rooted

variable (h : t.Rooted)
include h

theorem nodup_children (i : NodeId) : (t.children i).Nodup := by
  rcases Nat.lt_or_ge i t.size with hi | hi
  · obtain ⟨ks, hks, -⟩ := h.way hi
    rw [List.nodup_iff_getElem?_ne_getElem?]
    intro k l hkl hl he
    have hc : t.child i l = some (t.children i)[l] := List.getElem?_eq_getElem hl
    have hck : t.child i k = some (t.children i)[l] := he.trans hc
    have hlt := h.lt_of_mem (mem_children_of_child hc)
    have hsame := (h.way hlt).unique (follow_concat_eq_some.mpr ⟨i, hks, hck⟩)
      (follow_concat_eq_some.mpr ⟨i, hks, hc⟩)
    have hkl' : k = l := by simpa using hsame
    omega
  · rw [children_of_size_le hi]
    exact List.nodup_nil

/-- What holds of the root and passes on to children holds of every node. -/
theorem induct {P : NodeId → Prop} (hroot : P root)
    (hchild : ∀ p c, c ∈ t.children p → P p → P c) {i : NodeId} (hi : i < t.size) : P i := by
  obtain ⟨ks, hks, -⟩ := h.way hi
  clear hi
  induction ks using List.reverseRecOn generalizing i with
  | nil =>
      obtain rfl : root = i := by simpa [follow] using hks
      exact hroot
  | append_singleton ks k ih =>
      obtain ⟨p, hp, hk⟩ := follow_concat_eq_some.mp hks
      exact hchild p i (mem_children_of_child hk) (ih hp)

end Rooted

/-! ## The search -/

/-- The search from the pending nodes with no bound on its steps.  It looks only at nodes that
are there. -/
inductive Search (t : Tree) :
    List NodeId → List NodeId → Except NodeId (List NodeId) → Prop
  | done {seen : List NodeId} : Search t [] seen (.ok seen)
  | again {id : NodeId} {pending seen : List NodeId} (hid : id < t.size) (hseen : id ∈ seen) :
      Search t (id :: pending) seen (.error id)
  | visit {id : NodeId} {pending seen : List NodeId} {out : Except NodeId (List NodeId)}
      (hid : id < t.size) (hseen : id ∉ seen)
      (hrest : Search t ((t.children id).reverse ++ pending) (id :: seen) out) :
      Search t (id :: pending) seen out

theorem length_le_size {l : List NodeId} (hnodup : l.Nodup) (hl : ∀ x ∈ l, x < t.size) :
    l.length ≤ t.size := by
  have hsub : l ⊆ List.range t.size := fun x hx => List.mem_range.mpr (hl x hx)
  have hlen := (hnodup.subperm hsub).length_le
  rwa [List.length_range] at hlen

/-- The bounded search is the search: each step meets a new node or is the last one, so there are
no more steps than nodes.  Rings among the nodes do not matter. -/
theorem Linked.search_reachWithin (h : t.Linked) {fuel : Nat} {pending seen : List NodeId}
    (hpending : ∀ x ∈ pending, x < t.size) (hnodup : seen.Nodup) (hseen : ∀ x ∈ seen, x < t.size)
    (hfuel : t.size < fuel + seen.length) :
    Search t pending seen (t.reachWithin fuel pending seen) := by
  induction fuel generalizing pending seen with
  | zero =>
      have hlen := length_le_size hnodup hseen
      omega
  | succ fuel ih =>
      cases pending with
      | nil => exact .done
      | cons id pending =>
          have hid := hpending id List.mem_cons_self
          rw [reachWithin]
          by_cases hmem : id ∈ seen
          · rw [if_pos hmem]
            exact .again hid hmem
          · rw [if_neg hmem]
            refine .visit hid hmem (ih ?_ (List.nodup_cons.mpr ⟨hmem, hnodup⟩) ?_ ?_)
            · intro x hx
              rcases List.mem_append.mp hx with hx | hx
              · exact h.lt_of_mem (List.mem_reverse.mp hx)
              · exact hpending x (List.mem_cons_of_mem id hx)
            · intro x hx
              rcases List.mem_cons.mp hx with rfl | hx
              · exact hid
              · exact hseen x hx
            · rw [List.length_cons]
              omega

theorem Linked.search_start (h : t.Linked) {fuel : Nat} (hfuel : t.size < fuel) :
    Search t [root] [] (t.reachWithin fuel [root] []) := by
  refine h.search_reachWithin (fun x hx => ?_) List.nodup_nil (fun x hx => ?_) hfuel
  · rw [List.mem_singleton.mp hx]
    exact h.size_pos
  · cases hx

namespace Search

variable {pending seen out : List NodeId}

/-- A search that meets no node twice had no node pending twice. -/
theorem nodup_pending (h : Search t pending seen (.ok out)) :
    pending.Nodup ∧ ∀ x ∈ pending, x ∉ seen := by
  generalize hres : Except.ok out = res at h
  induction h with
  | done => exact ⟨List.nodup_nil, fun x hx => by cases hx⟩
  | again => cases hres
  | visit hid hseen hrest ih =>
      obtain ⟨hnodup, hfresh⟩ := ih hres
      have hpending := (List.nodup_append.mp hnodup).2.1
      refine ⟨List.nodup_cons.mpr ⟨fun hmem => ?_, hpending⟩, fun x hx => ?_⟩
      · exact hfresh _ (List.mem_append_right _ hmem) List.mem_cons_self
      · rcases List.mem_cons.mp hx with rfl | hx
        · exact hseen
        · exact fun hmem => hfresh x (List.mem_append_right _ hx) (List.mem_cons_of_mem _ hmem)

theorem nodup_children (h : Search t pending seen (.ok out)) {i : NodeId} (hi : i ∈ out) :
    i ∈ seen ∨ (t.children i).Nodup := by
  generalize hres : Except.ok out = res at h
  induction h with
  | done =>
      cases hres
      exact .inl hi
  | again => cases hres
  | visit hid hseen hrest ih =>
      rcases ih hres with hmem | hnodup
      · rcases List.mem_cons.mp hmem with rfl | hmem
        · subst hres
          exact .inr (List.nodup_reverse.mp (List.nodup_append.mp hrest.nodup_pending.1).1)
        · exact .inl hmem
      · exact .inr hnodup

theorem exists_way (h : Search t pending seen (.ok out)) {i : NodeId} (hi : i ∈ out) :
    i ∈ seen ∨ ∃ x ∈ pending, ∃ ks, t.follow x ks = some i := by
  generalize hres : Except.ok out = res at h
  induction h with
  | done =>
      cases hres
      exact .inl hi
  | again => cases hres
  | @visit id pending seen out hid hseen hrest ih =>
      rcases ih hres with hmem | ⟨x, hx, ks, hks⟩
      · rcases List.mem_cons.mp hmem with rfl | hmem
        · exact .inr ⟨i, List.mem_cons_self, [], rfl⟩
        · exact .inl hmem
      · refine .inr ?_
        rcases List.mem_append.mp hx with hx | hx
        · obtain ⟨k, hk⟩ := List.getElem?_of_mem (List.mem_reverse.mp hx)
          refine ⟨id, List.mem_cons_self, k :: ks, ?_⟩
          rw [follow, show t.child id k = some x from hk]
          exact hks
        · exact ⟨x, List.mem_cons_of_mem id hx, ks, hks⟩

end Search

/-- A search from the root that meets every node once leaves one way to each. -/
theorem Linked.rooted_of_search (h : t.Linked) {out : List NodeId}
    (hsearch : Search t [root] [] (.ok out)) (hall : ∀ i, i < t.size → i ∈ out) : t.Rooted := by
  refine ⟨h, fun {i} hi => ?_⟩
  have hnodup : ∀ j, j < t.size → (t.children j).Nodup := by
    intro j hj
    rcases hsearch.nodup_children (hall j hj) with hmem | hnodup
    · cases hmem
    · exact hnodup
  rcases hsearch.exists_way (hall i hi) with hmem | ⟨x, hx, ks, hks⟩
  · cases hmem
  · obtain rfl := List.mem_singleton.mp hx
    exact ⟨ks, hks, fun ls hls => h.way_unique hnodup hls hks⟩

/-! ## Searching a tree with one way to each node -/

/-- The state of a walk that goes down from the root: no node twice, and what is above a node was
met before it. -/
structure Frontier (t : Tree) (pending seen : List NodeId) : Prop where
  nodup : (pending ++ seen).Nodup
  lt_size : ∀ x ∈ pending ++ seen, x < t.size
  parent_seen : ∀ x ∈ pending ++ seen, ∀ p, t.parent x = some p → p ∈ seen

namespace Frontier

variable {id : NodeId} {pending seen : List NodeId}

theorem start (h : t.Linked) : t.Frontier [root] [] where
  nodup := List.nodup_singleton root
  lt_size x hx := by
    rw [List.mem_singleton.mp hx]
    exact h.size_pos
  parent_seen x hx p hp := by
    rw [List.mem_singleton.mp hx, h.parent_root] at hp
    cases hp

theorem not_mem_seen (hf : t.Frontier (id :: pending) seen) : id ∉ seen := by
  intro hmem
  exact (List.nodup_cons.mp hf.nodup).1 (List.mem_append_right pending hmem)

/-- Leaving a node without going below it. -/
theorem pass (hf : t.Frontier (id :: pending) seen) : t.Frontier pending (id :: seen) where
  nodup := (List.perm_middle.nodup_iff).mpr hf.nodup
  lt_size x hx := hf.lt_size x (List.perm_middle.mem_iff.mp hx)
  parent_seen x hx p hp :=
    List.mem_cons_of_mem id (hf.parent_seen x (List.perm_middle.mem_iff.mp hx) p hp)

/-- Going below a node puts in front what was not met yet. -/
theorem enter (h : t.Rooted) (hf : t.Frontier (id :: pending) seen) {cs : List NodeId}
    (hcs : cs.Perm (t.children id)) : t.Frontier (cs ++ pending) (id :: seen) := by
  have hpass := hf.pass
  have hmem : ∀ x ∈ cs, x < t.size ∧ t.parent x = some id := fun x hx =>
    ⟨h.lt_of_mem (hcs.mem_iff.mp hx), h.parent_of_mem (hcs.mem_iff.mp hx)⟩
  refine ⟨?_, fun x hx => ?_, fun x hx p hp => ?_⟩
  · rw [List.append_assoc]
    refine List.nodup_append.mpr ⟨hcs.nodup_iff.mpr (h.nodup_children id), hpass.nodup, ?_⟩
    rintro x hx y hy rfl
    -- a child that was met before would have had its parent met before
    have hold := hf.parent_seen x (List.perm_middle.mem_iff.mp hy) id (hmem x hx).2
    exact hf.not_mem_seen hold
  · rw [List.append_assoc] at hx
    rcases List.mem_append.mp hx with hx | hx
    · exact (hmem x hx).1
    · exact hpass.lt_size x hx
  · rw [List.append_assoc] at hx
    rcases List.mem_append.mp hx with hx | hx
    · rw [(hmem x hx).2] at hp
      cases hp
      exact List.mem_cons_self
    · exact hpass.parent_seen x hx p hp

theorem length_le (hf : t.Frontier pending seen) : pending.length + seen.length ≤ t.size := by
  rw [← List.length_append]
  exact length_le_size hf.nodup hf.lt_size

end Frontier

/-- Run lemma of the search: it meets no node twice, and with a node all that hangs from it. -/
theorem Rooted.reachWithin_ok (h : t.Rooted) {fuel : Nat} {pending seen : List NodeId}
    (hf : t.Frontier pending seen) (hfuel : t.size < fuel + seen.length) :
    ∃ out, t.reachWithin fuel pending seen = .ok out ∧ (∀ x ∈ pending ++ seen, x ∈ out) ∧
      ∀ i ∈ out, i ∈ seen ∨ ∀ c ∈ t.children i, c ∈ out := by
  induction fuel generalizing pending seen with
  | zero =>
      have hlen := hf.length_le
      omega
  | succ fuel ih =>
      cases pending with
      | nil => exact ⟨seen, rfl, fun x hx => hx, fun i hi => .inl hi⟩
      | cons id pending =>
          obtain ⟨out, hrun, hkept, hclosed⟩ := ih (hf.enter h (List.reverse_perm _))
            (by rw [List.length_cons]; omega)
          refine ⟨out, ?_, fun x hx => hkept x ?_, fun i hi => ?_⟩
          · rw [reachWithin, if_neg hf.not_mem_seen, hrun]
          · rw [List.append_assoc]
            exact List.mem_append_right _ (List.perm_middle.mem_iff.mpr hx)
          · rcases hclosed i hi with hmem | hbelow
            · rcases List.mem_cons.mp hmem with rfl | hmem
              · refine .inr fun c hc => hkept c ?_
                exact List.mem_append_left _ (List.mem_append_left _ (List.mem_reverse.mpr hc))
              · exact .inl hmem
            · exact .inr hbelow

theorem Rooted.reachDefect?_eq_none (h : t.Rooted) : t.reachDefect? = none := by
  obtain ⟨out, hrun, hkept, hclosed⟩ := h.reachWithin_ok (Frontier.start h.toLinked)
    (show t.size < t.size + 1 + ([] : List NodeId).length from Nat.lt_succ_self _)
  have hall : ∀ i, i < t.size → i ∈ out := by
    intro i hi
    refine h.induct (P := (· ∈ out)) (hkept root List.mem_cons_self) (fun p c hc hp => ?_) hi
    rcases hclosed p hp with hmem | hbelow
    · cases hmem
    · exact hbelow c hc
  rw [reachDefect?, hrun]
  simp only [Option.map_eq_none_iff, List.find?_eq_none, List.mem_range, decide_not]
  intro i hi
  simpa using hall i hi

theorem Linked.reachDefect?_eq_none_iff (h : t.Linked) : t.reachDefect? = none ↔ t.Rooted := by
  refine ⟨fun hreach => ?_, Rooted.reachDefect?_eq_none⟩
  have hsearch := h.search_start (Nat.lt_succ_self t.size)
  rw [reachDefect?] at hreach
  cases hrun : t.reachWithin (t.size + 1) [root] [] with
  | error id =>
      rw [hrun] at hreach
      cases hreach
  | ok out =>
      rw [hrun] at hreach hsearch
      refine h.rooted_of_search hsearch fun i hi => ?_
      have hfound := List.find?_eq_none.mp (Option.map_eq_none_iff.mp hreach) i
        (List.mem_range.mpr hi)
      simpa using hfound

/-! ## The whole check -/

theorem wellFormed_iff : t.WellFormed ↔ t.rootDefect? = none ∧
    (∀ i, i < t.size → t.nodeDefect? i = none) ∧ t.Rooted := by
  constructor
  · intro h
    refine ⟨rootDefect?_eq_none_iff.mpr ⟨h.size_pos, h.root_isFile, h.parent_root⟩,
      fun i hi => nodeDefect?_eq_none_iff.mpr ⟨h.span_spec hi, fun c hc => h.child_spec hi hc,
        h.listed hi, fun d => h.link_lt hi⟩, h.toRooted⟩
  · rintro ⟨hroot, hnodes, h⟩
    exact ⟨⟨h, (rootDefect?_eq_none_iff.mp hroot).2.1,
      fun hi => (nodeDefect?_eq_none_iff.mp (hnodes _ hi)).1⟩,
      fun hi => (nodeDefect?_eq_none_iff.mp (hnodes _ hi)).2.2.2 _⟩

theorem defect?_eq_none_iff : t.defect? = none ↔ t.WellFormed := by
  rw [defect?, Option.or_eq_none_iff, Option.or_eq_none_iff, List.findSome?_eq_none_iff,
    wellFormed_iff]
  simp only [List.mem_range]
  refine and_congr_right fun hroot => and_congr_right fun hnodes => ?_
  exact (linked_of_checks hroot hnodes).reachDefect?_eq_none_iff

/-- The check accepts exactly the well-formed trees.  Where it comes to the search, that ends and
looks at no node that is not there, whatever rings the nodes form; the bound on its steps is
never met. -/
theorem check_accepts_wellFormed (t : Tree) :
    (t.rootDefect? = none → (∀ i, i < t.size → t.nodeDefect? i = none) →
      ∀ fuel, t.size < fuel → Search t [root] [] (t.reachWithin fuel [root] [])) ∧
    (t.defect? = none ↔ t.WellFormed) := by
  constructor
  · intro hroot hnodes fuel hfuel
    exact (linked_of_checks hroot hnodes).search_start hfuel
  · exact defect?_eq_none_iff

/-- Two nodes that list each other agree in parents and children. -/
example : ({ source := "", declarations := #[], nodes := #[
      { kind := .file .program, span := ⟨0, 0⟩ },
      { kind := .symbol, span := ⟨0, 0⟩, parent := some 2, children := [2] },
      { kind := .symbol, span := ⟨0, 0⟩, parent := some 1, children := [1] }] } : Tree).defect? =
    some (.unreachable 1) := by
  decide

end Tree
end NcInsight
