import NcInsight.Proofs.Lint.Includes
import NcInsight.Proofs.Tree.Traversal

/-
How deep lint goes.

At each node the depth is counted anew along the line up, and what is found there decides whether
the walk goes on below.  So the walk itself sees to it that the count stops at the limit: it comes
to the nodes that have no more loops and conditions around them than may be nested
(`mem_visited_iff`), which are those below no node that is closed (`Closed`).  It finds the closed
loops and conditions that it comes to, each one level too deep and none inside another
(`nesting_limits_exact`).
-/
namespace NcInsight

namespace Lint

/-! ## Where the walk comes -/

/-- The nodes of a kind around a node. -/
def around (t : Tree) (k : Kind) (i : NodeId) : List NodeId :=
  (t.ancestors i).filter fun a => t.kind a == k

/-- No include statement is around a node, and no more loops and conditions than may be nested. -/
structure InReach (t : Tree) (i : NodeId) : Prop where
  included : around t .inclusion i = []
  loops : (around t .whileLoop i).length ≤ maxWhileDepth
  conditions : (around t .ifBlock i).length ≤ maxIfDepth

theorem enclosingAll_of_kind {t : Tree} {k : Kind} {i : NodeId} (h : t.kind i = k) :
    enclosingAll t k i = i :: around t k i := by
  rw [enclosingAll, Tree.lineage, List.filter_cons_of_pos (by simpa using h)]
  rfl

theorem enclosingAll_of_ne {t : Tree} {k : Kind} {i : NodeId} (h : t.kind i ≠ k) :
    enclosingAll t k i = around t k i := by
  rw [enclosingAll, Tree.lineage, List.filter_cons_of_neg (by simpa using h)]
  rfl

theorem isTooDeep_eq_false_iff {t : Tree} {a : NodeId} : isTooDeep t a = false ↔
    (t.kind a = .whileLoop → (enclosingAll t .whileLoop a).length ≤ maxWhileDepth) ∧
      (t.kind a = .ifBlock → (enclosingAll t .ifBlock a).length ≤ maxIfDepth) := by
  rw [isTooDeep]
  split
  case h_1 hkind => simp [hkind]
  case h_2 hkind => simp [hkind]
  case h_3 hloop hcondition =>
    simp only [true_iff]
    exact ⟨fun h => absurd h hloop, fun h => absurd h hcondition⟩

/-- Nodes of a kind are nested in each other up to a bound exactly if the innermost one is. -/
theorem forall_enclosingAll_iff {t : Tree} (h : t.Rooted) (k : Kind) (bound : Nat) {i : NodeId}
    (hi : i < t.size) :
    (∀ a ∈ t.ancestors i, t.kind a = k → (enclosingAll t k a).length ≤ bound) ↔
      (around t k i).length ≤ bound := by
  refine h.induct (P := fun i =>
    (∀ a ∈ t.ancestors i, t.kind a = k → (enclosingAll t k a).length ≤ bound) ↔
      (around t k i).length ≤ bound) ?_ ?_ hi
  · simp [around, h.ancestors_root]
  · intro p c hc ih
    -- around the child is all that is around its parent, and the parent itself
    have hself : around t k c = enclosingAll t k p := by
      rw [around, h.ancestors_of_mem hc]
      rfl
    rw [h.ancestors_of_mem hc, List.forall_mem_cons, ih, hself]
    by_cases hp : t.kind p = k
    · rw [enclosingAll_of_kind hp, List.length_cons]
      constructor
      · exact fun hle => hle.1 hp
      · intro hle
        exact ⟨fun _ => hle, by omega⟩
    · rw [enclosingAll_of_ne hp]
      exact ⟨fun hle => hle.2, fun hle => ⟨fun hk => absurd hk hp, hle⟩⟩

/-- The walk comes to the nodes in reach, and to no others. -/
theorem mem_visited_iff {t : Tree} (h : t.Rooted) {i : NodeId} (hi : i < t.size) :
    i ∈ visited t ↔ InReach t i := by
  have hcut : ∀ a, (!isCut t a) = true ↔ t.kind a ≠ .inclusion ∧ isTooDeep t a = false := by
    intro a
    simp [isCut]
  rw [visited, h.mem_visits]
  simp only [hcut, isTooDeep_eq_false_iff]
  constructor
  · rintro ⟨-, hall⟩
    refine ⟨?_, ?_, ?_⟩
    · exact List.filter_eq_nil_iff.mpr fun a ha => by simpa using (hall a ha).1
    · exact (forall_enclosingAll_iff h _ _ hi).mp fun a ha => (hall a ha).2.1
    · exact (forall_enclosingAll_iff h _ _ hi).mp fun a ha => (hall a ha).2.2
  · intro hreach
    refine ⟨hi, fun a ha => ⟨?_, ?_, ?_⟩⟩
    · simpa using List.filter_eq_nil_iff.mp hreach.included a ha
    · exact (forall_enclosingAll_iff h _ _ hi).mpr hreach.loops a ha
    · exact (forall_enclosingAll_iff h _ _ hi).mpr hreach.conditions a ha

/-- Nodes that close what is below them to the walk: include statements, loops in three loops or
more, and conditions in ten conditions or more. -/
inductive Closed (t : Tree) (i : NodeId) : Prop
  | inclusion (hkind : t.kind i = .inclusion)
  | loop (hkind : t.kind i = .whileLoop) (hdepth : 3 ≤ (around t .whileLoop i).length)
  | condition (hkind : t.kind i = .ifBlock) (hdepth : 10 ≤ (around t .ifBlock i).length)

theorem isTooDeep_iff {t : Tree} {i : NodeId} : isTooDeep t i = true ↔
    (t.kind i = .ifBlock ∨ t.kind i = .whileLoop) ∧ Closed t i := by
  constructor
  · intro h
    rw [isTooDeep] at h
    split at h
    case h_1 hkind =>
      rw [enclosingAll_of_kind hkind, List.length_cons, decide_eq_true_eq] at h
      exact ⟨.inr hkind, .loop hkind (Nat.le_of_lt_succ h)⟩
    case h_2 hkind =>
      rw [enclosingAll_of_kind hkind, List.length_cons, decide_eq_true_eq] at h
      exact ⟨.inl hkind, .condition hkind (Nat.le_of_lt_succ h)⟩
    case h_3 => cases h
  · rintro ⟨hkind, hclosed⟩
    cases hclosed with
    | inclusion hinclusion => rcases hkind with h | h <;> rw [hinclusion] at h <;> cases h
    | loop hloop hdepth =>
        simp only [isTooDeep, hloop, enclosingAll_of_kind hloop, List.length_cons,
          decide_eq_true_eq]
        exact Nat.lt_succ_of_le hdepth
    | condition hcondition hdepth =>
        simp only [isTooDeep, hcondition, enclosingAll_of_kind hcondition, List.length_cons,
          decide_eq_true_eq]
        exact Nat.lt_succ_of_le hdepth

theorem isCut_iff {t : Tree} {i : NodeId} : isCut t i = true ↔ Closed t i := by
  rw [isCut, Bool.or_eq_true, beq_iff_eq, isTooDeep_iff]
  constructor
  · rintro (hkind | hdeep)
    · exact .inclusion hkind
    · exact hdeep.2
  · intro hclosed
    cases hclosed with
    | inclusion hkind => exact .inl hkind
    | loop hkind hdepth => exact .inr ⟨.inr hkind, .loop hkind hdepth⟩
    | condition hkind hdepth => exact .inr ⟨.inl hkind, .condition hkind hdepth⟩

theorem mem_visited_iff_closed {t : Tree} (h : t.Rooted) {i : NodeId} :
    i ∈ visited t ↔ i < t.size ∧ ∀ a ∈ t.ancestors i, ¬Closed t a := by
  rw [visited, h.mem_visits]
  simp only [Bool.not_eq_true', ← isCut_iff, Bool.not_eq_true]

/-! ## What is said of the depth -/

section rules

variable {t : Tree} {f : Facts} {id : NodeId} {p : Report}

theorem rule_of_mem_conditionReports (hp : p ∈ conditionReports t id) :
    p.rule = .tooManyConditionals ∨ p.rule = .mixedConditionals := by
  rw [conditionReports] at hp
  split at hp
  · cases hp
  · rcases List.mem_append.mp hp with hp | hp
    · obtain ⟨-, -, hp⟩ := Option.bind_eq_some_iff.mp (Option.mem_toList.mp hp)
      obtain ⟨n, -, rfl⟩ := Option.map_eq_some_iff.mp hp
      exact .inl rfl
    · exact .inr (mem_of_mem_mixedReports hp).2

theorem saidAt_ifReports :
    saidAt .nestingTooDeep (ifReports t id) = saidAt .nestingTooDeep (depthReports t id) := by
  have hcondition : saidAt .nestingTooDeep (conditionReports t id) = [] := by
    refine saidAt_eq_nil fun p hp => ?_
    rcases rule_of_mem_conditionReports hp with h | h <;> rw [h] <;> decide
  rw [ifReports, saidAt_append, hcondition, List.nil_append]

theorem rule_of_mem_labelReports {doLabel endLabel : NodeId}
    (hp : p ∈ labelReports f t doLabel endLabel) :
    p.rule = .doEndNumberNotEqual ∨ p.rule = .doEndNumberTooBig := by
  simp only [labelReports, List.mem_append, List.mem_ite_nil_left, List.mem_map] at hp
  rcases hp with ⟨-, n, -, rfl⟩ | ⟨n, -, rfl⟩
  · exact .inl rfl
  · exact .inr rfl

theorem rule_of_mem_sharedNumberReports (hp : p ∈ sharedNumberReports f t id) :
    p.rule = .duplicateDoEndNumber := by
  rw [sharedNumberReports] at hp
  split at hp
  · cases hp
  · obtain ⟨label, -, rfl⟩ := List.mem_map.mp hp
    rfl

theorem saidAt_whileReports :
    saidAt .nestingTooDeep (whileReports f t id) = saidAt .nestingTooDeep (depthReports t id) := by
  have hshared : saidAt .nestingTooDeep (sharedNumberReports f t id) = [] := by
    refine saidAt_eq_nil fun p hp => ?_
    rw [rule_of_mem_sharedNumberReports hp]
    decide
  rw [whileReports, saidAt_append, saidAt_append, saidAt_append, hshared, List.append_nil]
  refine List.append_left_eq_self.mpr (List.append_eq_nil_iff.mpr ⟨?_, ?_⟩)
  · split
    · split <;> rfl
    · rfl
  · split
    · refine saidAt_eq_nil fun p hp => ?_
      rcases rule_of_mem_labelReports hp with h | h <;> rw [h] <;> decide
    · rfl

end rules

theorem saidAt_nestingTooDeep (c : Context) (f : Facts) (id : NodeId) :
    saidAt .nestingTooDeep (reportsAt c f id) = if isTooDeep c.tree id then [id] else [] := by
  have hdepth : saidAt .nestingTooDeep (depthReports c.tree id) =
      if isTooDeep c.tree id then [id] else [] := by
    rw [depthReports]
    split <;> rfl
  by_cases hkind : c.tree.kind id ∈ Rule.nestingTooDeep.kinds
  · rw [← hdepth]
    simp only [Rule.kinds, List.mem_cons, List.not_mem_nil, or_false] at hkind
    rcases hkind with hkind | hkind
    · simp only [reportsAt, hkind, saidAt_ifReports]
    · simp only [reportsAt, hkind, saidAt_whileReports]
  · have hshallow : isTooDeep c.tree id = false := by
      rw [Bool.eq_false_iff]
      intro hdeep
      apply hkind
      rcases (isTooDeep_iff.mp hdeep).1 with h | h <;> rw [h] <;> decide
    rw [saidAt_reportsAt_eq_nil hkind, hshallow]
    rfl

/-- What is said whatever is known is said node by node. -/
theorem saidAt_scan_eq_flatMap {c : Context} {ρ : Rule} {said : NodeId → List NodeId}
    (h : ∀ f id, saidAt ρ (reportsAt c f id) = said id) (f : Facts) (ids : List NodeId) :
    saidAt ρ (scan c f ids) = ids.flatMap said := by
  induction ids generalizing f with
  | nil => rfl
  | cons id ids ih => rw [scan, saidAt_append, h, ih, List.flatMap_cons]

/-- The nesting is found to be too deep at the nodes visited that are nested too deep. -/
theorem foundAt_nestingTooDeep (files : Resolver) (r : Record) {levels : Levels}
    (h : levels.level .nestingTooDeep ≠ .ignore) :
    foundAt .nestingTooDeep (findings files r levels) =
      (visited r.tree).filter (isTooDeep r.tree) := by
  rw [foundAt_findings files r h, saidAt_reports rfl,
    saidAt_scan_eq_flatMap (saidAt_nestingTooDeep _)]
  show (visited r.tree).flatMap (fun id => if isTooDeep r.tree id then [id] else []) = _
  induction visited r.tree with
  | nil => rfl
  | cons id ids ih =>
      rw [List.flatMap_cons, ih, List.filter_cons]
      split <;> rfl

/-- The limits of nesting are exact.  The walk is handed the nodes that are below no closed node,
each once.  Nesting is found to be too deep at the closed loops and conditions among them, each
once: at loops in three loops, neither more nor less, and at conditions in ten conditions, and at no
node that is inside another such node. -/
theorem nesting_limits_exact {r : Record} (h : r.tree.Formed) (files : Resolver)
    (levels : Levels) :
    Tree.Walks r.tree (Progress.visit ⟨files, r⟩ levels) [Tree.root] {} (visited r.tree)
      (r.tree.walk (Progress.visit ⟨files, r⟩ levels) Tree.root {}) ∧
    (visited r.tree).Nodup ∧
    (∀ i, i ∈ visited r.tree ↔ i < r.tree.size ∧ ∀ a ∈ r.tree.ancestors i, ¬Closed r.tree a) ∧
    (levels.level .nestingTooDeep ≠ .ignore →
      (foundAt .nestingTooDeep (findings files r levels)).Nodup ∧
      (∀ n, n ∈ foundAt .nestingTooDeep (findings files r levels) ↔ n ∈ visited r.tree ∧
        (r.tree.kind n = .ifBlock ∨ r.tree.kind n = .whileLoop) ∧ Closed r.tree n) ∧
      (∀ n ∈ foundAt .nestingTooDeep (findings files r levels),
        (r.tree.kind n = .whileLoop → (around r.tree .whileLoop n).length = 3) ∧
        (r.tree.kind n = .ifBlock → (around r.tree .ifBlock n).length = 10)) ∧
      ∀ a ∈ foundAt .nestingTooDeep (findings files r levels),
        ∀ b ∈ foundAt .nestingTooDeep (findings files r levels), a ∉ r.tree.ancestors b) := by
  have hrooted := h.toRooted
  have hnodup : (visited r.tree).Nodup := hrooted.nodup_visits _
  have hwalk := hrooted.walks_visits (Progress.visit ⟨files, r⟩ levels)
    (fun id => !isCut r.tree id) (fun _ _ => rfl) {}
  refine ⟨hwalk, hnodup, fun i => mem_visited_iff_closed hrooted, fun hlevel => ?_⟩
  have hfound : ∀ n, n ∈ foundAt .nestingTooDeep (findings files r levels) ↔
      n ∈ visited r.tree ∧ (r.tree.kind n = .ifBlock ∨ r.tree.kind n = .whileLoop) ∧
        Closed r.tree n := by
    intro n
    rw [foundAt_nestingTooDeep files r hlevel, List.mem_filter, isTooDeep_iff]
  refine ⟨?_, hfound, fun n hn => ?_, fun a ha b hb hab => ?_⟩
  · rw [foundAt_nestingTooDeep files r hlevel]
    exact hnodup.filter _
  · obtain ⟨hvisited, -, hclosed⟩ := (hfound n).mp hn
    have hlt := (hrooted.mem_visits.mp hvisited).1
    have hreach := (mem_visited_iff hrooted hlt).mp hvisited
    -- closed from one side, and in reach from the other
    cases hclosed with
    | inclusion hkind => simp [hkind]
    | loop hkind hdepth =>
        refine ⟨fun _ => Nat.le_antisymm hreach.loops hdepth, fun hother => ?_⟩
        rw [hkind] at hother
        cases hother
    | condition hkind hdepth =>
        refine ⟨fun hother => ?_, fun _ => Nat.le_antisymm hreach.conditions hdepth⟩
        rw [hkind] at hother
        cases hother
  · have hopen := ((mem_visited_iff_closed hrooted).mp ((hfound b).mp hb).1).2 a hab
    exact hopen ((hfound a).mp ha).2.2

/-- A program of five loops, one in the other. -/
def coiledFile : Record :=
  { uri := "main.src"
    includes := []
    tree :=
      { source := ""
        nodes := #[
          { kind := .file .program, span := ⟨0, 0⟩, children := [1] },
          { kind := .whileLoop, span := ⟨0, 0⟩, parent := some 0, children := [2] },
          { kind := .whileLoop, span := ⟨0, 0⟩, parent := some 1, children := [3] },
          { kind := .whileLoop, span := ⟨0, 0⟩, parent := some 2, children := [4] },
          { kind := .whileLoop, span := ⟨0, 0⟩, parent := some 3, children := [5] },
          { kind := .whileLoop, span := ⟨0, 0⟩, parent := some 4 }]
        declarations := #[] } }

theorem facts_coiledFile :
    coiledFile.tree.defect? = none ∧ visited coiledFile.tree = [0, 1, 2, 3, 4] ∧
      (around coiledFile.tree .whileLoop 3).length = 2 ∧
      (around coiledFile.tree .whileLoop 4).length = 3 ∧ 4 ∈ coiledFile.tree.ancestors 5 := by
  decide

/-- The fourth loop is found, and the fifth is not, although it is closed too. -/
theorem nesting_limits_exact_coiledFile :
    coiledFile.tree.Formed ∧ strict.level .nestingTooDeep ≠ .ignore ∧
      4 ∈ foundAt .nestingTooDeep (findings ({} : Workspace).resolver coiledFile strict) ∧
      3 ∉ foundAt .nestingTooDeep (findings ({} : Workspace).resolver coiledFile strict) ∧
      5 ∉ foundAt .nestingTooDeep (findings ({} : Workspace).resolver coiledFile strict) ∧
      ¬∀ a ∈ coiledFile.tree.ancestors 5, ¬Closed coiledFile.tree a := by
  obtain ⟨hcheck, hvisited, hthird, hfourth, habove⟩ := facts_coiledFile
  have hformed : coiledFile.tree.Formed := (Tree.defect?_eq_none_iff.mp hcheck).toFormed
  have hlevel : strict.level .nestingTooDeep ≠ .ignore := by decide
  obtain ⟨-, -, -, hfindings⟩ := nesting_limits_exact hformed ({} : Workspace).resolver strict
  obtain ⟨-, hfound, hlimits, hapart⟩ := hfindings hlevel
  have hmem : 4 ∈ foundAt .nestingTooDeep (findings ({} : Workspace).resolver coiledFile strict) :=
    (hfound 4).mpr ⟨hvisited ▸ by decide, .inr rfl, .loop rfl (Nat.le_of_eq hfourth.symm)⟩
  refine ⟨hformed, hlevel, hmem, fun hthree => ?_, fun hfive => hapart 4 hmem 5 hfive habove,
    fun hopen => hopen 4 habove ((hfound 4).mp hmem).2.2⟩
  have hthree := (hlimits 3 hthree).1 rfl
  rw [hthird] at hthree
  cases hthree

end Lint
end NcInsight
