import NcInsight.Proofs.Lint.Depth

/-
Chains of conditions.

A condition names the next one and the operator that joins them, each as a child of its own.  In a
tree that has one way to each node such a chain comes to an end (`joined_chain`) and repeats no
condition, and no condition is in the chains of two blocks (`Guards.eq_of_mem`).  So what lint says
of the chains it says of each apart and once: the fifth condition is one too many if a sixth
follows, and an operator is out of place if it is not that of the first link (`chains_judged`).
-/
namespace NcInsight
namespace Lint

/-- The conditions from one on, each the next of the one before, with no bound on their number. -/
inductive Joined (t : Tree) : NodeId → List NodeId → Prop
  | last {c : NodeId} (hnone : t.childByField c .next = none) : Joined t c [c]
  | link {c d : NodeId} {cs : List NodeId} (hnext : t.childByField c .next = some d)
      (hrest : Joined t d cs) : Joined t c (c :: cs)

/-- The operators of some conditions, in order. -/
def operators (t : Tree) (cs : List NodeId) : List NodeId := cs.filterMap (t.childByField · .logic)

/-- Block `i`, which the walk comes to, is under the conditions `cs`. -/
structure Guards (t : Tree) (i : NodeId) (cs : List NodeId) : Prop where
  met : i ∈ visited t
  block : t.kind i = .ifBlock
  condition : ∃ first, t.childByField i .condition = some first ∧ Joined t first cs

variable {t : Tree}

theorem field_of_childByField {i c : NodeId} {f : Field} (h : t.childByField i f = some c) :
    t.field c = some f :=
  eq_of_beq (List.find?_some (p := fun c => t.field c == some f) h)

/-! ## One chain -/

namespace Joined

variable {first : NodeId} {cs ds : List NodeId}

theorem unique (hc : Joined t first cs) (hd : Joined t first ds) : cs = ds := by
  induction hc generalizing ds with
  | last hnone =>
      cases hd with
      | last => rfl
      | link hnext => rw [hnone] at hnext; cases hnext
  | @link c d cs hnext hrest ih =>
      cases hd with
      | last hnone => rw [hnone] at hnext; cases hnext
      | @link _ e ds hother hrest' =>
          rw [hnext] at hother
          cases hother
          rw [ih hrest']

/-- A condition of the chain is the first one, or the next of another. -/
theorem first_or_next (h : Joined t first cs) {c : NodeId} (hc : c ∈ cs) :
    c = first ∨ ∃ p ∈ cs, t.childByField p .next = some c := by
  induction h with
  | last hnone => exact .inl (List.mem_singleton.mp hc)
  | @link b d cs hnext hrest ih =>
      rcases List.mem_cons.mp hc with rfl | hc
      · exact .inl rfl
      · rcases ih hc with rfl | ⟨p, hp, hlink⟩
        · exact .inr ⟨b, List.mem_cons_self, hnext⟩
        · exact .inr ⟨p, List.mem_cons_of_mem b hp, hlink⟩

theorem ne_nil (hj : Joined t first cs) : cs ≠ [] := by
  cases hj <;> exact List.cons_ne_nil _ _

/-- Down the chain the line up gets longer. -/
theorem length_ancestors_le (hj : Joined t first cs) (h : t.Rooted) {c : NodeId} (hc : c ∈ cs) :
    (t.ancestors first).length ≤ (t.ancestors c).length := by
  induction hj with
  | last hnone => rw [List.mem_singleton.mp hc]
  | @link b d cs hnext hrest ih =>
      rcases List.mem_cons.mp hc with rfl | hc
      · exact Nat.le_refl _
      · have hle := ih hc
        rw [h.ancestors_of_mem (Tree.mem_children_of_childByField hnext), List.length_cons] at hle
        omega

theorem nodup (hj : Joined t first cs) (h : t.Rooted) : cs.Nodup := by
  induction hj with
  | @last c hnone => exact List.nodup_singleton c
  | @link b d cs hnext hrest ih =>
      refine List.nodup_cons.mpr ⟨fun hb => ?_, ih⟩
      have hle := hrest.length_ancestors_le h hb
      rw [h.ancestors_of_mem (Tree.mem_children_of_childByField hnext), List.length_cons] at hle
      omega

end Joined

/-- Run lemma of the chain: every link makes the line up longer, and that line is shorter than the
array. -/
theorem joined_chainWithin (h : t.Rooted) {fuel : Nat} {id : NodeId} (hid : id < t.size)
    (hfuel : t.size ≤ fuel + (t.ancestors id).length) : Joined t id (chainWithin t fuel id) := by
  induction fuel generalizing id with
  | zero =>
      have hlt := h.length_ancestors_lt hid
      omega
  | succ fuel ih =>
      rw [chainWithin]
      cases hnext : t.childByField id .next with
      | none => exact .last hnext
      | some d =>
          have hd := Tree.mem_children_of_childByField hnext
          refine .link hnext (ih (h.lt_of_mem hd) ?_)
          rw [h.ancestors_of_mem hd, List.length_cons]
          omega

theorem joined_chain (h : t.Rooted) {first : NodeId} (hfirst : first < t.size) :
    Joined t first (chain t first) :=
  joined_chainWithin h hfirst (Nat.le_add_right _ _)

/-! ## The chains of a file -/

/-- A condition that two chains share leads up to the first of both, since it is the first of its
chain or the next of another condition, and its role tells which. -/
theorem Joined.first_eq (h : t.Rooted) {c : NodeId} (hlt : c < t.size) {a b : NodeId}
    {as bs : List NodeId} (ha : t.field a = some .condition) (hb : t.field b = some .condition)
    (has : Joined t a as) (hbs : Joined t b bs) (hca : c ∈ as) (hcb : c ∈ bs) : a = b := by
  refine h.induct (P := fun c => c ∈ as → c ∈ bs → a = b) ?_ ?_ hlt hca hcb
  · intro hca hcb
    rcases has.first_or_next hca with rfl | ⟨p, -, hp⟩
    · rcases hbs.first_or_next hcb with rfl | ⟨q, -, hq⟩
      · rfl
      · exact absurd (Tree.mem_children_of_childByField hq) (h.root_not_mem q)
    · exact absurd (Tree.mem_children_of_childByField hp) (h.root_not_mem p)
  · intro p c hc ih hca hcb
    have hparent : ∀ {q}, t.childByField q .next = some c → q = p := by
      intro q hq
      have hq := h.parent_of_mem (Tree.mem_children_of_childByField hq)
      rw [h.parent_of_mem hc] at hq
      exact (Option.some.inj hq).symm
    rcases has.first_or_next hca with rfl | ⟨q, hqa, hq⟩
    · rcases hbs.first_or_next hcb with rfl | ⟨q, -, hq⟩
      · rfl
      · rw [field_of_childByField hq] at ha
        cases ha
    · rcases hbs.first_or_next hcb with rfl | ⟨q', hqb, hq'⟩
      · rw [field_of_childByField hq] at hb
        cases hb
      · rw [hparent hq] at hqa
        rw [hparent hq'] at hqb
        exact ih hqa hqb

/-- No condition is in the chains of two blocks. -/
theorem Guards.eq_of_mem (h : t.Rooted) {i j c : NodeId} {cs ds : List NodeId}
    (hi : Guards t i cs) (hj : Guards t j ds) (hc : c ∈ cs) (hd : c ∈ ds) : i = j := by
  obtain ⟨a, ha, hcs⟩ := hi.condition
  obtain ⟨b, hb, hds⟩ := hj.condition
  have hparent := h.parent_of_mem (Tree.mem_children_of_childByField ha)
  have hlt : c < t.size := by
    rcases hcs.first_or_next hc with rfl | ⟨p, -, hp⟩
    · exact h.lt_of_mem (Tree.mem_children_of_childByField ha)
    · exact h.lt_of_mem (Tree.mem_children_of_childByField hp)
  rw [hcs.first_eq h hlt (field_of_childByField ha) (field_of_childByField hb) hds hc hd,
    h.parent_of_mem (Tree.mem_children_of_childByField hb)] at hparent
  exact (Option.some.inj hparent).symm

/-- The conditions that a node is under; only a block is under any. -/
def conditionsOf (t : Tree) (i : NodeId) : List NodeId :=
  if t.kind i = .ifBlock then ((t.childByField i .condition).map (chain t)).getD [] else []

theorem guards_iff (h : t.Rooted) {i : NodeId} {cs : List NodeId} :
    Guards t i cs ↔ i ∈ visited t ∧ conditionsOf t i = cs ∧ cs ≠ [] := by
  constructor
  · rintro ⟨hvisited, hblock, first, hfirst, hcs⟩
    have hlt := h.lt_of_mem (Tree.mem_children_of_childByField hfirst)
    refine ⟨hvisited, ?_, hcs.ne_nil⟩
    rw [conditionsOf, if_pos hblock, hfirst, Option.map_some, Option.getD_some]
    exact (joined_chain h hlt).unique hcs
  · rintro ⟨hvisited, hcs, hne⟩
    rw [conditionsOf] at hcs
    split at hcs
    case isTrue hblock =>
      cases hfirst : t.childByField i .condition with
      | none =>
          rw [hfirst] at hcs
          exact absurd hcs.symm hne
      | some first =>
          have hlt := h.lt_of_mem (Tree.mem_children_of_childByField hfirst)
          rw [hfirst, Option.map_some, Option.getD_some] at hcs
          exact ⟨hvisited, hblock, first, hfirst, hcs ▸ joined_chain h hlt⟩
    case isFalse => exact absurd hcs.symm hne

/-! ## What is said of chains -/

/-- The condition that is one too many. -/
def overlong (cs : List NodeId) : List NodeId := if 5 < cs.length then cs[4]?.toList else []

/-- The operators that are not the first one. -/
def misplaced (t : Tree) : List NodeId → List NodeId
  | [] => []
  | op :: ops => ops.filter fun n => t.text n != t.text op

theorem saidAt_mixedReports (ops : List NodeId) :
    saidAt .tooManyConditionals (mixedReports t ops) = [] ∧
      saidAt .mixedConditionals (mixedReports t ops) = misplaced t ops := by
  constructor
  · refine saidAt_eq_nil fun p hp => ?_
    rw [(mem_of_mem_mixedReports hp).2]
    decide
  · have hall : ∀ p ∈ mixedReports t ops, (p.rule == .mixedConditionals) = true := by
      intro p hp
      rw [(mem_of_mem_mixedReports hp).2]
      rfl
    rw [saidAt, List.filter_eq_self.mpr hall]
    cases ops with
    | nil => rfl
    | cons op ops =>
        rw [mixedReports, List.map_map]
        exact List.map_id _

theorem saidAt_conditionReports {i : NodeId} (h : t.kind i = .ifBlock) :
    saidAt .tooManyConditionals (conditionReports t i) = overlong (conditionsOf t i) ∧
      saidAt .mixedConditionals (conditionReports t i) =
        misplaced t (operators t (conditionsOf t i)) := by
  rw [conditionReports, conditionsOf, if_pos h]
  cases t.childByField i .condition with
  | none => exact ⟨rfl, rfl⟩
  | some first =>
      obtain ⟨hnone, hmixed⟩ := saidAt_mixedReports (t := t) (operators t (chain t first))
      simp only [Option.map_some, Option.getD_some, List.head?_drop, saidAt_append]
      rw [operators] at hnone hmixed
      rw [hnone, hmixed, List.append_nil]
      by_cases hlong : 5 < (chain t first).length
      · have hfive : 4 < (chain t first).length := by omega
        have hsixth : (chain t first)[maxConditionLinks + 1]? = some (chain t first)[5] :=
          List.getElem?_eq_getElem hlong
        have hfifth : (chain t first)[maxConditionLinks]? = some (chain t first)[4] :=
          List.getElem?_eq_getElem hfive
        rw [hsixth, hfifth, overlong, if_pos hlong, List.getElem?_eq_getElem hfive]
        exact ⟨rfl, rfl⟩
      · have hsixth : (chain t first)[maxConditionLinks + 1]? = none :=
          List.getElem?_eq_none_iff.mpr (Nat.le_of_not_lt hlong)
        rw [hsixth, overlong, if_neg hlong]
        exact ⟨rfl, rfl⟩

theorem saidAt_chains (c : Context) (f : Facts) (i : NodeId) :
    saidAt .tooManyConditionals (reportsAt c f i) = overlong (conditionsOf c.tree i) ∧
      saidAt .mixedConditionals (reportsAt c f i) =
        misplaced c.tree (operators c.tree (conditionsOf c.tree i)) := by
  by_cases hkind : c.tree.kind i = .ifBlock
  · have hdepth : ∀ ρ : Rule, ρ ≠ .nestingTooDeep → saidAt ρ (depthReports c.tree i) = [] := by
      intro ρ hρ
      refine saidAt_eq_nil fun p hp he => hρ ?_
      obtain ⟨-, hp⟩ := List.mem_ite_nil_right.mp hp
      rw [← he, List.mem_singleton.mp hp]
    obtain ⟨hmany, hmixed⟩ := saidAt_conditionReports hkind
    simp only [reportsAt, hkind, ifReports, saidAt_append]
    rw [hdepth _ (by decide), hdepth _ (by decide), List.append_nil, List.append_nil, hmany, hmixed]
    exact ⟨rfl, rfl⟩
  · have hnot : ∀ ρ : Rule, ρ.kinds = [.ifBlock] → saidAt ρ (reportsAt c f i) = [] := by
      intro ρ hρ
      refine saidAt_reportsAt_eq_nil fun hmem => hkind ?_
      rw [hρ] at hmem
      exact List.mem_singleton.mp hmem
    rw [hnot _ rfl, hnot _ rfl, conditionsOf, if_neg hkind]
    exact ⟨rfl, rfl⟩

theorem foundAt_chains (files : Resolver) (r : Record) (levels : Levels) :
    (levels.level .tooManyConditionals ≠ .ignore →
      foundAt .tooManyConditionals (findings files r levels) =
        (visited r.tree).flatMap fun i => overlong (conditionsOf r.tree i)) ∧
    (levels.level .mixedConditionals ≠ .ignore →
      foundAt .mixedConditionals (findings files r levels) =
        (visited r.tree).flatMap fun i =>
          misplaced r.tree (operators r.tree (conditionsOf r.tree i))) := by
  constructor
  · intro hlevel
    rw [foundAt_findings files r hlevel, saidAt_reports rfl,
      saidAt_scan_eq_flatMap fun f i => (saidAt_chains _ f i).1]
    rfl
  · intro hlevel
    rw [foundAt_findings files r hlevel, saidAt_reports rfl,
      saidAt_scan_eq_flatMap fun f i => (saidAt_chains _ f i).2]
    rfl

/-! ## Findings -/

theorem mem_overlong {cs : List NodeId} {n : NodeId} :
    n ∈ overlong cs ↔ 5 < cs.length ∧ cs[4]? = some n := by
  rw [overlong, List.mem_ite_nil_right, Option.mem_toList]

theorem mem_misplaced {ops : List NodeId} {n : NodeId} :
    n ∈ misplaced t ops ↔ ∃ op rest, ops = op :: rest ∧ n ∈ rest ∧ t.text n ≠ t.text op := by
  cases ops with
  | nil => simp [misplaced]
  | cons op rest => simp [misplaced]

theorem nodup_overlong (cs : List NodeId) : (overlong cs).Nodup := by
  rw [overlong]
  split
  · cases cs[4]? with
    | none => exact List.nodup_nil
    | some n => exact List.nodup_singleton n
  · exact List.nodup_nil

/-- No two conditions have an operator in common. -/
theorem eq_of_logic (h : t.Rooted) {c d n : NodeId} (hc : t.childByField c .logic = some n)
    (hd : t.childByField d .logic = some n) : c = d := by
  have hparent := h.parent_of_mem (Tree.mem_children_of_childByField hc)
  rw [h.parent_of_mem (Tree.mem_children_of_childByField hd)] at hparent
  exact (Option.some.inj hparent).symm

theorem nodup_misplaced (h : t.Rooted) {i : NodeId} (hi : i ∈ visited t) :
    (misplaced t (operators t (conditionsOf t i))).Nodup := by
  have hcs : (conditionsOf t i).Nodup := by
    by_cases hnil : conditionsOf t i = []
    · rw [hnil]
      exact List.nodup_nil
    · obtain ⟨first, -, hjoined⟩ := ((guards_iff h).mpr ⟨hi, rfl, hnil⟩).condition
      exact hjoined.nodup h
  have hops : (operators t (conditionsOf t i)).Nodup :=
    hcs.filterMap fun c d n hc hd => eq_of_logic h hc hd
  cases hsplit : operators t (conditionsOf t i) with
  | nil => exact List.nodup_nil
  | cons op rest =>
      rw [hsplit] at hops
      exact (List.nodup_cons.mp hops).2.filter _

/-- What is said of the nodes that belong to a block is said once, if no node belongs to two. -/
theorem count_flatMap_visited (h : t.Rooted) (Owns : NodeId → NodeId → Prop)
    {said : NodeId → List NodeId} (hsaid : ∀ i n, n ∈ said i → Owns i n)
    (hnodup : ∀ i ∈ visited t, (said i).Nodup)
    (hone : ∀ i ∈ visited t, ∀ j ∈ visited t, ∀ n, Owns i n → Owns j n → i = j)
    {i n : NodeId} (hi : i ∈ visited t) (hn : Owns i n) :
    ((visited t).flatMap said).count n = if n ∈ said i then 1 else 0 := by
  split
  case isTrue hmem =>
    refine List.count_eq_one_of_mem ?_ (List.mem_flatMap.mpr ⟨i, hi, hmem⟩)
    have hvisited : (visited t).Nodup := h.nodup_visits _
    refine List.nodup_flatMap.mpr ⟨hnodup, ?_⟩
    refine hvisited.pairwise_of_forall_ne fun j hj k hk hne => ?_
    exact List.disjoint_left.mpr fun m hmj hmk =>
      hne (hone j hj k hk m (hsaid j m hmj) (hsaid k m hmk))
  case isFalse hmem =>
    refine List.count_eq_zero_of_not_mem fun hfound => hmem ?_
    obtain ⟨j, hj, hmj⟩ := List.mem_flatMap.mp hfound
    rw [hone i hi j hj n hn (hsaid j n hmj)]
    exact hmj

theorem eq_of_mem_conditionsOf (h : t.Rooted) {i j c : NodeId} (hi : i ∈ visited t)
    (hj : j ∈ visited t) (hci : c ∈ conditionsOf t i) (hcj : c ∈ conditionsOf t j) : i = j :=
  Guards.eq_of_mem h ((guards_iff h).mpr ⟨hi, rfl, List.ne_nil_of_mem hci⟩)
    ((guards_iff h).mpr ⟨hj, rfl, List.ne_nil_of_mem hcj⟩) hci hcj

theorem count_overlong (h : t.Rooted) {i n : NodeId} {cs : List NodeId} (hguards : Guards t i cs)
    (hfifth : cs[4]? = some n) :
    ((visited t).flatMap fun i => overlong (conditionsOf t i)).count n =
      if 5 < cs.length then 1 else 0 := by
  obtain ⟨hi, rfl, -⟩ := (guards_iff h).mp hguards
  rw [count_flatMap_visited h (fun i n => n ∈ conditionsOf t i)
    (fun i n hn => List.mem_of_getElem? (mem_overlong.mp hn).2) (fun i _ => nodup_overlong _)
    (fun i hi j hj n => eq_of_mem_conditionsOf h hi hj) hi (List.mem_of_getElem? hfifth)]
  simp only [mem_overlong, hfifth, and_true]

theorem count_misplaced (h : t.Rooted) {i op n : NodeId} {cs ops : List NodeId}
    (hguards : Guards t i cs) (hops : operators t cs = op :: ops) (hn : n ∈ ops) :
    ((visited t).flatMap fun i => misplaced t (operators t (conditionsOf t i))).count n =
      if t.text n ≠ t.text op then 1 else 0 := by
  obtain ⟨hi, rfl, -⟩ := (guards_iff h).mp hguards
  have hone : ∀ i ∈ visited t, ∀ j ∈ visited t, ∀ n, n ∈ operators t (conditionsOf t i) →
      n ∈ operators t (conditionsOf t j) → i = j := by
    intro i hi j hj n hni hnj
    obtain ⟨c, hc, hcn⟩ := List.mem_filterMap.mp hni
    obtain ⟨d, hd, hdn⟩ := List.mem_filterMap.mp hnj
    rw [eq_of_logic h hdn hcn] at hd
    exact eq_of_mem_conditionsOf h hi hj hc hd
  have hsaid : ∀ i n, n ∈ misplaced t (operators t (conditionsOf t i)) →
      n ∈ operators t (conditionsOf t i) := by
    intro i n hn
    obtain ⟨first, rest, hsplit, hrest, -⟩ := mem_misplaced.mp hn
    rw [hsplit]
    exact List.mem_cons_of_mem first hrest
  have howned : n ∈ operators t (conditionsOf t i) := by
    rw [hops]
    exact List.mem_cons_of_mem op hn
  rw [count_flatMap_visited h (fun i n => n ∈ operators t (conditionsOf t i)) hsaid
    (fun i hi => nodup_misplaced h hi) hone hi howned, hops]
  simp [misplaced, hn]

theorem detail_of_mem_conditionReports {i : NodeId} {p : Report} (hp : p ∈ conditionReports t i)
    (hrule : p.rule = .mixedConditionals) : p.detail = some (t.text p.node) := by
  rw [conditionReports] at hp
  split at hp
  · cases hp
  · rcases List.mem_append.mp hp with hp | hp
    · obtain ⟨-, -, hp⟩ := Option.bind_eq_some_iff.mp (Option.mem_toList.mp hp)
      obtain ⟨n, -, rfl⟩ := Option.map_eq_some_iff.mp hp
      cases hrule
    · rw [mixedReports.eq_def] at hp
      split at hp
      · cases hp
      · obtain ⟨op, -, rfl⟩ := List.mem_map.mp hp
        rfl

theorem detail_of_mem_reports {c : Context} {p : Report} (hp : p ∈ reports c)
    (hrule : p.rule = .mixedConditionals) : p.detail = some (c.tree.text p.node) := by
  rcases List.mem_append.mp hp with hp | hp
  · obtain ⟨g, i, -, hp⟩ := exists_visit_of_mem_scan hp
    have hkind := (madeAt_reportsAt hp).about
    rw [hrule] at hkind
    have hblock : c.tree.kind i = .ifBlock := List.mem_singleton.mp hkind
    simp only [reportsAt, hblock, ifReports] at hp
    rcases List.mem_append.mp hp with hp | hp
    · exact detail_of_mem_conditionReports hp hrule
    · obtain ⟨-, hp⟩ := List.mem_ite_nil_right.mp hp
      rw [List.mem_singleton.mp hp] at hrule
      cases hrule
  · obtain ⟨g, -, hp⟩ := List.mem_flatMap.mp hp
    rw [(of_mem_gotoReports hp).1] at hrule
    cases hrule

/-- Chains of conditions are judged exactly.  From the condition of a block the next ones can be
followed in one way, and to an end.  Of the conditions that a block is under the fifth is found to
be one too many if there are more than five, and once; and of their operators each behind the first
is found to be out of place if its text is not that of the first, once, and with its text as detail.
Nothing else is found. -/
theorem chains_judged {r : Record} (h : r.tree.Formed) (files : Resolver) (levels : Levels) :
    (∀ i first, r.tree.childByField i .condition = some first →
      ∃! cs, Joined r.tree first cs) ∧
    (levels.level .tooManyConditionals ≠ .ignore →
      (∀ i cs n, Guards r.tree i cs → cs[4]? = some n →
        (foundAt .tooManyConditionals (findings files r levels)).count n =
          if 5 < cs.length then 1 else 0) ∧
      ∀ n ∈ foundAt .tooManyConditionals (findings files r levels),
        ∃ i cs, Guards r.tree i cs ∧ cs[4]? = some n) ∧
    (levels.level .mixedConditionals ≠ .ignore →
      (∀ i cs op ops n, Guards r.tree i cs → operators r.tree cs = op :: ops → n ∈ ops →
        (foundAt .mixedConditionals (findings files r levels)).count n =
          if r.tree.text n ≠ r.tree.text op then 1 else 0) ∧
      ∀ n ∈ foundAt .mixedConditionals (findings files r levels),
        ∃ i cs op ops, Guards r.tree i cs ∧ operators r.tree cs = op :: ops ∧ n ∈ ops) ∧
    ∀ f ∈ findings files r levels, f.rule = .mixedConditionals →
      f.detail = some (r.tree.text f.node) := by
  have hrooted := h.toRooted
  obtain ⟨hmany, hmixed⟩ := foundAt_chains files r levels
  refine ⟨fun i first hfirst => ?_, fun hlevel => ?_, fun hlevel => ?_, fun f hf hrule => ?_⟩
  · have hlt := hrooted.lt_of_mem (Tree.mem_children_of_childByField hfirst)
    exact ⟨_, joined_chain hrooted hlt, fun cs hcs => hcs.unique (joined_chain hrooted hlt)⟩
  · rw [hmany hlevel]
    refine ⟨fun i cs n hguards => count_overlong hrooted hguards, fun n hn => ?_⟩
    obtain ⟨i, hi, hn⟩ := List.mem_flatMap.mp hn
    have hfifth := (mem_overlong.mp hn).2
    have hne := List.ne_nil_of_mem (List.mem_of_getElem? hfifth)
    exact ⟨i, _, (guards_iff hrooted).mpr ⟨hi, rfl, hne⟩, hfifth⟩
  · rw [hmixed hlevel]
    refine ⟨fun i cs op ops n hguards => count_misplaced hrooted hguards, fun n hn => ?_⟩
    obtain ⟨i, hi, hn⟩ := List.mem_flatMap.mp hn
    obtain ⟨op, ops, hops, hmem, -⟩ := mem_misplaced.mp hn
    have hne : conditionsOf r.tree i ≠ [] := by
      intro hnil
      rw [hnil] at hops
      cases hops
    exact ⟨i, _, op, ops, (guards_iff hrooted).mpr ⟨hi, rfl, hne⟩, hops, hmem⟩
  · rw [findings_eq] at hf
    obtain ⟨p, hp, hfinding⟩ := List.mem_filterMap.mp hf
    have hdetail := detail_of_mem_reports hp ((Report.rule_of_finding? hfinding).symm.trans hrule)
    rw [(Report.finding?_eq_some hfinding).2]
    exact hdetail

/-- A program with one block under six conditions, of which the third names no operator. -/
def chainedFile : Record :=
  { uri := "main.src"
    includes := []
    tree :=
      { source := "& | & |"
        nodes := #[
          { kind := .file .program, span := ⟨0, 7⟩, children := [1] },
          { kind := .ifBlock, span := ⟨0, 7⟩, parent := some 0, children := [2] },
          { kind := .conditionalExpr, span := ⟨0, 7⟩, field := some .condition, parent := some 1,
            children := [3, 4] },
          { kind := .operator, span := ⟨0, 1⟩, field := some .logic, parent := some 2 },
          { kind := .conditionalExpr, span := ⟨2, 7⟩, field := some .next, parent := some 2,
            children := [5, 6] },
          { kind := .operator, span := ⟨2, 3⟩, field := some .logic, parent := some 4 },
          { kind := .conditionalExpr, span := ⟨4, 7⟩, field := some .next, parent := some 4,
            children := [7] },
          { kind := .conditionalExpr, span := ⟨4, 7⟩, field := some .next, parent := some 6,
            children := [8, 9] },
          { kind := .operator, span := ⟨4, 5⟩, field := some .logic, parent := some 7 },
          { kind := .conditionalExpr, span := ⟨6, 7⟩, field := some .next, parent := some 7,
            children := [10, 11] },
          { kind := .operator, span := ⟨6, 7⟩, field := some .logic, parent := some 9 },
          { kind := .conditionalExpr, span := ⟨7, 7⟩, field := some .next, parent := some 9 }]
        declarations := #[] } }

theorem facts_chainedFile :
    chainedFile.tree.defect? = none ∧ 1 ∈ visited chainedFile.tree ∧
      conditionsOf chainedFile.tree 1 = [2, 4, 6, 7, 9, 11] ∧
      operators chainedFile.tree [2, 4, 6, 7, 9, 11] = [3, 5, 8, 10] ∧
      [3, 5, 8, 10].map chainedFile.tree.text = ["&", "|", "&", "|"] := by
  decide

/-- Both rules are broken, and neither hides the other. -/
theorem chains_judged_chainedFile :
    chainedFile.tree.Formed ∧ Guards chainedFile.tree 1 [2, 4, 6, 7, 9, 11] ∧
      (foundAt .tooManyConditionals
        (findings ({} : Workspace).resolver chainedFile strict)).count 9 = 1 ∧
      (foundAt .mixedConditionals
        (findings ({} : Workspace).resolver chainedFile strict)).count 5 = 1 ∧
      (foundAt .mixedConditionals
        (findings ({} : Workspace).resolver chainedFile strict)).count 8 = 0 := by
  obtain ⟨hcheck, hvisited, hconditions, hoperators, htexts⟩ := facts_chainedFile
  have hformed : chainedFile.tree.Formed := (Tree.defect?_eq_none_iff.mp hcheck).toFormed
  have hguards : Guards chainedFile.tree 1 [2, 4, 6, 7, 9, 11] :=
    (guards_iff hformed.toRooted).mpr ⟨hvisited, hconditions, List.cons_ne_nil _ _⟩
  simp only [List.map_cons, List.map_nil, List.cons.injEq, and_true] at htexts
  obtain ⟨hfirst, hsecond, hthird, -⟩ := htexts
  obtain ⟨-, hmany, hmixed, -⟩ := chains_judged hformed ({} : Workspace).resolver strict
  refine ⟨hformed, hguards, (hmany (by decide)).1 1 _ 9 hguards rfl, ?_, ?_⟩
  · rw [(hmixed (by decide)).1 1 _ 3 [5, 8, 10] 5 hguards hoperators (by decide), hfirst, hsecond]
    rfl
  · rw [(hmixed (by decide)).1 1 _ 3 [5, 8, 10] 8 hguards hoperators (by decide), hfirst, hthird]
    rfl

end Lint
end NcInsight
