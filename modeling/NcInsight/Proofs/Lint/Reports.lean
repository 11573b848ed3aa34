import NcInsight.Proofs.Lint.Run
import NcInsight.Proofs.Tree.Nesting

/-
What the rules can say at a node.

Whatever a rule finds wrong when a node is visited, it says it of that node or of a node that the
tree lists as a child, and every rule has its own kinds of nodes whose visit can give rise to it
(`madeAt_reportsAt`).  A finding has the node, the rule and the detail of its report, and all
else in it follows from these and from the level of the rule (`finding?_eq_some`).
-/
namespace NcInsight

/-- The kinds of nodes that a rule is applied at. -/
def Rule.kinds : Rule → List Kind
  | .duplicateInclude | .includeNotFound => [.inclusion]
  | .duplicateFunction => [.function]
  | .unknownSymbol => [.symbol]
  | .duplicateDeclaration => [.varDef, .labelDef, .var]
  | .duplicateAddress => [.varDef, .labelDef]
  | .duplicateSequence | .duplicateLabel | .duplicateLabelSequence =>
      [.sequenceNumber, .label, .var]
  | .seqNotFound => [.goto]
  | .incompleteParameter => [.statement]
  | .assignmentConstant => [.assignment]
  | .tooManyConditionals | .mixedConditionals => [.ifBlock]
  | .nestingTooDeep => [.ifBlock, .whileLoop]
  | .whileLogicOperator | .doEndNumberNotEqual | .doEndNumberTooBig | .duplicateDoEndNumber =>
      [.whileLoop]

/-- The report can come from the visit to node `id`. -/
structure Report.MadeAt (t : Tree) (id : NodeId) (p : Report) : Prop where
  anchor : p.node = id ∨ ∃ i, p.node ∈ t.children i
  about : t.kind id ∈ p.rule.kinds

namespace Report.MadeAt

variable {t : Tree} {id : NodeId}

theorem self {rule : Rule} {detail : Option String} (h : t.kind id ∈ rule.kinds) :
    MadeAt t id ⟨rule, id, detail⟩ :=
  ⟨.inl rfl, h⟩

theorem child {p : Report} {i : NodeId} (hc : p.node ∈ t.children i)
    (h : t.kind id ∈ p.rule.kinds) : p.MadeAt t id :=
  ⟨.inr ⟨i, hc⟩, h⟩

end Report.MadeAt

namespace Lint

variable {c : Context} {t : Tree} {f : Facts} {id : NodeId} {p : Report}

/-! ## Includes and names -/

theorem madeAt_includeReports (hkind : c.tree.kind id ∈ Rule.duplicateInclude.kinds)
    (hp : p ∈ includeReports c f id) : p.MadeAt c.tree id := by
  rw [includeReports] at hp
  split at hp
  · cases hp
  · simp only at hp
    split at hp
    · rw [List.mem_singleton.mp hp]
      exact .self hkind
    · obtain ⟨-, hp⟩ := List.mem_ite_nil_left.mp hp
      rw [List.mem_singleton.mp hp]
      exact .self hkind

theorem madeAt_declarationReports (hkind : c.tree.kind id ∈ Rule.duplicateAddress.kinds)
    (hp : p ∈ declarationReports c f id) : p.MadeAt c.tree id := by
  rw [declarationReports] at hp
  split at hp
  · cases hp
  · simp only [List.mem_append, List.mem_ite_nil_right, List.mem_singleton] at hp
    rcases hp with ⟨-, rfl⟩ | ⟨-, rfl⟩
    · have hmem := List.mem_append_left [.var] hkind
      exact .self hmem
    · exact .self hkind

theorem madeAt_symbolReports (hkind : t.kind id ∈ Rule.unknownSymbol.kinds)
    (hp : p ∈ symbolReports t f id) : p.MadeAt t id := by
  simp only [symbolReports, List.mem_ite_nil_left, List.mem_singleton] at hp
  obtain ⟨-, rfl⟩ := hp
  exact .self hkind

/-! ## Programs and jumps -/

theorem madeAt_functionReports (hkind : t.kind id ∈ Rule.duplicateFunction.kinds)
    (hp : p ∈ functionReports t f id) : p.MadeAt t id := by
  rw [functionReports] at hp
  split at hp
  · cases hp
  case h_2 name hname =>
    split at hp
    · cases hp
    · obtain ⟨-, hp⟩ := List.mem_ite_nil_right.mp hp
      rw [List.mem_singleton.mp hp]
      exact .child (Tree.mem_children_of_childOrFirst hname) hkind

theorem mem_children_of_numberNode {n : NodeId} (h : numberNode t id = some n) :
    n ∈ t.children id := by
  rcases Option.or_eq_some_iff.mp h with hfield | ⟨-, hkind⟩
  · exact Tree.mem_children_of_childByField hfield
  · exact List.mem_of_find?_eq_some hkind

/-- A place to jump to is found at the node that makes it, or at its number. -/
theorem anchor_of_entryOf {anchor : NodeId} {e : Entry} (h : entryOf f t id = some (anchor, e)) :
    anchor = id ∨ anchor ∈ t.children id := by
  have hself : ∀ {o : Option String},
      (o.map fun v => entryAt t id v .label) = some (anchor, e) → anchor = id := by
    intro o ho
    obtain ⟨v, -, he⟩ := Option.map_eq_some_iff.mp ho
    exact (congrArg Prod.fst he).symm
  rw [entryOf] at h
  split at h
  · obtain ⟨n, hn, he⟩ := Option.map_eq_some_iff.mp h
    obtain rfl : n = anchor := congrArg Prod.fst he
    exact .inr (mem_children_of_numberNode hn)
  · split at h
    · exact .inl (hself h)
    · cases h
  · split at h
    · split at h
      · exact .inl (hself h)
      · cases h
    · cases h
  · cases h

theorem of_mem_entryReports (hp : p ∈ entryReports t f id) :
    p.rule.kinds = Rule.duplicateLabel.kinds ∧ (p.node = id ∨ p.node ∈ t.children id) := by
  have hkinds : ∀ earlier later,
      (duplicateRule earlier later).kinds = Rule.duplicateLabel.kinds := by
    intro earlier later
    cases earlier <;> cases later <;> rfl
  rw [entryReports] at hp
  split at hp
  · cases hp
  case h_2 anchor e hentry =>
    split at hp
    · cases hp
    · rw [List.mem_singleton.mp hp]
      exact ⟨hkinds _ _, anchor_of_entryOf hentry⟩

theorem madeAt_entryReports (hkind : t.kind id ∈ Rule.duplicateLabel.kinds)
    (hp : p ∈ entryReports t f id) : p.MadeAt t id := by
  obtain ⟨hkinds, hnode⟩ := of_mem_entryReports hp
  exact ⟨hnode.imp_right fun hc => ⟨id, hc⟩, hkinds ▸ hkind⟩

theorem madeAt_varReports (hkind : t.kind id = .var) (hp : p ∈ varReports t f id) :
    p.MadeAt t id := by
  simp only [varReports, List.mem_append, List.mem_ite_nil_right, List.mem_singleton] at hp
  rcases hp with ⟨-, rfl⟩ | hp
  · exact .self (by rw [hkind]; decide)
  · exact madeAt_entryReports (by rw [hkind]; decide) hp

theorem of_mem_gotoReports (hp : p ∈ gotoReports t f id) :
    p.rule = .seqNotFound ∧ p.node ∈ t.children id := by
  rw [gotoReports] at hp
  split at hp
  · cases hp
  case h_2 label hlabel =>
    split at hp
    · cases hp
    · obtain ⟨-, hp⟩ := List.mem_ite_nil_left.mp hp
      rw [List.mem_singleton.mp hp]
      exact ⟨rfl, Tree.mem_children_of_childOrFirst hlabel⟩

/-! ## Statements and conditions -/

theorem madeAt_statementReports (hkind : t.kind id ∈ Rule.incompleteParameter.kinds)
    (hp : p ∈ statementReports t id) : p.MadeAt t id := by
  obtain ⟨child, hchild, rfl⟩ := List.mem_map.mp hp
  exact .child (List.mem_of_mem_filter hchild) hkind

theorem madeAt_assignmentReports (hkind : t.kind id ∈ Rule.assignmentConstant.kinds)
    (hp : p ∈ assignmentReports t f id) : p.MadeAt t id := by
  rw [assignmentReports] at hp
  split at hp
  · cases hp
  case h_2 target htarget =>
    obtain ⟨-, hp⟩ := List.mem_ite_nil_right.mp hp
    rw [List.mem_singleton.mp hp]
    exact .child (Tree.mem_children_of_childOrFirst htarget) hkind

/-- Every condition of a chain is the child of some node, if the first is. -/
theorem exists_parent_of_mem_chainWithin {fuel : Nat} {first n i : NodeId}
    (hfirst : first ∈ t.children i) (hn : n ∈ chainWithin t fuel first) :
    ∃ j, n ∈ t.children j := by
  induction fuel generalizing first i with
  | zero =>
      rw [List.mem_singleton.mp hn]
      exact ⟨i, hfirst⟩
  | succ fuel ih =>
      rw [chainWithin] at hn
      split at hn
      · rw [List.mem_singleton.mp hn]
        exact ⟨i, hfirst⟩
      case h_2 next hnext =>
        rcases List.mem_cons.mp hn with rfl | hn
        · exact ⟨i, hfirst⟩
        · exact ih (Tree.mem_children_of_childByField hnext) hn

theorem mem_of_mem_mixedReports {ops : List NodeId} (hp : p ∈ mixedReports t ops) :
    p.node ∈ ops ∧ p.rule = .mixedConditionals := by
  cases ops with
  | nil => cases hp
  | cons first rest =>
      obtain ⟨op, hop, rfl⟩ := List.mem_map.mp hp
      exact ⟨List.mem_cons_of_mem first (List.mem_of_mem_filter hop), rfl⟩

theorem madeAt_conditionReports (hkind : t.kind id ∈ Rule.mixedConditionals.kinds)
    (hp : p ∈ conditionReports t id) : p.MadeAt t id := by
  rw [conditionReports] at hp
  split at hp
  · cases hp
  case h_2 first hfirst =>
    rcases List.mem_append.mp hp with hp | hp
    · obtain ⟨-, -, hp⟩ := Option.bind_eq_some_iff.mp (Option.mem_toList.mp hp)
      obtain ⟨n, hn, rfl⟩ := Option.map_eq_some_iff.mp hp
      obtain ⟨i, hi⟩ := exists_parent_of_mem_chainWithin
        (Tree.mem_children_of_childByField hfirst) (List.mem_of_getElem? hn)
      exact .child hi hkind
    · obtain ⟨hop, hrule⟩ := mem_of_mem_mixedReports hp
      obtain ⟨n, -, hn⟩ := List.mem_filterMap.mp hop
      exact .child (Tree.mem_children_of_childByField hn) (hrule ▸ hkind)

theorem madeAt_depthReports (hkind : t.kind id ∈ Rule.nestingTooDeep.kinds)
    (hp : p ∈ depthReports t id) : p.MadeAt t id := by
  obtain ⟨-, hp⟩ := List.mem_ite_nil_right.mp hp
  rw [List.mem_singleton.mp hp]
  exact .self hkind

theorem madeAt_ifReports (hkind : t.kind id = .ifBlock) (hp : p ∈ ifReports t id) :
    p.MadeAt t id := by
  rcases List.mem_append.mp hp with hp | hp
  · exact madeAt_conditionReports (by rw [hkind]; decide) hp
  · exact madeAt_depthReports (by rw [hkind]; decide) hp

/-! ## Loops -/

theorem madeAt_labelReports (hkind : t.kind id ∈ Rule.doEndNumberTooBig.kinds)
    {doLabel endLabel : NodeId} (hdo : doLabel ∈ t.children id)
    (hend : endLabel ∈ t.children id) (hp : p ∈ labelReports f t doLabel endLabel) :
    p.MadeAt t id := by
  have hlabels : ∀ n ∈ [doLabel, endLabel], n ∈ t.children id := by simp [hdo, hend]
  simp only [labelReports, List.mem_append, List.mem_ite_nil_left, List.mem_map,
    List.mem_filter] at hp
  rcases hp with ⟨-, n, hn, rfl⟩ | ⟨n, ⟨hn, -⟩, rfl⟩
  · exact .child (hlabels n hn) hkind
  · exact .child (hlabels n hn) hkind

theorem madeAt_sharedNumberReports (hkind : t.kind id ∈ Rule.duplicateDoEndNumber.kinds)
    (hp : p ∈ sharedNumberReports f t id) : p.MadeAt t id := by
  rw [sharedNumberReports] at hp
  split at hp
  · cases hp
  · -- the label is that of a loop further out, so the child of another node
    obtain ⟨label, hlabel, rfl⟩ := List.mem_map.mp hp
    obtain ⟨loop, -, hloop⟩ := List.mem_filterMap.mp (List.mem_of_mem_filter hlabel)
    exact .child (Tree.mem_children_of_childByField hloop) hkind

theorem madeAt_whileReports (hkind : t.kind id = .whileLoop) (hp : p ∈ whileReports f t id) :
    p.MadeAt t id := by
  have hloop : t.kind id ∈ Rule.whileLogicOperator.kinds := List.mem_singleton.mpr hkind
  simp only [whileReports, List.mem_append] at hp
  rcases hp with ((hp | hp) | hp) | hp
  · split at hp
    case h_1 condition hcondition =>
      obtain ⟨-, hp⟩ := List.mem_ite_nil_right.mp hp
      rw [List.mem_singleton.mp hp]
      exact .child (Tree.mem_children_of_childByField hcondition) hloop
    · cases hp
  · split at hp
    case h_1 doLabel endLabel hdo hend =>
      exact madeAt_labelReports hloop (Tree.mem_children_of_childByField hdo)
        (Tree.mem_children_of_childByField hend) hp
    · cases hp
  · exact madeAt_sharedNumberReports hloop hp
  · exact madeAt_depthReports (by rw [hkind]; decide) hp

/-! ## All rules -/

theorem madeAt_reportsAt (hp : p ∈ reportsAt c f id) : p.MadeAt c.tree id := by
  simp only [reportsAt] at hp
  split at hp
  all_goals rename_i hkind
  · exact madeAt_includeReports (by rw [hkind]; decide) hp
  · exact madeAt_declarationReports (by rw [hkind]; decide) hp
  · exact madeAt_declarationReports (by rw [hkind]; decide) hp
  · exact madeAt_symbolReports (by rw [hkind]; decide) hp
  · exact madeAt_varReports hkind hp
  · exact madeAt_entryReports (by rw [hkind]; decide) hp
  · exact madeAt_entryReports (by rw [hkind]; decide) hp
  · exact madeAt_functionReports (by rw [hkind]; decide) hp
  · exact madeAt_statementReports (by rw [hkind]; decide) hp
  · exact madeAt_assignmentReports (by rw [hkind]; decide) hp
  · exact madeAt_ifReports hkind hp
  · exact madeAt_whileReports hkind hp
  · cases hp

theorem exists_visit_of_mem_scan {ids : List NodeId} (hp : p ∈ scan c f ids) :
    ∃ g, ∃ id ∈ ids, p ∈ reportsAt c g id := by
  induction ids generalizing f with
  | nil => cases hp
  | cons id ids ih =>
      rcases List.mem_append.mp hp with hp | hp
      · exact ⟨f, id, List.mem_cons_self, hp⟩
      · obtain ⟨g, j, hj, hp⟩ := ih hp
        exact ⟨g, j, List.mem_cons_of_mem id hj, hp⟩

end Lint

/-- A finding is its report, with what the rule says in general and with the severity of its
level. -/
theorem Report.finding?_eq_some {t : Tree} {levels : Levels} {p : Report} {f : Finding}
    (h : p.finding? t levels = some f) :
    (levels.level p.rule).severity? = some f.severity ∧
      f = { node := p.node, rule := p.rule, severity := f.severity, span := t.span p.node,
            code := p.rule.code, detail := p.detail,
            message := match p.detail with
              | none => p.rule.message
              | some d => p.rule.message ++ ": " ++ d } := by
  obtain ⟨severity, hseverity, rfl⟩ := Option.map_eq_some_iff.mp h
  obtain ⟨rule, node, detail⟩ := p
  cases detail <;> exact ⟨hseverity, rfl⟩

/-- A report is found if its rule is not ignored. -/
theorem Report.isSome_finding? (t : Tree) {levels : Levels} {p : Report}
    (h : levels.level p.rule ≠ .ignore) : (p.finding? t levels).isSome = true := by
  rw [finding?, Option.isSome_map]
  cases hlevel : levels.level p.rule with
  | ignore => exact absurd hlevel h
  | warning => rfl
  | error => rfl

end NcInsight
