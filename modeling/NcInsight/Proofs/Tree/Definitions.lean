import NcInsight.Proofs.Tree.Links

/-
The declarations of a built tree.

Annotation takes the declarations one after the other and marks nodes on the way, so what it reads
later has been written to.  It writes annotations only.  So each declaration says what the finished
tree has at its definition (`Declaration.Describes`), there is one for each definition
(`nodes_run`), and a node without a link gets the one to the first declaration that it belongs
to (`Marked.collectOne`).  In a tree that a script builds a definition stands in front of its name
and a name is below one node, so this is the declaration that it is the name of
(`declarations_ofScript`).
-/
namespace NcInsight

/-- The kind of the nodes that declare this. -/
def DeclarationKind.definition : DeclarationKind → Kind
  | var => .varDef
  | label => .labelDef

namespace Tree

/-- A definition with something in it. -/
def isDefinition (t : Tree) (i : NodeId) : Bool :=
  (t.kind i == .varDef || t.kind i == .labelDef) && !(t.children i).isEmpty

def definitions (t : Tree) : List NodeId := (List.range t.size).filter t.isDefinition

theorem isSome_head? (t : Tree) (i : NodeId) : (t.head? i).isSome = t.isDefinition i := by
  have hpart : (t.childOrFirst i .name).isSome = !(t.children i).isEmpty := by
    rw [childOrFirst, childByField, child, Option.isSome_or]
    cases t.children i <;> simp
  have hkind : (Annotate.declarationKind (t.kind i)).isSome =
      (t.kind i == .varDef || t.kind i == .labelDef) := by
    cases t.kind i <;> rfl
  rw [head?, isDefinition, ← hpart, ← hkind]
  cases Annotate.declarationKind (t.kind i) <;> simp

theorem pairwise_definitions (t : Tree) : t.definitions.Pairwise (· < ·) :=
  List.pairwise_lt_range.filter _

end Tree

namespace Declaration

/-- What the declaration says is so in the tree. -/
structure Describes (d : Declaration) (t : Tree) : Prop where
  kind : t.kind d.node = d.kind.definition
  name : ∃ c ∈ t.children d.node, d.nameNode = some c ∧ d.name = t.text c
  value : ∀ v, d.valueNode = some v → v ∈ t.children d.node ∧ d.nameNode ≠ some v
  valueText : d.valueText = d.valueNode.map t.text

theorem Describes.of_shape {d : Declaration} {t u : Tree} (hd : d.Describes t)
    (h : SameShape t.nodes u.nodes) (hsource : t.source = u.source) : d.Describes u where
  kind := (Tree.kind_eq_of_shape h d.node).symm.trans hd.kind
  name := by
    rw [← Tree.children_eq_of_shape h, ← funext (Tree.text_eq_of_shape h hsource)]
    exact hd.name
  value := by
    rw [← Tree.children_eq_of_shape h]
    exact hd.value
  valueText := by
    rw [← funext (Tree.text_eq_of_shape h hsource)]
    exact hd.valueText

/-- The node is the definition or its name. -/
def has (d : Declaration) (j : NodeId) : Bool := d.node == j || d.nameNode == some j

end Declaration

namespace Annotate

theorem declarationKind_eq_some {kind : Kind} {k : DeclarationKind} :
    declarationKind kind = some k ↔ kind = k.definition := by
  cases k <;> cases kind <;> simp [declarationKind, DeclarationKind.definition]

theorem mem_children_of_part {nodes : Array Node} {n : Node} {f : Field} {i : Nat} {c : NodeId}
    (h : part nodes n f i = some c) : c ∈ n.children := by
  rcases Option.or_eq_some_iff.mp h with hfind | ⟨-, hget⟩
  · exact List.mem_of_find?_eq_some hfind
  · exact List.mem_of_getElem? hget

/-! ## One declaration -/

section declared

variable {source : String} {nodes : Array Node} {t : Tree} {i : NodeId} {d : Declaration}

theorem isSome_declared (hs : SameShape nodes t.nodes) (hsource : t.source = source) :
    (declared source nodes i).isSome = t.isDefinition i := by
  have hdecl := congrArg Option.isSome (declared_outline source nodes hs hsource i)
  rw [Option.isSome_map, Option.isSome_map, Tree.isSome_head?] at hdecl
  exact hdecl

theorem describes_of_declared (hs : SameShape nodes t.nodes) (hsource : t.source = source)
    (h : declared source nodes i = some d) : d.node = i ∧ d.Describes t := by
  have hraw : d.node = i ∧ d.Describes ⟨source, nodes, #[]⟩ := by
    unfold declared at h
    simp only at h
    split at h
    case h_1 k c hkind hname =>
      cases h
      refine ⟨rfl, declarationKind_eq_some.mp hkind, ⟨c, mem_children_of_part hname, rfl, rfl⟩,
        fun v hv => ?_, rfl⟩
      obtain ⟨hv, hne⟩ := Option.filter_eq_some_iff.mp hv
      exact ⟨mem_children_of_part hv, fun he => by simp [Option.some.inj he] at hne⟩
    case h_2 => cases h
  exact ⟨hraw.1, hraw.2.of_shape hs hsource.symm⟩

/-- One declaration links what it has, where there is no link. -/
theorem link_collectOne {s : State} (hs : SameShape s.nodes t.nodes) (hsource : t.source = source)
    (h : declared source s.nodes i = some d) {j : Nat} (hj : j < s.nodes.size) :
    ((collectOne source s i).nodes.getD j Node.blank).link =
      (s.nodes.getD j Node.blank).link.or
        (if d.has j then some { id := s.declarations.size } else none) := by
  have hmark : ∀ n, (mark d s.declarations.size n).link =
      n.link.or (some { id := s.declarations.size }) := fun _ => rfl
  obtain ⟨hnode, hdesc⟩ := describes_of_declared hs hsource h
  obtain ⟨c, -, hc, -⟩ := hdesc.name
  rw [node_collectOne h hc hj, Declaration.has, hnode, hc]
  by_cases hjc : j = c
  · subst hjc
    by_cases hji : j = i
    · simp [hji, hmark]
    · simp [hji, hmark]
  · by_cases hji : j = i
    · simp [hji, hmark, hji ▸ hjc]
    · simp [hjc, hji, Ne.symm hjc, Ne.symm hji]

end declared

/-! ## All declarations -/

section collect

variable {source : String} {t : Tree} (hsource : t.source = source)
include hsource

theorem nodes_foldl (ids : List NodeId) (s : State) (hs : SameShape s.nodes t.nodes) :
    (ids.foldl (collectOne source) s).declarations.toList.map (·.node) =
      s.declarations.toList.map (·.node) ++ ids.filter t.isDefinition := by
  induction ids generalizing s with
  | nil => simp
  | cons i ids ih =>
      have hsome := isSome_declared (i := i) hs hsource
      rw [List.foldl_cons, ih _ ((collectOne_shape source s i).trans hs)]
      cases hd : declared source s.nodes i with
      | none =>
          rw [hd] at hsome
          rw [collectOne_of_none hd, List.filter_cons_of_neg (by simp [← hsome])]
      | some d =>
          rw [hd] at hsome
          rw [declarations_collectOne hd, List.filter_cons_of_pos hsome.symm, Array.toList_push,
            List.map_append, List.append_assoc, List.map_cons, List.map_nil,
            (describes_of_declared hs hsource hd).1]
          rfl

theorem describes_collectOne {s : State} (hs : SameShape s.nodes t.nodes)
    (h : ∀ d ∈ s.declarations, d.Describes t) (i : NodeId) :
    ∀ d ∈ (collectOne source s i).declarations, d.Describes t := by
  cases hd : declared source s.nodes i with
  | none =>
      rw [collectOne_of_none hd]
      exact h
  | some d =>
      rw [declarations_collectOne hd]
      intro e he
      rcases Array.mem_push.mp he with he | rfl
      · exact h e he
      · exact (describes_of_declared hs hsource hd).2

/-- A node that came without a link has the one to the first declaration that has it. -/
def Marked (nodes : Array Node) (s : State) : Prop :=
  ∀ j, j < nodes.size → (nodes.getD j Node.blank).link = none →
    (s.nodes.getD j Node.blank).link =
      (s.declarations.findIdx? (·.has j)).map fun k => { id := k }

theorem Marked.collectOne {nodes : Array Node} {s : State} (h : Marked nodes s)
    (hs : SameShape s.nodes t.nodes) (hsize : s.nodes.size = nodes.size) (i : NodeId) :
    Marked nodes (collectOne source s i) := by
  cases hd : declared source s.nodes i with
  | none =>
      rw [collectOne_of_none hd]
      exact h
  | some d =>
      intro j hj hnone
      rw [link_collectOne hs hsource hd (hsize ▸ hj), h j hj hnone, declarations_collectOne hd,
        Array.findIdx?_push]
      cases s.declarations.findIdx? (·.has j) with
      | some k => rfl
      | none =>
          split <;> rfl

end collect

section run

variable (source : String) (nodes : Array Node)

theorem nodes_run :
    (run source nodes).declarations.toList.map (·.node) = (run source nodes).definitions := by
  have hshape : SameShape (run source nodes).nodes nodes := run_shape source nodes
  have hfold := nodes_foldl (t := run source nodes) rfl (List.range nodes.size)
    { nodes, declarations := #[] } hshape.symm
  rw [Tree.definitions, show (run source nodes).size = nodes.size from hshape.1]
  exact hfold

theorem describes_run : ∀ d ∈ (run source nodes).declarations, d.Describes (run source nodes) := by
  apply collect_of_step source nodes fun s => ∀ d ∈ s.declarations, d.Describes (run source nodes)
  · exact fun d hd => absurd hd (Array.not_mem_empty d)
  · intro s i hs h
    exact describes_collectOne rfl (hs.trans (run_shape source nodes).symm) h i

/-- A node that came without a link leads to the first declaration that has it. -/
theorem link_run_of_findIdx? {j k : Nat} (hj : j < (run source nodes).size)
    (hnone : (nodes.getD j Node.blank).link = none)
    (h : (run source nodes).declarations.findIdx? (·.has j) = some k) :
    ((run source nodes).node j).link = some { id := k } := by
  have hshape : SameShape (run source nodes).nodes nodes := run_shape source nodes
  have hmarked : Marked nodes (collect source nodes) := by
    apply collect_of_step source nodes (Marked nodes)
    · intro j _ hnone
      rw [hnone, Array.findIdx?_empty]
      rfl
    · intro s i hs hmarked
      exact hmarked.collectOne (t := run source nodes) rfl (hs.trans hshape.symm) hs.1 i
  have hlink := hmarked j (Nat.lt_of_lt_of_eq hj hshape.1) hnone
  have hcollect : ((collect source nodes).nodes.getD j Node.blank).link = some { id := k } :=
    hlink.trans (congrArg (Option.map fun k => ({ id := k } : Link)) h)
  rw [node_run hj, link_tagNode, linkNode_of_link (by rw [hcollect]; rfl), hcollect]

end run

end Annotate

namespace Tree

section

variable {t : Tree} (hnodes : t.declarations.toList.map (·.node) = t.definitions)
  {k : Nat} {d : Declaration} (hd : t.declarations[k]? = some d)
include hnodes hd

theorem node_lt_size_of_declaration : d.node < t.size := by
  have hmem : d.node ∈ t.declarations.toList.map (·.node) :=
    List.mem_map_of_mem (Array.mem_toList_iff.mpr (Array.mem_of_getElem? hd))
  rw [hnodes] at hmem
  exact List.mem_range.mp (List.mem_of_mem_filter hmem)

theorem node_lt_of_declarations {l : Nat} {e : Declaration} (he : t.declarations[l]? = some e)
    (hlt : l < k) : e.node < d.node := by
  have hpairwise := t.pairwise_definitions
  rw [← hnodes, List.pairwise_map, List.pairwise_iff_getElem] at hpairwise
  obtain ⟨hk, rfl⟩ := Array.getElem?_eq_some_iff.mp hd
  obtain ⟨hl, rfl⟩ := Array.getElem?_eq_some_iff.mp he
  exact hpairwise l k (by simpa using hl) (by simpa using hk) hlt

/-- A declaration is the first to have a node if none in front has it. -/
theorem findIdx?_has {j : NodeId} (hj : d.has j = true)
    (hfirst : ∀ e ∈ t.declarations, e.node < d.node → e.has j = false) :
    t.declarations.findIdx? (·.has j) = some k := by
  rw [Array.findIdx?_eq_some_iff_getElem]
  obtain ⟨hk, hget⟩ := Array.getElem?_eq_some_iff.mp hd
  refine ⟨hk, by rw [hget]; exact hj, fun l hl => ?_⟩
  have hlt := node_lt_of_declarations hnodes hd (Array.getElem?_eq_getElem (Nat.lt_trans hl hk)) hl
  rw [hfirst _ (Array.getElem_mem _) hlt]
  exact Bool.false_ne_true

end

/-- A name belongs to no declaration in front of its own: definitions stand in front of what they
have, and a node is below one node. -/
theorem Nested.has_of_nameNode {t : Tree} (ht : t.Nested) {d e : Declaration} {c : NodeId}
    (hc : c ∈ t.children d.node) (he : e.Describes t) (hlt : e.node < d.node) :
    e.has c = false := by
  obtain ⟨hpos, hsize, habove⟩ := ht.mem_children.mp hc
  have hup := ht.above_lt hpos hsize
  rw [Declaration.has, Bool.or_eq_false_iff, beq_eq_false_iff_ne, beq_eq_false_iff_ne]
  constructor
  · exact Nat.ne_of_lt (Nat.lt_trans hlt (habove ▸ hup))
  · intro hname
    obtain ⟨a, ha, hea, -⟩ := he.name
    obtain rfl : c = a := Option.some.inj (hname.symm.trans hea)
    have hsame : d.node = e.node := habove.symm.trans (ht.mem_children.mp ha).2.2
    exact Nat.lt_irrefl _ (hsame ▸ hlt)

theorem link_ofScript_of_findIdx? (kind : FileKind) {steps : List Step} {j k : Nat}
    (hj : j < (Tree.ofScript kind steps).size) (hleft : Step.linkLeft steps j = none)
    (h : (Tree.ofScript kind steps).declarations.findIdx? (·.has j) = some k) :
    ((Tree.ofScript kind steps).node j).link = some { id := k } := by
  refine Annotate.link_run_of_findIdx? _ _ hj ?_ h
  rw [Builder.of_modify Node.link]
  exact (link_close_run kind steps j).trans hleft

/-- Of the declarations in a tree that a script builds, there is one for each definition with
something in it, in the order of the tree.  Each is of the kind of its definition; its name is a
child, its value, if it has one, is another, and it has their texts.  The name leads to it unless
the script set a link there, and so does the definition, unless it is itself the name in another
definition. -/
theorem declarations_ofScript (kind : FileKind) (steps : List Step) :
    let t := Tree.ofScript kind steps
    t.declarations.toList.map (·.node) = t.definitions ∧
    ∀ k d, t.declarations[k]? = some d →
      t.kind d.node = d.kind.definition ∧
      (∃ c ∈ t.children d.node, d.nameNode = some c ∧ d.name = t.text c ∧
        (Step.linkLeft steps c = none → (t.node c).link = some { id := k })) ∧
      (∀ v, d.valueNode = some v → v ∈ t.children d.node ∧ d.nameNode ≠ some v) ∧
      d.valueText = d.valueNode.map t.text ∧
      (Step.linkLeft steps d.node = none → (∀ e ∈ t.declarations, e.nameNode ≠ some d.node) →
        (t.node d.node).link = some { id := k }) := by
  intro t
  have ht : t.Nested := (laid_ofScript kind steps).toNested
  have hnodes : t.declarations.toList.map (·.node) = t.definitions := Annotate.nodes_run _ _
  refine ⟨hnodes, fun k d hd => ?_⟩
  have hdesc : ∀ e ∈ t.declarations, e.Describes t := Annotate.describes_run _ _
  have hself := hdesc d (Array.mem_of_getElem? hd)
  obtain ⟨c, hc, hname, htext⟩ := hself.name
  refine ⟨hself.kind, ⟨c, hc, hname, htext, fun hleft => ?_⟩, hself.value, hself.valueText,
    fun hleft hfree => ?_⟩
  · apply link_ofScript_of_findIdx? kind (ht.mem_children.mp hc).2.1 hleft
    apply findIdx?_has hnodes hd (by simp [Declaration.has, hname])
    exact fun e he hlt => ht.has_of_nameNode hc (hdesc e he) hlt
  · apply link_ofScript_of_findIdx? kind (node_lt_size_of_declaration hnodes hd) hleft
    apply findIdx?_has hnodes hd (by simp [Declaration.has])
    intro e he hlt
    rw [Declaration.has, Bool.or_eq_false_iff, beq_eq_false_iff_ne, beq_eq_false_iff_ne]
    exact ⟨Nat.ne_of_lt hlt, hfree e he⟩

/-- A definition that has another one for its name, behind its value. -/
def definitionInName : List Step :=
  [.start .varDef none, .token .numeric "1" (some .value), .start .labelDef (some .name),
    .token .label "L" none, .finish, .finish]

theorem declarations_definitionInName :
    (Tree.ofScript .program definitionInName).declarations.toList =
        [{ kind := .var, name := "L", node := 1, nameNode := some 3, valueNode := some 2,
            valueText := some "1", valueType := .undefined },
          { kind := .label, name := "L", node := 3, nameNode := some 4, valueNode := none,
            valueText := none, valueType := .undefined }] := by
  decide

theorem declarations_ofScript_definitionInName :
    let t := Tree.ofScript .program definitionInName
    t.definitions = [1, 3] ∧ (t.node 1).link = some { id := 0 } ∧
      (t.node 3).link = some { id := 0 } ∧ (t.node 4).link = some { id := 1 } := by
  intro t
  have hlist := declarations_definitionInName
  obtain ⟨hnodes, hall⟩ := declarations_ofScript .program definitionInName
  rw [hlist] at hnodes
  obtain ⟨-, ⟨c, -, hc, -, hname⟩, -, -, hself⟩ :=
    hall 0 _ (by rw [← Array.getElem?_toList, hlist]; rfl)
  obtain ⟨-, ⟨b, -, hb, -, hinner⟩, -⟩ := hall 1 _ (by rw [← Array.getElem?_toList, hlist]; rfl)
  cases hc
  cases hb
  refine ⟨hnodes.symm, hself (by decide) fun e he hfree => ?_, hname (by decide),
    hinner (by decide)⟩
  rw [← Array.mem_toList_iff, hlist] at he
  have hmem := List.mem_map_of_mem (f := Declaration.nameNode) he
  rw [hfree] at hmem
  exact absurd hmem (by decide)

end Tree
end NcInsight
