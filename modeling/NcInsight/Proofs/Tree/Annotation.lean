import NcInsight.Proofs.Tree.Layout

/-
What annotation says of the nodes of a tree, read off the tree alone.

A definition with children is a declaration, and its name is its first child or the one in that
role (`heads`).  On nodes that come without annotations, a name that a declaration introduces
gets the kind of that declaration, and any other use gets the kind of the declaration that its
text means, or else the one of its own kind of node (`usedAs`).  So whether a node names a
declared symbol depends on texts, kinds and heads only (`tagsSayUse_ofScript`).
-/
namespace NcInsight

namespace Tree

/-- What the node declares: the kind, and the node of the name. -/
def head? (t : Tree) (i : NodeId) : Option (DeclarationKind × NodeId) :=
  (Annotate.declarationKind (t.kind i)).bind fun k => (t.childOrFirst i .name).map (k, ·)

/-- All declarations of the tree. -/
def heads (t : Tree) : List (DeclarationKind × NodeId) := (List.range t.size).filterMap t.head?

theorem childOrFirst_eq_of_shape {t u : Tree} (h : SameShape t.nodes u.nodes) (i : NodeId)
    (f : Field) : t.childOrFirst i f = u.childOrFirst i f := by
  have hfield : t.field = u.field := funext (field_eq_of_shape h)
  rw [childOrFirst, childOrFirst, childByField, childByField, child, child,
    children_eq_of_shape h, hfield]

theorem head?_eq_of_shape {t u : Tree} (h : SameShape t.nodes u.nodes) (i : NodeId) :
    t.head? i = u.head? i := by
  rw [head?, head?, kind_eq_of_shape h, childOrFirst_eq_of_shape h]

theorem text_eq_of_shape {t u : Tree} (h : SameShape t.nodes u.nodes)
    (hsource : t.source = u.source) (i : NodeId) : t.text i = u.text i := by
  rw [text, text, hsource, span_eq_of_shape h]

end Tree

/-- A declaration as far as names go. -/
def Declaration.outline (d : Declaration) : DeclarationKind × String × Option NodeId :=
  (d.kind, d.name, d.nameNode)

/-- The outline of the declaration with this head. -/
def Tree.outline (t : Tree) (h : DeclarationKind × NodeId) :
    DeclarationKind × String × Option NodeId :=
  (h.1, t.text h.2, some h.2)

namespace Annotate

/-! ## The declarations -/

theorem declared_outline (source : String) (nodes : Array Node) {t : Tree}
    (hshape : SameShape nodes t.nodes) (hsource : t.source = source) (i : NodeId) :
    (declared source nodes i).map Declaration.outline = (t.head? i).map t.outline := by
  have hraw : (declared source nodes i).map Declaration.outline =
      ((⟨source, nodes, #[]⟩ : Tree).head? i).map (Tree.outline ⟨source, nodes, #[]⟩) := by
    have hpart : part nodes (nodes.getD i Node.blank) .name 0 =
        (⟨source, nodes, #[]⟩ : Tree).childOrFirst i .name := rfl
    have hkind : (nodes.getD i Node.blank).kind = (⟨source, nodes, #[]⟩ : Tree).kind i := rfl
    rw [declared, Tree.head?, hpart, hkind]
    cases declarationKind ((⟨source, nodes, #[]⟩ : Tree).kind i) with
    | none => rfl
    | some k =>
        cases (⟨source, nodes, #[]⟩ : Tree).childOrFirst i .name with
        | none => rfl
        | some c => rfl
  have hoff : Tree.outline ⟨source, nodes, #[]⟩ = t.outline := by
    funext h
    rw [Tree.outline, Tree.outline, Tree.text_eq_of_shape hshape hsource.symm]
  rw [hraw, hoff, Tree.head?_eq_of_shape hshape]

theorem collectOne_of_none {source : String} {s : State} {i : NodeId}
    (h : declared source s.nodes i = none) : collectOne source s i = s := by
  rw [collectOne, h]

theorem declarations_collectOne {source : String} {s : State} {i : NodeId} {d : Declaration}
    (h : declared source s.nodes i = some d) :
    (collectOne source s i).declarations = s.declarations.push d := by
  rw [collectOne, h]

theorem outlines_foldl {source : String} {t : Tree} (hsource : t.source = source)
    (ids : List NodeId) (s : State) (hs : SameShape s.nodes t.nodes) :
    (ids.foldl (collectOne source) s).declarations.toList.map Declaration.outline =
      s.declarations.toList.map Declaration.outline ++ (ids.filterMap t.head?).map t.outline := by
  induction ids generalizing s with
  | nil => simp
  | cons i ids ih =>
      have hdecl := declared_outline source s.nodes hs hsource i
      rw [List.foldl_cons, ih _ ((collectOne_shape source s i).trans hs), List.filterMap_cons]
      cases hd : declared source s.nodes i with
      | none =>
          have hnone : t.head? i = none := by simpa [hd] using hdecl
          rw [collectOne_of_none hd, hnone]
      | some d =>
          rw [hd, Option.map_some] at hdecl
          obtain ⟨h, hh, hout⟩ := Option.map_eq_some_iff.mp hdecl.symm
          rw [declarations_collectOne hd, hh, Array.toList_push, List.map_append,
            List.append_assoc, List.map_cons, ← hout]
          rfl

/-- The declarations of an annotated tree are its heads, in order. -/
theorem outlines_run (source : String) (nodes : Array Node) :
    (run source nodes).declarations.toList.map Declaration.outline =
      (run source nodes).heads.map (run source nodes).outline := by
  have hshape : SameShape (run source nodes).nodes nodes := run_shape source nodes
  have hfold := outlines_foldl (t := run source nodes) rfl (List.range nodes.size)
    { nodes, declarations := #[] } hshape.symm
  rw [Tree.heads, show (run source nodes).size = nodes.size from hshape.1]
  exact hfold

/-! ## The marks of declarations -/

/-- A declaration of kind `k` marked the node. -/
def IsMarked (k : DeclarationKind) (n : Node) : Prop :=
  n.referenceTypes = .single k.referenceType ∧ n.link.isSome = true

/-- The node has no annotation that bears on names. -/
def IsClean (n : Node) : Prop := n.referenceTypes = .empty ∧ n.link = none

theorem single_isEmpty (k : DeclarationKind) :
    (ReferenceTypes.single k.referenceType).isEmpty = false := by
  cases k <;> rfl

theorem isMarked_mark_of_untagged {n : Node} (h : n.referenceTypes = .empty) (d : Declaration)
    (id : DeclId) : IsMarked d.kind (mark d id n) := by
  constructor
  · show (if n.referenceTypes.isEmpty then d.referenceTypes else n.referenceTypes) = _
    rw [h]
    rfl
  · show (n.link.or (some { id })).isSome = true
    cases n.link <;> rfl

theorem isMarked_mark {k : DeclarationKind} {n : Node} (h : IsMarked k n) (d : Declaration)
    (id : DeclId) : IsMarked k (mark d id n) := by
  obtain ⟨htypes, hlink⟩ := h
  constructor
  · show (if n.referenceTypes.isEmpty then d.referenceTypes else n.referenceTypes) = _
    rw [htypes, single_isEmpty]
    rfl
  · show (n.link.or (some { id })).isSome = true
    obtain ⟨l, hl⟩ := Option.isSome_iff_exists.mp hlink
    rw [hl]
    rfl

section marks

variable {source : String} {t : Tree} {s : State} {i : NodeId} {d : Declaration}

theorem exists_head_of_declared (hsource : t.source = source) (hs : SameShape s.nodes t.nodes)
    (h : declared source s.nodes i = some d) : ∃ c, t.head? i = some (d.kind, c) ∧
      d.nameNode = some c := by
  have hdecl := declared_outline source s.nodes hs hsource i
  rw [h, Option.map_some] at hdecl
  obtain ⟨⟨k, c⟩, hh, hout⟩ := Option.map_eq_some_iff.mp hdecl.symm
  obtain ⟨rfl, -, hname⟩ : k = d.kind ∧ t.text c = d.name ∧ some c = d.nameNode := by
    simpa [Tree.outline, Declaration.outline] using hout
  exact ⟨c, hh, hname.symm⟩

theorem head?_eq_none_of_declared (hsource : t.source = source) (hs : SameShape s.nodes t.nodes)
    (h : declared source s.nodes i = none) : t.head? i = none := by
  have hdecl := declared_outline source s.nodes hs hsource i
  rw [h, Option.map_none] at hdecl
  exact Option.map_eq_none_iff.mp hdecl.symm

/-- One declaration marks its own node and the node of its name, and no other. -/
theorem node_collectOne (h : declared source s.nodes i = some d) {c : Nat}
    (hc : d.nameNode = some c) {j : Nat} (hj : j < s.nodes.size) :
    (collectOne source s i).nodes.getD j Node.blank =
      if j = c then
        mark d s.declarations.size (if j = i then
          mark d s.declarations.size (s.nodes.getD j Node.blank) else s.nodes.getD j Node.blank)
      else if j = i then mark d s.declarations.size (s.nodes.getD j Node.blank)
      else s.nodes.getD j Node.blank := by
  rw [collectOne, h]
  simp only [hc]
  rw [Builder.getD_modify _ _ fun he => by rw [← he, Array.size_modify]; exact hj,
    Builder.getD_modify _ _ fun he => he ▸ hj]

theorem isMarked_collectOne (hsource : t.source = source) (hs : SameShape s.nodes t.nodes)
    {k : DeclarationKind} {j : Nat} (hj : j < t.size)
    (hmarked : IsMarked k (s.nodes.getD j Node.blank)) (i : NodeId) :
    IsMarked k ((collectOne source s i).nodes.getD j Node.blank) := by
  cases hd : declared source s.nodes i with
  | none =>
      rw [collectOne_of_none hd]
      exact hmarked
  | some d =>
      obtain ⟨c, -, hc⟩ := exists_head_of_declared hsource hs hd
      rw [node_collectOne hd hc (hs.1 ▸ hj)]
      split
      · refine isMarked_mark ?_ d _
        split
        · exact isMarked_mark hmarked d _
        · exact hmarked
      · split
        · exact isMarked_mark hmarked d _
        · exact hmarked

theorem isMarked_foldl (hsource : t.source = source) {k : DeclarationKind} {j : Nat}
    (hj : j < t.size) (ids : List NodeId) (s : State) (hs : SameShape s.nodes t.nodes)
    (hmarked : IsMarked k (s.nodes.getD j Node.blank)) :
    IsMarked k ((ids.foldl (collectOne source) s).nodes.getD j Node.blank) := by
  induction ids generalizing s with
  | nil => exact hmarked
  | cons i ids ih =>
      exact ih _ ((collectOne_shape source s i).trans hs)
        (isMarked_collectOne hsource hs hj hmarked i)

/-- The first declaration that concerns a node without tags marks it; if none does, it stays as it
is. -/
theorem node_foldl (hsource : t.source = source) {j : Nat} (hj : j < t.size)
    (ids : List NodeId) (s : State) (hs : SameShape s.nodes t.nodes)
    (hbare : (s.nodes.getD j Node.blank).referenceTypes = .empty) :
    ((ids.foldl (collectOne source) s).nodes.getD j Node.blank = s.nodes.getD j Node.blank ∧
        ∀ i ∈ ids, ∀ k c, t.head? i = some (k, c) → c ≠ j) ∨
      ∃ i ∈ ids, ∃ k c, t.head? i = some (k, c) ∧ (i = j ∨ c = j) ∧
        IsMarked k ((ids.foldl (collectOne source) s).nodes.getD j Node.blank) := by
  induction ids generalizing s with
  | nil => exact .inl ⟨rfl, fun i hi => by cases hi⟩
  | cons i ids ih =>
      have hs' := (collectOne_shape source s i).trans hs
      rw [List.foldl_cons]
      cases hd : declared source s.nodes i with
      | none =>
          have hnone := head?_eq_none_of_declared hsource hs hd
          rw [collectOne_of_none hd]
          rcases ih s hs hbare with ⟨hsame, hfree⟩ | ⟨a, ha, hmarked⟩
          · refine .inl ⟨hsame, fun a ha k c hh => ?_⟩
            rcases List.mem_cons.mp ha with rfl | ha
            · rw [hnone] at hh
              cases hh
            · exact hfree a ha k c hh
          · exact .inr ⟨a, List.mem_cons_of_mem i ha, hmarked⟩
      | some d =>
          -- a declaration that concerns the node settles its tags, since marks are never replaced
          obtain ⟨c, hh, hc⟩ := exists_head_of_declared hsource hs hd
          have hnode := node_collectOne hd hc (hs.1 ▸ hj : j < s.nodes.size)
          by_cases hij : j = i ∨ j = c
          · have hmarked : IsMarked d.kind ((collectOne source s i).nodes.getD j Node.blank) := by
              have hone := isMarked_mark_of_untagged hbare d s.declarations.size
              rw [hnode]
              split
              · split
                · exact isMarked_mark hone d _
                · exact hone
              case isFalse hcj =>
                rw [if_pos (hij.resolve_right hcj)]
                exact hone
            exact .inr ⟨i, List.mem_cons_self, d.kind, c, hh, hij.imp Eq.symm Eq.symm,
              isMarked_foldl hsource hj ids _ hs' hmarked⟩
          · rw [not_or] at hij
            rw [if_neg hij.2, if_neg hij.1] at hnode
            rcases ih _ hs' (hnode ▸ hbare) with ⟨hsame, hfree⟩ | ⟨a, ha, hmarked⟩
            · refine .inl ⟨hsame.trans hnode, fun a ha k b hb => ?_⟩
              rcases List.mem_cons.mp ha with rfl | ha
              · rw [hh] at hb
                cases hb
                exact fun he => hij.2 he.symm
              · exact hfree a ha k b hb
            · exact .inr ⟨a, List.mem_cons_of_mem i ha, hmarked⟩

end marks

end Annotate

/-! ## What a name means -/

namespace Tree

/-- Some declaration of kind `k` introduces the name. -/
def declares (t : Tree) (k : DeclarationKind) (name : String) : Bool :=
  t.heads.any fun h => h.1 == k && t.text h.2 == name

/-- The kind of declaration that a name means to a node: a symbol prefers variables, a label
prefers labels. -/
def meant (t : Tree) (kind : Kind) (name : String) : Option DeclarationKind :=
  match kind with
  | .symbol => if t.declares .var name then some .var
      else if t.declares .label name then some .label else none
  | .label => if t.declares .label name then some .label
      else if t.declares .var name then some .var else none
  | _ => none

end Tree

namespace Annotate

section meaning

variable {t : Tree} (hout : t.declarations.toList.map Declaration.outline = t.heads.map t.outline)
include hout

theorem find_isSome (k : DeclarationKind) (name : String) :
    (find t.declarations k name).isSome = t.declares k name := by
  rw [find, Array.findIdx?_isSome, ← Array.any_toList, Tree.declares]
  have hany : (t.declarations.toList.map Declaration.outline).any
      (fun o => o.1 == k && o.2.1 == name) = t.heads.any fun h => h.1 == k && t.text h.2 == name := by
    rw [hout, List.any_map]
    rfl
  rw [← hany, List.any_map]
  rfl

omit hout in
theorem types_of_find {ds : Array Declaration} {k : DeclarationKind} {name : String} {i : DeclId}
    (h : find ds k name = some i) :
    ds[i]?.map Declaration.referenceTypes = some (.single k.referenceType) := by
  rw [find, Array.findIdx?_eq_some_iff_getElem] at h
  obtain ⟨hi, hp, -⟩ := h
  rw [Bool.and_eq_true, beq_iff_eq] at hp
  rw [Array.getElem?_eq_getElem hi, Option.map_some, Declaration.referenceTypes, hp.1]

theorem types_of_find_or (k l : DeclarationKind) (name : String) :
    ((find t.declarations k name).or (find t.declarations l name)).bind (fun i =>
        t.declarations[i]?.map Declaration.referenceTypes) =
      (if t.declares k name then some k else if t.declares l name then some l else none).map
        fun m => .single m.referenceType := by
  rw [← find_isSome hout k, ← find_isSome hout l]
  cases hk : find t.declarations k name with
  | some i => exact types_of_find hk
  | none =>
      cases hl : find t.declarations l name with
      | some i => exact types_of_find hl
      | none => rfl

theorem types_of_resolve (kind : Kind) (name : String) :
    (resolve t.declarations kind name).bind (fun i =>
        t.declarations[i]?.map Declaration.referenceTypes) =
      (t.meant kind name).map fun m => .single m.referenceType := by
  cases kind with
  | symbol => exact types_of_find_or hout .var .label name
  | label => exact types_of_find_or hout .label .var name
  | _ => rfl

end meaning

/-! ## The tags of a node -/

section tags

variable {source : String} {ds : Array Declaration} {n : Node}

theorem linkNode_of_link (h : n.link.isSome = true) : linkNode source ds n = n := by
  rw [linkNode, if_pos h]

theorem types_linkNode (n : Node) :
    (linkNode source ds n).referenceTypes = n.referenceTypes := by
  unfold linkNode
  split
  · rfl
  · split <;> rfl

theorem link_linkNode (h : n.link = none) : (linkNode source ds n).link =
    (resolve ds n.kind (Tree.spanText source n.span)).map fun i => { id := i } := by
  rw [linkNode, h]
  cases resolve ds n.kind (Tree.spanText source n.span) with
  | none => exact h
  | some i => rfl

theorem tagNode_of_types {nodes : Array Node} (h : n.referenceTypes.isEmpty = false) :
    tagNode nodes ds n = n := by
  rw [tagNode, h]
  rfl

theorem types_tagNode (nodes : Array Node) (ds : Array Declaration)
    (h : n.referenceTypes = .empty) {r : Option DeclId}
    (hlink : n.link = r.map fun i => { id := i }) : (tagNode nodes ds n).referenceTypes =
      (defaultTypes (n.parent.map fun p => (nodes.getD p Node.blank).kind) n
        (r.bind fun i => ds[i]?.map Declaration.referenceTypes)).getD .empty := by
  have hempty : n.referenceTypes.isEmpty = true := by
    rw [h]
    rfl
  cases r with
  | none =>
      simp only [tagNode, hempty, if_true, hlink, Option.map_none, Option.bind_none]
      cases defaultTypes (n.parent.map fun p => (nodes.getD p Node.blank).kind) n none with
      | none => exact h
      | some types => rfl
  | some i =>
      simp only [tagNode, hempty, if_true, hlink, Option.map_some, Option.bind_some]
      cases defaultTypes (n.parent.map fun p => (nodes.getD p Node.blank).kind) n
          (ds[i]?.map Declaration.referenceTypes) with
      | none => exact h
      | some types => rfl

theorem defaultTypes_congr {m : Node} (hkind : n.kind = m.kind) (hfield : n.field = m.field)
    (parent : Option Kind) (resolved : Option ReferenceTypes) :
    defaultTypes parent n resolved = defaultTypes parent m resolved := by
  rw [defaultTypes, defaultTypes, hkind, hfield]

theorem types_tagNode_of_untagged (nodes : Array Node) (ds : Array Declaration)
    (h : n.referenceTypes = .empty) : ∃ resolved : Option ReferenceTypes,
      (∀ r ∈ resolved, r.isEmpty = false) ∧ (tagNode nodes ds n).referenceTypes =
        (defaultTypes (n.parent.map fun p => (nodes.getD p Node.blank).kind) n resolved).getD
          .empty := by
  have hnone : ∀ r ∈ (none : Option ReferenceTypes), r.isEmpty = false := nofun
  cases hlink : n.link with
  | none => exact ⟨_, hnone, types_tagNode nodes ds h (r := none) hlink⟩
  | some l =>
      obtain ⟨uri, i⟩ := l
      cases uri with
      | none =>
          refine ⟨_, fun r hr => ?_, types_tagNode nodes ds h (r := some i) hlink⟩
          obtain ⟨d, -, rfl⟩ := Option.map_eq_some_iff.mp hr
          exact single_isEmpty d.kind
      | some u =>
          have hempty : n.referenceTypes.isEmpty = true := by
            rw [h]
            rfl
          refine ⟨none, hnone, ?_⟩
          simp only [tagNode, hempty, if_true, hlink]
          cases defaultTypes (n.parent.map fun p => (nodes.getD p Node.blank).kind) n none with
          | none => exact h
          | some types => rfl

/-- The default tags of a node are a matter of the shape of the tree it stands in. -/
theorem defaultTypes_of_bare {t : Tree} {linked : Array Node} {j : NodeId}
    (hlinked : SameShape linked t.nodes) (hn : n.bare = (t.node j).bare)
    (resolved : Option ReferenceTypes) :
    defaultTypes (n.parent.map fun p => (linked.getD p Node.blank).kind) n resolved =
      defaultTypes (t.parentKind j) (t.node j) resolved := by
  have hparent : n.parent = t.parent j := congrArg (fun b => b.parent) hn
  have hkinds : (fun p => (linked.getD p Node.blank).kind) = t.kind := by
    funext p
    have hp := congrArg Node.kind (hlinked.2 p)
    exact hp
  rw [hkinds, hparent]
  exact defaultTypes_congr (congrArg (fun b => b.kind) hn) (congrArg (fun b => b.field) hn) _ _

/-- A clean node is linked and tagged by what its text means in the tree it stands in. -/
theorem types_of_isClean_link {t : Tree} {linked : Array Node} {j : NodeId}
    (hout : t.declarations.toList.map Declaration.outline = t.heads.map t.outline)
    (hlinked : SameShape linked t.nodes) (hn : n.bare = (t.node j).bare) (h : IsClean n) :
    (tagNode linked t.declarations (linkNode t.source t.declarations n)).referenceTypes =
      (defaultTypes (t.parentKind j) (t.node j)
        ((t.meant (t.kind j) (t.text j)).map fun m => .single m.referenceType)).getD .empty := by
  have hbare : (linkNode t.source t.declarations n).bare = (t.node j).bare :=
    (bare_linkNode t.source t.declarations n).trans hn
  have hkind : n.kind = t.kind j := congrArg (fun b => b.kind) hn
  have hspan : n.span = t.span j := congrArg (fun b => b.span) hn
  have hresolve : (resolve t.declarations n.kind (Tree.spanText t.source n.span)).bind (fun i =>
      t.declarations[i]?.map Declaration.referenceTypes) =
        (t.meant (t.kind j) (t.text j)).map fun m => .single m.referenceType := by
    rw [hkind, hspan]
    exact types_of_resolve hout (t.kind j) (t.text j)
  rw [types_tagNode linked t.declarations ((types_linkNode n).trans h.1) (link_linkNode h.2),
    hresolve, defaultTypes_of_bare hlinked hbare]

theorem getD_map_of_lt (nodes : Array Node) (f : Node → Node) {j : Nat} (hj : j < nodes.size) :
    (nodes.map f).getD j Node.blank = f (nodes.getD j Node.blank) := by
  simp only [Array.getD_eq_getD_getElem?, Array.getElem?_map, Array.getElem?_eq_getElem hj,
    Option.map_some, Option.getD_some]

end tags

section run

variable {source : String} {nodes : Array Node} {j : Nat}

theorem node_run (hj : j < (run source nodes).size) : (run source nodes).node j =
    tagNode ((collect source nodes).nodes.map (linkNode source (run source nodes).declarations))
      (run source nodes).declarations (linkNode source (run source nodes).declarations
        ((collect source nodes).nodes.getD j Node.blank)) := by
  have hsize : (collect source nodes).nodes.size = (run source nodes).size :=
    (collect_shape source nodes).1.trans (run_shape source nodes).1.symm
  show Array.getD (Array.map _ (Array.map _ (collect source nodes).nodes)) j Node.blank = _
  rw [getD_map_of_lt _ _ (by rw [Array.size_map, hsize]; exact hj),
    getD_map_of_lt _ _ (by rw [hsize]; exact hj)]
  rfl

theorem types_of_isMarked {k : DeclarationKind} (hj : j < (run source nodes).size)
    (h : IsMarked k ((collect source nodes).nodes.getD j Node.blank)) :
    (run source nodes).referenceTypes j = .single k.referenceType := by
  rw [Tree.referenceTypes, node_run hj, linkNode_of_link h.2,
    tagNode_of_types (by rw [h.1]; exact single_isEmpty k), h.1]

theorem collected_shape (source : String) (nodes : Array Node) :
    SameShape (collect source nodes).nodes (run source nodes).nodes :=
  (collect_shape source nodes).trans (run_shape source nodes).symm

theorem linked_shape (source : String) (nodes : Array Node) :
    SameShape ((collect source nodes).nodes.map (linkNode source (run source nodes).declarations))
      (run source nodes).nodes :=
  (SameShape.map _ (bare_linkNode source _)).trans (collected_shape source nodes)

theorem types_of_isClean (hj : j < (run source nodes).size)
    (h : IsClean ((collect source nodes).nodes.getD j Node.blank)) :
    (run source nodes).referenceTypes j =
      (defaultTypes ((run source nodes).parentKind j) ((run source nodes).node j)
        (((run source nodes).meant ((run source nodes).kind j)
          ((run source nodes).text j)).map fun m => .single m.referenceType)).getD .empty := by
  have hnode := congrArg Node.referenceTypes (node_run hj)
  exact hnode.trans (types_of_isClean_link (outlines_run source nodes) (linked_shape source nodes)
    ((collected_shape source nodes).2 j) h)

/-- A node that collection leaves without tags gets its default tags, whatever its link. -/
theorem types_of_untagged (hj : j < (run source nodes).size)
    (h : ((collect source nodes).nodes.getD j Node.blank).referenceTypes = .empty) :
    ∃ resolved : Option ReferenceTypes, (∀ r ∈ resolved, r.isEmpty = false) ∧
      (run source nodes).referenceTypes j =
        (defaultTypes ((run source nodes).parentKind j) ((run source nodes).node j) resolved).getD
          .empty := by
  obtain ⟨resolved, hresolved, htypes⟩ := types_tagNode_of_untagged
    ((collect source nodes).nodes.map (linkNode source (run source nodes).declarations))
    (run source nodes).declarations ((types_linkNode _).trans h)
  refine ⟨resolved, hresolved, ?_⟩
  rw [defaultTypes_of_bare (linked_shape source nodes)
    ((bare_linkNode source _ _).trans ((collected_shape source nodes).2 j))] at htypes
  exact (congrArg Node.referenceTypes (node_run hj)).trans htypes

/-- A node that came without tags has those of a declaration it belongs to, or else it is the name
of no declaration and comes out of the collection as it went in. -/
theorem marked_or_kept (hbare : (nodes.getD j Node.blank).referenceTypes = .empty)
    (hj : j < (run source nodes).size) :
    (∃ i k c, i < (run source nodes).size ∧ (run source nodes).head? i = some (k, c) ∧
        (i = j ∨ c = j) ∧
        (run source nodes).referenceTypes j = .single k.referenceType) ∨
      ((∀ h ∈ (run source nodes).heads, h.2 ≠ j) ∧
        (collect source nodes).nodes.getD j Node.blank = nodes.getD j Node.blank) := by
  have hshape : SameShape (run source nodes).nodes nodes := run_shape source nodes
  have hsize : (run source nodes).size = nodes.size := hshape.1
  have hmarks := node_foldl (t := run source nodes) rfl hj (List.range nodes.size)
    { nodes, declarations := #[] } hshape.symm hbare
  rcases hmarks with ⟨hsame, hfree⟩ | ⟨i, hi, k, c, hh, hij, hmarked⟩
  · refine .inr ⟨fun h hh he => ?_, hsame⟩
    obtain ⟨i, hi, hhead⟩ := List.mem_filterMap.mp hh
    exact hfree i (hsize ▸ hi) h.1 h.2 hhead he
  · exact .inl ⟨i, k, c, hsize ▸ List.mem_range.mp hi, hh, hij, types_of_isMarked hj hmarked⟩

end run

end Annotate

/-! ## How a node is used -/

namespace Tree

/-- The kind of declaration that a node is used as: the one it is the name of, or the one that its
text means to it. -/
def usedAs (t : Tree) (i : NodeId) : Option DeclarationKind :=
  match t.heads.find? (·.2 == i) with
  | some h => some h.1
  | none =>
      match t.kind i with
      | .symbol => some ((t.meant .symbol (t.text i)).getD .var)
      | .label => some ((t.meant .label (t.text i)).getD .label)
      | .var | .code => some .var
      | _ => none

theorem mem_children_of_head? {t : Tree} {i c : NodeId} {k : DeclarationKind}
    (h : t.head? i = some (k, c)) : c ∈ t.children i := by
  obtain ⟨l, -, h⟩ := Option.bind_eq_some_iff.mp h
  obtain ⟨b, hb, he⟩ := Option.map_eq_some_iff.mp h
  cases he
  exact mem_children_of_childOrFirst hb

theorem isReference_of_head? {t : Tree} {i : NodeId} {h : DeclarationKind × NodeId}
    (hh : t.head? i = some h) : t.isReference i = false := by
  obtain ⟨l, hl, -⟩ := Option.bind_eq_some_iff.mp hh
  rw [isReference]
  revert hl
  cases t.kind i <;> simp [Annotate.declarationKind]

theorem mem_heads {t : Tree} {h : DeclarationKind × NodeId} :
    h ∈ t.heads ↔ ∃ i, i < t.size ∧ t.head? i = some h := by
  simp only [heads, List.mem_filterMap, List.mem_range]

section outlines

variable {t : Tree} (hout : t.declarations.toList.map Declaration.outline = t.heads.map t.outline)
include hout

theorem exists_declaration_of_mem_heads {k : DeclarationKind} {c : NodeId} (h : (k, c) ∈ t.heads) :
    ∃ d ∈ t.declarations.toList, d.kind = k ∧ d.name = t.text c ∧ d.nameNode = some c := by
  have hmem := List.mem_map_of_mem (f := t.outline) h
  rw [← hout] at hmem
  obtain ⟨d, hd, he⟩ := List.mem_map.mp hmem
  exact ⟨d, hd, congrArg (fun o => o.1) he, congrArg (fun o => o.2.1) he,
    congrArg (fun o => o.2.2) he⟩

theorem exists_head_of_mem_declarations {d : Declaration} (hd : d ∈ t.declarations.toList) :
    ∃ c, (d.kind, c) ∈ t.heads ∧ d.name = t.text c ∧ d.nameNode = some c := by
  have hmem := List.mem_map_of_mem (f := Declaration.outline) hd
  rw [hout] at hmem
  obtain ⟨⟨k, c⟩, hc, he⟩ := List.mem_map.mp hmem
  obtain rfl : k = d.kind := congrArg (fun o => o.1) he
  exact ⟨c, hc, (congrArg (fun o => o.2.1) he).symm, (congrArg (fun o => o.2.2) he).symm⟩

end outlines

/-- A node is the name of one declaration at most, the one right above it. -/
theorem Nested.head_inj {t : Tree} (ht : t.Nested) {h l : DeclarationKind × NodeId}
    (hh : h ∈ t.heads) (hl : l ∈ t.heads) (he : h.2 = l.2) : h = l := by
  obtain ⟨i, -, hi⟩ := mem_heads.mp hh
  obtain ⟨j, -, hj⟩ := mem_heads.mp hl
  have hic := (ht.mem_children.mp (mem_children_of_head? hi)).2.2
  have hjc := (ht.mem_children.mp (mem_children_of_head? hj)).2.2
  rw [he, hjc] at hic
  rw [← hic, hj] at hi
  exact (Option.some.inj hi).symm

theorem Nested.usedAs_of_mem_heads {t : Tree} (ht : t.Nested) {k : DeclarationKind} {i : NodeId}
    (h : (k, i) ∈ t.heads) : t.usedAs i = some k := by
  cases hf : t.heads.find? (·.2 == i) with
  | none => exact absurd (beq_self_eq_true i) (List.find?_eq_none.mp hf (k, i) h)
  | some l =>
      have hl : l.2 = i := by simpa using List.find?_some hf
      have hsame := ht.head_inj (List.mem_of_find?_eq_some hf) h hl
      rw [usedAs, hf, hsame]

theorem usedAs_of_not_head {t : Tree} {i : NodeId} (h : ∀ l ∈ t.heads, l.2 ≠ i) :
    t.usedAs i = match t.kind i with
      | .symbol => some ((t.meant .symbol (t.text i)).getD .var)
      | .label => some ((t.meant .label (t.text i)).getD .label)
      | .var | .code => some .var
      | _ => none := by
  have hnone : t.heads.find? (·.2 == i) = none :=
    List.find?_eq_none.mpr fun l hl he => h l hl (by simpa using he)
  rw [usedAs, hnone]

/-- The tags of every use of a name say how the node is used. -/
def TagsSayUse (t : Tree) : Prop :=
  ∀ i, t.isReference i = true → (t.referenceTypes i).isEmpty = false ∧
    ∀ k : DeclarationKind,
      (t.referenceTypes i).intersects (.single k.referenceType) = decide (t.usedAs i = some k)

end Tree

namespace Annotate

theorem intersects_single (k l : DeclarationKind) :
    (ReferenceTypes.single k.referenceType).intersects (.single l.referenceType) =
      decide (some k = some l) := by
  cases k <;> cases l <;> decide

theorem intersects_jumpLabel (k : DeclarationKind) :
    (ReferenceTypes.single .jumpLabel).intersects (.single k.referenceType) = false := by
  cases k <;> decide

/-- Uses as a program or as a place to jump to are apart from uses as a variable or a label. -/
theorem intersects_insert {r : ReferenceType} (hr : r = .program ∨ r = .jumpLabel)
    (k l : DeclarationKind) :
    ((ReferenceTypes.single k.referenceType).insert r).isEmpty = false ∧
      ((ReferenceTypes.single k.referenceType).insert r).intersects (.single l.referenceType) =
        decide (some k = some l) := by
  rcases hr with rfl | rfl <;> cases k <;> cases l <;> decide

theorem getD_map_single (m : Option DeclarationKind) {k : DeclarationKind} {r : ReferenceType}
    (hr : k.referenceType = r) :
    (m.map fun l => ReferenceTypes.single l.referenceType).getD (.single r) =
      .single (m.getD k).referenceType := by
  subst hr
  cases m <;> rfl

/-- The default tags of a use say what its text means to it. -/
theorem defaultTypes_sayUse {t : Tree} {i : NodeId} (href : t.isReference i = true)
    (hfree : ∀ l ∈ t.heads, l.2 ≠ i) {types : ReferenceTypes}
    (htypes : types = (defaultTypes (t.parentKind i) (t.node i)
      ((t.meant (t.kind i) (t.text i)).map fun m => .single m.referenceType)).getD .empty) :
    types.isEmpty = false ∧ ∀ k : DeclarationKind,
      types.intersects (.single k.referenceType) = decide (t.usedAs i = some k) := by
  have hnode : (t.node i).kind = t.kind i := rfl
  rw [Tree.usedAs_of_not_head hfree]
  rw [defaultTypes, hnode] at htypes
  rw [Tree.isReference] at href
  cases hkind : t.kind i with
  | symbol =>
      simp only [hkind, Option.getD_some] at htypes ⊢
      rw [getD_map_single _ (show DeclarationKind.var.referenceType = .var from rfl)] at htypes
      rw [htypes]
      split
      · exact ⟨(intersects_insert (.inl rfl) _ .var).1, fun k =>
          (intersects_insert (.inl rfl) _ k).2⟩
      · exact ⟨single_isEmpty _, intersects_single _⟩
  | label =>
      simp only [hkind, Option.getD_some] at htypes ⊢
      rw [getD_map_single _ (show DeclarationKind.label.referenceType = .label from rfl)] at htypes
      rw [htypes]
      split
      · exact ⟨(intersects_insert (.inr rfl) _ .var).1, fun k =>
          (intersects_insert (.inr rfl) _ k).2⟩
      · exact ⟨single_isEmpty _, intersects_single _⟩
  | var =>
      simp only [hkind, Option.getD_some] at htypes ⊢
      rw [htypes]
      exact ⟨single_isEmpty .var, intersects_single .var⟩
  | code =>
      simp only [hkind, Option.getD_some] at htypes ⊢
      rw [htypes]
      exact ⟨single_isEmpty .var, intersects_single .var⟩
  | numeric =>
      simp only [hkind] at href htypes ⊢
      rw [href, if_pos rfl, Option.getD_some] at htypes
      rw [htypes]
      exact ⟨rfl, fun k => (intersects_jumpLabel k).trans (decide_eq_false (by simp)).symm⟩
  | _ => simp [hkind] at href

theorem tagsSayUse_run {source : String} {nodes : Array Node}
    (hclean : ∀ i, IsClean (nodes.getD i Node.blank)) (hnested : (run source nodes).Nested) :
    (run source nodes).TagsSayUse := by
  intro j href
  have hj : j < (run source nodes).size := Tree.lt_size_of_isReference href
  rcases marked_or_kept (hclean j).1 hj with ⟨i, k, c, hi, hh, hij, htypes⟩ | ⟨hfree, hkept⟩
  · -- a definition is no use of a name, so the node is the name and not the definition
    have hc : c = j := by
      rcases hij with rfl | hc
      · rw [Tree.isReference_of_head? hh] at href
        cases href
      · exact hc
    subst hc
    rw [htypes, hnested.usedAs_of_mem_heads (Tree.mem_heads.mpr ⟨i, hi, hh⟩)]
    exact ⟨single_isEmpty k, intersects_single k⟩
  · have hn := hclean j
    exact defaultTypes_sayUse href hfree (types_of_isClean hj (hkept ▸ hn))

end Annotate

/-! ## Scripts without annotations -/

/-- The step sets no tags and no link. -/
def Step.isPlain : Step → Bool
  | .setReferenceTypes _ _ | .setLink _ _ => false
  | _ => true

/-- What a script can set on a node that bears on names. -/
def Node.notes (n : Node) : ReferenceTypes × Option Link := (n.referenceTypes, n.link)

theorem Annotate.isClean_iff {n : Node} : IsClean n ↔ n.notes = (.empty, none) := by
  rw [IsClean, Node.notes, Prod.mk.injEq]

namespace Builder

/-- What the script has set on a node so far. -/
def notes (b : Builder) (i : NodeId) : ReferenceTypes × Option Link :=
  (b.nodes.getD i Node.blank).notes

theorem notes_new (kind : FileKind) (i : NodeId) : (Builder.new kind).notes i = (.empty, none) := by
  cases i <;> rfl

/-- What a change to one node leaves alone stays as it is at every node. -/
theorem of_modify {α : Type} (read : Node → α) (nodes : Array Node) (id i : NodeId)
    {f : Node → Node} (hf : ∀ n, read (f n) = read n := by exact fun _ => rfl) :
    read ((nodes.modify id f).getD i Node.blank) = read (nodes.getD i Node.blank) := by
  simp only [Array.getD_eq_getD_getElem?, Array.getElem?_modify]
  split
  · cases nodes[i]? with
    | none => rfl
    | some n => exact hf n
  · rfl

section notes

variable (b : Builder) (i : NodeId)

theorem notes_push (kind : Kind) (field : Option Field) (span : Span) :
    (b.push kind field span).notes i = b.notes i := by
  refine (of_modify Node.notes _ _ i).trans ?_
  rw [getD_push, notes]
  split
  · rename_i hi
    rw [Array.getD_eq_getD_getElem?, Array.getElem?_eq_none (Nat.le_of_eq hi.symm)]
    rfl
  · rfl

theorem notes_start (kind : Kind) (field : Option Field) :
    (b.start kind field).notes i = b.notes i :=
  b.notes_push i kind field _

theorem notes_trivia (text : String) : (b.trivia text).notes i = b.notes i := rfl

theorem notes_token (kind : Kind) (text : String) (field : Option Field) :
    (b.token kind text field).notes i = b.notes i :=
  (b.trivia text).notes_push i kind field _

theorem notes_finish : b.finish.notes i = b.notes i := by
  rw [finish]
  split
  · rfl
  · exact of_modify Node.notes _ _ i

theorem notes_setValueType (id : NodeId) (type : ValueType) :
    (b.setValueType id type).notes i = b.notes i :=
  of_modify Node.notes _ _ i

theorem notes_definition (kind : Kind) (marker : String) (nameKind : Kind) (name value : String)
    (type : ValueType) :
    (b.definition kind marker nameKind name value type).notes i = b.notes i := by
  simp only [definition, notes_finish, notes_setValueType, notes_token, notes_trivia, notes_start]

theorem notes_step {s : Step} (hs : s.isPlain = true) : (b.step s).notes i = b.notes i := by
  cases s with
  | start kind field => exact b.notes_start i kind field
  | finish => exact b.notes_finish i
  | token kind text field => exact b.notes_token i kind text field
  | trivia text => exact b.notes_trivia i text
  | inclusion uri =>
      show (b.inclusion uri).notes i = b.notes i
      simp only [inclusion, notes_finish, notes_token, notes_trivia, notes_start]
  | varDef name value type => exact b.notes_definition i _ _ _ name value type
  | labelDef name value type => exact b.notes_definition i _ _ _ name value type
  | setValueType id type => exact b.notes_setValueType i id type
  | setReferenceTypes id types => cases hs
  | setLink id link => cases hs

theorem notes_run {steps : List Step} (hs : steps.all Step.isPlain = true) :
    (b.run steps).notes i = b.notes i := by
  induction steps generalizing b with
  | nil => rfl
  | cons s steps ih =>
      rw [List.all_cons, Bool.and_eq_true] at hs
      exact (ih (b.step s) hs.2).trans (b.notes_step i hs.1)

theorem notes_close : b.close.notes i = b.notes i :=
  close_of_finish (fun c => c.notes i = b.notes i) (fun c hc => (c.notes_finish i).trans hc) rfl

/-- The nodes that are annotated carry what the script has set. -/
theorem notes_build : ((b.close.nodes.modify Tree.root fun n =>
    { n with span := ⟨0, b.close.offset⟩ }).getD i Node.blank).notes = b.notes i :=
  (of_modify Node.notes _ _ i).trans (b.notes_close i)

end notes
end Builder

theorem Tree.tagsSayUse_ofScript (kind : FileKind) {steps : List Step}
    (h : steps.all Step.isPlain = true) : (Tree.ofScript kind steps).TagsSayUse := by
  refine Annotate.tagsSayUse_run (fun i => ?_) (Tree.laid_ofScript kind steps).toNested
  rw [Annotate.isClean_iff, Builder.notes_build, Builder.notes_run _ i h, Builder.notes_new]

theorem Tree.outlines_ofScript (kind : FileKind) (steps : List Step) :
    (Tree.ofScript kind steps).declarations.toList.map Declaration.outline =
      (Tree.ofScript kind steps).heads.map (Tree.ofScript kind steps).outline :=
  Annotate.outlines_run _ _

end NcInsight
