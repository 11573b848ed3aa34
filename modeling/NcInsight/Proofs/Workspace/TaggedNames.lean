import NcInsight.Proofs.Tree.Links
import NcInsight.Proofs.Workspace.NameIndex

/-
Names without tags do not come up.

A name with an empty set of tags would mean a symbol of any kind.  Annotation tags a node when a
declaration marks it and, at the end, by its kind and place if it still has no tags.  The kinds that
get tags there are those that can be a name, and no tag that annotation gives is empty, so every
name in an annotated tree has tags (`isEmpty_types_run`).  A set of tags that is not empty is not
touched (`types_run_of_tagged`), so the tags that a script sets stay (`tagged_names`).
-/
namespace NcInsight

namespace ReferenceTypes

theorem eq_empty_of_isEmpty {a : ReferenceTypes} (h : a.isEmpty = true) : a = .empty := by
  obtain ⟨bits⟩ := a
  exact congrArg ReferenceTypes.mk (beq_iff_eq.mp h)

theorem isEmpty_insert (a : ReferenceTypes) (r : ReferenceType) :
    (a.insert r).isEmpty = false := by
  show ((a.bits ||| r.bit) == 0) = false
  rw [beq_eq_false_iff_ne]
  intro h
  have hbit : r.bit = 0 := (UInt8.or_eq_zero_iff.mp h).2
  cases r <;> exact absurd hbit (by decide)

end ReferenceTypes

namespace Annotate

/-! ## Tags that are there stay -/

theorem types_mark_of_tagged {n : Node} (h : n.referenceTypes.isEmpty = false) (d : Declaration)
    (k : DeclId) : (mark d k n).referenceTypes = n.referenceTypes := by
  show (if n.referenceTypes.isEmpty then d.referenceTypes else n.referenceTypes) = _
  rw [h]
  rfl

theorem types_modify_of_tagged {nodes : Array Node} {j : NodeId}
    (h : (nodes.getD j Node.blank).referenceTypes.isEmpty = false) (d : Declaration) (k : DeclId)
    (i : NodeId) : ((nodes.modify i (mark d k)).getD j Node.blank).referenceTypes =
      (nodes.getD j Node.blank).referenceTypes := by
  rw [Array.getD_eq_getD_getElem?] at h
  rw [Array.getD_eq_getD_getElem?, Array.getD_eq_getD_getElem?, Array.getElem?_modify]
  split
  · cases hnode : nodes[j]? with
    | none => rfl
    | some n =>
        rw [hnode] at h
        exact types_mark_of_tagged h d k
  · rfl

theorem types_collectOne_of_tagged (source : String) {s : State} {j : NodeId}
    (h : (s.nodes.getD j Node.blank).referenceTypes.isEmpty = false) (i : NodeId) :
    ((collectOne source s i).nodes.getD j Node.blank).referenceTypes =
      (s.nodes.getD j Node.blank).referenceTypes := by
  cases hd : declared source s.nodes i with
  | none => rw [collectOne_of_none hd]
  | some d =>
      have hself := types_modify_of_tagged h d s.declarations.size i
      simp only [collectOne, hd]
      split
      · rw [types_modify_of_tagged (by rw [hself]; exact h), hself]
      · exact hself

section run

variable {source : String} {nodes : Array Node} {j : Nat} (hj : j < (run source nodes).size)
include hj

theorem types_run_of_collected
    (h : ((collect source nodes).nodes.getD j Node.blank).referenceTypes.isEmpty = false) :
    (run source nodes).referenceTypes j =
      ((collect source nodes).nodes.getD j Node.blank).referenceTypes := by
  rw [Tree.referenceTypes, node_run hj, tagNode_of_types (by rw [types_linkNode]; exact h),
    types_linkNode]

theorem types_run_of_tagged (h : (nodes.getD j Node.blank).referenceTypes.isEmpty = false) :
    (run source nodes).referenceTypes j = (nodes.getD j Node.blank).referenceTypes := by
  have hcollect : ((collect source nodes).nodes.getD j Node.blank).referenceTypes =
      (nodes.getD j Node.blank).referenceTypes := by
    apply collect_of_step source nodes fun s =>
      (s.nodes.getD j Node.blank).referenceTypes = (nodes.getD j Node.blank).referenceTypes
    · rfl
    · intro s i _ hs
      rw [types_collectOne_of_tagged source (by rw [hs]; exact h), hs]
  rw [types_run_of_collected hj (by rw [hcollect]; exact h), hcollect]

end run

/-! ## Names get tags -/

section defaults

theorem isEmpty_ite {base more : ReferenceTypes} (hbase : base.isEmpty = false)
    (hmore : more.isEmpty = false) (p : Bool) : (if p then more else base).isEmpty = false := by
  cases p with
  | false => exact hbase
  | true => exact hmore

variable {resolved : Option ReferenceTypes} (hres : ∀ r ∈ resolved, r.isEmpty = false)
include hres

theorem isEmpty_base (r : ReferenceType) : (resolved.getD (.single r)).isEmpty = false := by
  cases resolved with
  | none => cases r <;> rfl
  | some types => exact hres types rfl

/-- A name has default tags, and they are not empty if those of its declaration are not. -/
theorem isEmpty_defaultTypes {t : Tree} {j : NodeId} (href : t.isReference j = true) :
    ∃ types, defaultTypes (t.parentKind j) (t.node j) resolved = some types ∧
      types.isEmpty = false := by
  have hkind : (t.node j).kind = t.kind j := rfl
  rw [Tree.isReference] at href
  rw [defaultTypes, hkind]
  -- one case for each kind that can be a name; a number is one in some places only
  revert href
  cases t.kind j with
  | symbol =>
      intro _
      exact ⟨_, rfl, isEmpty_ite (isEmpty_base hres .var) (ReferenceTypes.isEmpty_insert _ _) _⟩
  | label =>
      intro _
      exact ⟨_, rfl, isEmpty_ite (isEmpty_base hres .label) (ReferenceTypes.isEmpty_insert _ _) _⟩
  | var => exact fun _ => ⟨_, rfl, rfl⟩
  | code => exact fun _ => ⟨_, rfl, rfl⟩
  | numeric => exact fun href => ⟨_, if_pos href, rfl⟩
  | _ => exact fun href => by cases href

end defaults

/-- Whatever came before, a name has tags in the end. -/
theorem isEmpty_types_run {source : String} {nodes : Array Node} {j : Nat}
    (href : (run source nodes).isReference j = true) :
    ((run source nodes).referenceTypes j).isEmpty = false := by
  have hj := Tree.lt_size_of_isReference href
  cases hempty : ((collect source nodes).nodes.getD j Node.blank).referenceTypes.isEmpty with
  | false =>
      rw [types_run_of_collected hj hempty]
      exact hempty
  | true =>
      obtain ⟨resolved, hresolved, htypes⟩ :=
        types_of_untagged hj (ReferenceTypes.eq_empty_of_isEmpty hempty)
      obtain ⟨types, hsome, hne⟩ := isEmpty_defaultTypes hresolved href
      rw [htypes, hsome]
      exact hne

end Annotate

/-! ## The tags that a script sets -/

namespace Builder

/-- The tags that a node has so far. -/
def types (b : Builder) (i : NodeId) : ReferenceTypes :=
  (b.nodes.getD i Node.blank).referenceTypes

variable (b : Builder) (i : NodeId)

theorem types_step_of_ne {s : Step} (h : ∀ types, s ≠ .setReferenceTypes i types) :
    (b.step s).types i = b.types i := by
  have hplain : s.isPlain = true → (b.step s).types i = b.types i := fun hs =>
    congrArg Prod.fst (b.notes_step i hs)
  cases s with
  | setReferenceTypes id types =>
      have hid : id ≠ i := fun he => h types (by rw [he])
      show ((b.nodes.modify id _).getD i Node.blank).referenceTypes = _
      rw [Builder.types, Array.getD_eq_getD_getElem?, Array.getD_eq_getD_getElem?,
        Array.getElem?_modify, if_neg hid]
  | setLink id link => exact of_modify Node.referenceTypes _ _ i
  | _ => exact hplain rfl

theorem types_run_of_not_mem {steps : List Step}
    (h : ∀ types, .setReferenceTypes i types ∉ steps) : (b.run steps).types i = b.types i := by
  induction steps generalizing b with
  | nil => rfl
  | cons s steps ih =>
      have hs : ∀ types, s ≠ .setReferenceTypes i types := fun types he =>
        h types (he ▸ List.mem_cons_self)
      exact (ih (b.step s) fun types hmem => h types (List.mem_cons_of_mem s hmem)).trans
        (b.types_step_of_ne i hs)

theorem types_step_self (types : ReferenceTypes) {i : NodeId} (hi : i < b.nodes.size) :
    (b.step (.setReferenceTypes i types)).types i = types := by
  show ((b.nodes.modify i _).getD i Node.blank).referenceTypes = _
  rw [Array.getD_eq_getD_getElem?, Array.getElem?_modify, if_pos rfl, Array.getElem?_eq_getElem hi]
  rfl

theorem lt_size_of_types {i : NodeId} (h : (b.types i).isEmpty = false) : i < b.nodes.size := by
  rcases Nat.lt_or_ge i b.nodes.size with hi | hi
  · exact hi
  · rw [types, Array.getD_eq_getD_getElem?, Array.getElem?_eq_none hi] at h
    cases h

/-- Building leaves the tags of a node that has some. -/
theorem types_build {i : NodeId} (h : (b.types i).isEmpty = false) :
    b.build.referenceTypes i = b.types i := by
  have hclose : b.close.types i = b.types i := congrArg Prod.fst (b.notes_close i)
  have hi := b.close.lt_size_of_types (by rw [hclose]; exact h)
  have hsize : b.build.size = b.close.nodes.size :=
    (Annotate.run_shape _ _).1.trans Array.size_modify
  have hroot : ((b.close.nodes.modify Tree.root fun n =>
      { n with span := ⟨0, b.close.offset⟩ }).getD i Node.blank).referenceTypes = b.types i :=
    (of_modify Node.referenceTypes _ _ i).trans hclose
  have hbuild : b.build.referenceTypes i = _ :=
    Annotate.types_run_of_tagged (Nat.lt_of_lt_of_eq hi hsize.symm) (by rw [hroot]; exact h)
  exact hbuild.trans hroot

end Builder

namespace Tree

/-- Every name in a tree that a script builds has tags, so its tags decide what it can mean: a node
names a symbol only if they have a use in common, and a file is searched for such a symbol.  Tags
that the script set last on a node, if they are not empty, are the tags of the node. -/
theorem tagged_names (kind : FileKind) (steps : List Step) :
    let t := Tree.ofScript kind steps
    (∀ n, t.isReference n = true → (t.referenceTypes n).isEmpty = false) ∧
    (∀ (y : Symbol) n, y.isNamedBy t n = (t.isReference n && t.text n == y.name &&
      (t.referenceTypes n).intersects y.referenceTypes)) ∧
    (∀ (file : FileScope) n, file.resolve t n =
      if t.isReference n then (file.byName.get? (t.text n)).bind fun places =>
        (places.filterMap fun i => file.symbols[i]?).find?
          (·.referenceTypes.intersects (t.referenceTypes n))
      else none) ∧
    ∀ before i types after, steps = before ++ .setReferenceTypes i types :: after →
      i < ((Builder.new kind).run before).nodes.size →
      (∀ later, .setReferenceTypes i later ∉ after) → types.isEmpty = false →
      t.referenceTypes i = types := by
  intro t
  have htagged : ∀ n, t.isReference n = true → (t.referenceTypes n).isEmpty = false :=
    fun n href => Annotate.isEmpty_types_run href
  refine ⟨htagged, fun y n => ?_, fun file n => ?_, ?_⟩
  · rw [Symbol.isNamedBy]
    cases href : t.isReference n with
    | false => rfl
    | true => rw [htagged n href, Bool.false_or]
  · rw [FileScope.resolve]
    split
    case isTrue href =>
      rw [SymbolTable.lookup]
      simp only [htagged n href, Bool.false_or]
    case isFalse => rfl
  · intro before i types after hsteps hi hafter hne
    have hrun : ((Builder.new kind).run steps).types i = types := by
      rw [hsteps, Builder.run, List.foldl_append, List.foldl_cons]
      exact (Builder.types_run_of_not_mem _ i hafter).trans
        (Builder.types_step_self ((Builder.new kind).run before) types hi)
    exact (Builder.types_build _ (by rw [hrun]; exact hne)).trans hrun

/-- A symbol that is said to be a label, and a label. -/
def symbolAndLabel : List Step :=
  [.token .symbol "A" none, .setReferenceTypes 1 (.single .label), .trivia " ",
    .token .label "B" none]

theorem tagged_names_symbolAndLabel :
    let t := Tree.ofScript .program symbolAndLabel
    t.isReference 2 = true ∧ (t.referenceTypes 2).isEmpty = false ∧
      t.referenceTypes 1 = .single .label := by
  intro t
  have hkind : t.kind 2 = .label := (kind_ofScript .program symbolAndLabel 2).trans (by decide)
  have hlabel : t.isReference 2 = true := by rw [isReference, hkind]
  obtain ⟨htagged, -, -, hset⟩ := tagged_names .program symbolAndLabel
  refine ⟨hlabel, htagged 2 hlabel,
    hset [.token .symbol "A" none] 1 (.single .label) _ rfl (by decide) (fun later hmem => ?_) rfl⟩
  simp at hmem

end Tree
end NcInsight
