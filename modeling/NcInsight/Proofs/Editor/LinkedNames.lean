import NcInsight.Proofs.Editor.Occurrences
import NcInsight.Proofs.Tree.Links
import NcInsight.Proofs.Workspace.Symbols

/-
What a name stands for inside its file, told twice.

Annotation links a symbol or label to a declaration: to the first of the kind that it prefers, or
else to the first of the other kind.  It then tags the node by what it found.  The scope of the file
reads no links; it goes through the symbols of the file and takes the first that has the text of the
node and a tag in common with it.  The tags leave one kind of declaration to look for, and the
declarations come first among the symbols and in their order, so both find the same one
(`link_iff_resolved`).
-/
namespace NcInsight

namespace Annotate

section

variable {t : Tree} (hout : t.declarations.toList.map Declaration.outline = t.heads.map t.outline)
include hout

theorem or_find_eq (k l : DeclarationKind) (name : String) :
    (find t.declarations k name).or (find t.declarations l name) =
      find t.declarations
        ((if t.declares k name then some k else if t.declares l name then some l else none).getD k)
        name := by
  rw [← find_isSome hout k, ← find_isSome hout l]
  cases hk : find t.declarations k name with
  | some i => simp [hk]
  | none =>
      cases hl : find t.declarations l name with
      | some i => simp [hl]
      | none => simp [hk]

/-- A symbol or label that names no declaration means the first declaration of the kind it is
used as. -/
theorem resolve_eq_find {i : NodeId} (hfree : ∀ l ∈ t.heads, l.2 ≠ i)
    (hkind : Navigation.isNamed (t.kind i) = true) : ∃ k, t.usedAs i = some k ∧
      resolve t.declarations (t.kind i) (t.text i) = find t.declarations k (t.text i) := by
  rw [Tree.usedAs_of_not_head hfree]
  revert hkind
  cases t.kind i with
  | symbol => exact fun _ => ⟨_, rfl, or_find_eq hout .var .label (t.text i)⟩
  | label => exact fun _ => ⟨_, rfl, or_find_eq hout .label .var (t.text i)⟩
  | _ => exact fun h => by cases h

end

theorem link_of_isClean {source : String} {nodes : Array Node} {j : NodeId}
    (hj : j < (run source nodes).size)
    (h : IsClean ((collect source nodes).nodes.getD j Node.blank)) :
    ((run source nodes).node j).link =
      (resolve (run source nodes).declarations ((run source nodes).kind j)
        ((run source nodes).text j)).map fun i => { id := i } := by
  have hbare := (collected_shape source nodes).2 j
  have hkind : ((collect source nodes).nodes.getD j Node.blank).kind =
      (run source nodes).kind j := congrArg (fun b => b.kind) hbare
  have hspan : ((collect source nodes).nodes.getD j Node.blank).span =
      (run source nodes).span j := congrArg (fun b => b.span) hbare
  rw [node_run hj, link_tagNode, link_linkNode h.2, hkind, hspan]
  rfl

/-- A symbol or label that came without annotations and names no declaration: its link leads to
the first declaration of one kind, and its tags let no other kind pass. -/
theorem link_of_name {source : String} {nodes : Array Node} {j : NodeId}
    (h : IsClean (nodes.getD j Node.blank))
    (hkind : Navigation.isNamed ((run source nodes).kind j) = true)
    (hfree : ∀ l ∈ (run source nodes).heads, l.2 ≠ j) : ∃ k : DeclarationKind,
      ((run source nodes).node j).link =
        (find (run source nodes).declarations k ((run source nodes).text j)).map
          (fun i => { id := i }) ∧
      ((run source nodes).referenceTypes j).isEmpty = false ∧
      ∀ l : DeclarationKind,
        ((run source nodes).referenceTypes j).intersects (.single l.referenceType) = (l == k) := by
  have href := Navigation.isReference_of_isNamed hkind
  have hj := Tree.lt_size_of_isReference href
  rcases marked_or_kept h.1 hj with ⟨i, k, c, hi, hh, hij, -⟩ | ⟨-, hkept⟩
  · -- a declaration marks a definition and a name, and the node is neither
    rcases hij with rfl | rfl
    · rw [Tree.isReference_of_head? hh] at href
      cases href
    · exact absurd rfl (hfree (k, c) (Tree.mem_heads.mpr ⟨i, hi, hh⟩))
  · have hclean : IsClean ((collect source nodes).nodes.getD j Node.blank) := by
      rw [hkept]
      exact h
    obtain ⟨k, hused, hfind⟩ := resolve_eq_find (outlines_run source nodes) hfree hkind
    obtain ⟨htagged, htags⟩ := defaultTypes_sayUse href hfree (types_of_isClean hj hclean)
    refine ⟨k, ?_, htagged, fun l => ?_⟩
    · rw [link_of_isClean hj hclean, hfind]
    · rw [htags l, hused, Bool.eq_iff_iff, decide_eq_true_eq, beq_iff_eq, Option.some.injEq,
        eq_comm]

end Annotate

namespace Navigation

/-- What the scope of a file makes of a name, where the tags let one kind of declaration pass. -/
theorem resolve_of_tags {r : Record} {n : NodeId} {k : DeclarationKind}
    (href : r.tree.isReference n = true) (htagged : (r.tree.referenceTypes n).isEmpty = false)
    (htags : ∀ l : DeclarationKind,
      (r.tree.referenceTypes n).intersects (.single l.referenceType) = (l == k)) :
    (∀ id, Annotate.find r.tree.declarations k (r.tree.text n) = some id →
      ∃ y, (FileScope.of r).resolve r.tree n = some y ∧ y.origin = .declared id) ∧
    (Annotate.find r.tree.declarations k (r.tree.text n) = none →
      ∀ y, (FileScope.of r).resolve r.tree n = some y → y.origin = .implicit) := by
  obtain ⟨uses, hsymbols, huses⟩ := FileScope.symbols_eq r
  have hfits : ∀ (i : DeclId) (d : Declaration),
      (Symbol.ofDeclaration r.uri i d).isNamedBy r.tree n =
        (d.kind == k && d.name == r.tree.text n) := by
    intro i d
    show (r.tree.isReference n && r.tree.text n == d.name && ((r.tree.referenceTypes n).isEmpty ||
      (r.tree.referenceTypes n).intersects (.single d.kind.referenceType))) = _
    rw [href, htagged, htags, Bool.true_and, Bool.false_or, Bool.and_comm, BEq.comm (a := d.name)]
  have hfound := FileScope.find?_ofDeclaration r.uri r.tree.declarations
    (p := fun y => y.isNamedBy r.tree n) hfits
  rw [resolve_eq_find?, hsymbols, List.find?_append, hfound]
  constructor
  · intro id hid
    obtain ⟨hlt, -⟩ := Array.findIdx?_eq_some_iff_getElem.mp hid
    have hid' : r.tree.declarations.findIdx?
        (fun d => d.kind == k && d.name == r.tree.text n) = some id := hid
    rw [hid', Option.bind_some, Array.getElem?_eq_getElem hlt, Option.map_some, Option.some_or]
    exact ⟨_, rfl, rfl⟩
  · intro hnone y hy
    have hnone' : r.tree.declarations.findIdx?
        (fun d => d.kind == k && d.name == r.tree.text n) = none := hnone
    rw [hnone', Option.bind_none, Option.none_or] at hy
    exact (huses y (List.mem_of_find?_eq_some hy)).2.origin_eq

/-- In a built tree, a symbol or label on which the script set no tags and no link, and which is not
the name of a declaration, is linked to a declaration exactly if the scope of the file finds that
one; it has no link exactly if the scope finds nothing that is declared. -/
theorem link_iff_resolved (kind : FileKind) (steps : List Step) {r : Record}
    (hr : r.tree = .ofScript kind steps) {n : NodeId}
    (hkind : isNamed (r.tree.kind n) = true)
    (hnotes : ((Builder.new kind).run steps).notes n = (.empty, none))
    (hname : ∀ d ∈ r.tree.declarations.toList, d.nameNode ≠ some n) :
    (∀ id, (r.tree.node n).link = some { id } ↔
      ∃ y, (Scope.alone r).resolve r.tree n = some y ∧ y.origin = .declared id) ∧
    ((r.tree.node n).link = none ↔
      ∀ y, (Scope.alone r).resolve r.tree n = some y → y.origin = .implicit) := by
  have hclean : Annotate.IsClean _ :=
    Annotate.isClean_iff.mpr ((Builder.notes_build _ n).trans hnotes)
  have hfree : ∀ l ∈ r.tree.heads, l.2 ≠ n := by
    rintro ⟨k, c⟩ hl rfl
    have hout := hr ▸ Tree.outlines_ofScript kind steps
    obtain ⟨d, hd, -, -, hnode⟩ := Tree.exists_declaration_of_mem_heads hout hl
    exact hname d hd hnode
  have hlinked : ∃ k : DeclarationKind, (r.tree.node n).link =
        (Annotate.find r.tree.declarations k (r.tree.text n)).map (fun i => { id := i }) ∧
      (r.tree.referenceTypes n).isEmpty = false ∧ ∀ l : DeclarationKind,
        (r.tree.referenceTypes n).intersects (.single l.referenceType) = (l == k) := by
    rw [hr] at hkind hfree ⊢
    exact Annotate.link_of_name hclean hkind hfree
  obtain ⟨k, hlink, htagged, htags⟩ := hlinked
  obtain ⟨hsome, hnone⟩ := resolve_of_tags (isReference_of_isNamed hkind) htagged htags
  rw [hlink, resolve_alone]
  cases hfind : Annotate.find r.tree.declarations k (r.tree.text n) with
  | some i =>
      obtain ⟨y, hy, horigin⟩ := hsome i hfind
      simp [hy, horigin]
  | none =>
      have himplicit := hnone hfind
      refine ⟨fun id => ⟨fun h => (by cases h), ?_⟩, fun _ => himplicit, fun _ => rfl⟩
      rintro ⟨y, hy, horigin⟩
      rw [himplicit y hy] at horigin
      cases horigin

/-- A program that declares a name as a label and twice as a variable, and then uses it. -/
def doubledSteps : List Step :=
  [.labelDef "R" "10" .numeric, .trivia "\n", .varDef "R" "#1" .var, .trivia "\n",
    .varDef "R" "#2" .var, .trivia "\n", .token .symbol "R" none, .trivia "\n"]

def doubled : Record :=
  ({} : Workspace).record "file:///shop/main.src" (.ofScript .program doubledSteps)

theorem link_doubled : (doubled.tree.node 10).link = some { id := 1 } := by
  decide +kernel

/-- The symbol means the first variable, in spite of the label before it. -/
theorem link_iff_resolved_doubled :
    doubled.tree = .ofScript .program doubledSteps ∧ isNamed (doubled.tree.kind 10) = true ∧
      ((Builder.new .program).run doubledSteps).notes 10 = (.empty, none) ∧
      (∀ d ∈ doubled.tree.declarations.toList, d.nameNode ≠ some 10) ∧
      (doubled.tree.node 10).link = some { id := 1 } ∧
      ∃ y, (Scope.alone doubled).resolve doubled.tree 10 = some y ∧ y.origin = .declared 1 := by
  have hkind : isNamed (doubled.tree.kind 10) = true :=
    (congrArg isNamed (Tree.kind_ofScript .program doubledSteps 10)).trans (by decide)
  have hnotes : ((Builder.new .program).run doubledSteps).notes 10 = (.empty, none) := by
    rw [Builder.notes_run _ 10 (by decide), Builder.notes_new]
  have hname : ∀ d ∈ doubled.tree.declarations.toList, d.nameNode ≠ some 10 := by decide
  have hlinked := link_iff_resolved .program doubledSteps rfl hkind hnotes hname
  exact ⟨rfl, hkind, hnotes, hname, link_doubled, (hlinked.1 1).mp link_doubled⟩

end Navigation
end NcInsight
