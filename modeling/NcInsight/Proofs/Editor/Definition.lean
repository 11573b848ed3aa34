import NcInsight.Proofs.Editor.LinkedNames
import NcInsight.Proofs.Editor.PreparedRename

/-
The definition of a name is one of its references.

The definition is the node that a symbol of some file is made of, and the references are the nodes
that name the symbol in the files searched.  Where all tags come from annotation, the node that a
symbol is made of names that symbol (`isNamedBy_node`), and the file that knows a symbol is searched
for it.  The two questions look for the node at the cursor by different kinds, which is no
difference where names are leaves (`nameAt_eq_of_leaves`).
-/
namespace NcInsight

/-- A built tree in which the names are leaves, declarations are named by symbols and labels, and no
tag was set by the script. -/
structure Tree.SelfTagged (t : Tree) : Prop where
  built : ∃ kind steps, t = .ofScript kind steps ∧
    ∀ i, (((Builder.new kind).run steps).notes i).1 = .empty
  leaves : Navigation.NamesAreLeaves t
  named : ∀ d ∈ t.declarations.toList, ∀ c ∈ d.nameNode, Navigation.isNamed (t.kind c) = true

namespace Annotate

variable {source : String} {nodes : Array Node} {j : NodeId}

/-- The name of a declaration has the tags of its declaration. -/
theorem types_of_mem_heads {k : DeclarationKind}
    (hbare : (nodes.getD j Node.blank).referenceTypes = .empty)
    (hnested : (run source nodes).Nested) (href : (run source nodes).isReference j = true)
    (h : (k, j) ∈ (run source nodes).heads) :
    (run source nodes).referenceTypes j = .single k.referenceType := by
  rcases marked_or_kept hbare (Tree.lt_size_of_isReference href) with
    ⟨i, l, c, hi, hh, hij, htypes⟩ | ⟨hfree, -⟩
  · rcases hij with rfl | rfl
    · rw [Tree.isReference_of_head? hh] at href
      cases href
    · have hsame := hnested.head_inj (Tree.mem_heads.mpr ⟨i, hi, hh⟩) h rfl
      cases hsame
      exact htypes
  · exact absurd rfl (hfree (k, j) h)

theorem isReference_of_implicitTags {t : Tree} {tags : ReferenceTypes × ValueType}
    (h : FileScope.implicitTags t j = some tags) :
    t.isReference j = true ∧ Navigation.isNamed (t.kind j) = false := by
  rw [FileScope.implicitTags] at h
  rw [Tree.isReference]
  revert h
  cases t.kind j <;> simp +contextual [Navigation.isNamed]

/-- A use that makes a symbol has the tags of the symbol. -/
theorem types_of_implicitTags {tags : ReferenceTypes × ValueType}
    (hbare : (nodes.getD j Node.blank).referenceTypes = .empty)
    (hfree : ∀ h ∈ (run source nodes).heads, h.2 ≠ j)
    (h : FileScope.implicitTags (run source nodes) j = some tags) :
    (run source nodes).referenceTypes j = tags.1 := by
  obtain ⟨href, -⟩ := isReference_of_implicitTags h
  have hj := Tree.lt_size_of_isReference href
  rcases marked_or_kept hbare hj with ⟨i, k, c, hi, hh, hij, -⟩ | ⟨-, hkept⟩
  · rcases hij with rfl | rfl
    · rw [Tree.isReference_of_head? hh] at href
      cases href
    · exact absurd rfl (hfree (k, c) (Tree.mem_heads.mpr ⟨i, hi, hh⟩))
  · obtain ⟨resolved, -, htypes⟩ := types_of_untagged hj (hkept ▸ hbare)
    -- for these kinds the default does not depend on what the text means
    have hkind : ((run source nodes).node j).kind = (run source nodes).kind j := rfl
    rw [htypes, defaultTypes, hkind]
    rw [FileScope.implicitTags] at h
    revert h
    cases (run source nodes).kind j with
    | numeric =>
        intro h
        obtain ⟨hparent, htags⟩ := Option.ite_none_right_eq_some.mp h
        cases htags
        simp [hparent]
    | var =>
        intro h
        cases h
        rfl
    | code =>
        intro h
        cases h
        rfl
    | _ => exact fun h => by cases h

end Annotate

namespace Tree.SelfTagged

theorem of_plain {kind : FileKind} {steps : List Step} (hplain : steps.all Step.isPlain = true)
    (hleaf : Navigation.NamesAreLeaves (.ofScript kind steps))
    (hnamed : ∀ d ∈ (ofScript kind steps).declarations.toList, ∀ c ∈ d.nameNode,
      Navigation.isNamed (((Builder.new kind).run steps).sofar.kind c) = true) :
    (ofScript kind steps).SelfTagged := by
  refine ⟨⟨kind, steps, rfl, fun i => ?_⟩, hleaf, fun d hd c hc => ?_⟩
  · rw [Builder.notes_run _ i hplain, Builder.notes_new]
  · rw [kind_ofScript]
    exact hnamed d hd c hc

variable {t : Tree} (h : t.SelfTagged)
include h

theorem laid : t.Laid := by
  obtain ⟨kind, steps, rfl, -⟩ := h.built
  exact laid_ofScript kind steps

theorem outlines : t.declarations.toList.map Declaration.outline = t.heads.map t.outline := by
  obtain ⟨kind, steps, rfl, -⟩ := h.built
  exact outlines_ofScript kind steps

theorem isNamed_head {k : DeclarationKind} {c : NodeId} (hc : (k, c) ∈ t.heads) :
    Navigation.isNamed (t.kind c) = true := by
  obtain ⟨d, hd, -, -, hnode⟩ := exists_declaration_of_mem_heads h.outlines hc
  exact h.named d hd c hnode

theorem types_of_head {k : DeclarationKind} {c : NodeId} (hc : (k, c) ∈ t.heads) :
    t.referenceTypes c = .single k.referenceType := by
  have href := Navigation.isReference_of_isNamed (h.isNamed_head hc)
  have hnested := h.laid.toNested
  obtain ⟨kind, steps, rfl, hbare⟩ := h.built
  have hnotes := congrArg Prod.fst (Builder.notes_build ((Builder.new kind).run steps) c)
  exact Annotate.types_of_mem_heads (hnotes.trans (hbare c)) hnested href hc

theorem types_of_use {i : NodeId} {tags : ReferenceTypes × ValueType}
    (hi : FileScope.implicitTags t i = some tags) : t.referenceTypes i = tags.1 := by
  have hfree : ∀ l ∈ t.heads, l.2 ≠ i := by
    rintro ⟨k, c⟩ hc rfl
    have hnamed := h.isNamed_head hc
    rw [(Annotate.isReference_of_implicitTags hi).2] at hnamed
    cases hnamed
  obtain ⟨kind, steps, rfl, hbare⟩ := h.built
  have hnotes := congrArg Prod.fst (Builder.notes_build ((Builder.new kind).run steps) i)
  exact Annotate.types_of_implicitTags (hnotes.trans (hbare i)) hfree hi

end Tree.SelfTagged

namespace Navigation

variable {w : Workspace} {r : Record} {y : Symbol} {t : Tree} {offset : Nat}

theorem isEmpty_or_intersects_self (types : ReferenceTypes) :
    (types.isEmpty || types.intersects types) = true := by
  rw [ReferenceTypes.isEmpty, ReferenceTypes.intersects, UInt8.and_self, bne, Bool.or_not_self]

theorem isNamedBy_of_types {i : NodeId} (href : t.isReference i = true) (hname : y.name = t.text i)
    (htypes : t.referenceTypes i = y.referenceTypes) : y.isNamedBy t i = true := by
  rw [Symbol.isNamedBy, href, hname, htypes, isEmpty_or_intersects_self, beq_self_eq_true]
  rfl

theorem isNamedBy_ofDeclaration (h : t.SelfTagged) {d : Declaration}
    (hd : d ∈ t.declarations.toList) (uri : String) (i : DeclId) :
    (Symbol.ofDeclaration uri i d).isNamedBy t (Symbol.ofDeclaration uri i d).node = true := by
  obtain ⟨c, hc, hname, hnode⟩ := Tree.exists_head_of_mem_declarations h.outlines hd
  have hat : (Symbol.ofDeclaration uri i d).node = c := by
    show d.nameNode.getD d.node = c
    rw [hnode, Option.getD_some]
  rw [hat]
  exact isNamedBy_of_types (isReference_of_isNamed (h.isNamed_head hc)) hname (h.types_of_head hc)

/-- The node that a symbol is made of names the symbol. -/
theorem isNamedBy_node (h : r.tree.SelfTagged) (hy : y ∈ (FileScope.of r).symbols) :
    y.isNamedBy r.tree y.node = true := by
  obtain ⟨uses, hsymbols, huses⟩ := FileScope.symbols_eq r
  rw [hsymbols, List.mem_append] at hy
  rcases hy with hy | hy
  · obtain ⟨i, hi, rfl⟩ := List.mem_mapIdx.mp hy
    exact isNamedBy_ofDeclaration h (List.getElem_mem hi) r.uri i
  · obtain ⟨-, hmade⟩ := huses y hy
    exact isNamedBy_of_types (Annotate.isReference_of_implicitTags hmade.tags_eq).1 hmade.name_eq
      (h.types_of_use hmade.tags_eq)

/-- What is found as the definition of a name is found among its references, and there is nothing
of one only where there is nothing of the other. -/
theorem definition_among_references (haddress : ∀ g ∈ w.records, g.address?.isSome = true)
    (htrees : ∀ g ∈ w.records, g.tree.SelfTagged) (hr : r ∈ w.records) (offset : Nat) :
    (∀ l, definition? w r offset = some l → l ∈ references w r offset none) ∧
      (definition? w r offset = none ↔ references w r offset none = []) := by
  have hat := nameAt_eq_of_leaves (htrees r hr).laid (htrees r hr).leaves offset
  cases ho : origin? w r (referenceAt r.tree offset) with
  | none =>
      have hdef : definition? w r offset = none := by rw [definition?, hat, ho]
      have href : references w r offset none = [] := by simp only [references, ho]
      simp [hdef, href]
  | some s =>
      obtain ⟨origin, y⟩ := s
      obtain ⟨hsearch, hy, hnamed⟩ := origin?_spec ho
      have hor := mem_records_of_mem_searchOrder hr hsearch
      have hself := htrees origin hor
      have huse := isNamedBy_node hself hy
      obtain ⟨l, hl⟩ := Option.isSome_iff_exists.mp
        (Record.isSome_location? (haddress origin hor) y.node)
      have hdef : definition? w r offset = some l := by
        have hlt := Tree.lt_size_of_isReference (isNamedBy_spec huse).1
        rw [definition?, hat, ho]
        simp only [Tree.node?_eq_some hlt, Option.isSome_some, if_true, hl]
      -- the file that knows the symbol is searched, and what the symbol is made of is a use there
      have hmem : l ∈ references w r offset none :=
        mem_references.mpr ⟨origin, y.node, (mem_sites ho).mpr
          ⟨self_mem_targets hor (isNamedBy_spec hnamed).1,
            (mem_uses_of_leaves hself.laid.toNested hself.leaves).mpr huse⟩, hl⟩
      rw [hdef]
      refine ⟨fun l' hl' => ?_, fun h => (by cases h), fun h => ?_⟩
      · cases hl'
        exact hmem
      · rw [h] at hmem
        cases hmem

theorem selfTagged_toolShop (g : Record) (hg : g ∈ Rename.toolShop.records) :
    g.tree.SelfTagged := by
  have hleaf := binding_toolShop.1 g hg
  rcases Workspace.mem_insertRecord hg with rfl | hg
  · exact .of_plain (by decide) hleaf (by decide)
  · rcases Workspace.mem_insertRecord hg with rfl | hg
    · exact .of_plain (by decide) hleaf (by decide)
    · rcases Workspace.mem_insertRecord hg with rfl | hg
      · exact .of_plain (by decide) hleaf (by decide)
      · cases hg

/-- The definition file declares a name, two programs include the file, and one of them uses the
name. -/
theorem definition_among_references_toolShop :
    (∀ g ∈ Rename.toolShop.records, g.address?.isSome = true) ∧
      (∀ g ∈ Rename.toolShop.records, g.tree.SelfTagged) ∧
      Rename.toolUser ∈ Rename.toolShop.records ∧
      definition? Rename.toolShop Rename.toolUser 19 =
        some ⟨"file:///shop/tools.def", ⟨⟨0, 1⟩, ⟨0, 2⟩⟩⟩ ∧
      ⟨"file:///shop/tools.def", ⟨⟨0, 1⟩, ⟨0, 2⟩⟩⟩ ∈
        references Rename.toolShop Rename.toolUser 19 none := by
  obtain ⟨-, -, -, -, hd, -⟩ := binding_toolShop
  have haddress := Rename.uris_edits_toolShop.1.proper
  have hfound := definition_among_references haddress selfTagged_toolShop Rename.toolUser_mem 19
  exact ⟨haddress, selfTagged_toolShop, Rename.toolUser_mem, hd, hfound.1 _ hd⟩

end Navigation
end NcInsight
