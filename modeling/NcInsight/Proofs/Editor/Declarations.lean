import NcInsight.Proofs.Editor.Occurrences
import NcInsight.Proofs.Workspace.Files
import NcInsight.Proofs.Workspace.Symbols

/-
Declarations in files without annotations of their own.

In such files the name of a declaration is bound to its own file and to a declaration of its kind
(`origin?_of_head`), so what is found from it are the uses in the files that are searched for
that file (`references_of_origin`).
-/
namespace NcInsight

/-! ## Files as a reader of the text builds them -/

/-- The script sets no annotations, each use of a name is a token, declarations are named by
symbols and labels, and includes name their file by a string. -/
structure SourceFile.Plain (f : SourceFile) : Prop where
  unannotated : f.steps.all Step.isPlain = true
  tokens : ∀ i, i < f.tree.size → f.tree.isReference i = true →
    i ∈ Piece.leaves (Step.written f.steps)
  named : ∀ d ∈ f.tree.declarations.toList, ∀ c ∈ d.nameNode,
    Navigation.isNamed (f.tree.kind c) = true
  included : ∀ i ∈ f.tree.inclusions, ∀ c ∈ f.tree.inclusionTarget? i,
    f.tree.kind c = .string ∧ c ∈ Piece.leaves (Step.written f.steps)

namespace SourceFile

variable {f : SourceFile}

instance (f : SourceFile) : Decidable f.Plain :=
  decidable_of_iff
    (f.steps.all Step.isPlain = true ∧
      (∀ i, i < f.tree.size → f.tree.isReference i = true →
        i ∈ Piece.leaves (Step.written f.steps)) ∧
      (∀ d ∈ f.tree.declarations.toList, ∀ c ∈ d.nameNode,
        Navigation.isNamed (f.tree.kind c) = true) ∧
      ∀ i ∈ f.tree.inclusions, ∀ c ∈ f.tree.inclusionTarget? i,
        f.tree.kind c = .string ∧ c ∈ Piece.leaves (Step.written f.steps))
    ⟨fun ⟨hsteps, htokens, hnamed, hincluded⟩ => ⟨hsteps, htokens, hnamed, hincluded⟩,
      fun h => ⟨h.unannotated, h.tokens, h.named, h.included⟩⟩

theorem laid (f : SourceFile) : f.tree.Laid := Tree.laid_ofScript f.kind f.steps

theorem alike_rename (f : SourceFile) (p : NodeId → Bool) (name : String) :
    f.tree.Alike (f.rename p name).tree :=
  Tree.alike_ofScript f.kind p name f.steps

theorem outlines (f : SourceFile) :
    f.tree.declarations.toList.map Declaration.outline = f.tree.heads.map f.tree.outline :=
  Tree.outlines_ofScript f.kind f.steps

theorem text_rename (f : SourceFile) (p : NodeId → Bool) (name : String) {i : NodeId}
    (hi : i ∈ Piece.leaves (Step.written f.steps)) :
    (f.rename p name).tree.text i = if p i then name else f.tree.text i :=
  Tree.text_renameLeaves f.kind p name hi

theorem children_of_mem_leaves {i : NodeId} (hi : i ∈ Piece.leaves (Step.written f.steps)) :
    i < f.tree.size ∧ f.tree.children i = [] := by
  obtain ⟨l, text, r, hps⟩ := Piece.exists_of_mem_leaves hi
  obtain ⟨-, hlt, hleaf, -⟩ := Tree.leaf_ofScript f.kind hps
  exact ⟨hlt, hleaf⟩

namespace Plain

theorem mem_leaves (h : f.Plain) {i : NodeId} (href : f.tree.isReference i = true) :
    i ∈ Piece.leaves (Step.written f.steps) :=
  h.tokens i (Tree.lt_size_of_isReference href) href

theorem namesAreLeaves (h : f.Plain) : Navigation.NamesAreLeaves f.tree :=
  fun _ _ href => (children_of_mem_leaves (h.mem_leaves href)).2

theorem namesAreLeaves_rename (h : f.Plain) (p : NodeId → Bool) (name : String) :
    Navigation.NamesAreLeaves (f.rename p name).tree := by
  intro i hi href
  have halike := f.alike_rename p name
  rw [← halike.size] at hi
  rw [← halike.isReference] at href
  rw [← halike.children]
  exact h.namesAreLeaves i hi href

theorem tagsSayUse (h : f.Plain) : f.tree.TagsSayUse :=
  Tree.tagsSayUse_ofScript f.kind h.unannotated

theorem tagsSayUse_rename (h : f.Plain) (p : NodeId → Bool) (name : String) :
    (f.rename p name).tree.TagsSayUse := by
  have hplain : (Step.renameLeaves p name f.steps).all Step.isPlain = true := by
    rw [Step.renameLeaves, Step.all_isPlain_renameFrom]
    exact h.unannotated
  exact Tree.tagsSayUse_ofScript f.kind hplain

theorem isNamed_head (h : f.Plain) {l : DeclarationKind × NodeId} (hl : l ∈ f.tree.heads) :
    Navigation.isNamed (f.tree.kind l.2) = true := by
  have hmem : f.tree.outline l ∈ f.tree.declarations.toList.map Declaration.outline := by
    rw [f.outlines]
    exact List.mem_map_of_mem hl
  obtain ⟨d, hd, hout⟩ := List.mem_map.mp hmem
  have hname : d.nameNode = some l.2 := congrArg (fun o => o.2.2) hout
  exact h.named d hd l.2 hname

theorem isReference_head (h : f.Plain) {l : DeclarationKind × NodeId} (hl : l ∈ f.tree.heads) :
    f.tree.isReference l.2 = true :=
  Navigation.isReference_of_isNamed (h.isNamed_head hl)

end Plain
end SourceFile

/-! ## From the name of a declaration to the declaration -/

namespace Navigation

variable {w : Workspace} {r : Record} {k : DeclarationKind} {n : NodeId}

/-- The name of a declaration is bound to its own file, to a declaration of its kind. -/
theorem origin?_of_head (hnested : r.tree.Nested) (htags : r.tree.TagsSayUse)
    (hout : r.tree.declarations.toList.map Declaration.outline = r.tree.heads.map r.tree.outline)
    (hn : (k, n) ∈ r.tree.heads) (href : r.tree.isReference n = true) :
    ∃ y, origin? w r n = some (r, y) ∧ y.name = r.tree.text n ∧
      y.referenceTypes = .single k.referenceType := by
  obtain ⟨uses, hsymbols, -⟩ := FileScope.symbols_eq r
  have hused := hnested.usedAs_of_mem_heads hn
  -- the symbols before the uses are those of declarations, and there is one that fits
  have hfits : ∃ y ∈ r.tree.declarations.toList.mapIdx (Symbol.ofDeclaration r.uri),
      y.isNamedBy r.tree n = true := by
    obtain ⟨d, hd, hkind, hname, -⟩ := Tree.exists_declaration_of_mem_heads hout hn
    obtain ⟨i, hi, rfl⟩ := List.getElem_of_mem hd
    refine ⟨_, List.mem_mapIdx.mpr ⟨i, hi, rfl⟩, ?_⟩
    have htypes := congrArg (fun l => ReferenceTypes.single l.referenceType) hkind
    exact (htags.isNamedBy_iff htypes).mpr ⟨href, hname.symm, hused⟩
  obtain ⟨x, hx, hxn⟩ := hfits
  cases hfind : (r.tree.declarations.toList.mapIdx (Symbol.ofDeclaration r.uri)).find?
      fun y => y.isNamedBy r.tree n with
  | none => exact absurd hxn (List.find?_eq_none.mp hfind x hx)
  | some y =>
      have hynamed : y.isNamedBy r.tree n = true := by simpa using List.find?_some hfind
      obtain ⟨l, hl⟩ : ∃ l : DeclarationKind, y.referenceTypes = .single l.referenceType := by
        obtain ⟨i, hi, rfl⟩ := List.mem_mapIdx.mp (List.mem_of_find?_eq_some hfind)
        exact ⟨_, rfl⟩
      have hsame := ((htags.isNamedBy_iff hl).mp hynamed).2.2
      rw [hused] at hsame
      cases hsame
      refine ⟨y, origin?_of_resolve ?_, (isNamedBy_spec hynamed).2.symm, hl⟩
      rw [resolve_eq_find?, hsymbols, List.find?_append, hfind, Option.some_or]

end Navigation

/-! ## The tokens at the references -/

namespace SourceFile

/-- The node stands at one of the locations. -/
def isAt (base : IncludeBase) (ls : List Location) (g : SourceFile) (i : NodeId) : Bool :=
  ls.any fun l => (g.record base).location? i == some l

theorem isAt_iff {base : IncludeBase} {ls : List Location} {g : SourceFile} {i : NodeId} :
    g.isAt base ls i = true ↔ ∃ l ∈ ls, (g.record base).location? i = some l := by
  simp only [isAt, List.any_eq_true, beq_iff_eq]

/-- The file with its tokens at the locations given a name. -/
def renamedAt (base : IncludeBase) (ls : List Location) (name : String) (g : SourceFile) :
    SourceFile :=
  g.rename (g.isAt base ls) name

/-- The files searched for the uses of what a file declares. -/
def searched (base : IncludeBase) (files : List SourceFile) (f : SourceFile) : List SourceFile :=
  (if f.tree.isProgram then [] else
    (inOrder files).filter fun g =>
      (g.record base).isProgram && (g.record base).isIncluding f.uri) ++ [f]

theorem mem_searched_self (base : IncludeBase) (files : List SourceFile) (f : SourceFile) :
    f ∈ searched base files f :=
  List.mem_append_right _ List.mem_cons_self

theorem mem_files_of_mem_searched {base : IncludeBase} {files : List SourceFile} {f g : SourceFile}
    (hnodup : (files.map (·.uri)).Nodup) (hf : f ∈ files) (hg : g ∈ searched base files f) :
    g ∈ files := by
  rcases List.mem_append.mp hg with hg | hg
  · split at hg
    · cases hg
    · exact (mem_inOrder hnodup).mp (List.mem_of_mem_filter hg)
  · rw [List.mem_singleton.mp hg]
    exact hf

theorem targets_ofFiles (base : IncludeBase) (files : List SourceFile) (f : SourceFile)
    {n : NodeId} (hkind : Navigation.isNamed (f.tree.kind n) = true) :
    Navigation.targets (Workspace.ofFiles base files) f.tree n (f.record base) =
      (searched base files f).map (record base) := by
  have htargets : Navigation.targets (Workspace.ofFiles base files) f.tree n (f.record base) =
      (if f.tree.isProgram then [] else (Workspace.ofFiles base files).programsIncluding f.uri) ++
        [f.record base] := Navigation.targets_of_isNamed hkind
  rw [htargets, searched, List.map_append]
  congr 1
  split
  · rfl
  · rw [Workspace.programsIncluding, Workspace.select, Workspace.records_ofFiles, List.filter_map,
      List.filter_map, List.filter_filter]
    congr 2
    funext g
    exact Bool.and_comm ..

end SourceFile

/-- What is found from the name of a declaration: its uses in the files searched. -/
theorem references_of_origin {base : IncludeBase} {files : List SourceFile} {f : SourceFile}
    {n : NodeId} {y : Symbol} (hkind : Navigation.isNamed (f.tree.kind n) = true)
    (hat : Navigation.referenceAt f.tree (f.tree.start n) = n)
    (ho : Navigation.origin? (Workspace.ofFiles base files) (f.record base) n =
      some (f.record base, y)) :
    Navigation.references (Workspace.ofFiles base files) (f.record base) (f.tree.start n) none =
      (SourceFile.searched base files f).flatMap fun g =>
        (Navigation.uses g.tree y).filterMap (g.record base).location? := by
  have hat' : Navigation.referenceAt (f.record base).tree (f.tree.start n) = n := hat
  have htargets : Navigation.targets (Workspace.ofFiles base files) (f.record base).tree n
      (f.record base) = (SourceFile.searched base files f).map (SourceFile.record base) :=
    SourceFile.targets_ofFiles base files f hkind
  rw [Navigation.references_eq_sites, Navigation.sites, hat', ho]
  simp only [htargets, List.filterMap_flatMap, List.flatMap_map, List.filterMap_map]
  rfl

end NcInsight
