import Mathlib.Data.List.Sort
import NcInsight.Proofs.Editor.AppliedEdits
import NcInsight.Proofs.Editor.Declarations

/-
Renaming a declaration and building the files anew.

A rename from the name of a declaration edits every use.  Applied to the sources, the edits give
what the scripts write if exactly those leaves are given the new name (`applyAll_edits`), and
in the files built from such scripts the uses of the new name are those leaves again, in the
same order (`references_renamedAt`).
-/
namespace NcInsight

/-! ## One declaration and its uses -/

/-- The node `n` of file `f` is the name of a declaration of kind `k`, which is found from it as the
symbol `y`. -/
structure DeclaredAt (base : IncludeBase) (files : List SourceFile) (f : SourceFile)
    (k : DeclarationKind) (n : NodeId) (y : Symbol) : Prop where
  plain : ∀ g ∈ files, g.Plain
  nodup : (files.map (·.uri)).Nodup
  addresses : (Workspace.ofFiles base files).DistinctAddresses
  mem : f ∈ files
  head : (k, n) ∈ f.tree.heads
  text : ∃ x ∈ (f.tree.text n).toList, Text.isBlank x = false
  origin : Navigation.origin? (Workspace.ofFiles base files) (f.record base) n =
    some (f.record base, y)
  name : y.name = f.tree.text n
  types : y.referenceTypes = .single k.referenceType

/-- All uses of the declaration that `n` names. -/
def usesOf (base : IncludeBase) (files : List SourceFile) (f : SourceFile) (n : NodeId) :
    List Location :=
  Navigation.references (Workspace.ofFiles base files) (f.record base) (f.tree.start n) none

namespace DeclaredAt

open SourceFile

variable {base : IncludeBase} {files : List SourceFile} {f g : SourceFile} {k : DeclarationKind}
  {n : NodeId} {y : Symbol} (h : DeclaredAt base files f k n y)
include h

theorem plainFile : f.Plain := h.plain f h.mem

theorem isNamed : Navigation.isNamed (f.tree.kind n) = true := h.plainFile.isNamed_head h.head

theorem isReference : f.tree.isReference n = true := h.plainFile.isReference_head h.head

theorem referenceAt : Navigation.referenceAt f.tree (f.tree.start n) = n :=
  Navigation.referenceAt_start f.laid h.plainFile.namesAreLeaves h.isReference h.text

theorem record_mem (hg : g ∈ files) :
    g.record base ∈ (Workspace.ofFiles base files).records := by
  rw [Workspace.records_ofFiles]
  exact List.mem_map_of_mem ((mem_inOrder h.nodup).mpr hg)

theorem usesOf_eq : usesOf base files f n = (searched base files f).flatMap fun g =>
    (Navigation.uses g.tree y).filterMap (g.record base).location? :=
  references_of_origin h.isNamed h.referenceAt h.origin

theorem mem_usesOf {l : Location} : l ∈ usesOf base files f n ↔
    ∃ g ∈ searched base files f, ∃ i, y.isNamedBy g.tree i = true ∧
      (g.record base).location? i = some l := by
  rw [h.usesOf_eq, List.mem_flatMap]
  refine exists_congr fun g => and_congr_right fun hg => ?_
  have hplain := h.plain g (mem_files_of_mem_searched h.nodup h.mem hg)
  rw [List.mem_filterMap]
  refine exists_congr fun i => and_congr_left fun _ => ?_
  exact Navigation.mem_uses_of_leaves g.laid.toNested hplain.namesAreLeaves

theorem eq_of_address {g' : SourceFile} (hg : g ∈ files) (hg' : g' ∈ files)
    (ha : (g.record base).address? = (g'.record base).address?) : g = g' := by
  have hsame := h.addresses.eq_of_address (h.record_mem hg) (h.record_mem hg') ha
  have huri : g.uri = g'.uri := congrArg Record.uri hsame
  exact List.inj_on_of_nodup_map h.nodup hg hg' huri

/-- A location tells its file. -/
theorem eq_of_location {g' : SourceFile} (hg : g ∈ files) (hg' : g' ∈ files) {i j : NodeId}
    {l : Location} (hi : (g.record base).location? i = some l)
    (hj : (g'.record base).location? j = some l) : g = g' :=
  h.eq_of_address hg hg'
    ((Record.location?_eq_some.mp hi).1.trans (Record.location?_eq_some.mp hj).1.symm)

theorem text_ne_nil {i : NodeId} (hi : y.isNamedBy g.tree i = true) :
    (g.tree.text i).toList ≠ [] := by
  rw [(Navigation.isNamedBy_spec hi).2, h.name]
  obtain ⟨x, hx, -⟩ := h.text
  exact List.ne_nil_of_mem hx

/-- A token of a searched file stands at a use exactly if it is one. -/
theorem isAt_of_searched (hg : g ∈ searched base files f) {i : NodeId}
    (hi : i ∈ Piece.leaves (Step.written g.steps)) :
    g.isAt base (usesOf base files f n) i = y.isNamedBy g.tree i := by
  have hgf := mem_files_of_mem_searched h.nodup h.mem hg
  obtain ⟨hisize, hileaf⟩ := children_of_mem_leaves hi
  rw [Bool.eq_iff_iff, isAt_iff]
  constructor
  · rintro ⟨l, hl, hil⟩
    obtain ⟨g', hg', j, hj, hjl⟩ := h.mem_usesOf.mp hl
    obtain rfl := h.eq_of_location hgf (mem_files_of_mem_searched h.nodup h.mem hg') hil hjl
    have hjref := (Navigation.isNamedBy_spec hj).1
    have hjsize := Tree.lt_size_of_isReference hjref
    have hjleaf := (h.plain g hgf).namesAreLeaves j hjsize hjref
    have hrange : (g.record base).range i = (g.record base).range j :=
      (Record.location?_eq_some.mp hil).2.symm.trans (Record.location?_eq_some.mp hjl).2
    have hspan : g.tree.span i = g.tree.span j := by
      rw [← Edit.span_ofSpan g.laid hisize "", ← Edit.span_ofSpan g.laid hjsize ""]
      exact congrArg (fun range => Edit.span g.tree.source ⟨range, ""⟩) hrange
    -- two leaves with one span that is not empty are the same
    rw [g.laid.eq_of_span_eq hisize hjsize hileaf hjleaf hspan
      (g.laid.start_lt_stop hjsize (h.text_ne_nil hj))]
    exact hj
  · intro hnamed
    obtain ⟨a, ha⟩ := Option.isSome_iff_exists.mp (h.addresses.proper _ (h.record_mem hgf))
    have hloc : (g.record base).location? i = some ⟨a, (g.record base).range i⟩ :=
      Record.location?_eq_some.mpr ⟨ha, rfl⟩
    exact ⟨_, h.mem_usesOf.mpr ⟨g, hg, i, hnamed, hloc⟩, hloc⟩

theorem isAt_of_not_searched (hgf : g ∈ files) (hg : g ∉ searched base files f) (i : NodeId) :
    g.isAt base (usesOf base files f n) i = false := by
  rw [Bool.eq_false_iff]
  intro hat
  obtain ⟨l, hl, hil⟩ := isAt_iff.mp hat
  obtain ⟨g', hg', j, -, hjl⟩ := h.mem_usesOf.mp hl
  obtain rfl := h.eq_of_location hgf (mem_files_of_mem_searched h.nodup h.mem hg') hil hjl
  exact hg hg'

/-! ### The sources -/

/-- Uses are tokens, so taken from the nodes or from the tokens they are the same list. -/
theorem uses_eq_leaves (hg : g ∈ files) : Navigation.uses g.tree y =
    (Piece.leaves (Step.written g.steps)).filter (y.isNamedBy g.tree) := by
  have hplain := h.plain g hg
  rw [Navigation.uses_eq_of_leaves g.laid.toNested hplain.namesAreLeaves]
  have hrange : ((List.range g.tree.size).filter (y.isNamedBy g.tree)).Pairwise
      fun i j : Nat => i < j := (List.pairwise_lt_range (n := g.tree.size)).filter _
  have hleaves : ((Piece.leaves (Step.written g.steps)).filter (y.isNamedBy g.tree)).Pairwise
      fun i j : Nat => i < j := (Tree.leaves_ascending g.steps).filter _
  refine hrange.eq_of_mem_iff hleaves fun i => ?_
  rw [List.mem_filter, List.mem_filter, List.mem_range]
  refine and_congr_left fun hi => ?_
  have href := (Navigation.isNamedBy_spec hi).1
  exact ⟨fun _ => hplain.mem_leaves href, fun _ => Tree.lt_size_of_isReference href⟩

/-- The edits of a file are those of its tokens at the uses. -/
theorem editsFor_eq (hg : g ∈ files) {a : String} (ha : (g.record base).address? = some a)
    (newName : String) :
    Rename.editsFor (Rename.edits (Workspace.ofFiles base files) (f.record base)
        (f.tree.start n) newName) a =
      ((Piece.leaves (Step.written g.steps)).filter
        (g.isAt base (usesOf base files f n))).map
          fun i => ⟨(g.record base).range i, newName⟩ := by
  rw [Rename.edits, Rename.editsFor_editsOf]
  by_cases hsearched : g ∈ searched base files f
  · have hat : Navigation.referenceAt (f.record base).tree (f.tree.start n) = n := h.referenceAt
    have ho : Navigation.origin? (Workspace.ofFiles base files) (f.record base)
        (Navigation.referenceAt (f.record base).tree (f.tree.start n)) =
          some (f.record base, y) := by
      rw [hat]
      exact h.origin
    have htarget : g.record base ∈ Navigation.targets (Workspace.ofFiles base files)
        (f.record base).tree (Navigation.referenceAt (f.record base).tree (f.tree.start n))
        (f.record base) := by
      have htargets := targets_ofFiles base files f h.isNamed
      rw [hat]
      exact htargets ▸ List.mem_map_of_mem hsearched
    rw [Rename.group_references (Workspace.scripted_ofFiles base files) h.addresses ho
      (h.record_mem h.mem) htarget ha]
    show (Navigation.uses g.tree y).map _ = _
    rw [h.uses_eq_leaves hg]
    congr 1
    exact List.filter_congr fun i hi => (h.isAt_of_searched hsearched hi).symm
  · have hnone : (Piece.leaves (Step.written g.steps)).filter
        (g.isAt base (usesOf base files f n)) = [] :=
      List.filter_eq_nil_iff.mpr fun i _ => by simp [h.isAt_of_not_searched hg hsearched i]
    rw [hnone, List.map_nil, Rename.group, List.map_eq_nil_iff, List.filter_eq_nil_iff]
    intro l hl hla
    obtain ⟨g', hg', j, -, hjl⟩ := h.mem_usesOf.mp hl
    have hg'a := (Record.location?_eq_some.mp hjl).1
    rw [eq_of_beq hla] at hg'a
    obtain rfl := h.eq_of_address hg (mem_files_of_mem_searched h.nodup h.mem hg')
      (ha.trans hg'a.symm)
    exact hsearched hg'

/-- The edits turn the source of a file into the one that the renamed script writes. -/
theorem applyAll_edits (hg : g ∈ files) {a : String} (ha : (g.record base).address? = some a)
    (newName : String) :
    Edit.applyAll g.tree.source (Rename.editsFor (Rename.edits (Workspace.ofFiles base files)
        (f.record base) (f.tree.start n) newName) a) =
      (g.renamedAt base (usesOf base files f n) newName).tree.source := by
  rw [h.editsFor_eq hg ha]
  refine applyAll_leaves g.kind _ newName (fun _ => rfl) fun i hi => ?_
  exact Edit.span_ofSpan g.laid (children_of_mem_leaves hi).1 newName

/-! ### The uses of the new name -/

/-- The files with the uses renamed. -/
theorem text_renamedAt (hg : g ∈ files) (newName : String) {i : NodeId}
    (hi : i ∈ Piece.leaves (Step.written g.steps)) :
    (g.renamedAt base (usesOf base files f n) newName).tree.text i =
      if g ∈ searched base files f ∧ y.isNamedBy g.tree i = true then newName
      else g.tree.text i := by
  rw [renamedAt, text_rename g _ newName hi]
  by_cases hsearched : g ∈ searched base files f
  · rw [h.isAt_of_searched hsearched hi]
    exact if_congr (by simp [hsearched]) rfl rfl
  · rw [h.isAt_of_not_searched hg hsearched i, if_neg (by simp), if_neg fun hand => hsearched hand.1]

/-- No include changes: it is named by a string, which is no use of a name. -/
theorem includes_renamedAt (hg : g ∈ files) (newName : String) :
    ((g.renamedAt base (usesOf base files f n) newName).record base).includes =
      (g.record base).includes := by
  have halike := g.alike_rename (g.isAt base (usesOf base files f n)) newName
  have htexts : (g.renamedAt base (usesOf base files f n) newName).tree.inclusionTexts =
      g.tree.inclusionTexts := by
    rw [Tree.inclusionTexts, Tree.inclusionTexts]
    have htargets : (g.renamedAt base (usesOf base files f n) newName).tree.inclusions.filterMap
        (g.renamedAt base (usesOf base files f n) newName).tree.inclusionTarget? =
          g.tree.inclusions.filterMap g.tree.inclusionTarget? := by
      have htarget : g.tree.inclusionTarget? =
          (g.renamedAt base (usesOf base files f n) newName).tree.inclusionTarget? :=
        funext fun i => congrFun (congrFun halike.childOrFirst i) .uri
      rw [← htarget, renamedAt, ← halike.inclusions]
    rw [htargets]
    refine List.map_congr_left fun c hc => ?_
    obtain ⟨i, hi, hic⟩ := List.mem_filterMap.mp hc
    obtain ⟨hstring, hleaf⟩ := (h.plain g hg).included i hi c hic
    rw [h.text_renamedAt hg newName hleaf, if_neg]
    rintro ⟨-, hnamed⟩
    have href := (Navigation.isNamedBy_spec hnamed).1
    rw [Tree.isReference, hstring] at href
    cases href
  show ((g.renamedAt base (usesOf base files f n) newName).tree.inclusionTexts.map _).eraseDups = _
  rw [htexts]
  rfl

theorem searched_renamedAt (newName : String) :
    searched base (files.map (renamedAt base (usesOf base files f n) newName))
        (f.renamedAt base (usesOf base files f n) newName) =
      (searched base files f).map (renamedAt base (usesOf base files f n) newName) := by
  have hprogram : ∀ g : SourceFile,
      (g.renamedAt base (usesOf base files f n) newName).tree.isProgram = g.tree.isProgram :=
    fun g => (g.alike_rename _ newName).isProgram.symm
  have horder : inOrder (files.map (renamedAt base (usesOf base files f n) newName)) =
      (inOrder files).map (renamedAt base (usesOf base files f n) newName) := by
    apply inOrder_map
    exact fun _ => rfl
  rw [searched, searched, hprogram, List.map_append, horder]
  congr 1
  split
  · rfl
  · rw [List.filter_map]
    congr 1
    refine List.filter_congr fun g hg => ?_
    show ((g.renamedAt base (usesOf base files f n) newName).tree.isProgram &&
      ((g.renamedAt base (usesOf base files f n) newName).record base).includes.contains f.uri) = _
    rw [hprogram, h.includes_renamedAt ((mem_inOrder h.nodup).mp hg)]
    rfl

theorem isNamedBy_self : y.isNamedBy f.tree n = true :=
  (Navigation.origin?_spec h.origin).2.2

section new

variable {newName : String} {z : Symbol}
  (hfresh : ∀ g ∈ files, ∀ i, g.tree.isReference i = true → g.tree.text i ≠ newName)
include hfresh

theorem uses_renamedAt (hname : z.name = newName)
    (htypes : z.referenceTypes = .single k.referenceType) (hg : g ∈ searched base files f) :
    Navigation.uses (g.renamedAt base (usesOf base files f n) newName).tree z =
      Navigation.uses g.tree y := by
  have hgf := mem_files_of_mem_searched h.nodup h.mem hg
  have hplain := h.plain g hgf
  have halike := g.alike_rename (g.isAt base (usesOf base files f n)) newName
  have htext : ∀ i, g.tree.isReference i = true →
      (g.rename (g.isAt base (usesOf base files f n)) newName).tree.text i =
        if y.isNamedBy g.tree i then z.name else g.tree.text i := by
    intro i href
    rw [hname]
    refine (h.text_renamedAt hgf newName (hplain.mem_leaves href)).trans ?_
    exact if_congr (by simp [hg]) rfl rfl
  have hnew : ∀ i, g.tree.isReference i = true → g.tree.text i ≠ z.name := by
    rw [hname]
    exact hfresh g hgf
  have hsame := Tree.isNamedBy_renamed halike g.laid.toNested hplain.tagsSayUse
    (hplain.tagsSayUse_rename _ newName) h.types htypes (fun _ => hplain.isReference_head) hnew htext
  rw [renamedAt, Navigation.uses_eq_of_leaves (SourceFile.laid _).toNested
      (hplain.namesAreLeaves_rename _ newName),
    Navigation.uses_eq_of_leaves g.laid.toNested hplain.namesAreLeaves, ← halike.size]
  exact List.filter_congr fun i _ => hsame i

/-- The uses of the new name, found from the renamed declaration, are the renamed tokens. -/
theorem references_renamedAt (hnew : ∃ x ∈ newName.toList, Text.isBlank x = false) :
    Navigation.references
        (Workspace.ofFiles base (files.map (renamedAt base (usesOf base files f n) newName)))
        ((f.renamedAt base (usesOf base files f n) newName).record base)
        ((f.renamedAt base (usesOf base files f n) newName).tree.start n) none =
      (searched base files f).flatMap fun g => (Navigation.uses g.tree y).filterMap
        ((g.renamedAt base (usesOf base files f n) newName).record base).location? := by
  have halike := f.alike_rename (f.isAt base (usesOf base files f n)) newName
  have hkind : Navigation.isNamed
      ((f.renamedAt base (usesOf base files f n) newName).tree.kind n) = true := by
    rw [renamedAt, ← halike.kind]
    exact h.isNamed
  have href : (f.renamedAt base (usesOf base files f n) newName).tree.isReference n = true :=
    Navigation.isReference_of_isNamed hkind
  have htext : (f.renamedAt base (usesOf base files f n) newName).tree.text n = newName := by
    rw [h.text_renamedAt h.mem newName (h.plainFile.mem_leaves h.isReference),
      if_pos ⟨mem_searched_self base files f, h.isNamedBy_self⟩]
  have hhead : (k, n) ∈ (f.renamedAt base (usesOf base files f n) newName).tree.heads := by
    rw [renamedAt, ← halike.heads]
    exact h.head
  have hblank : ∃ x ∈ ((f.renamedAt base (usesOf base files f n) newName).tree.text n).toList,
      Text.isBlank x = false := by
    rw [htext]
    exact hnew
  have hat := Navigation.referenceAt_start (SourceFile.laid _)
    (h.plainFile.namesAreLeaves_rename (f.isAt base (usesOf base files f n)) newName) href hblank
  obtain ⟨z, ho, hname, htypes⟩ := Navigation.origin?_of_head
    (w := Workspace.ofFiles base (files.map (renamedAt base (usesOf base files f n) newName)))
    (r := (f.renamedAt base (usesOf base files f n) newName).record base)
    (SourceFile.laid _).toNested (h.plainFile.tagsSayUse_rename _ newName)
    (SourceFile.outlines _) hhead href
  rw [references_of_origin hkind hat ho, h.searched_renamedAt, List.flatMap_map]
  have huses : ∀ g ∈ searched base files f,
      (Navigation.uses (g.renamedAt base (usesOf base files f n) newName).tree z).filterMap
          ((g.renamedAt base (usesOf base files f n) newName).record base).location? =
        (Navigation.uses g.tree y).filterMap
          ((g.renamedAt base (usesOf base files f n) newName).record base).location? := by
    intro g hg
    rw [h.uses_renamedAt hfresh (hname.trans htext) htypes hg]
  exact List.flatMap_congr huses

end new

/-! ### The renamed tokens -/

theorem nodup_searched : (searched base files f).Nodup := by
  have htargets := Navigation.nodup_targets (Workspace.scripted_ofFiles base files) f.tree n
    (f.record base)
  rw [targets_ofFiles base files f h.isNamed] at htargets
  exact htargets.of_map

theorem mem_uses_iff {i : NodeId} : (g ∈ searched base files f ∧ i ∈ Navigation.uses g.tree y) ↔
    g ∈ files ∧ i ∈ Piece.leaves (Step.written g.steps) ∧
      g.isAt base (usesOf base files f n) i = true := by
  constructor
  · rintro ⟨hg, hi⟩
    have hgf := mem_files_of_mem_searched h.nodup h.mem hg
    rw [h.uses_eq_leaves hgf, List.mem_filter] at hi
    exact ⟨hgf, hi.1, (h.isAt_of_searched hg hi.1).trans hi.2⟩
  · rintro ⟨hgf, hi, hat⟩
    by_cases hg : g ∈ searched base files f
    · rw [h.uses_eq_leaves hgf, List.mem_filter]
      exact ⟨hg, hi, (h.isAt_of_searched hg hi).symm.trans hat⟩
    · rw [h.isAt_of_not_searched hgf hg i] at hat
      cases hat

theorem nodup_tokens : ((searched base files f).flatMap fun g =>
    (Navigation.uses g.tree y).map fun i => (g, i)).Nodup := by
  refine List.nodup_flatMap.mpr ⟨fun g _ => ?_, ?_⟩
  · have huses : (Navigation.uses g.tree y).Nodup :=
      (Navigation.uses_pairwise g.laid y).imp fun {i j} hij => Nat.ne_of_lt hij.1
    exact huses.map fun i j hij => congrArg Prod.snd hij
  · refine h.nodup_searched.imp fun {g g'} hne => ?_
    intro s hs hs'
    obtain ⟨i, -, rfl⟩ := List.mem_map.mp hs
    obtain ⟨j, -, he⟩ := List.mem_map.mp hs'
    exact hne (congrArg Prod.fst he).symm

end DeclaredAt

theorem map_some_filterMap {α β : Type} {f : α → Option β} {l : List α}
    (h : ∀ x ∈ l, (f x).isSome = true) : (l.filterMap f).map some = l.map f := by
  induction l with
  | nil => rfl
  | cons x l ih =>
      obtain ⟨b, hb⟩ := Option.isSome_iff_exists.mp (h x List.mem_cons_self)
      rw [List.filterMap_cons_some hb, List.map_cons, List.map_cons, hb,
        ih fun z hz => h z (List.mem_cons_of_mem x hz)]

theorem map_some_flatMap {files : List SourceFile} (ids : SourceFile → List NodeId)
    {place : SourceFile → NodeId → Option Location}
    (h : ∀ g ∈ files, ∀ i, (place g i).isSome = true) :
    (files.flatMap fun g => (ids g).filterMap (place g)).map some =
      (files.flatMap fun g => (ids g).map fun i => (g, i)).map fun s => place s.1 s.2 := by
  rw [List.map_flatMap, List.map_flatMap]
  refine List.flatMap_congr fun g hg => ?_
  rw [map_some_filterMap fun i _ => h g hg i, List.map_map]
  rfl

/-- Renaming a declaration from its name.  The edits turn every source into what the scripts write
with exactly the tokens at the uses renamed; and in the files built from these scripts the
renamed declaration is used by exactly the renamed tokens, each once and in the same order. -/
theorem rename_round_trip {base : IncludeBase} {files : List SourceFile}
    (hplain : ∀ g ∈ files, g.Plain) (hnodup : (files.map (·.uri)).Nodup)
    (haddresses : (Workspace.ofFiles base files).DistinctAddresses) {f : SourceFile}
    (hf : f ∈ files) {d : Declaration} (hd : d ∈ f.tree.declarations.toList) {n : NodeId}
    (hn : d.nameNode = some n) (hold : ∃ x ∈ (f.tree.text n).toList, Text.isBlank x = false)
    {newName : String} (hnew : ∃ x ∈ newName.toList, Text.isBlank x = false)
    (hfresh : ∀ g ∈ files, ∀ i, g.tree.isReference i = true → g.tree.text i ≠ newName) :
    (∀ g ∈ files, ∃ a, (g.record base).address? = some a ∧
      Edit.applyAll g.tree.source (Rename.editsFor (Rename.edits (Workspace.ofFiles base files)
          (f.record base) (f.tree.start n) newName) a) =
        (g.renamedAt base (usesOf base files f n) newName).tree.source) ∧
    ∃ tokens : List (SourceFile × NodeId), tokens.Nodup ∧ (f, n) ∈ tokens ∧
      (∀ g i, (g, i) ∈ tokens ↔ g ∈ files ∧ i ∈ Piece.leaves (Step.written g.steps) ∧
        g.isAt base (usesOf base files f n) i = true) ∧
      (usesOf base files f n).map some =
        tokens.map (fun s => (s.1.record base).location? s.2) ∧
      (Navigation.references
          (Workspace.ofFiles base (files.map (SourceFile.renamedAt base (usesOf base files f n)
            newName)))
          ((f.renamedAt base (usesOf base files f n) newName).record base)
          ((f.renamedAt base (usesOf base files f n) newName).tree.start n) none).map some =
        tokens.map (fun s =>
          ((s.1.renamedAt base (usesOf base files f n) newName).record base).location? s.2) := by
  have hhead : (d.kind, n) ∈ f.tree.heads := by
    have hmem := List.mem_map_of_mem (f := Declaration.outline) hd
    rw [f.outlines] at hmem
    obtain ⟨⟨k, c⟩, hl, hout⟩ := List.mem_map.mp hmem
    have hkind : k = d.kind := congrArg (fun o => o.1) hout
    have hnode : some c = d.nameNode := congrArg (fun o => o.2.2) hout
    rw [hn] at hnode
    cases hnode
    exact hkind ▸ hl
  obtain ⟨y, ho, hname, htypes⟩ := Navigation.origin?_of_head
    (w := Workspace.ofFiles base files) (r := f.record base) f.laid.toNested
    (hplain f hf).tagsSayUse f.outlines hhead ((hplain f hf).isReference_head hhead)
  have h : DeclaredAt base files f d.kind n y :=
    ⟨hplain, hnodup, haddresses, hf, hhead, hold, ho, hname, htypes⟩
  have htokens : ∀ g i, (g, i) ∈ ((SourceFile.searched base files f).flatMap fun g =>
      (Navigation.uses g.tree y).map fun i => (g, i)) ↔
        g ∈ SourceFile.searched base files f ∧ i ∈ Navigation.uses g.tree y :=
    fun _ _ => Navigation.mem_pairs
  have haddress : ∀ g ∈ files, (g.record base).address?.isSome = true :=
    fun g hg => haddresses.proper _ (h.record_mem hg)
  have hsearched : ∀ {g}, g ∈ SourceFile.searched base files f → g ∈ files :=
    fun hg => SourceFile.mem_files_of_mem_searched hnodup hf hg
  refine ⟨fun g hg => ?_, _, h.nodup_tokens, ?_, ?_, ?_, ?_⟩
  · obtain ⟨a, ha⟩ := Option.isSome_iff_exists.mp (haddress g hg)
    exact ⟨a, ha, h.applyAll_edits hg ha newName⟩
  · refine (htokens f n).mpr ⟨SourceFile.mem_searched_self base files f, ?_⟩
    exact (Navigation.mem_uses_of_leaves f.laid.toNested h.plainFile.namesAreLeaves).mpr
      h.isNamedBy_self
  · exact fun g i => (htokens g i).trans h.mem_uses_iff
  · rw [h.usesOf_eq]
    exact map_some_flatMap (fun g => Navigation.uses g.tree y) fun g hg =>
      Record.isSome_location? (haddress g (hsearched hg))
  · rw [h.references_renamedAt hfresh hnew]
    exact map_some_flatMap (fun g => Navigation.uses g.tree y) fun g hg =>
      Record.isSome_location? (haddress g (hsearched hg))

/-- A definition file of two names, the second a label with the text of the first. -/
def radiusFile : SourceFile :=
  ⟨"file:///shop/tools.def", .definitions,
    [.varDef "R" "#500" .var, .trivia "\n", .labelDef "R" "10" .numeric, .trivia "\n"]⟩

/-- The definition file and a program that uses its variable, its label and a name of its own. -/
def radiusFiles : List SourceFile :=
  [radiusFile,
    ⟨"file:///shop/a.src", .program,
      [.inclusion "tools.def", .trivia "\n", .token .symbol "R" none, .trivia " ",
        .token .label "R" none, .trivia " ", .token .symbol "S" none, .trivia "\n"]⟩]

theorem rename_round_trip_radius :
    (∀ g ∈ radiusFiles, g.Plain) ∧ (radiusFiles.map (·.uri)).Nodup ∧
      (Workspace.ofFiles .including radiusFiles).DistinctAddresses ∧
      radiusFile ∈ radiusFiles ∧
      (∃ d ∈ radiusFile.tree.declarations.toList, d.nameNode = some 2) ∧
      usesOf .including radiusFiles radiusFile 2 =
        [⟨"file:///shop/a.src", ⟨⟨1, 0⟩, ⟨1, 1⟩⟩⟩, ⟨"file:///shop/tools.def", ⟨⟨0, 1⟩, ⟨0, 2⟩⟩⟩] ∧
      (∀ g ∈ radiusFiles, ∃ a, (g.record .including).address? = some a ∧
        Edit.applyAll g.tree.source (Rename.editsFor (Rename.edits
            (Workspace.ofFiles .including radiusFiles) (radiusFile.record .including)
            (radiusFile.tree.start 2) "RADIUS") a) =
          (g.renamedAt .including (usesOf .including radiusFiles radiusFile 2)
            "RADIUS").tree.source) ∧
      ∃ tokens : List (SourceFile × NodeId), tokens.Nodup ∧ (radiusFile, 2) ∈ tokens ∧
        (Navigation.references
            (Workspace.ofFiles .including (radiusFiles.map (SourceFile.renamedAt .including
              (usesOf .including radiusFiles radiusFile 2) "RADIUS")))
            ((radiusFile.renamedAt .including (usesOf .including radiusFiles radiusFile 2)
              "RADIUS").record .including)
            ((radiusFile.renamedAt .including (usesOf .including radiusFiles radiusFile 2)
              "RADIUS").tree.start 2) none).map some =
          tokens.map (fun s => ((s.1.renamedAt .including
            (usesOf .including radiusFiles radiusFile 2) "RADIUS").record
              .including).location? s.2) := by
  have hplain : ∀ g ∈ radiusFiles, g.Plain := by decide +kernel
  have hnodup : (radiusFiles.map (·.uri)).Nodup := by decide +kernel
  have haddresses : (Workspace.ofFiles .including radiusFiles).DistinctAddresses := by
    decide +kernel
  have hmem : radiusFile ∈ radiusFiles := List.mem_cons_self
  have hdeclared : ∃ d ∈ radiusFile.tree.declarations.toList, d.nameNode = some 2 := by
    decide +kernel
  have hfresh : ∀ g ∈ radiusFiles, ∀ i, g.tree.isReference i = true →
      g.tree.text i ≠ "RADIUS" := by
    have hbounded : ∀ g ∈ radiusFiles, ∀ i, i < g.tree.size → g.tree.isReference i = true →
        g.tree.text i ≠ "RADIUS" := by decide +kernel
    exact fun g hg i href => hbounded g hg i (Tree.lt_size_of_isReference href) href
  have hold : ∃ x ∈ (radiusFile.tree.text 2).toList, Text.isBlank x = false :=
    ⟨'R', by decide +kernel, by decide⟩
  have hnew : ∃ x ∈ "RADIUS".toList, Text.isBlank x = false := ⟨'R', by decide, by decide⟩
  obtain ⟨d, hd, hn⟩ := hdeclared
  obtain ⟨hsources, tokens, htokens, hself, -, -, hfound⟩ :=
    rename_round_trip hplain hnodup haddresses hmem hd hn hold hnew hfresh
  exact ⟨hplain, hnodup, haddresses, hmem, ⟨d, hd, hn⟩, by decide +kernel, hsources, tokens,
    htokens, hself, hfound⟩

end NcInsight
