import NcInsight.Proofs.Editor.RenameEdits

/-
What a reference is bound to.

The uses of a name are searched from the file that declares it, by name and way of use.  So a use
that the search returns is bound to the declaration unless its own file knows another
symbol for the name before it (`Shadowed`), and the use that the search began at is returned
if its file is searched: if it is the declaring file, or a program where that is a
definition file.
-/
namespace NcInsight
namespace Navigation

variable {w : Workspace} {r origin : Record} {y : Symbol} {offset : Nat} {d : Location}

theorem isNamed_of_findAncestor {t : Tree} {p : Kind → Bool} {i a : NodeId}
    (h : t.findAncestor p i = some a) : p (t.kind a) = true := by
  have hfound := List.find?_some h
  exact hfound

/-- A symbol or label is a first choice, which both kinds of search share. -/
theorem nameAt_eq_referenceAt {t : Tree} (h : isNamed (t.kind (referenceAt t offset)) = true) :
    nameAt t offset = referenceAt t offset := by
  rw [nameAt]
  rw [referenceAt] at h ⊢
  cases hnamed : t.findAncestor isNamed (t.nodeAt offset) with
  | some a => rfl
  | none =>
      rw [hnamed, Option.none_or] at h
      rw [Option.none_or]
      cases hunnamed : t.findAncestor isUnnamed (t.nodeAt offset) with
      | none => rfl
      | some a =>
          rw [hunnamed, Option.getD_some] at h
          have hkind := isNamed_of_findAncestor hunnamed
          revert h hkind
          cases t.kind a <;> simp [isNamed, isUnnamed]

theorem definition?_eq_some (h : definition? w r offset = some d) :
    ∃ origin y, origin? w r (nameAt r.tree offset) = some (origin, y) ∧
      (origin.tree.node? y.node).isSome = true ∧ origin.location? y.node = some d := by
  rw [definition?] at h
  split at h
  case h_1 origin y ho =>
    split at h
    case isTrue hnode => exact ⟨origin, y, ho, hnode, h⟩
    case isFalse => cases h
  case h_2 => cases h

theorem mem_edits_of_mem_references {l : Location} (h : l ∈ references w r offset none)
    (newName : String) : ∃ f ∈ Rename.edits w r offset newName,
      f.uri = l.uri ∧ ⟨l.range, newName⟩ ∈ f.edits := by
  rw [Rename.edits, Rename.editsOf_eq_grouped]
  refine ⟨_, List.mem_map_of_mem (List.mem_eraseDups.mpr (List.mem_map_of_mem h)), rfl, ?_⟩
  exact List.mem_map.mpr ⟨l, List.mem_filter.mpr ⟨h, beq_self_eq_true l.uri⟩, rfl⟩

/-! ## The use under the cursor -/

/-- The use under the cursor is found, and renamed, exactly if its file is searched. -/
theorem occurrence_mem_references (hw : w.Scripted) (hr : r ∈ w.records)
    (haddress : r.address?.isSome = true) (hleaf : NamesAreLeaves r.tree)
    (hkind : isNamed (r.tree.kind (referenceAt r.tree offset)) = true)
    (hd : definition? w r offset = some d) :
    ∃ origin ∈ w.records, ∃ y l, origin? w r (referenceAt r.tree offset) = some (origin, y) ∧
      origin.location? y.node = some d ∧ r.location? (referenceAt r.tree offset) = some l ∧
      (origin = r ∨ (origin.isProgram = false ∧ r.isProgram = true) →
        l ∈ references w r offset none ∧ ∀ newName, ∃ f ∈ Rename.edits w r offset newName,
          f.uri = l.uri ∧ ⟨l.range, newName⟩ ∈ f.edits) ∧
      (w.DistinctAddresses → l ∈ references w r offset none →
        origin = r ∨ (origin.isProgram = false ∧ r.isProgram = true)) := by
  obtain ⟨origin, y, ho, -, hloc⟩ := definition?_eq_some hd
  rw [nameAt_eq_referenceAt hkind] at ho
  obtain ⟨hsearch, -, hnamed⟩ := origin?_spec ho
  have hor := mem_records_of_mem_searchOrder hr hsearch
  obtain ⟨a, ha⟩ := Option.isSome_iff_exists.mp haddress
  have hl : r.location? (referenceAt r.tree offset) =
      some ⟨a, r.range (referenceAt r.tree offset)⟩ := Record.location?_eq_some.mpr ⟨ha, rfl⟩
  refine ⟨origin, hor, y, _, ho, hloc, hl, fun hreach => ?_, fun hdistinct hmem => ?_⟩
  · have htarget : r ∈ targets w r.tree (referenceAt r.tree offset) origin := by
      refine (mem_targets_of_isNamed hkind).mpr ?_
      rcases hreach with rfl | ⟨hlib, hprogram⟩
      · exact .inl rfl
      · refine .inr ⟨hlib, hr, hprogram, ?_⟩
        rcases List.mem_cons.mp hsearch with rfl | hinc
        · rw [hlib] at hprogram
          cases hprogram
        · exact List.contains_iff_mem.mpr (Workspace.mem_includedBy hinc).2.1
    have hmem := mem_references.mpr ⟨r, _, (mem_sites ho).mpr
      ⟨htarget, (mem_uses_of_leaves (hw.laid hr).toNested hleaf).mpr hnamed⟩, hl⟩
    exact ⟨hmem, mem_edits_of_mem_references hmem⟩
  · obtain ⟨g, i, hsite, hgl⟩ := mem_references.mp hmem
    have hg := ((mem_sites ho).mp hsite).1
    have hga := (Record.location?_eq_some.mp hgl).1
    have hsame : g = r :=
      hdistinct.eq_of_address (mem_records_of_mem_targets hor hg) hr (hga.trans ha.symm)
    subst hsame
    rcases (mem_targets_of_isNamed hkind).mp hg with he | ⟨hlib, -, hprogram, -⟩
    · exact .inl he.symm
    · exact .inr ⟨hlib, hprogram⟩

/-- The name that a program uses, as the definition file and a second program declare it. -/
theorem binding_toolShop :
    (∀ g ∈ Rename.toolShop.records, NamesAreLeaves g.tree) ∧
      Rename.toolUser.address?.isSome = true ∧ Rename.toolUser.isProgram = true ∧
      isNamed (Rename.toolUser.tree.kind (referenceAt Rename.toolUser.tree 19)) = true ∧
      definition? Rename.toolShop Rename.toolUser 19 =
        some ⟨"file:///shop/tools.def", ⟨⟨0, 1⟩, ⟨0, 2⟩⟩⟩ ∧
      (origin? Rename.toolShop Rename.toolUser (referenceAt Rename.toolUser.tree 19)).map
        (·.1.isProgram) = some false ∧
      references Rename.toolShop Rename.toolUser 19 none =
        [⟨"file:///shop/a.src", ⟨⟨1, 0⟩, ⟨1, 1⟩⟩⟩, ⟨"file:///shop/b.src", ⟨⟨1, 1⟩, ⟨1, 2⟩⟩⟩,
          ⟨"file:///shop/tools.def", ⟨⟨0, 1⟩, ⟨0, 2⟩⟩⟩] ∧
      Rename.toolRival.location? (nameAt Rename.toolRival.tree 20) =
        some ⟨"file:///shop/b.src", ⟨⟨1, 1⟩, ⟨1, 2⟩⟩⟩ ∧
      definition? Rename.toolShop Rename.toolRival 20 =
        some ⟨"file:///shop/b.src", ⟨⟨1, 1⟩, ⟨1, 2⟩⟩⟩ := by
  decide +kernel

theorem occurrence_mem_references_toolShop :
    Rename.toolShop.Scripted ∧ Rename.toolUser ∈ Rename.toolShop.records ∧
      Rename.toolUser.address?.isSome = true ∧ NamesAreLeaves Rename.toolUser.tree ∧
      isNamed (Rename.toolUser.tree.kind (referenceAt Rename.toolUser.tree 19)) = true ∧
      definition? Rename.toolShop Rename.toolUser 19 =
        some ⟨"file:///shop/tools.def", ⟨⟨0, 1⟩, ⟨0, 2⟩⟩⟩ ∧
      ∃ l, Rename.toolUser.location? (referenceAt Rename.toolUser.tree 19) = some l ∧
        l ∈ references Rename.toolShop Rename.toolUser 19 none := by
  obtain ⟨hleaves, haddress, hprogram, hkind, hd, horigin, -⟩ := binding_toolShop
  have hleaf := hleaves Rename.toolUser Rename.toolUser_mem
  obtain ⟨origin, -, y, l, ho, -, hl, hmem, -⟩ := occurrence_mem_references
    Rename.scripted_toolShop Rename.toolUser_mem haddress hleaf hkind hd
  have hlib : origin.isProgram = false := by
    rw [ho] at horigin
    exact Option.some.inj horigin
  exact ⟨Rename.scripted_toolShop, Rename.toolUser_mem, haddress, hleaf, hkind, hd, l, hl,
    (hmem (.inr ⟨hlib, hprogram⟩)).1⟩

/-- A second definition file, which includes the first and gives its name as a value. -/
def toolAlias : Tree :=
  .ofScript .definitions
    [.inclusion "tools.def", .trivia "\n", .start .varDef none, .trivia "@",
     .token .symbol "S" (some .name), .trivia " ", .token .symbol "R" (some .value), .finish,
     .trivia "\n"]

def toolAliases : Record := Rename.toolList.record "file:///shop/more.def" toolAlias

/-- Between two definition files the declaration is found but the use under the cursor is not:
only programs are searched for the uses of what a definition file declares. -/
theorem occurrence_not_mem_references :
    (Rename.toolList.insert "file:///shop/more.def" toolAlias).Scripted ∧
      (Rename.toolList.insert "file:///shop/more.def" toolAlias).DistinctAddresses ∧
      (∀ g ∈ (Rename.toolList.insert "file:///shop/more.def" toolAlias).records,
        NamesAreLeaves g.tree) ∧
      toolAliases ∈ (Rename.toolList.insert "file:///shop/more.def" toolAlias).records ∧
      isNamed (toolAliases.tree.kind (referenceAt toolAliases.tree 22)) = true ∧
      definition? (Rename.toolList.insert "file:///shop/more.def" toolAlias) toolAliases 22 =
        some ⟨"file:///shop/tools.def", ⟨⟨0, 1⟩, ⟨0, 2⟩⟩⟩ ∧
      toolAliases.location? (referenceAt toolAliases.tree 22) =
        some ⟨"file:///shop/more.def", ⟨⟨1, 3⟩, ⟨1, 4⟩⟩⟩ ∧
      ⟨"file:///shop/more.def", ⟨⟨1, 3⟩, ⟨1, 4⟩⟩⟩ ∉
        references (Rename.toolList.insert "file:///shop/more.def" toolAlias) toolAliases 22 none :=
  ⟨((Workspace.scripted_empty _).insert _ _ _).insert _ _ _, by decide +kernel,
    by decide +kernel,
    (Workspace.mem_of_get? (Workspace.get?_insert_self Rename.toolList _ toolAlias)).1,
    by decide +kernel⟩

/-! ## The binding of a use -/

/-- The file knows another symbol that the node names before this one. -/
def Shadowed (w : Workspace) (g : Record) (c : NodeId) (s : Record × Symbol) : Prop :=
  ∃ before after, known w g = before ++ s :: after ∧ s ∉ before ∧
    ∃ z ∈ before, z.2.isNamedBy g.tree c = true

theorem origin?_eq_iff_not_shadowed {g : Record} {c : NodeId} {s : Record × Symbol}
    (hs : s ∈ known w g) (hnamed : s.2.isNamedBy g.tree c = true) :
    origin? w g c = some s ↔ ¬ Shadowed w g c s := by
  rw [origin?_eq_find?]
  constructor
  · rintro hfind ⟨before, after, hknown, hnot, z, hz, hzc⟩
    rw [hknown, List.find?_append] at hfind
    cases hb : before.find? fun s => s.2.isNamedBy g.tree c with
    | none => exact List.find?_eq_none.mp hb z hz hzc
    | some x =>
        rw [hb, Option.some_or] at hfind
        rw [Option.some.inj hfind] at hb
        exact hnot (List.mem_of_find?_eq_some hb)
  · intro hfree
    obtain ⟨before, after, hknown, hnot⟩ := List.eq_append_cons_of_mem hs
    have hnone : before.find? (fun s => s.2.isNamedBy g.tree c) = none :=
      List.find?_eq_none.mpr fun z hz hzc => hfree ⟨before, after, hknown, hnot, z, hz, hzc⟩
    rw [hknown, List.find?_append, hnone, Option.none_or, List.find?_cons, hnamed]

/-- A reference has the name that was asked for, and its file knows the declaration that the name
is bound to.  It is bound to that declaration too, unless its file knows another one for it
before. -/
theorem definition_of_reference (hw : w.Scripted) (hleaf : ∀ g ∈ w.records, NamesAreLeaves g.tree)
    (hr : r ∈ w.records) (hkind : isNamed (r.tree.kind (referenceAt r.tree offset)) = true)
    (hd : definition? w r offset = some d) {l : Location}
    (hl : l ∈ references w r offset none) :
    ∃ s, origin? w r (referenceAt r.tree offset) = some s ∧ ∃ g ∈ w.records, ∃ c,
      g.location? c = some l ∧ g.tree.text c = r.tree.text (referenceAt r.tree offset) ∧
      s ∈ known w g ∧ s.2.isNamedBy g.tree c = true ∧
      (origin? w g c = some s ↔ ¬ Shadowed w g c s) ∧
      (¬ Shadowed w g c s → ∀ o, nameAt g.tree o = c → definition? w g o = some d) ∧
      ((∃ x ∈ (g.tree.text c).toList, Text.isBlank x = false) →
        nameAt g.tree (g.tree.start c) = c) := by
  obtain ⟨origin, y, ho, hnode, hloc⟩ := definition?_eq_some hd
  rw [nameAt_eq_referenceAt hkind] at ho
  obtain ⟨hsearch, hy, hnamed⟩ := origin?_spec ho
  have hor := mem_records_of_mem_searchOrder hr hsearch
  obtain ⟨g, c, hsite, hgl⟩ := mem_references.mp hl
  obtain ⟨hg, hc⟩ := (mem_sites ho).mp hsite
  have hgr := mem_records_of_mem_targets hor hg
  have hcnamed := (isNamedBy_of_mem_uses (hw.laid hgr).toNested hc).2
  have hknown : (origin, y) ∈ known w g :=
    mem_known.mpr ⟨mem_searchOrder_of_mem_targets hw hor hkind hg, hy⟩
  have hbound := origin?_eq_iff_not_shadowed hknown hcnamed
  refine ⟨(origin, y), ho, g, hgr, c, hgl, ?_, hknown, hcnamed, hbound, ?_, ?_⟩
  · rw [(isNamedBy_spec hcnamed).2, (isNamedBy_spec hnamed).2]
  · intro hfree o hname
    rw [definition?, hname, hbound.mpr hfree]
    show (if (origin.tree.node? y.node).isSome then origin.location? y.node else none) = some d
    rw [if_pos hnode, hloc]
  · exact nameAt_start (hw.laid hgr) (hleaf g hgr) (isNamedBy_spec hcnamed).1

theorem definition_of_reference_toolShop :
    Rename.toolShop.Scripted ∧ (∀ g ∈ Rename.toolShop.records, NamesAreLeaves g.tree) ∧
      Rename.toolUser ∈ Rename.toolShop.records ∧
      isNamed (Rename.toolUser.tree.kind (referenceAt Rename.toolUser.tree 19)) = true ∧
      definition? Rename.toolShop Rename.toolUser 19 =
        some ⟨"file:///shop/tools.def", ⟨⟨0, 1⟩, ⟨0, 2⟩⟩⟩ ∧
      ⟨"file:///shop/a.src", ⟨⟨1, 0⟩, ⟨1, 1⟩⟩⟩ ∈
        references Rename.toolShop Rename.toolUser 19 none ∧
      ∃ s, origin? Rename.toolShop Rename.toolUser (referenceAt Rename.toolUser.tree 19) = some s ∧
        ∃ g ∈ Rename.toolShop.records, ∃ c,
          g.location? c = some ⟨"file:///shop/a.src", ⟨⟨1, 0⟩, ⟨1, 1⟩⟩⟩ ∧
          (origin? Rename.toolShop g c = some s ↔ ¬ Shadowed Rename.toolShop g c s) := by
  obtain ⟨hleaves, -, -, hkind, hd, -, hfound, -⟩ := binding_toolShop
  have hl : ⟨"file:///shop/a.src", ⟨⟨1, 0⟩, ⟨1, 1⟩⟩⟩ ∈
      references Rename.toolShop Rename.toolUser 19 none := by
    rw [hfound]
    exact List.mem_cons_self
  obtain ⟨s, hs, g, hg, c, hc, -, -, -, hbound, -⟩ := definition_of_reference
    Rename.scripted_toolShop hleaves Rename.toolUser_mem hkind hd hl
  exact ⟨Rename.scripted_toolShop, hleaves, Rename.toolUser_mem, hkind, hd, hl, s, hs, g, hg, c,
    hc, hbound⟩

/-- A program that declares the name anew is searched all the same: its own declaration is among
the references although it is bound to itself. -/
theorem reference_bound_elsewhere :
    Rename.toolShop.Scripted ∧ Rename.toolShop.DistinctAddresses ∧
      (∀ g ∈ Rename.toolShop.records, NamesAreLeaves g.tree) ∧
      Rename.toolUser ∈ Rename.toolShop.records ∧ Rename.toolRival ∈ Rename.toolShop.records ∧
      isNamed (Rename.toolUser.tree.kind (referenceAt Rename.toolUser.tree 19)) = true ∧
      definition? Rename.toolShop Rename.toolUser 19 =
        some ⟨"file:///shop/tools.def", ⟨⟨0, 1⟩, ⟨0, 2⟩⟩⟩ ∧
      Rename.toolRival.location? (nameAt Rename.toolRival.tree 20) =
        some ⟨"file:///shop/b.src", ⟨⟨1, 1⟩, ⟨1, 2⟩⟩⟩ ∧
      ⟨"file:///shop/b.src", ⟨⟨1, 1⟩, ⟨1, 2⟩⟩⟩ ∈
        references Rename.toolShop Rename.toolUser 19 none ∧
      definition? Rename.toolShop Rename.toolRival 20 =
        some ⟨"file:///shop/b.src", ⟨⟨1, 1⟩, ⟨1, 2⟩⟩⟩ := by
  obtain ⟨hleaves, -, -, hkind, hd, -, hfound, hplace, hrival⟩ := binding_toolShop
  refine ⟨Rename.scripted_toolShop, Rename.uris_edits_toolShop.1, hleaves, Rename.toolUser_mem,
    Rename.toolRival_mem, hkind, hd, hplace, ?_, hrival⟩
  rw [hfound]
  exact List.mem_cons_of_mem _ List.mem_cons_self

end Navigation
end NcInsight
