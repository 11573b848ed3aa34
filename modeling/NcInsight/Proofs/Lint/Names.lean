import NcInsight.Proofs.Lint.Includes

/-
What lint finds wrong with names.

A name is judged by what was declared before the node: by definitions of the file and, once for
each address that it includes, by the outermost definitions of the file there (`declaredAlong`).
The facts that a run carries hold these declarations and no others (`introduced_foldl`), and each
node is judged by the facts of the nodes in front of it (`mem_saidAt_scan`).  So a definition is
found if its name was declared before, a variable if it was twice, and a symbol if it never was and
is no number (`names_judged`).
-/
namespace NcInsight

/-! ## Declarations in front of a node -/

/-- The definitions that lie in no other. -/
def Tree.outermostDefinitions (t : Tree) : List NodeId :=
  (List.range t.size).filter fun i =>
    (t.kind i).isDeclaration && (t.ancestors i).all fun a => !(t.kind a).isDeclaration

namespace Lint

/-- What the definitions among some nodes declare. -/
def declaredBy (t : Tree) (ids : List NodeId) : List Declaration :=
  (ids.filter fun id => (t.kind id).isDeclaration).filterMap t.declarationOf

/-- The include statements among some nodes. -/
def inclusionsAmong (t : Tree) (ids : List NodeId) : List NodeId :=
  ids.filter fun id => t.kind id == .inclusion

/-- What is declared along some nodes of a file: by the definitions among them, and for each
address that the include statements among them mean, once, by the outermost definitions of the file
there. -/
def declaredAlong (files : Resolver) (r : Record) (ids : List NodeId) : List Declaration :=
  declaredBy r.tree ids ++
    (((inclusionsAmong r.tree ids).filterMap (files.inclusionAddress? r)).eraseDups.filterMap
      files.get?).flatMap fun s => s.tree.outermostDefinitions.filterMap s.tree.declarationOf

/-- What the files at some addresses declare for those that include them. -/
def exportedFrom (files : Resolver) (addresses : List String) : List Declaration :=
  (addresses.filterMap files.get?).flatMap fun s => exported s.tree

theorem exportedFrom_cons (files : Resolver) (a : String) (addresses : List String) :
    exportedFrom files (a :: addresses) =
      exportedFrom files [a] ++ exportedFrom files addresses := by
  rw [← List.singleton_append, exportedFrom, List.filterMap_append, List.flatMap_append]
  rfl

theorem declaredBy_cons_of_pos {t : Tree} {id : NodeId} (ids : List NodeId)
    (h : (t.kind id).isDeclaration = true) :
    declaredBy t (id :: ids) = (t.declarationOf id).toList ++ declaredBy t ids := by
  rw [declaredBy, List.filter_cons_of_pos (by simp [h]), List.filterMap_cons]
  cases t.declarationOf id <;> rfl

theorem declaredBy_cons_of_neg {t : Tree} {id : NodeId} (ids : List NodeId)
    (h : (t.kind id).isDeclaration = false) : declaredBy t (id :: ids) = declaredBy t ids := by
  rw [declaredBy, List.filter_cons_of_neg (by simp [h])]
  rfl

theorem exported_perm {t : Tree} (h : t.Rooted) :
    (exported t).Perm (t.outermostDefinitions.filterMap t.declarationOf) := by
  refine List.Perm.filterMap _ ?_
  refine (List.perm_ext_iff_of_nodup ?_ ?_).mpr fun i => ?_
  · exact (h.nodup_visits _).filter _
  · exact List.nodup_range.filter _
  · rw [List.mem_filter, h.mem_visits, Tree.outermostDefinitions, List.mem_filter, List.mem_range,
      Bool.and_eq_true, List.all_eq_true]
    constructor
    · rintro ⟨⟨hlt, habove⟩, hkind⟩
      exact ⟨hlt, hkind, habove⟩
    · rintro ⟨hlt, hkind, habove⟩
      exact ⟨⟨hlt, habove⟩, hkind⟩

/-! ## One node -/

section advance

variable {c : Context} {id : NodeId} (f : Facts)

theorem introduced_advance_of_isDeclaration (h : (c.tree.kind id).isDeclaration = true) :
    (f.advance c id).introduced = (c.tree.declarationOf id).toList ++ f.introduced := by
  unfold Facts.advance
  simp only
  cases hkind : c.tree.kind id with
  | varDef => cases c.tree.declarationOf id <;> rfl
  | labelDef => cases c.tree.declarationOf id <;> rfl
  | _ =>
      rw [hkind] at h
      cases h

theorem introduced_advance_of_ne (h : (c.tree.kind id).isDeclaration = false)
    (hinclusion : c.tree.kind id ≠ .inclusion) : (f.advance c id).introduced = f.introduced := by
  have hentry : (f.addEntry c.tree id).introduced = f.introduced := by
    obtain ⟨entries, he⟩ := addEntry_eq f c.tree id
    rw [he]
  unfold Facts.advance
  simp only
  split
  · contradiction
  all_goals rename_i hkind
  · rw [hkind] at h
    cases h
  · rw [hkind] at h
    cases h
  · split
    · split <;> rfl
    · rfl
  · rfl
  · exact hentry
  · exact hentry
  · exact hentry
  · rfl

end advance

variable {files : Resolver} {r : Record}

theorem introduced_advance_of_inclusion {id : NodeId} (f : Facts)
    (h : r.tree.kind id = .inclusion) :
    (f.advance { files, record := r } id).introduced =
      match files.inclusionAddress? r id with
      | none => f.introduced
      | some a => (imported { files, record := r } f a).reverse ++ f.introduced := by
  simp only [Facts.advance, Context.tree, h, Resolver.inclusionAddress?]
  cases r.tree.inclusionTarget? id with
  | none => rfl
  | some n => rfl

theorem imported_of_not_mem {f : Facts} {a : String} (h : a ∉ f.imports) :
    imported { files, record := r } f a = exportedFrom files [a] := by
  rw [imported, if_neg (by simpa using h), exportedFrom, List.filterMap_cons]
  cases files.get? a with
  | none => rfl
  | some s => simp

/-! ## All nodes in front -/

/-- Run lemma: along any nodes, the facts grow by what is declared along them and by nothing
else. -/
theorem introduced_foldl (files : Resolver) (r : Record) (ids : List NodeId) (f : Facts) :
    (ids.foldl (Facts.advance { files, record := r }) f).introduced.Perm
      (declaredBy r.tree ids ++
        exportedFrom files ((firsts (files.inclusionAddress? r) f.imports
          (inclusionsAmong r.tree ids)).map Prod.snd) ++ f.introduced) := by
  induction ids generalizing f with
  | nil => exact List.Perm.refl _
  | cons id ids ih =>
      rw [List.foldl_cons]
      refine (ih (f.advance { files, record := r } id)).trans ?_
      -- the facts have what is newest in front, so the two sides are compared by number only
      rw [List.perm_iff_count]
      intro d
      by_cases hinclusion : r.tree.kind id = .inclusion
      · have hnot : (r.tree.kind id).isDeclaration = false := by rw [hinclusion]; rfl
        rw [declaredBy_cons_of_neg ids hnot, imports_advance f hinclusion,
          introduced_advance_of_inclusion f hinclusion, inclusionsAmong, inclusionsAmong,
          List.filter_cons_of_pos (by simpa using hinclusion), firsts]
        cases files.inclusionAddress? r id with
        | none => rfl
        | some a =>
            by_cases hmet : a ∈ f.imports
            · simp [hmet, imported]
            · simp only [imported_of_not_mem hmet, List.contains_eq_mem, hmet, decide_false,
                Bool.false_eq_true, if_false, List.map_cons,
                exportedFrom_cons files a (List.map _ _), List.count_append, List.count_reverse]
              omega
      · have hamong : inclusionsAmong r.tree (id :: ids) = inclusionsAmong r.tree ids := by
          rw [inclusionsAmong, List.filter_cons_of_neg (by simpa using hinclusion)]
          rfl
        have himports : (f.advance { files, record := r } id).imports = f.imports :=
          imports_advance_of_ne f hinclusion
        rw [hamong, himports]
        cases hdefinition : (r.tree.kind id).isDeclaration with
        | true =>
            rw [introduced_advance_of_isDeclaration (c := { files, record := r }) f
              hdefinition, declaredBy_cons_of_pos ids hdefinition]
            simp only [List.count_append, Context.tree]
            omega
        | false =>
            rw [introduced_advance_of_ne (c := { files, record := r }) f hdefinition
              hinclusion, declaredBy_cons_of_neg ids hdefinition]

theorem introduced_perm (hfiles : files.Formed) (ids : List NodeId) :
    (ids.foldl (Facts.advance { files, record := r }) {}).introduced.Perm
      (declaredAlong files r ids) := by
  have hrun := introduced_foldl files r ids {}
  rw [map_firsts, List.append_nil] at hrun
  have hall : ((inclusionsAmong r.tree ids).filterMap (files.inclusionAddress? r)).filter
      (fun a => !(({} : Facts).imports).contains a) =
        (inclusionsAmong r.tree ids).filterMap (files.inclusionAddress? r) :=
    List.filter_eq_self.mpr fun _ _ => rfl
  rw [hall] at hrun
  refine hrun.trans (List.Perm.append_left _ (List.Perm.flatMap_left _ fun s hs => ?_))
  obtain ⟨a, -, hget⟩ := List.mem_filterMap.mp hs
  exact exported_perm (hfiles a s hget).toRooted

section

variable {f : Facts} {ds : List Declaration} (h : f.introduced.Perm ds) (name : String)
include h

theorem isKnown_iff : f.isKnown name = true ↔ name ∈ ds.map (·.name) := by
  simp [Facts.isKnown, h.mem_iff]

theorem isDoubled_iff : f.isDoubled name = true ↔ 2 ≤ (ds.map (·.name)).count name := by
  have hcount : (ds.map (·.name)).count name = (f.introduced.filter (·.name == name)).length := by
    rw [← List.countP_eq_length_filter, h.countP_eq, List.count, List.countP_map]
    rfl
  rw [Facts.isDoubled, decide_eq_true_eq, hcount]
  exact Iff.rfl

end

/-! ## What is said of a name -/

/-- Definitions of a name that is declared, and variables whose name is declared twice. -/
def isRepeated (t : Tree) (f : Facts) (id : NodeId) : Bool :=
  match t.kind id with
  | .varDef | .labelDef => (t.declarationOf id).any fun d => f.isKnown d.name
  | .var => f.isDoubled (t.text id)
  | _ => false

/-- Symbols that are neither declared nor numbers. -/
def isUnknown (t : Tree) (f : Facts) (id : NodeId) : Bool :=
  t.kind id == .symbol && !(f.isKnown (t.text id) || Text.isPlainNumber (t.text id))

section

variable {f : Facts} {ds : List Declaration} (h : f.introduced.Perm ds) (t : Tree) (id : NodeId)
include h

theorem isRepeated_iff : isRepeated t f id = true ↔
    ((t.kind id = .varDef ∨ t.kind id = .labelDef) ∧
        ∃ d, t.declarationOf id = some d ∧ d.name ∈ ds.map (·.name)) ∨
      (t.kind id = .var ∧ 2 ≤ (ds.map (·.name)).count (t.text id)) := by
  rw [isRepeated, ← isDoubled_iff h]
  simp only [← isKnown_iff h]
  cases hkind : t.kind id <;> simp [Option.any_eq_true]

theorem isUnknown_iff : isUnknown t f id = true ↔
    t.kind id = .symbol ∧ t.text id ∉ ds.map (·.name) ∧
      ¬(t.text id ≠ "" ∧ ∀ c ∈ (t.text id).toList, c.isDigit = true ∨ c = '.') := by
  have hnumber : Text.isPlainNumber (t.text id) = true ↔
      t.text id ≠ "" ∧ ∀ c ∈ (t.text id).toList, c.isDigit = true ∨ c = '.' := by
    simp [Text.isPlainNumber]
  rw [isUnknown, ← isKnown_iff h, ← hnumber]
  simp

end

theorem saidAt_declarationReports (c : Context) (f : Facts) (id : NodeId) :
    saidAt .duplicateDeclaration (declarationReports c f id) =
      if (c.tree.declarationOf id).any fun d => f.isKnown d.name then [id] else [] := by
  rw [declarationReports]
  cases c.tree.declarationOf id with
  | none => rfl
  | some d =>
      have haddress : saidAt .duplicateDeclaration
          (if isExclusive d.valueType && clashes f d then
            [{ rule := .duplicateAddress, node := id }] else []) = [] := by
        split <;> rfl
      simp only [saidAt_append, haddress, List.append_nil, Option.any_some]
      split <;> rfl

theorem saidAt_varReports (t : Tree) (f : Facts) (id : NodeId) :
    saidAt .duplicateDeclaration (varReports t f id) =
      if f.isDoubled (t.text id) then [id] else [] := by
  have hentry : saidAt .duplicateDeclaration (entryReports t f id) = [] := by
    refine saidAt_eq_nil fun p hp he => ?_
    have hkinds := (of_mem_entryReports hp).1
    rw [he] at hkinds
    cases hkinds
  rw [varReports, saidAt_append, hentry, List.append_nil]
  split <;> rfl

theorem saidAt_duplicateDeclaration (c : Context) (f : Facts) (id : NodeId) :
    saidAt .duplicateDeclaration (reportsAt c f id) =
      if isRepeated c.tree f id then [id] else [] := by
  by_cases hkind : c.tree.kind id ∈ Rule.duplicateDeclaration.kinds
  · simp only [Rule.kinds, List.mem_cons, List.not_mem_nil, or_false] at hkind
    rcases hkind with hkind | hkind | hkind
    · simp only [reportsAt, isRepeated, hkind, saidAt_declarationReports]
    · simp only [reportsAt, isRepeated, hkind, saidAt_declarationReports]
    · simp only [reportsAt, isRepeated, hkind, saidAt_varReports]
  · have hnot : isRepeated c.tree f id = false := by
      by_contra h
      apply hkind
      rw [Bool.not_eq_false, isRepeated_iff (List.Perm.refl _)] at h
      rcases h with ⟨h | h, -⟩ | ⟨h, -⟩
      all_goals
        rw [h]
        decide
    rw [saidAt_reportsAt_eq_nil hkind, hnot]
    rfl

theorem saidAt_unknownSymbol (c : Context) (f : Facts) (id : NodeId) :
    saidAt .unknownSymbol (reportsAt c f id) = if isUnknown c.tree f id then [id] else [] := by
  by_cases hkind : c.tree.kind id = .symbol
  · simp only [reportsAt, symbolReports, isUnknown, hkind, beq_self_eq_true, Bool.true_and]
    cases f.isKnown (c.tree.text id) || Text.isPlainNumber (c.tree.text id) <;> rfl
  · have hnot : c.tree.kind id ∉ Rule.unknownSymbol.kinds := fun h =>
      hkind (List.mem_singleton.mp h)
    have hfalse : isUnknown c.tree f id = false := by
      rw [isUnknown, beq_eq_false_iff_ne.mpr hkind, Bool.false_and]
    rw [saidAt_reportsAt_eq_nil hnot, hfalse]
    rfl

section scan

variable {c : Context} {ρ : Rule} {isBad : Tree → Facts → NodeId → Bool}
  (h : ∀ f id, saidAt ρ (reportsAt c f id) = if isBad c.tree f id then [id] else [])
include h

theorem saidAt_scan_sublist (f : Facts) (ids : List NodeId) :
    (saidAt ρ (scan c f ids)).Sublist ids := by
  induction ids generalizing f with
  | nil => exact List.Sublist.slnil
  | cons id ids ih =>
      rw [scan, saidAt_append, h]
      split
      · exact (ih (f.advance c id)).cons_cons id
      · exact (ih (f.advance c id)).cons id

/-- Run lemma: a node is judged by the facts of the nodes in front of it. -/
theorem mem_saidAt_scan (f : Facts) (ids : List NodeId) {n : NodeId} :
    n ∈ saidAt ρ (scan c f ids) ↔ ∃ before after, ids = before ++ n :: after ∧
      isBad c.tree (before.foldl (Facts.advance c) f) n = true := by
  induction ids generalizing f with
  | nil => simp [scan, saidAt]
  | cons id ids ih =>
      rw [scan, saidAt_append, h, List.mem_append, List.mem_ite_nil_right, List.mem_singleton, ih,
        exists_split_cons]
      refine or_congr ?_ Iff.rfl
      constructor
      · rintro ⟨hbad, rfl⟩
        exact ⟨rfl, hbad⟩
      · rintro ⟨rfl, hbad⟩
        exact ⟨hbad, rfl⟩

end scan

theorem foundAt_eq_saidAt_scan {ρ : Rule} (hρ : (ρ == .seqNotFound) = false) {levels : Levels}
    (h : levels.level ρ ≠ .ignore) :
    foundAt ρ (findings files r levels) =
      saidAt ρ (scan { files, record := r } {} (visited r.tree)) := by
  rw [foundAt_findings _ _ h, saidAt_reports hρ]
  rfl

/-- The rules about names are exact, whatever finds the files.  The walk visits no node twice, and
each rule is found at a node once at most.  A repeated declaration is found at the definitions whose
name is declared in front of them, and at the variables whose name is declared there twice or more;
an unknown symbol is found at the symbols that are declared nowhere in front of them and are not
digits and points. -/
theorem names_judged {files : Resolver} (hfiles : files.Formed) {r : Record}
    (hr : r.tree.Formed) {levels : Levels}
    (hduplicate : levels.level .duplicateDeclaration ≠ .ignore)
    (hunknown : levels.level .unknownSymbol ≠ .ignore) :
    (visited r.tree).Nodup ∧
    (foundAt .duplicateDeclaration (findings files r levels)).Nodup ∧
    (foundAt .unknownSymbol (findings files r levels)).Nodup ∧
    (∀ n, n ∈ foundAt .duplicateDeclaration (findings files r levels) ↔
      ∃ before after, visited r.tree = before ++ n :: after ∧
        (((r.tree.kind n = .varDef ∨ r.tree.kind n = .labelDef) ∧
            ∃ d, r.tree.declarationOf n = some d ∧
              d.name ∈ (declaredAlong files r before).map (·.name)) ∨
          (r.tree.kind n = .var ∧
            2 ≤ ((declaredAlong files r before).map (·.name)).count (r.tree.text n)))) ∧
    (∀ n, n ∈ foundAt .unknownSymbol (findings files r levels) ↔
      ∃ before after, visited r.tree = before ++ n :: after ∧ r.tree.kind n = .symbol ∧
        r.tree.text n ∉ (declaredAlong files r before).map (·.name) ∧
        ¬(r.tree.text n ≠ "" ∧ ∀ c ∈ (r.tree.text n).toList, c.isDigit = true ∨ c = '.')) := by
  have hrooted := hr.toRooted
  have hnodup : (visited r.tree).Nodup := hrooted.nodup_visits _
  rw [foundAt_eq_saidAt_scan rfl hduplicate, foundAt_eq_saidAt_scan rfl hunknown]
  refine ⟨hnodup, hnodup.sublist (saidAt_scan_sublist (saidAt_duplicateDeclaration _) _ _),
    hnodup.sublist (saidAt_scan_sublist (saidAt_unknownSymbol _) _ _), fun n => ?_, fun n => ?_⟩
  · rw [mem_saidAt_scan (saidAt_duplicateDeclaration _)]
    refine exists_congr fun before => exists_congr fun after => and_congr_right fun _ => ?_
    exact isRepeated_iff (introduced_perm hfiles before) r.tree n
  · rw [mem_saidAt_scan (saidAt_unknownSymbol _)]
    refine exists_congr fun before => exists_congr fun after => and_congr_right fun _ => ?_
    exact isUnknown_iff (introduced_perm hfiles before) r.tree n

/-- A file that declares a name. -/
def namingTree : Tree :=
  { source := "A"
    nodes := #[
      { kind := .file .definitions, span := ⟨0, 1⟩, children := [1] },
      { kind := .varDef, span := ⟨0, 1⟩, parent := some 0, children := [2],
        link := some { id := 0 } },
      { kind := .symbol, span := ⟨0, 1⟩, parent := some 1 }]
    declarations := #[⟨.var, "A", 1, some 2, none, none, .undefined⟩] }

/-- A program that includes it, declares the name again, and uses it and another one. -/
def renamingTree : Tree :=
  { source := "names A A B"
    nodes := #[
      { kind := .file .program, span := ⟨0, 11⟩, children := [1, 3, 5, 6] },
      { kind := .inclusion, span := ⟨0, 5⟩, parent := some 0, children := [2] },
      { kind := .string, span := ⟨0, 5⟩, field := some .uri, parent := some 1 },
      { kind := .varDef, span := ⟨6, 7⟩, parent := some 0, children := [4],
        link := some { id := 0 } },
      { kind := .symbol, span := ⟨6, 7⟩, parent := some 3 },
      { kind := .var, span := ⟨8, 9⟩, parent := some 0 },
      { kind := .symbol, span := ⟨10, 11⟩, parent := some 0 }]
    declarations := #[⟨.var, "A", 3, some 4, none, none, .undefined⟩] }

def namingStock : Workspace := ({} : Workspace).insert "names" namingTree

def renamingFile : Record := namingStock.record "main" renamingTree

def namingShop : Workspace := namingStock.insert "main" renamingTree

theorem stored_namingShop : namingShop.Stored := by
  have hformed : ∀ t ∈ [namingTree, renamingTree], t.defect? = none := by decide
  refine Workspace.Stored.insert (Workspace.Stored.insert (Workspace.stored_empty _) _ ?_) _ ?_
  · exact (Tree.defect?_eq_none_iff.mp (hformed _ (by simp))).toFormed
  · exact (Tree.defect?_eq_none_iff.mp (hformed _ (by simp))).toFormed

/-- The program is judged by the name that it includes, and from node `3` on by its own as well. -/
theorem facts_namingShop :
    visited renamingTree = [0, 1, 3, 4, 5, 6] ∧
      (declaredAlong namingShop.resolver renamingFile [0, 1]).map (·.name) = ["A"] ∧
      (declaredAlong namingShop.resolver renamingFile [0, 1, 3, 4]).map (·.name) = ["A", "A"] ∧
      (declaredAlong namingShop.resolver renamingFile [0, 1, 3, 4, 5]).map (·.name) = ["A", "A"] ∧
      renamingTree.text 5 = "A" ∧ renamingTree.text 6 = "B" := by
  decide

theorem names_judged_namingShop :
    namingShop.Stored ∧ renamingFile ∈ namingShop.records ∧
      strict.level .duplicateDeclaration ≠ .ignore ∧ strict.level .unknownSymbol ≠ .ignore ∧
      3 ∈ foundAt .duplicateDeclaration (lint namingShop renamingFile strict) ∧
      5 ∈ foundAt .duplicateDeclaration (lint namingShop renamingFile strict) ∧
      6 ∈ foundAt .unknownSymbol (lint namingShop renamingFile strict) := by
  have hmem : renamingFile ∈ namingShop.records :=
    (Workspace.mem_of_get? (Workspace.get?_insert_self namingStock "main" renamingTree)).1
  have hduplicate : strict.level .duplicateDeclaration ≠ .ignore := by decide
  have hunknown : strict.level .unknownSymbol ≠ .ignore := by decide
  obtain ⟨hvisited, hincluded, hown, hlast, hvar, hsymbol⟩ := facts_namingShop
  obtain ⟨-, -, -, hrepeated, hstray⟩ :=
    names_judged stored_namingShop.formed (stored_namingShop _ hmem).2 hduplicate hunknown
  refine ⟨stored_namingShop, hmem, hduplicate, hunknown, (hrepeated 3).mpr ?_,
    (hrepeated 5).mpr ?_, (hstray 6).mpr ?_⟩
  · refine ⟨[0, 1], [4, 5, 6], hvisited, .inl ⟨.inl rfl, _, rfl, ?_⟩⟩
    rw [hincluded]
    exact List.mem_singleton.mpr rfl
  · refine ⟨[0, 1, 3, 4], [6], hvisited, .inr ⟨rfl, ?_⟩⟩
    show 2 ≤ List.count (renamingTree.text 5)
      ((declaredAlong namingShop.resolver renamingFile [0, 1, 3, 4]).map (·.name))
    rw [hown, hvar]
    decide
  · refine ⟨[0, 1, 3, 4, 5], [], hvisited, rfl, ?_⟩
    show renamingTree.text 6 ∉ _ ∧ ¬(renamingTree.text 6 ≠ "" ∧ _)
    rw [hlast, hsymbol]
    refine ⟨by decide, fun hnumber => ?_⟩
    have hdigit := hnumber.2 'B' (by decide)
    exact absurd hdigit (by decide)

end Lint
end NcInsight
