import NcInsight.Proofs.Lint.Names
import NcInsight.Proofs.Lint.Provenance

/-
Declarations that share a value.

A definition is held against the declarations in force in front of it.  Of the declarations that a
run has met (`introducedAlong`) those are in force that no later one has taken the name from, so a
shared value goes unnoticed once the name that had it is declared again, and since only the
definition is asked for its type, one is found that is shared with a declaration of another type
(`shared_value_missed`).  Where neither comes in between, a definition is found exactly if its value
was declared before (`shared_values_judged`).
-/
namespace NcInsight
namespace Lint

/-! ## Declarations in order -/

/-- What is declared along some nodes of a file, oldest first, when the addresses `met` were
included before: by each definition, and where an address is included for the first time by the file
there. -/
def introducedAlong (files : Resolver) (r : Record) : List String → List NodeId → List Declaration
  | _, [] => []
  | met, id :: ids =>
      if (r.tree.kind id).isDeclaration then
        (r.tree.declarationOf id).toList ++ introducedAlong files r met ids
      else if r.tree.kind id = .inclusion then
        match files.inclusionAddress? r id with
        | none => introducedAlong files r met ids
        | some a =>
            if met.contains a then introducedAlong files r met ids
            else exportedFrom files [a] ++ introducedAlong files r (met ++ [a]) ids
      else introducedAlong files r met ids

/-- Among some declarations, oldest first, those are in force whose name is not declared again. -/
def InForce (ds : List Declaration) (d : Declaration) : Prop :=
  ∃ older newer, ds = older ++ d :: newer ∧ ∀ e ∈ newer, e.name ≠ d.name

variable {files : Resolver} {r : Record}

/-- Run lemma: along any nodes the facts hold what is declared along them, the newest in front. -/
theorem introduced_eq (ids : List NodeId) (f : Facts) :
    (ids.foldl (Facts.advance { files, record := r }) f).introduced =
      (introducedAlong files r f.imports ids).reverse ++ f.introduced := by
  induction ids generalizing f with
  | nil => rfl
  | cons id ids ih =>
      rw [List.foldl_cons, ih, introducedAlong]
      cases hdefinition : (r.tree.kind id).isDeclaration with
      | true =>
          have hinclusion : r.tree.kind id ≠ .inclusion := by
            intro h
            rw [h] at hdefinition
            cases hdefinition
          rw [introduced_advance_of_isDeclaration (c := { files, record := r }) f
            hdefinition, imports_advance_of_ne (c := { files, record := r }) f
            hinclusion, if_pos rfl, List.reverse_append, List.append_assoc]
          have hone : ∀ o : Option Declaration, o.toList.reverse = o.toList := by
            intro o
            cases o <;> rfl
          rw [hone]
          rfl
      | false =>
          rw [if_neg Bool.false_ne_true]
          by_cases hinclusion : r.tree.kind id = .inclusion
          · rw [if_pos hinclusion, introduced_advance_of_inclusion f hinclusion,
              imports_advance f hinclusion]
            cases files.inclusionAddress? r id with
            | none => rfl
            | some a =>
                by_cases hmet : a ∈ f.imports
                · simp [hmet, imported]
                · simp [hmet, imported_of_not_mem hmet]
          · rw [if_neg hinclusion, introduced_advance_of_ne
              (c := { files, record := r }) f hdefinition hinclusion,
              imports_advance_of_ne (c := { files, record := r }) f hinclusion]

theorem introducedAlong_perm (hfiles : files.Formed) (ids : List NodeId) :
    (introducedAlong files r [] ids).Perm (declaredAlong files r ids) := by
  have hperm := introduced_perm (r := r) hfiles ids
  rw [introduced_eq, List.append_nil] at hperm
  exact (List.reverse_perm _).symm.trans hperm

/-- What is looked up by name is in force. -/
theorem lookup_eq_some_iff {f : Facts} {ds : List Declaration} (h : f.introduced = ds.reverse)
    {d : Declaration} : f.lookup d.name = some d ↔ InForce ds d := by
  rw [Facts.lookup, h, List.find?_eq_some_iff_append]
  constructor
  · rintro ⟨-, newer, older, hsplit, hnewer⟩
    refine ⟨older.reverse, newer.reverse, ?_, fun e he => ?_⟩
    · rw [List.reverse_eq_iff] at hsplit
      rw [hsplit, List.reverse_append, List.reverse_cons, List.append_assoc]
      rfl
    · simpa using hnewer e (List.mem_reverse.mp he)
  · rintro ⟨older, newer, rfl, hnewer⟩
    refine ⟨beq_self_eq_true d.name, newer.reverse, older.reverse, ?_, fun e he => ?_⟩
    · rw [List.reverse_append, List.reverse_cons, List.append_assoc]
      rfl
    · simpa using hnewer e (List.mem_reverse.mp he)

instance (ds : List Declaration) (d : Declaration) : Decidable (InForce ds d) :=
  decidable_of_iff (({ introduced := ds.reverse } : Facts).lookup d.name = some d)
    (lookup_eq_some_iff rfl)

/-- The last declaration of a name is in force. -/
theorem exists_inForce (older : List Declaration) (d : Declaration) (newer : List Declaration) :
    ∃ e, InForce (older ++ d :: newer) e ∧ e.name = d.name ∧ e ∈ d :: newer := by
  induction newer using List.reverseRecOn with
  | nil => exact ⟨d, ⟨older, [], rfl, fun _ he => by cases he⟩, rfl, List.mem_cons_self⟩
  | append_singleton newer x ih =>
      by_cases hname : x.name = d.name
      · refine ⟨x, ⟨older ++ d :: newer, [], by simp, fun _ he => by cases he⟩, hname, by simp⟩
      · obtain ⟨e, ⟨before, after, hsplit, hafter⟩, he, hmem⟩ := ih
        refine ⟨e, ⟨before, after ++ [x], ?_, fun y hy => ?_⟩, he, ?_⟩
        · rw [← List.cons_append, ← List.append_assoc, hsplit]
          simp
        · rcases List.mem_append.mp hy with hy | hy
          · exact hafter y hy
          · rw [List.mem_singleton.mp hy, he]
            exact hname
        · rw [← List.cons_append]
          exact List.mem_append_left _ hmem

/-! ## What is said of a value -/

/-- The types of values that two declarations must not share. -/
def exclusiveTypes : List ValueType := [.address, .ncCode, .numeric]

/-- Declaration `e` has the kind of `d` and its value. -/
def Shares (d e : Declaration) : Prop :=
  d.valueText.isSome = true ∧ e.kind = d.kind ∧ e.valueText = d.valueText

instance (d e : Declaration) : Decidable (Shares d e) :=
  inferInstanceAs (Decidable (_ ∧ _ ∧ _))

/-- Nothing comes between `d` and the declarations `ds` in front of it: a value that is shared with
`d` is of a type that must not be shared, and a name that has it keeps it when it is declared
again. -/
structure Undisturbed (ds : List Declaration) (d : Declaration) : Prop where
  types : ∀ e ∈ ds, Shares d e → e.valueType ∈ exclusiveTypes
  names : ∀ older e newer, ds = older ++ e :: newer → Shares d e →
    ∀ x ∈ newer, x.name = e.name → Shares d x

theorem isExclusive_iff {v : ValueType} : isExclusive v = true ↔ v ∈ exclusiveTypes := by
  cases v <;> decide

/-- Definitions whose value must not be shared, and is. -/
def isShared (t : Tree) (f : Facts) (id : NodeId) : Bool :=
  (t.kind id).isDeclaration &&
    (t.declarationOf id).any fun d => isExclusive d.valueType && clashes f d

theorem saidAt_duplicateAddress (c : Context) (f : Facts) (id : NodeId) :
    saidAt .duplicateAddress (reportsAt c f id) = if isShared c.tree f id then [id] else [] := by
  have hsaid : saidAt .duplicateAddress (declarationReports c f id) =
      if (c.tree.declarationOf id).any fun d => isExclusive d.valueType && clashes f d then [id]
      else [] := by
    rw [declarationReports]
    cases c.tree.declarationOf id with
    | none => rfl
    | some d =>
        have hname : saidAt .duplicateAddress (if f.isKnown d.name then
            [{ rule := .duplicateDeclaration, node := id, detail := some d.name }]
            else []) = [] := by
          split <;> rfl
        simp only [saidAt_append, hname, List.nil_append, Option.any_some]
        split <;> rfl
  by_cases hkind : c.tree.kind id ∈ Rule.duplicateAddress.kinds
  · simp only [Rule.kinds, List.mem_cons, List.not_mem_nil, or_false] at hkind
    rcases hkind with hkind | hkind
    · simp only [reportsAt, isShared, hkind, hsaid, Kind.isDeclaration, Bool.true_and]
    · simp only [reportsAt, isShared, hkind, hsaid, Kind.isDeclaration, Bool.true_and]
  · have hnot : (c.tree.kind id).isDeclaration = false := by
      rw [Bool.eq_false_iff]
      intro hdefinition
      apply hkind
      cases h : c.tree.kind id with
      | varDef => decide
      | labelDef => decide
      | _ =>
          rw [h] at hdefinition
          cases hdefinition
    rw [saidAt_reportsAt_eq_nil hkind, isShared, hnot]
    rfl

theorem isShared_iff {t : Tree} {f : Facts} {ds : List Declaration}
    (h : f.introduced = ds.reverse) {id : NodeId} : isShared t f id = true ↔
      (t.kind id).isDeclaration = true ∧ ∃ d, t.declarationOf id = some d ∧
        d.valueType ∈ exclusiveTypes ∧ ∃ e, InForce ds e ∧ Shares d e := by
  rw [isShared, Bool.and_eq_true, Option.any_eq_true]
  refine and_congr_right fun _ => exists_congr fun d => and_congr_right fun _ => ?_
  rw [Bool.and_eq_true, isExclusive_iff, clashes_iff]
  refine and_congr_right fun _ => ?_
  simp only [lookup_eq_some_iff h, Shares]
  constructor
  · rintro ⟨hvalue, e, hforce, hkind, htext⟩
    exact ⟨e, hforce, hvalue, hkind, htext⟩
  · rintro ⟨e, hforce, hvalue, hkind, htext⟩
    exact ⟨hvalue, e, hforce, hkind, htext⟩

/-- A shared value is found at the definitions whose value a declaration in force has too. -/
theorem mem_foundAt_duplicateAddress {levels : Levels}
    (h : levels.level .duplicateAddress ≠ .ignore) {n : NodeId} :
    n ∈ foundAt .duplicateAddress (findings files r levels) ↔
      ∃ before after, visited r.tree = before ++ n :: after ∧
        (r.tree.kind n).isDeclaration = true ∧ ∃ d, r.tree.declarationOf n = some d ∧
          d.valueType ∈ exclusiveTypes ∧
          ∃ e, InForce (introducedAlong files r [] before) e ∧ Shares d e := by
  rw [foundAt_eq_saidAt_scan rfl h, mem_saidAt_scan (saidAt_duplicateAddress _)]
  refine exists_congr fun before => exists_congr fun after => and_congr_right fun _ => ?_
  refine isShared_iff ?_
  rw [introduced_eq, List.append_nil]

theorem mem_of_inForce {ds : List Declaration} {d : Declaration} (h : InForce ds d) : d ∈ ds := by
  obtain ⟨older, newer, rfl, -⟩ := h
  exact List.mem_append_right older List.mem_cons_self

/-- Where nothing comes in between, a value is shared in force exactly if it was declared before. -/
theorem Undisturbed.exists_inForce_iff {ds : List Declaration} {d : Declaration}
    (h : Undisturbed ds d) : (∃ e, InForce ds e ∧ Shares d e) ↔
      ∃ e ∈ ds, Shares d e ∧ e.valueType ∈ exclusiveTypes := by
  constructor
  · rintro ⟨e, hforce, hshares⟩
    have hmem := mem_of_inForce hforce
    exact ⟨e, hmem, hshares, h.types e hmem hshares⟩
  · rintro ⟨e, hmem, hshares, -⟩
    obtain ⟨older, newer, hsplit⟩ := List.append_of_mem hmem
    obtain ⟨x, hforce, hname, hx⟩ := exists_inForce older e newer
    rw [← hsplit] at hforce
    refine ⟨x, hforce, ?_⟩
    rcases List.mem_cons.mp hx with rfl | hx
    · exact hshares
    · exact h.names older e newer hsplit hshares x hx hname

/-- A node that is met once has the same nodes in front of it, however they are told apart. -/
theorem before_unique {ids before after before' after' : List NodeId} {n : NodeId}
    (hnodup : ids.Nodup) (h : ids = before ++ n :: after) (h' : ids = before' ++ n :: after') :
    before = before' := by
  rw [h, List.nodup_middle, List.nodup_cons, List.mem_append, not_or] at hnodup
  rw [h] at h'
  exact ((List.append_cons_inj_of_notMem hnodup.1.1 hnodup.1.2).mp h').1

/-- Shared values, as far as they are found, whatever finds the files.  What is declared in front of
a node is what its run has met, in order.  A definition is found once, if its value is of a type
that must not be shared and a declaration in force has its kind and value, of whatever type.  Unless
something comes in between it is found exactly if a declaration in front of it has its kind and
value and a type that must not be shared. -/
theorem shared_values_judged {files : Resolver} (hfiles : files.Formed) {r : Record}
    (hr : r.tree.Formed) {levels : Levels} (hlevel : levels.level .duplicateAddress ≠ .ignore) :
    (foundAt .duplicateAddress (findings files r levels)).Nodup ∧
    (∀ before, (introducedAlong files r [] before).Perm (declaredAlong files r before)) ∧
    (∀ n, n ∈ foundAt .duplicateAddress (findings files r levels) ↔
      ∃ before after, visited r.tree = before ++ n :: after ∧
        (r.tree.kind n).isDeclaration = true ∧ ∃ d, r.tree.declarationOf n = some d ∧
          d.valueType ∈ exclusiveTypes ∧
          ∃ e, InForce (introducedAlong files r [] before) e ∧ Shares d e) ∧
    ∀ before n after d, visited r.tree = before ++ n :: after →
      (r.tree.kind n).isDeclaration = true → r.tree.declarationOf n = some d →
      d.valueType ∈ exclusiveTypes → Undisturbed (introducedAlong files r [] before) d →
      (n ∈ foundAt .duplicateAddress (findings files r levels) ↔
        ∃ e ∈ declaredAlong files r before, Shares d e ∧ e.valueType ∈ exclusiveTypes) := by
  have hnodup : (visited r.tree).Nodup := hr.toRooted.nodup_visits _
  refine ⟨?_, introducedAlong_perm hfiles, fun n => mem_foundAt_duplicateAddress hlevel, ?_⟩
  · rw [foundAt_eq_saidAt_scan rfl hlevel]
    exact hnodup.sublist (saidAt_scan_sublist (saidAt_duplicateAddress _) _ _)
  · intro before n after d hsplit hkind hd htype hplain
    have hmem : ∀ e, e ∈ declaredAlong files r before ↔ e ∈ introducedAlong files r [] before :=
      fun e => (introducedAlong_perm hfiles before).mem_iff.symm
    simp only [hmem, ← hplain.exists_inForce_iff]
    rw [mem_foundAt_duplicateAddress hlevel]
    constructor
    · rintro ⟨before', after', hsplit', -, d', hd', -, hshared⟩
      rw [hd] at hd'
      cases hd'
      rw [before_unique hnodup hsplit hsplit']
      exact hshared
    · intro hshared
      exact ⟨before, after, hsplit, hkind, d, hd, htype, hshared⟩

/-- A file that declares an address. -/
def axisTree : Tree :=
  { source := ""
    nodes := #[
      { kind := .file .definitions, span := ⟨0, 0⟩, children := [1] },
      { kind := .varDef, span := ⟨0, 0⟩, parent := some 0, link := some { id := 0 } }]
    declarations := #[⟨.var, "A", 1, none, none, some "X", .address⟩] }

/-- A program that includes it, and declares the address under the same name and under another. -/
def axisUserTree : Tree :=
  { source := "axes"
    nodes := #[
      { kind := .file .program, span := ⟨0, 4⟩, children := [1, 3, 4] },
      { kind := .inclusion, span := ⟨0, 4⟩, parent := some 0, children := [2] },
      { kind := .string, span := ⟨0, 4⟩, field := some .uri, parent := some 1 },
      { kind := .varDef, span := ⟨4, 4⟩, parent := some 0, link := some { id := 0 } },
      { kind := .varDef, span := ⟨4, 4⟩, parent := some 0, link := some { id := 1 } }]
    declarations := #[
      ⟨.var, "A", 3, none, none, some "X", .address⟩,
      ⟨.var, "B", 4, none, none, some "X", .address⟩] }

def axisStock : Workspace := ({} : Workspace).insert "axes" axisTree

def axisUser : Record := axisStock.record "main" axisUserTree

def axisShop : Workspace := axisStock.insert "main" axisUserTree

theorem stored_axisShop : axisShop.Stored := by
  have hformed : ∀ t ∈ [axisTree, axisUserTree], t.defect? = none := by decide
  refine Workspace.Stored.insert (Workspace.Stored.insert (Workspace.stored_empty _) _ ?_) _ ?_
  · exact (Tree.defect?_eq_none_iff.mp (hformed _ (by simp))).toFormed
  · exact (Tree.defect?_eq_none_iff.mp (hformed _ (by simp))).toFormed

theorem facts_axisShop :
    visited axisUserTree = [0, 1, 3, 4] ∧
      introducedAlong axisShop.resolver axisUser [] [0, 1, 3] =
        [⟨.var, "A", 1, none, none, some "X", .address⟩,
          ⟨.var, "A", 3, none, none, some "X", .address⟩] ∧
      declaredAlong axisShop.resolver axisUser [0, 1, 3] =
        [⟨.var, "A", 3, none, none, some "X", .address⟩,
          ⟨.var, "A", 1, none, none, some "X", .address⟩] := by
  decide

theorem shared_values_judged_axisShop :
    axisShop.Stored ∧ axisUser ∈ axisShop.records ∧
      strict.level .duplicateAddress ≠ .ignore ∧
      Undisturbed (introducedAlong axisShop.resolver axisUser [] [0, 1, 3])
        ⟨.var, "B", 4, none, none, some "X", .address⟩ ∧
      4 ∈ foundAt .duplicateAddress (lint axisShop axisUser strict) := by
  have hmem : axisUser ∈ axisShop.records :=
    (Workspace.mem_of_get? (Workspace.get?_insert_self axisStock "main" axisUserTree)).1
  have hlevel : strict.level .duplicateAddress ≠ .ignore := by decide
  obtain ⟨hvisited, hintroduced, hdeclared⟩ := facts_axisShop
  have hplain : Undisturbed (introducedAlong axisShop.resolver axisUser [] [0, 1, 3])
      ⟨.var, "B", 4, none, none, some "X", .address⟩ := by
    rw [hintroduced]
    refine ⟨by decide, fun older e newer hsplit _ x hx _ => ?_⟩
    -- all that is declared in front has the value
    have hall : ∀ y ∈ [(⟨.var, "A", 1, none, none, some "X", .address⟩ : Declaration),
        ⟨.var, "A", 3, none, none, some "X", .address⟩],
          Shares ⟨.var, "B", 4, none, none, some "X", .address⟩ y := by decide
    refine hall x ?_
    rw [hsplit]
    exact List.mem_append_right older (List.mem_cons_of_mem e hx)
  refine ⟨stored_axisShop, hmem, hlevel, hplain, ?_⟩
  obtain ⟨-, -, -, hjudged⟩ :=
    shared_values_judged stored_axisShop.formed (stored_axisShop _ hmem).2 hlevel
  refine (hjudged [0, 1, 3] 4 [] _ hvisited rfl rfl (by decide) hplain).mpr ?_
  rw [hdeclared]
  exact ⟨_, List.mem_cons_self, by decide, by decide⟩

/-- A file that declares an address, takes its name for another one, and declares it again; and a
number that a constant had before. -/
def retakenTree : Tree :=
  { source := ""
    nodes := #[
      { kind := .file .definitions, span := ⟨0, 0⟩, children := [1, 2, 3, 4, 5] },
      { kind := .varDef, span := ⟨0, 0⟩, parent := some 0, link := some { id := 0 } },
      { kind := .varDef, span := ⟨0, 0⟩, parent := some 0, link := some { id := 1 } },
      { kind := .varDef, span := ⟨0, 0⟩, parent := some 0, link := some { id := 2 } },
      { kind := .varDef, span := ⟨0, 0⟩, parent := some 0, link := some { id := 3 } },
      { kind := .varDef, span := ⟨0, 0⟩, parent := some 0, link := some { id := 4 } }]
    declarations := #[
      ⟨.var, "A", 1, none, none, some "X", .address⟩,
      ⟨.var, "A", 2, none, none, some "Y", .address⟩,
      ⟨.var, "B", 3, none, none, some "X", .address⟩,
      ⟨.var, "C", 4, none, none, some "100", .constant⟩,
      ⟨.var, "D", 5, none, none, some "100", .numeric⟩] }

def retakenFile : Record := ({} : Workspace).record "main" retakenTree

def retakenShop : Workspace := ({} : Workspace).insert "main" retakenTree

theorem facts_retakenFile :
    retakenTree.defect? = none ∧ visited retakenTree = [0, 1, 2, 3, 4, 5] ∧
      introducedAlong retakenShop.resolver retakenFile [] [0, 1, 2] =
        [⟨.var, "A", 1, none, none, some "X", .address⟩,
          ⟨.var, "A", 2, none, none, some "Y", .address⟩] ∧
      introducedAlong retakenShop.resolver retakenFile [] [0, 1, 2, 3, 4] =
        [⟨.var, "A", 1, none, none, some "X", .address⟩,
          ⟨.var, "A", 2, none, none, some "Y", .address⟩,
          ⟨.var, "B", 3, none, none, some "X", .address⟩,
          ⟨.var, "C", 4, none, none, some "100", .constant⟩] := by
  decide

/-- The address is shared with the first declaration and not found, since the name of that was
taken; and the number is found, although what has it in front is a constant. -/
theorem shared_value_missed :
    retakenShop.Stored ∧ retakenFile ∈ retakenShop.records ∧
      strict.level .duplicateAddress ≠ .ignore ∧
      (visited retakenTree = [0, 1, 2] ++ 3 :: [4, 5] ∧ retakenTree.kind 3 = .varDef ∧
        ∃ d, retakenTree.declarationOf 3 = some d ∧ d.valueType ∈ exclusiveTypes ∧
          (∃ e ∈ declaredAlong retakenShop.resolver retakenFile [0, 1, 2],
            Shares d e ∧ e.valueType ∈ exclusiveTypes) ∧
          3 ∉ foundAt .duplicateAddress (lint retakenShop retakenFile strict)) ∧
      (visited retakenTree = [0, 1, 2, 3, 4] ++ 5 :: [] ∧ retakenTree.kind 5 = .varDef ∧
        ∃ d, retakenTree.declarationOf 5 = some d ∧ d.valueType ∈ exclusiveTypes ∧
          (¬∃ e ∈ declaredAlong retakenShop.resolver retakenFile [0, 1, 2, 3, 4],
            Shares d e ∧ e.valueType ∈ exclusiveTypes) ∧
          5 ∈ foundAt .duplicateAddress (lint retakenShop retakenFile strict)) := by
  obtain ⟨hcheck, hvisited, hfirst, hsecond⟩ := facts_retakenFile
  have hformed : retakenTree.Formed := (Tree.defect?_eq_none_iff.mp hcheck).toFormed
  have hstored : retakenShop.Stored := (Workspace.stored_empty _).insert _ hformed
  have hmem : retakenFile ∈ retakenShop.records :=
    (Workspace.mem_of_get? (Workspace.get?_insert_self {} "main" retakenTree)).1
  have hlevel : strict.level .duplicateAddress ≠ .ignore := by decide
  have hdeclared : ∀ before e, e ∈ declaredAlong retakenShop.resolver retakenFile before ↔
      e ∈ introducedAlong retakenShop.resolver retakenFile [] before :=
    fun before e => (introducedAlong_perm hstored.formed before).mem_iff.symm
  refine ⟨hstored, hmem, hlevel, ⟨hvisited, rfl, _, rfl, by decide, ?_, fun hfound => ?_⟩,
    ⟨hvisited, rfl, _, rfl, by decide, ?_, ?_⟩⟩
  · simp only [hdeclared, hfirst]
    exact ⟨_, List.mem_cons_self, by decide, by decide⟩
  · obtain ⟨before, after, hsplit, -, d, hd, -, e, hforce, hshares⟩ :=
      (mem_foundAt_duplicateAddress hlevel).mp hfound
    have hnodup : (visited retakenTree).Nodup := hformed.toRooted.nodup_visits _
    have hmet : visited retakenTree = [0, 1, 2] ++ 3 :: [4, 5] := hvisited
    obtain rfl := before_unique hnodup hmet hsplit
    cases hd
    rw [hfirst] at hforce
    have hnone : ∀ e ∈ [(⟨.var, "A", 1, none, none, some "X", .address⟩ : Declaration),
        ⟨.var, "A", 2, none, none, some "Y", .address⟩],
          InForce [⟨.var, "A", 1, none, none, some "X", .address⟩,
            ⟨.var, "A", 2, none, none, some "Y", .address⟩] e →
          ¬Shares ⟨.var, "B", 3, none, none, some "X", .address⟩ e := by decide
    exact hnone e (mem_of_inForce hforce) hforce hshares
  · simp only [hdeclared, hsecond]
    decide
  · refine (mem_foundAt_duplicateAddress hlevel).mpr ⟨[0, 1, 2, 3, 4], [], hvisited, rfl, _, rfl,
      by decide, ⟨.var, "C", 4, none, none, some "100", .constant⟩, ?_, by decide⟩
    rw [hsecond]
    decide

end Lint
end NcInsight
