import NcInsight.Editor.Navigation
import NcInsight.Proofs.Tree.Cursor
import NcInsight.Proofs.Workspace.NameIndex
import NcInsight.Proofs.Workspace.Scripted

/-
Where names are looked up and where their uses are searched.

A file knows the symbols of the files in its search order, in that order, and a node means the
first of them that it names (`origin?_eq_find?`).  The uses of a symbol in a tree come in
the order of the source, one ending before the next starts (`uses_pairwise`).  The files that are
searched for uses are open files, no file twice, and each of them knows the symbol
(`nodup_targets`, `mem_searchOrder_of_mem_targets`).
-/
namespace NcInsight
namespace Navigation

theorem mem_pairs {α β : Type} {as : List α} {f : α → List β} {a : α} {b : β} :
    (a, b) ∈ as.flatMap (fun x => (f x).map fun y => (x, y)) ↔ a ∈ as ∧ b ∈ f a := by
  simp only [List.mem_flatMap, List.mem_map, Prod.mk.injEq]
  constructor
  · rintro ⟨x, hx, y, hy, rfl, rfl⟩
    exact ⟨hx, hy⟩
  · rintro ⟨ha, hb⟩
    exact ⟨a, ha, b, hb, rfl, rfl⟩

/-! ## Looking a name up -/

/-- What a file knows, in the order in which names are looked up. -/
def known (w : Workspace) (r : Record) : List (Record × Symbol) :=
  (searchOrder w r).flatMap fun file => (FileScope.of file).symbols.map (file, ·)

theorem intersects_comm (a b : ReferenceTypes) : a.intersects b = b.intersects a := by
  rw [ReferenceTypes.intersects, ReferenceTypes.intersects, UInt8.and_comm]

theorem resolve_eq_find? (r : Record) (t : Tree) (id : NodeId) :
    (FileScope.of r).resolve t id = (FileScope.of r).symbols.find? fun y => y.isNamedBy t id := by
  rw [FileScope.resolve, FileScope.lookup_eq_find?]
  by_cases href : t.isReference id = true
  · rw [if_pos href]
    congr 1
    funext y
    rw [Symbol.isNamedBy, href, Bool.true_and, intersects_comm, Bool.eq_iff_iff]
    simp only [Bool.and_eq_true, beq_iff_eq]
    exact and_congr_left fun _ => eq_comm
  · rw [if_neg href]
    symm
    rw [List.find?_eq_none]
    intro y _
    simp [Symbol.isNamedBy, href]

theorem resolve_alone {r : Record} {t : Tree} {id : NodeId} :
    (Scope.alone r).resolve t id = (FileScope.of r).resolve t id := by
  rw [Scope.resolve, Scope.files, Scope.alone]
  simp

theorem origin?_eq_find? (w : Workspace) (r : Record) (id : NodeId) :
    origin? w r id = (known w r).find? fun s => s.2.isNamedBy r.tree id := by
  rw [origin?, known]
  induction searchOrder w r with
  | nil => rfl
  | cons file files ih =>
      rw [List.findSome?_cons, List.flatMap_cons, List.find?_append, List.find?_map,
        resolve_eq_find?, ← ih]
      cases h : (FileScope.of file).symbols.find? fun y => y.isNamedBy r.tree id with
      | none =>
          have hcomp : (FileScope.of file).symbols.find?
              ((fun s : Record × Symbol => s.2.isNamedBy r.tree id) ∘ fun y => (file, y)) = none := h
          rw [hcomp]
          rfl
      | some y =>
          have hcomp : (FileScope.of file).symbols.find?
              ((fun s : Record × Symbol => s.2.isNamedBy r.tree id) ∘ fun y => (file, y)) =
                some y := h
          rw [hcomp]
          rfl

theorem mem_known {w : Workspace} {r file : Record} {y : Symbol} :
    (file, y) ∈ known w r ↔ file ∈ searchOrder w r ∧ y ∈ (FileScope.of file).symbols :=
  mem_pairs

variable {w : Workspace} {r origin : Record} {y : Symbol} {id : NodeId}

theorem origin?_spec (h : origin? w r id = some (origin, y)) :
    origin ∈ searchOrder w r ∧ y ∈ (FileScope.of origin).symbols ∧
      y.isNamedBy r.tree id = true := by
  rw [origin?_eq_find?] at h
  have hmem := mem_known.mp (List.mem_of_find?_eq_some h)
  have hnamed := List.find?_some h
  exact ⟨hmem.1, hmem.2, hnamed⟩

/-- The file itself comes first. -/
theorem origin?_of_resolve (h : (FileScope.of r).resolve r.tree id = some y) :
    origin? w r id = some (r, y) := by
  rw [origin?, searchOrder, List.findSome?_cons, h]
  rfl

theorem mem_records_of_mem_searchOrder {file : Record} (hr : r ∈ w.records)
    (h : file ∈ searchOrder w r) : file ∈ w.records := by
  rcases List.mem_cons.mp h with rfl | h
  · exact hr
  · exact (Workspace.mem_includedBy h).1

theorem isNamedBy_spec {t : Tree} (h : y.isNamedBy t id = true) :
    t.isReference id = true ∧ t.text id = y.name := by
  simp only [Symbol.isNamedBy, Bool.and_eq_true, beq_iff_eq] at h
  exact h.1

/-- Every use of a name is a leaf. -/
def NamesAreLeaves (t : Tree) : Prop :=
  ∀ i, i < t.size → t.isReference i = true → t.children i = []

instance (t : Tree) : Decidable (NamesAreLeaves t) :=
  inferInstanceAs (Decidable (∀ i, i < t.size → t.isReference i = true → t.children i = []))

theorem NamesAreLeaves.not_encloses {t : Tree} (hleaf : NamesAreLeaves t) (h : t.Nested)
    {a i : Nat} (hi : i < t.size) (ha : t.isReference a = true) : ¬ t.Encloses a i :=
  h.not_encloses_of_leaf (hleaf a (Tree.lt_size_of_isReference ha) ha) hi

/-! ## The name at an offset -/

theorem isReference_of_isNamed {t : Tree} (h : isNamed (t.kind id) = true) :
    t.isReference id = true := by
  rw [Tree.isReference]
  revert h
  cases t.kind id <;> simp [isNamed]

theorem isReference_of_isUnnamed {t : Tree} (h : isUnnamed (t.kind id) = true) :
    t.isReference id = true := by
  rw [Tree.isReference]
  revert h
  cases t.kind id <;> simp [isUnnamed]

/-- Beyond the last node there is no name, and nothing around it. -/
theorem lt_size_of_findAncestor {t : Tree} {p : Kind → Bool}
    (hp : ∀ a, p (t.kind a) = true → t.isReference a = true) {i a : Nat}
    (hfound : t.findAncestor p i = some a) : i < t.size := by
  by_contra hi
  have hparent : t.parent i = none := by
    rw [Tree.parent, Tree.node_of_size_le (Nat.le_of_not_lt hi)]
    rfl
  have hancestors : t.ancestors i = [] := by
    rw [Tree.ancestors]
    cases t.size with
    | zero => rfl
    | succ n => rw [Tree.ancestorsWithin, hparent]
  have hmem := List.mem_of_find?_eq_some hfound
  rw [Tree.lineage, hancestors, List.mem_singleton] at hmem
  have hpa := List.find?_some hfound
  rw [hmem] at hpa
  exact hi (Tree.lt_size_of_isReference (hp i hpa))

section start

variable {t : Tree} (h : t.Laid) (hleaf : NamesAreLeaves t)
include h hleaf

/-- No name lies in another, so looking outwards from a name finds at most itself. -/
theorem findAncestor_eq_self {p : Kind → Bool}
    (hp : ∀ a, p (t.kind a) = true → t.isReference a = true) {i a : Nat}
    (hfound : t.findAncestor p i = some a) : a = i := by
  have hi := lt_size_of_findAncestor hp hfound
  have hpa := List.find?_some hfound
  rcases List.mem_cons.mp (List.mem_of_find?_eq_some hfound) with rfl | hmem
  · rfl
  · exact absurd ((h.mem_ancestors_iff hi).mp hmem)
      (hleaf.not_encloses h.toNested hi (hp a hpa))

/-- Nothing but the innermost node can be the name at an offset. -/
theorem nameAt_eq_of_leaves (offset : Nat) : nameAt t offset = referenceAt t offset := by
  rw [nameAt, referenceAt]
  cases t.findAncestor isNamed (t.nodeAt offset) with
  | some a => rfl
  | none =>
      cases hu : t.findAncestor isUnnamed (t.nodeAt offset) with
      | none => rfl
      | some a => exact (findAncestor_eq_self h hleaf (fun _ => isReference_of_isUnnamed) hu).symm

variable {i : Nat} (href : t.isReference i = true)
  (htext : ∃ x ∈ (t.text i).toList, Text.isBlank x = false)
include href htext

theorem nameAt_start : nameAt t (t.start i) = i := by
  have hi := Tree.lt_size_of_isReference href
  rw [nameAt, h.nodeAt_start hi (hleaf i hi href) htext]
  cases hn : t.findAncestor isNamed i with
  | none => rfl
  | some a => exact findAncestor_eq_self h hleaf (fun _ => isReference_of_isNamed) hn

theorem referenceAt_start : referenceAt t (t.start i) = i := by
  rw [← nameAt_eq_of_leaves h hleaf, nameAt_start h hleaf href htext]

end start

/-! ## The uses in one file -/

section uses

variable {t : Tree}

theorem uses_eq (h : t.Nested) (y : Symbol) :
    uses t y = (List.range t.size).filter fun i =>
      (t.ancestors i).all (fun a => !y.isNamedBy t a) && y.isNamedBy t i := by
  rw [uses, h.visits_eq, List.filter_filter]
  congr 1
  funext i
  exact Bool.and_comm ..

theorem isNamedBy_of_mem_uses (h : t.Nested) {i : Nat} (hi : i ∈ uses t y) :
    i < t.size ∧ y.isNamedBy t i = true := by
  rw [uses_eq h, List.mem_filter, List.mem_range, Bool.and_eq_true] at hi
  exact ⟨hi.1, hi.2.2⟩

/-- The walk does not go below a use, so one use ends before the next starts. -/
theorem uses_pairwise (h : t.Laid) (y : Symbol) :
    (uses t y).Pairwise fun i j : Nat => i < j ∧ (t.span i).stop ≤ t.start j := by
  rw [uses_eq h.toNested]
  have hlt : ((List.range t.size).filter fun i =>
      (t.ancestors i).all (fun a => !y.isNamedBy t a) && y.isNamedBy t i).Pairwise
        fun i j : Nat => i < j :=
    (List.pairwise_lt_range (n := t.size)).filter _
  refine hlt.imp_of_mem fun {i j} hi hj hij => ⟨hij, ?_⟩
  rw [List.mem_filter, List.mem_range, Bool.and_eq_true] at hi hj
  refine h.stop_le_start hij hj.1 fun henc => ?_
  have hnot := List.all_eq_true.mp hj.2.1 i ((h.mem_ancestors_iff hj.1).mpr henc)
  rw [hi.2.2] at hnot
  cases hnot

/-- Where uses of names are leaves, none lies in another, so the walk meets them all. -/
theorem uses_eq_of_leaves (h : t.Nested) (hleaf : NamesAreLeaves t) (y : Symbol) :
    uses t y = (List.range t.size).filter (y.isNamedBy t) := by
  rw [uses_eq h]
  refine List.filter_congr fun i hi => ?_
  have hi := List.mem_range.mp hi
  have hall : (t.ancestors i).all (fun a => !y.isNamedBy t a) = true := by
    rw [List.all_eq_true]
    intro a ha
    rw [Bool.not_eq_true', Bool.eq_false_iff]
    intro hnamed
    exact hleaf.not_encloses h hi (isNamedBy_spec hnamed).1 ((h.mem_ancestors_iff hi).mp ha)
  rw [hall, Bool.true_and]

theorem mem_uses_of_leaves (h : t.Nested) (hleaf : NamesAreLeaves t) {i : Nat} :
    i ∈ uses t y ↔ y.isNamedBy t i = true := by
  rw [uses_eq_of_leaves h hleaf, List.mem_filter, List.mem_range]
  exact ⟨fun hi => hi.2, fun hi => ⟨Tree.lt_size_of_isReference (isNamedBy_spec hi).1, hi⟩⟩

end uses

/-! ## The files searched -/

theorem mem_programsIncluding {g : Record} {uri : String} :
    g ∈ w.programsIncluding uri ↔
      g ∈ w.records ∧ g.isProgram = true ∧ g.isIncluding uri = true := by
  simp only [Workspace.programsIncluding, Workspace.select, List.mem_filter, and_assoc]

theorem targets_of_isNamed {t : Tree} (hkind : isNamed (t.kind id) = true) :
    targets w t id origin =
      (if origin.isProgram then [] else w.programsIncluding origin.uri) ++ [origin] := by
  rw [targets]
  revert hkind
  cases t.kind id <;> simp [isNamed]

theorem mem_targets_of_isNamed {t : Tree} {g : Record} (hkind : isNamed (t.kind id) = true) :
    g ∈ targets w t id origin ↔ g = origin ∨ (origin.isProgram = false ∧
      g ∈ w.records ∧ g.isProgram = true ∧ g.isIncluding origin.uri = true) := by
  rw [targets_of_isNamed hkind, List.mem_append, List.mem_singleton, or_comm]
  cases origin.isProgram with
  | true => simp
  | false => simp [mem_programsIncluding]

theorem mem_records_of_mem_targets {t : Tree} {g : Record} (ho : origin ∈ w.records)
    (h : g ∈ targets w t id origin) : g ∈ w.records := by
  have hown : g ∈ [origin] → g ∈ w.records := by
    intro hg
    rw [List.mem_singleton.mp hg]
    exact ho
  have hnamed : g ∈ (if origin.isProgram then [] else w.programsIncluding origin.uri) ++
      [origin] → g ∈ w.records := by
    intro hg
    rcases List.mem_append.mp hg with hg | hg
    · split at hg
      · cases hg
      · exact (mem_programsIncluding.mp hg).1
    · exact hown hg
  rw [targets] at h
  split at h
  · exact h
  · exact h
  · split at h
    · exact hown h
    · cases h
  · exact hnamed h
  · exact hnamed h
  · cases h

/-- No file is searched twice. -/
theorem nodup_targets (hw : w.Scripted) (t : Tree) (id : NodeId) (origin : Record) :
    (targets w t id origin).Nodup := by
  have hnamed : ((if origin.isProgram then [] else w.programsIncluding origin.uri) ++
      [origin]).Nodup := by
    split
    · exact List.pairwise_singleton _ origin
    case isFalse hprogram =>
      have hprograms : (w.programsIncluding origin.uri).Nodup :=
        (hw.nodup_records.filter _).filter _
      refine List.nodup_append.mpr ⟨hprograms, List.pairwise_singleton _ origin, ?_⟩
      intro g hg o ho he
      rw [List.mem_singleton.mp ho] at he
      rw [he] at hg
      exact hprogram (mem_programsIncluding.mp hg).2.1
  rw [targets]
  split
  · exact hw.nodup_records
  · exact hw.nodup_records
  · split
    · exact List.pairwise_singleton _ origin
    · exact List.nodup_nil
  · exact hnamed
  · exact hnamed
  · exact List.nodup_nil

/-- A file that is searched for the uses of a symbol knows the file that the symbol is of. -/
theorem mem_searchOrder_of_mem_targets {t : Tree} {g : Record} (hw : w.Scripted)
    (ho : origin ∈ w.records) (hkind : isNamed (t.kind id) = true)
    (h : g ∈ targets w t id origin) : origin ∈ searchOrder w g := by
  rcases (mem_targets_of_isNamed hkind).mp h with rfl | ⟨hlib, -, hprogram, hinc⟩
  · exact List.mem_cons_self
  · refine List.mem_cons_of_mem g (List.mem_filterMap.mpr ⟨origin.uri, ?_, hw.get?_of_mem ho⟩)
    refine List.mem_filter.mpr ⟨List.contains_iff_mem.mp hinc, ?_⟩
    -- only a file that includes itself is left out, and that would be a program and not be one
    rw [bne_iff_ne]
    intro he
    have hsame : origin = g := hw.eq_of_uri_eq ho (mem_records_of_mem_targets ho h) he
    rw [hsame, hprogram] at hlib
    cases hlib

/-! ## All uses -/

/-- The uses of what is named at an offset, each as a file and a node of it. -/
def sites (w : Workspace) (r : Record) (offset : Nat) : List (Record × NodeId) :=
  match origin? w r (referenceAt r.tree offset) with
  | some (origin, y) =>
      (targets w r.tree (referenceAt r.tree offset) origin).flatMap fun file =>
        (uses file.tree y).map (file, ·)
  | none => []

theorem references_eq_sites (w : Workspace) (r : Record) (offset : Nat) :
    references w r offset none = (sites w r offset).filterMap fun s => s.1.location? s.2 := by
  rw [references, sites]
  cases origin? w r (referenceAt r.tree offset) with
  | none => rfl
  | some s =>
      obtain ⟨origin, y⟩ := s
      simp only [List.filterMap_flatMap, List.filterMap_map]
      congr 1
      funext file
      rw [usesIn]
      have hwanted : (uses file.tree y).filter (isWanted file.tree none) = uses file.tree y :=
        List.filter_eq_self.mpr fun _ _ => rfl
      rw [hwanted]
      rfl

theorem mem_sites {offset : Nat} {g : Record} {i : NodeId}
    (ho : origin? w r (referenceAt r.tree offset) = some (origin, y)) :
    (g, i) ∈ sites w r offset ↔
      g ∈ targets w r.tree (referenceAt r.tree offset) origin ∧ i ∈ uses g.tree y := by
  rw [sites, ho]
  exact mem_pairs

theorem mem_references {offset : Nat} {l : Location} :
    l ∈ references w r offset none ↔
      ∃ g i, (g, i) ∈ sites w r offset ∧ g.location? i = some l := by
  rw [references_eq_sites, List.mem_filterMap]
  exact ⟨fun ⟨s, hs, hl⟩ => ⟨s.1, s.2, hs, hl⟩, fun ⟨g, i, hs, hl⟩ => ⟨(g, i), hs, hl⟩⟩

end Navigation
end NcInsight
