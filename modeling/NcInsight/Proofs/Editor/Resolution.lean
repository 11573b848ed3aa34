import NcInsight.Proofs.Editor.Binding
import NcInsight.Proofs.Workspace.Symbols

/-
One meaning for a name.

Navigation asks the files of its search order one after the other and answers with the first that
knows the name.  A scope takes in the file and what it includes, each address when it is first met,
and finds the file of a symbol again by its address.  The two are built apart and come to the same:
the symbol that the scope finds is the one that navigation goes to, in the one file that its
address stands for (`one_resolution`).
-/
namespace NcInsight

namespace Workspace

/-- The file that an address stands for, seen from the file `r`. -/
def fileAt? (w : Workspace) (r : Record) (uri : String) : Option Record :=
  if uri = r.uri then some r else w.get? uri

theorem fileAt?_of_get? {w : Workspace} {r : Record} (h : w.get? r.uri = some r) :
    w.fileAt? r = w.get? := by
  funext uri
  rw [fileAt?]
  split
  case isTrue he => rw [he, h]
  case isFalse => rfl

theorem findSome?_available {β : Type} (get? : String → Option Record) (r : Record)
    (f : Record → Option β) :
    ((r.includes.filter (· != r.uri)).filterMap get?).findSome? f =
      r.includes.findSome? fun uri => if uri = r.uri then none else (get? uri).bind f := by
  induction r.includes with
  | nil => rfl
  | cons uri uris ih =>
      by_cases he : uri = r.uri
      · rw [List.filter_cons_of_neg (by simpa using he), ih, List.findSome?_cons, if_pos he]
      · rw [List.filter_cons_of_pos (by simpa using he), List.findSome?_cons, if_neg he,
          List.filterMap_cons]
        cases get? uri with
        | none => exact ih
        | some file =>
            rw [List.findSome?_cons, Option.bind_some, ih]

theorem findSome?_includedBy {β : Type} (w : Workspace) (r : Record) (f : Record → Option β) :
    (w.includedBy r).findSome? f =
      r.includes.findSome? fun uri => if uri = r.uri then none else (w.get? uri).bind f :=
  findSome?_available w.get? r f

end Workspace

namespace Scope

variable {w : Workspace} {r : Record}

theorem findSome?_unmet {β : Type} (get? : String → Option Record) (f : Record → Option β)
    (met uris : List String) :
    (unmet get? met uris).findSome? f =
      uris.findSome? fun uri => if uri ∈ met then none else (get? uri).bind f := by
  induction uris generalizing met with
  | nil => rfl
  | cons uri uris ih =>
      rw [unmet, List.findSome?_cons]
      by_cases hmet : uri ∈ met
      · rw [if_pos (by simpa using hmet), if_pos hmet, ih]
      · rw [if_neg (by simpa using hmet), if_neg hmet, List.findSome?_append, ih]
        have hhead : (get? uri).toList.findSome? f = (get? uri).bind f := by
          cases get? uri <;> simp
        rw [hhead]
        cases hf : (get? uri).bind f with
        | some b => rfl
        | none =>
            -- a file that gave no answer gives none when its address comes again, so nothing is
            -- lost where it is left out then
            rw [Option.none_or]
            congr 1
            funext v
            by_cases hv : v = uri
            · simp [hv, hf]
            · simp [hv]

theorem mem_unmet {met uris : List String} {file : Record} (h : file ∈ unmet w.get? met uris) :
    w.get? file.uri = some file ∧ file.uri ∉ met := by
  induction uris generalizing met with
  | nil => cases h
  | cons uri uris ih =>
      rw [unmet] at h
      split at h
      case isTrue => exact ih h
      case isFalse hmet =>
        rcases List.mem_append.mp h with h | h
        · have hget : w.get? uri = some file := by simpa using h
          have huri := (Workspace.mem_of_get? hget).2
          rw [huri]
          exact ⟨hget, by simpa using hmet⟩
        · obtain ⟨hget, hnot⟩ := ih h
          exact ⟨hget, fun hmem => hnot (List.mem_cons_of_mem uri hmem)⟩

/-- A scope has one file for an address. -/
theorem fileAt?_of_mem_files {s : FileScope} (h : s ∈ (build w r).files) :
    ∃ file, s = .of file ∧ w.fileAt? r s.uri = some file := by
  rcases List.mem_cons.mp h with rfl | h
  · exact ⟨r, rfl, if_pos rfl⟩
  · obtain ⟨file, hfile, rfl⟩ := List.mem_map.mp h
    obtain ⟨hget, hne⟩ := mem_unmet hfile
    refine ⟨file, rfl, ?_⟩
    have huri : file.uri ≠ r.uri := by simpa using hne
    exact (if_neg huri).trans hget

theorem resolve_buildFrom (get? : String → Option Record) (r : Record) (t : Tree) (id : NodeId) :
    (buildFrom get? r).resolve t id = (r :: unmet get? [r.uri] r.includes).findSome?
      fun file => (FileScope.of file).resolve t id := by
  have hfiles : (buildFrom get? r).files = (r :: unmet get? [r.uri] r.includes).map .of := rfl
  rw [resolve, hfiles, List.findSome?_map]
  rfl

/-- The file of a symbol is found again by its address. -/
theorem fileOf?_of_resolve {t : Tree} {id : NodeId} {y : Symbol}
    (h : (build w r).resolve t id = some y) {file : Record} (hat : w.fileAt? r y.uri = some file) :
    (build w r).fileOf? y = some (.of file) := by
  obtain ⟨s, hs, hy⟩ := List.exists_of_findSome?_eq_some h
  obtain ⟨g, rfl, -⟩ := fileAt?_of_mem_files hs
  rw [Navigation.resolve_eq_find?] at hy
  have huri := FileScope.uri_of_mem (List.mem_of_find?_eq_some hy)
  rw [fileOf?]
  cases hfind : (build w r).files.find? (·.uri == y.uri) with
  | none =>
      have hnot := List.find?_eq_none.mp hfind _ hs
      exact absurd (beq_iff_eq.mpr huri.symm) hnot
  | some f =>
      obtain ⟨found, rfl, hfound⟩ := fileAt?_of_mem_files (List.mem_of_find?_eq_some hfind)
      have hsame : (FileScope.of found).uri = y.uri := by simpa using List.find?_some hfind
      rw [hsame, hat] at hfound
      cases hfound
      rfl

end Scope

namespace Navigation

variable {w : Workspace} {r origin : Record} {y : Symbol} {id : NodeId} {offset : Nat}

theorem findSome?_searchOrder {β : Type} (w : Workspace) (r : Record) (f : Record → Option β) :
    (searchOrder w r).findSome? f = (r :: Scope.unmet w.get? [r.uri] r.includes).findSome? f := by
  rw [searchOrder, List.findSome?_cons, List.findSome?_cons, Workspace.findSome?_includedBy,
    Scope.findSome?_unmet]
  simp only [List.mem_singleton]

theorem resolve_eq_origin? (w : Workspace) (r : Record) (id : NodeId) :
    (Scope.build w r).resolve r.tree id = (origin? w r id).map (·.2) := by
  rw [Scope.build, Scope.resolve_buildFrom, origin?, findSome?_searchOrder, List.map_findSome?]
  congr 1
  funext file
  cases h : (FileScope.of file).resolve r.tree id <;> simp [h]

/-- The file that knows a name is the file that the address of the symbol stands for. -/
theorem fileAt?_of_origin? (h : origin? w r id = some (origin, y)) :
    w.fileAt? r y.uri = some origin := by
  obtain ⟨hsearch, hy, -⟩ := origin?_spec h
  rw [FileScope.uri_of_mem hy]
  rcases List.mem_cons.mp hsearch with rfl | hinc
  · exact if_pos rfl
  · obtain ⟨uri, huri, hget⟩ := List.mem_filterMap.mp hinc
    have hne := (Workspace.mem_includedBy hinc).2.2
    rw [Workspace.fileAt?, if_neg hne, (Workspace.mem_of_get? hget).2, hget]

/-- Navigation goes by the scope.  What the scope of a file makes of the name at an offset is where
the definition is found, and what the uses are searched for, in the file that the address of the
symbol stands for; where the scope makes nothing of it, nothing is found. -/
theorem one_resolution (w : Workspace) (r : Record) (offset : Nat) :
    let n := nameAt r.tree offset
    let scope := Scope.build w r
    (∀ y, scope.resolve r.tree n = some y → ∃ file : Record,
      scope.fileOf? y = some (.of file) ∧ w.fileAt? r y.uri = some file ∧
      (w.get? r.uri = some r → w.get? y.uri = some file) ∧
      definition? w r offset =
        (if (file.tree.node? y.node).isSome then file.location? y.node else none) ∧
      (n = referenceAt r.tree offset → ∀ only, references w r offset only =
        (targets w r.tree n file).flatMap fun g => usesIn g y only)) ∧
    (scope.resolve r.tree n = none → definition? w r offset = none ∧
      (n = referenceAt r.tree offset → ∀ only, references w r offset only = [])) := by
  intro n scope
  constructor
  · intro y hy
    have hfound := hy
    rw [resolve_eq_origin?] at hfound
    obtain ⟨⟨file, s⟩, ho, rfl⟩ := Option.map_eq_some_iff.mp hfound
    have hat := fileAt?_of_origin? ho
    refine ⟨file, Scope.fileOf?_of_resolve hy hat, hat, fun hget => ?_, ?_, fun hn only => ?_⟩
    · rw [← Workspace.fileAt?_of_get? hget]
      exact hat
    · rw [definition?, ho]
    · rw [references, ← hn, ho]
  · intro hnone
    rw [resolve_eq_origin?, Option.map_eq_none_iff] at hnone
    refine ⟨?_, fun hn only => ?_⟩
    · rw [definition?, hnone]
    · rw [references, ← hn, hnone]

/-- A definition file that includes a program. -/
def ringList : Workspace :=
  ({} : Workspace).insert "file:///shop/ring.def" (.ofScript .definitions
    [.inclusion "hub.src", .trivia "\n", .varDef "R" "#500" .var, .trivia "\n"])

/-- The program, which includes itself and the definition file. -/
def hubTree : Tree :=
  .ofScript .program [.inclusion "hub.src", .trivia "\n", .inclusion "ring.def", .trivia "\n",
    .token .symbol "R" none, .trivia "\n"]

def hub : Record := ringList.record "file:///shop/hub.src" hubTree

def ring : Workspace := ringList.insert "file:///shop/hub.src" hubTree

/-- The declaration of `R` in the definition file. -/
def ringDeclaration : Location := ⟨"file:///shop/ring.def", ⟨⟨1, 1⟩, ⟨1, 2⟩⟩⟩

/-- The use of `R` in the program. -/
def ringUse : Location := ⟨"file:///shop/hub.src", ⟨⟨2, 0⟩, ⟨2, 1⟩⟩⟩

theorem facts_ring :
    ((Scope.build ring hub).resolve hub.tree (nameAt hub.tree 35)).map (·.uri) =
        some "file:///shop/ring.def" ∧
      nameAt hub.tree 35 = referenceAt hub.tree 35 ∧
      definition? ring hub 35 = some ringDeclaration ∧
      references ring hub 35 none = [ringUse, ringDeclaration] ∧
      (Scope.build ring hub).resolve hub.tree (nameAt hub.tree 0) = none := by
  decide +kernel

theorem one_resolution_ring :
    ring.get? hub.uri = some hub ∧ nameAt hub.tree 35 = referenceAt hub.tree 35 ∧
      (∃ (y : Symbol) (file : Record),
        (Scope.build ring hub).resolve hub.tree (nameAt hub.tree 35) = some y ∧
        y.uri = "file:///shop/ring.def" ∧ ring.get? y.uri = some file ∧
        (if (file.tree.node? y.node).isSome then file.location? y.node else none) =
          some ringDeclaration ∧
        ((targets ring hub.tree (nameAt hub.tree 35) file).flatMap fun g => usesIn g y none) =
          [ringUse, ringDeclaration]) ∧
      definition? ring hub 35 = some ringDeclaration ∧
      references ring hub 35 none = [ringUse, ringDeclaration] ∧
      (Scope.build ring hub).resolve hub.tree (nameAt hub.tree 0) = none ∧
      definition? ring hub 0 = none := by
  obtain ⟨hsome, hname, hdeclaration, huses, hnone⟩ := facts_ring
  have hget : ring.get? hub.uri = some hub := Workspace.get?_insert_self ringList _ hubTree
  obtain ⟨y, hy, huri⟩ := Option.map_eq_some_iff.mp hsome
  obtain ⟨file, -, -, hfile, hdefinition, hreferences⟩ := (one_resolution ring hub 35).1 y hy
  refine ⟨hget, hname, ⟨y, file, hy, huri, hfile hget, ?_, ?_⟩, hdeclaration, huses, hnone,
    ((one_resolution ring hub 0).2 hnone).1⟩
  · rw [← hdefinition]
    exact hdeclaration
  · rw [← hreferences hname none]
    exact huses

end Navigation
end NcInsight
