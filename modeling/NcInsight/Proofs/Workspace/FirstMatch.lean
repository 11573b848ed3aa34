import NcInsight.Proofs.Editor.Resolution

/-
A name means the first symbol that fits.

A scope looks a name up in the index of each of its files and leaves out an address that it has met
before.  Told without an index and without what was met: write down the symbols of the file, and
then those of each file that it includes, itself apart and as often as it is included
(`symbolsInReach`); the name means the first of them that it names (`first_match`).  The symbols of
a file are its declarations, and then the first use of each kind and text among the uses that need
no declaration (`Record.symbols`).
-/
namespace NcInsight

/-! ## First uses -/

namespace FileScope

/-- The two uses make one symbol. -/
def Occurrence.isLike (a b : Occurrence) : Bool := a.kind == b.kind && a.name == b.name

theorem Occurrence.isLike_trans (a b c : Occurrence) (hab : a.isLike b = true)
    (hbc : b.isLike c = true) : a.isLike c = true := by
  simp only [isLike, Bool.and_eq_true, beq_iff_eq] at hab hbc ⊢
  exact ⟨hab.1.trans hbc.1, hab.2.trans hbc.2⟩

/-- The uses that make a symbol, in pre-order: no use in front is of the same kind and text. -/
def firstUses (t : Tree) : List Occurrence :=
  let uses := (t.preorder Tree.root).filterMap (occurrence? t)
  (uses.zipIdx.filter fun u => !(uses.take u.2).any u.1.isLike).map (·.1)

section

variable {α : Type} {like : α → α → Bool}
  (htrans : ∀ a b c, like a b = true → like b c = true → like a c = true)
include htrans

theorem eraseDupsBy_concat (l : List α) (a : α) :
    (l ++ [a]).eraseDupsBy like =
      l.eraseDupsBy like ++ if l.any (like a) then [] else [a] := by
  induction hlength : l.length using Nat.strongRecOn generalizing l with
  | ind n ih =>
      cases l with
      | nil => simp [List.eraseDupsBy_cons]
      | cons b l =>
          rw [List.length_cons] at hlength
          have hle := List.length_filter_le (fun c => decide (like c b = false)) l
          rw [List.cons_append, List.eraseDupsBy_cons, List.eraseDupsBy_cons, List.filter_append,
            List.any_cons]
          by_cases hab : like a b = true
          · simp [hab]
          · have hb : ([a].filter fun c => decide (like c b = false)) = [a] := by simp [hab]
            -- what is like the new one is not like `b`, so it has not been taken out
            have hany : (l.filter fun c => decide (like c b = false)).any (like a) =
                l.any (like a) := by
              rw [Bool.eq_iff_iff, List.any_eq_true, List.any_eq_true]
              constructor
              · exact fun ⟨c, hc, hac⟩ => ⟨c, List.mem_of_mem_filter hc, hac⟩
              · intro ⟨c, hc, hac⟩
                have hcb : like c b = false :=
                  Bool.eq_false_iff.mpr fun h => hab (htrans a c b hac h)
                exact ⟨c, List.mem_filter.mpr ⟨hc, decide_eq_true hcb⟩, hac⟩
            rw [hb, ih _ (by omega) _ rfl, hany, Bool.eq_false_iff.mpr hab, Bool.false_or,
              List.cons_append]

theorem eraseDupsBy_eq (l : List α) :
    l.eraseDupsBy like = (l.zipIdx.filter fun p => !(l.take p.2).any (like p.1)).map (·.1) := by
  induction l using List.reverseRecOn with
  | nil => rfl
  | append_singleton l a ih =>
      have hold : (l.zipIdx.filter fun p => !((l ++ [a]).take p.2).any (like p.1)) =
          l.zipIdx.filter fun p => !(l.take p.2).any (like p.1) := by
        apply List.filter_congr
        intro p hp
        have hlt := List.snd_lt_of_mem_zipIdx hp
        rw [List.take_append_of_le_length (by omega)]
      rw [eraseDupsBy_concat htrans, List.zipIdx_append, List.filter_append, List.map_append, hold,
        ih]
      congr 1
      cases hany : l.any (like a) <;> simp [hany]

end

theorem implicitUses_eq (t : Tree) : implicitUses t = firstUses t :=
  eraseDupsBy_eq Occurrence.isLike_trans _

end FileScope

/-! ## The symbols in reach -/

/-- The symbol of a use, not numbered yet. -/
def Symbol.ofUse (uri : String) (o : FileScope.Occurrence) : Symbol :=
  { id := 0, name := o.name, origin := .implicit, referenceTypes := o.referenceTypes,
    valueType := o.valueType, node := o.node, uri }

namespace Record

/-- The symbols of a file, numbered through: its declarations in their order, then the uses that
make a symbol. -/
def symbols (r : Record) : List Symbol :=
  (r.tree.declarations.toList.mapIdx (Symbol.ofDeclaration r.uri) ++
    (FileScope.firstUses r.tree).map (Symbol.ofUse r.uri)).mapIdx fun i y => { y with id := i }

theorem symbols_of (r : Record) : (FileScope.of r).symbols = r.symbols := by
  refine (SymbolTable.symbols_ofList (FileScope.unnumbered r)).trans ?_
  rw [symbols, FileScope.unnumbered, List.mapIdx_append, List.mapIdx_append, List.mapIdx_mapIdx,
    List.mapIdx_mapIdx, List.length_mapIdx, List.length_mapIdx, FileScope.implicitUses_eq]
  rfl

/-- The number of a symbol is its place. -/
theorem map_id_getElem? (r : Record) {i : Nat} (hi : i < r.symbols.length) :
    r.symbols[i]?.map (·.id) = some i := by
  rw [symbols, List.length_mapIdx] at hi
  rw [symbols, List.getElem?_mapIdx, List.getElem?_eq_getElem hi]
  rfl

/-- The numbers of the symbols of a name are their places. -/
theorem map_id_filter (r : Record) (name : String) :
    (r.symbols.filter (·.name == name)).map (·.id) = (FileScope.of r).placesOf name := by
  have hsymbols := symbols_of r
  rw [← hsymbols, ← SymbolTable.filterMap_placesOf, List.map_filterMap]
  have hid : ∀ i ∈ (FileScope.of r).placesOf name,
      (FileScope.of r).symbols[i]?.map (·.id) = some i := by
    intro i hi
    have hlt := List.mem_range.mp (List.mem_of_mem_filter hi)
    rw [hsymbols] at hlt ⊢
    exact r.map_id_getElem? hlt
  rw [List.filterMap_congr hid, List.filterMap_some]

end Record

namespace Scope

/-- What can be meant in a file, in the order of the search: its own symbols, then those of each
file that it includes, itself apart. -/
def symbolsInReach (get? : String → Option Record) (r : Record) : List Symbol :=
  (r :: (r.includes.filter (· != r.uri)).filterMap get?).flatMap Record.symbols

theorem resolve_eq_find? (get? : String → Option Record) (r : Record) (t : Tree) (n : NodeId) :
    (buildFrom get? r).resolve t n = (symbolsInReach get? r).find? fun y => y.isNamedBy t n := by
  have hfile : (fun file : Record => (FileScope.of file).resolve t n) =
      fun file => file.symbols.find? fun y => y.isNamedBy t n := by
    funext file
    rw [Navigation.resolve_eq_find?, Record.symbols_of]
  rw [resolve_buildFrom, symbolsInReach, List.find?_flatMap, hfile, List.findSome?_cons,
    List.findSome?_cons, findSome?_unmet, Workspace.findSome?_available]
  simp only [List.mem_singleton]

/-- A name means the first symbol that fits.  Whatever finds the files, a node means the first of
the symbols in reach that it names, and nothing if there is none.  The index of each file holds, for
every name, the numbers of its symbols and no other, in ascending order; a name without symbols is
not in it. -/
theorem first_match (files : Resolver) (r : Record) :
    (∀ (t : Tree) (n : NodeId), (buildFrom files.get? r).resolve t n =
      (symbolsInReach files.get? r).find? fun y => y.isNamedBy t n) ∧
    ∀ (file : Record) (name : String),
      let ids := (file.symbols.filter (·.name == name)).map (·.id)
      (FileScope.of file).symbols = file.symbols ∧
      (FileScope.of file).byName.get? name = (if ids = [] then none else some ids) ∧
      ids.Pairwise (· < ·) := by
  refine ⟨resolve_eq_find? files.get? r, fun file name => ?_⟩
  rw [Record.map_id_filter]
  exact ⟨file.symbols_of, SymbolTable.indexed_ofList _ name,
    List.pairwise_lt_range.filter _⟩

/-- A file that declares a name, and a program that includes it, uses the name, and jumps to a
number that two of its blocks have. -/
def stepFiles : Resolver where
  get? uri :=
    if uri = "tools" then some
      { uri
        includes := []
        tree :=
          { source := "A"
            nodes := #[
              { kind := .file .definitions, span := ⟨0, 1⟩, children := [1] },
              { kind := .varDef, span := ⟨0, 1⟩, parent := some 0, children := [2],
                link := some { id := 0 } },
              { kind := .symbol, span := ⟨0, 1⟩, field := some .name, parent := some 1 }]
            declarations := #[⟨.var, "A", 1, some 2, none, none, .undefined⟩] } }
    else none
  resolve reference _ := reference

def stepFile : Record :=
  { uri := "main"
    includes := ["tools"]
    tree :=
      { source := "10 10 10 A"
        nodes := #[
          { kind := .file .program, span := ⟨0, 10⟩, children := [1, 3, 5, 7] },
          { kind := .goto, span := ⟨0, 2⟩, parent := some 0, children := [2] },
          { kind := .numeric, span := ⟨0, 2⟩, field := some .label, parent := some 1 },
          { kind := .sequenceNumber, span := ⟨3, 5⟩, parent := some 0, children := [4] },
          { kind := .numeric, span := ⟨3, 5⟩, field := some .number, parent := some 3 },
          { kind := .sequenceNumber, span := ⟨6, 8⟩, parent := some 0, children := [6] },
          { kind := .numeric, span := ⟨6, 8⟩, field := some .number, parent := some 5 },
          { kind := .symbol, span := ⟨9, 10⟩, parent := some 0 }]
        declarations := #[] } }

/-- The number is a symbol by its first use. -/
def stepNumber : Symbol := ⟨0, "10", .implicit, .single .jumpLabel, .sequence, 4, "main"⟩

def stepTool : Symbol := ⟨0, "A", .declared 0, .single .var, .undefined, 2, "tools"⟩

/-- The jump and both blocks mean the first use of the number. -/
theorem first_match_stepFile :
    let scope := buildFrom stepFiles.get? stepFile
    symbolsInReach stepFiles.get? stepFile = [stepNumber, stepTool] ∧
      (∀ n ∈ [2, 4, 6], scope.resolve stepFile.tree n = some stepNumber) ∧
      scope.resolve stepFile.tree 7 = some stepTool ∧
      (FileScope.of stepFile).byName.get? "10" = some [0] ∧
      (FileScope.of stepFile).byName.get? "A" = none := by
  intro scope
  obtain ⟨hfirst, hindex⟩ := first_match stepFiles stepFile
  have hreach : symbolsInReach stepFiles.get? stepFile = [stepNumber, stepTool] := by decide
  have hown : stepFile.symbols = [stepNumber] := by decide
  refine ⟨hreach, fun n hn => ?_, ?_, ?_, ?_⟩
  · rw [hfirst, hreach]
    revert n
    decide
  · rw [hfirst, hreach]
    decide
  · rw [(hindex stepFile "10").2.1, hown]
    rfl
  · rw [(hindex stepFile "A").2.1, hown]
    rfl

end Scope
end NcInsight
