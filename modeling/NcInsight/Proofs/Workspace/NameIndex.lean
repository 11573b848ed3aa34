import Mathlib.Data.List.Basic
import Mathlib.Data.List.Induction
import NcInsight.Workspace.Scope

/-
The index of names.

Each symbol that is defined goes to the end of the list of symbols, and its place goes to the end of
the places of its name.  So at every moment the index holds, for each name, all places of the name
and in ascending order (`Indexed`), and a look-up that goes through the index finds what a search
through all symbols finds (`lookup_eq_find?`).
-/
namespace NcInsight
namespace SymbolTable

/-- The places at which symbols of this name stand, in ascending order. -/
def placesOf (x : SymbolTable) (name : String) : List Nat :=
  (List.range x.symbols.length).filter fun i => x.symbols[i]?.any (·.name == name)

/-- The index holds the places of every name, and a name without a place has no entry. -/
def Indexed (x : SymbolTable) : Prop :=
  ∀ name, x.byName.get? name = if x.placesOf name = [] then none else some (x.placesOf name)

theorem placesOf_define (x : SymbolTable) (y : Symbol) (name : String) :
    (x.define y).placesOf name =
      x.placesOf name ++ if name = y.name then [x.symbols.length] else [] := by
  have hold : ∀ i ∈ List.range x.symbols.length, (x.define y).symbols[i]? = x.symbols[i]? :=
    fun i hi => List.getElem?_append_left (List.mem_range.mp hi)
  have hnew : (x.define y).symbols[x.symbols.length]? = some { y with id := x.symbols.length } :=
    List.getElem?_concat_length
  have hlength : (x.define y).symbols.length = x.symbols.length + 1 := by simp [define]
  rw [placesOf, hlength, List.range_succ, List.filter_append, placesOf]
  congr 1
  · exact List.filter_congr fun i hi => by rw [hold i hi]
  · by_cases h : name = y.name
    · simp [hnew, h]
    · have hne : ¬ y.name = name := fun he => h he.symm
      simp [hnew, h, hne]

/-- Step lemma: a symbol that is defined is entered under its name and under no other. -/
theorem Indexed.define {x : SymbolTable} (h : x.Indexed) (y : Symbol) : (x.define y).Indexed := by
  intro name
  have hget : (x.define y).byName.get? name =
      if name = y.name then some ((x.byName.get? y.name).getD [] ++ [x.symbols.length])
      else x.byName.get? name :=
    x.byName.get?_add y.name name x.symbols.length
  rw [hget, placesOf_define]
  by_cases hname : name = y.name
  · have hplaces : (x.byName.get? y.name).getD [] = x.placesOf y.name := by
      rw [h y.name]
      by_cases hnil : x.placesOf y.name = []
      · rw [if_pos hnil, hnil]
        rfl
      · rw [if_neg hnil]
        rfl
    subst hname
    rw [if_pos rfl, if_pos rfl, if_neg (by simp), hplaces]
  · rw [if_neg hname, if_neg hname, List.append_nil]
    exact h name

/-- Run lemma: the index of a table holds the places of every name. -/
theorem indexed_ofList (ys : List Symbol) : (ofList ys).Indexed := by
  have hrun : ∀ x : SymbolTable, x.Indexed → (ys.foldl SymbolTable.define x).Indexed := by
    induction ys with
    | nil => exact fun _ hx => hx
    | cons y ys ih => exact fun x hx => ih (x.define y) (hx.define y)
  exact hrun {} fun name => rfl

/-- What stands at the places of a name are the symbols of that name. -/
theorem filterMap_placesOf (x : SymbolTable) (name : String) :
    ((x.placesOf name).filterMap fun i => x.symbols[i]?) =
      x.symbols.filter fun y => y.name == name := by
  unfold placesOf
  induction x.symbols using List.reverseRecOn with
  | nil => rfl
  | append_singleton ys y ih =>
      have hold : ∀ i ∈ List.range ys.length, (ys ++ [y])[i]? = ys[i]? :=
        fun i hi => List.getElem?_append_left (List.mem_range.mp hi)
      have hplaces : (List.range ys.length).filter (fun i => (ys ++ [y])[i]?.any (·.name == name)) =
          (List.range ys.length).filter fun i => ys[i]?.any (·.name == name) :=
        List.filter_congr fun i hi => by rw [hold i hi]
      rw [List.length_append, List.length_singleton, List.range_succ, List.filter_append,
        List.filterMap_append, List.filter_append, hplaces, ← ih]
      congr 1
      · exact List.filterMap_congr fun i hi => hold i (List.mem_of_mem_filter hi)
      · by_cases h : y.name = name <;> simp [h]

/-- A look-up through the index is a search through all symbols. -/
theorem Indexed.lookup_eq_find? {x : SymbolTable} (h : x.Indexed) (name : String)
    (types : ReferenceTypes) : x.lookup name types = x.symbols.find? fun y =>
      y.name == name && (types.isEmpty || y.referenceTypes.intersects types) := by
  have hfound : ((x.placesOf name).filterMap fun i => x.symbols[i]?).find?
      (fun y => types.isEmpty || y.referenceTypes.intersects types) =
        x.symbols.find? fun y =>
          y.name == name && (types.isEmpty || y.referenceTypes.intersects types) := by
    rw [filterMap_placesOf, List.find?_filter]
    simp only [Bool.decide_and, Bool.decide_eq_true]
  rw [← hfound, lookup, h name]
  by_cases hnil : x.placesOf name = []
  · rw [if_pos hnil, hnil]
    rfl
  · rw [if_neg hnil]
    rfl

end SymbolTable

theorem FileScope.lookup_eq_find? (r : Record) (name : String) (types : ReferenceTypes) :
    (of r).lookup name types = (of r).symbols.find? fun y =>
      y.name == name && (types.isEmpty || y.referenceTypes.intersects types) :=
  (SymbolTable.indexed_ofList _).lookup_eq_find? name types

end NcInsight
