import Mathlib.Data.List.Basic
import NcInsight.Workspace.Scope

/-
The symbols of a file.

They begin with the declarations in their order, so a look-up that a declaration answers is answered
by the first that does (`find?_ofDeclaration`).  The symbols after them stand for uses, and each has
the text and the tags of the use it stands for (`MadeByUse`).
-/
namespace NcInsight

/-- The symbol of the declaration at position `i`. -/
def Symbol.ofDeclaration (uri : String) (i : DeclId) (d : Declaration) : Symbol :=
  { id := i, name := d.name, origin := .declared i, referenceTypes := d.referenceTypes,
    valueType := d.valueType, node := d.nameNode.getD d.node, uri }

namespace FileScope

/-- The symbol stands for the use at its node. -/
structure MadeByUse (t : Tree) (y : Symbol) : Prop where
  origin_eq : y.origin = .implicit
  name_eq : y.name = t.text y.node
  tags_eq : implicitTags t y.node = some (y.referenceTypes, y.valueType)

theorem mem_of_mem_eraseDupsBy {α : Type} {same : α → α → Bool} {a : α} {l : List α}
    (h : a ∈ l.eraseDupsBy same) : a ∈ l := by
  induction hlen : l.length using Nat.strongRecOn generalizing l with
  | ind n ih =>
      cases l with
      | nil => simp at h
      | cons b l =>
          rw [List.eraseDupsBy_cons, List.mem_cons] at h
          rcases h with rfl | h
          · exact List.mem_cons_self
          · have hle := List.length_filter_le (fun c => decide (same c b = false)) l
            rw [List.length_cons] at hlen
            exact List.mem_cons_of_mem b (List.mem_of_mem_filter (ih _ (by omega) h rfl))

theorem symbols_eq (r : Record) : ∃ uses : List Symbol,
    (of r).symbols =
      r.tree.declarations.toList.mapIdx (Symbol.ofDeclaration r.uri) ++ uses ∧
    ∀ y ∈ uses, y.uri = r.uri ∧ MadeByUse r.tree y := by
  refine ⟨_, (SymbolTable.symbols_ofList _).trans
    (List.mapIdx_append.trans (congrArg (· ++ _) List.mapIdx_mapIdx)), fun y hy => ?_⟩
  obtain ⟨i, hi, rfl⟩ := List.mem_mapIdx.mp hy
  obtain ⟨o, ho, he⟩ := List.mem_map.mp (List.getElem_mem hi)
  obtain ⟨n, -, hn⟩ := List.mem_filterMap.mp (mem_of_mem_eraseDupsBy ho)
  obtain ⟨tags, htags, rfl⟩ := Option.map_eq_some_iff.mp hn
  rw [← he]
  exact ⟨rfl, rfl, rfl, htags⟩

theorem uri_of_mem {r : Record} {y : Symbol} (h : y ∈ (of r).symbols) : y.uri = r.uri := by
  obtain ⟨uses, hsymbols, huses⟩ := symbols_eq r
  rw [hsymbols, List.mem_append] at h
  rcases h with h | h
  · obtain ⟨i, hi, rfl⟩ := List.mem_mapIdx.mp h
    rfl
  · exact (huses y h).1

/-- Among declarations a look-up by what they declare finds the first that fits. -/
theorem find?_ofDeclaration (uri : String) (ds : Array Declaration) {p : Symbol → Bool}
    {q : Declaration → Bool} (hpq : ∀ i d, p (.ofDeclaration uri i d) = q d) :
    (ds.toList.mapIdx (Symbol.ofDeclaration uri)).find? p =
      (ds.findIdx? q).bind fun i => ds[i]?.map (Symbol.ofDeclaration uri i) := by
  cases h : ds.findIdx? q with
  | none =>
      rw [Option.bind_none, List.find?_eq_none]
      intro y hy
      obtain ⟨i, hi, rfl⟩ := List.mem_mapIdx.mp hy
      rw [hpq, Array.findIdx?_eq_none_iff.mp h _ (Array.mem_toList_iff.mp (List.getElem_mem hi))]
      exact Bool.false_ne_true
  | some i =>
      obtain ⟨hi, hq, hbefore⟩ := Array.findIdx?_eq_some_iff_getElem.mp h
      rw [Option.bind_some, Array.getElem?_eq_getElem hi, Option.map_some,
        List.find?_eq_some_iff_getElem]
      refine ⟨(hpq i _).trans hq, i, by simpa using hi, by simp, fun j hj => ?_⟩
      simp [hpq, hbefore j hj]

end FileScope
end NcInsight
