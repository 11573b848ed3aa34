import Mathlib.Data.List.Nodup
import NcInsight.Editor.Position
import NcInsight.Proofs.Text.ByteOrder
import NcInsight.Proofs.Tree.Layout
import NcInsight.Workspace.Basic

/-
Workspaces of files that scripts built.

However files are opened and closed, the records stay in strictly ascending order of their
addresses, so an address has one record, and each record is the one of some script
(`Scripted`).  Locations give a file by its address as parsed; `DistinctAddresses` says that
they tell files apart.
-/
namespace NcInsight

namespace Workspace

/-- In strictly ascending order of addresses. -/
def Ascending (rs : List Record) : Prop :=
  rs.Pairwise fun r s => Text.lt r.uri.toList s.uri.toList = true

theorem mem_insertRecord {r s : Record} {rs : List Record} (h : s ∈ insertRecord r rs) :
    s = r ∨ s ∈ rs := by
  induction rs with
  | nil => exact .inl (List.mem_singleton.mp h)
  | cons q rs ih =>
      unfold insertRecord at h
      split at h
      · exact List.mem_cons.mp h
      · split at h
        · exact (List.mem_cons.mp h).imp_right (List.mem_cons_of_mem q)
        · rcases List.mem_cons.mp h with rfl | h
          · exact .inr List.mem_cons_self
          · exact (ih h).imp_right (List.mem_cons_of_mem q)

theorem ascending_insertRecord {rs : List Record} (r : Record) (h : Ascending rs) :
    Ascending (insertRecord r rs) := by
  induction rs with
  | nil => exact List.pairwise_singleton _ r
  | cons s rs ih =>
      obtain ⟨hs, hrs⟩ := List.pairwise_cons.mp h
      unfold insertRecord
      split
      case isTrue hlt =>
        refine List.pairwise_cons.mpr ⟨fun q hq => ?_, h⟩
        rcases List.mem_cons.mp hq with rfl | hq
        · exact hlt
        · exact Text.lt_trans hlt (hs q hq)
      case isFalse hlt =>
        split
        case isTrue he =>
          refine List.pairwise_cons.mpr ⟨fun q hq => ?_, hrs⟩
          rw [he]
          exact hs q hq
        case isFalse hne =>
          refine List.pairwise_cons.mpr ⟨fun q hq => ?_, ih hrs⟩
          rcases mem_insertRecord hq with rfl | hq
          · have hlt : Text.lt q.uri.toList s.uri.toList = false := by simpa using hlt
            exact Text.lt_total hlt fun e => hne (String.toList_inj.mp e)
          · exact hs q hq

theorem Ascending.nodup_uris {rs : List Record} (h : Ascending rs) : (rs.map (·.uri)).Nodup := by
  refine List.pairwise_map.mpr (h.imp fun {r s} hlt he => ?_)
  rw [he, Text.lt_irrefl] at hlt
  cases hlt

theorem find?_uri_of_mem {rs : List Record} (h : Ascending rs) {r : Record} (hr : r ∈ rs) :
    rs.find? (·.uri == r.uri) = some r := by
  induction rs with
  | nil => cases hr
  | cons s rs ih =>
      obtain ⟨hs, hrs⟩ := List.pairwise_cons.mp h
      rcases List.mem_cons.mp hr with rfl | hr
      · simp
      · have hne : (s.uri == r.uri) = false := by
          rw [beq_eq_false_iff_ne]
          intro he
          have hlt := hs r hr
          rw [he, Text.lt_irrefl] at hlt
          cases hlt
        rw [List.find?_cons, hne]
        exact ih hrs hr

/-! ## Opening and closing -/

/-- Every file was built by a script, and the files are in order. -/
structure Scripted (w : Workspace) : Prop where
  ascending : Ascending w.records
  built : ∀ r ∈ w.records, ∃ kind steps, r = w.record r.uri (Tree.ofScript kind steps)

theorem scripted_empty (base : IncludeBase) : Scripted { base } :=
  ⟨List.Pairwise.nil, fun _ h => by cases h⟩

namespace Scripted

variable {w : Workspace}

theorem insert (h : w.Scripted) (uri : String) (kind : FileKind) (steps : List Step) :
    (w.insert uri (Tree.ofScript kind steps)).Scripted := by
  refine ⟨ascending_insertRecord _ h.ascending, fun r hr => ?_⟩
  rcases mem_insertRecord hr with rfl | hr
  · exact ⟨kind, steps, rfl⟩
  · exact h.built r hr

theorem erase (h : w.Scripted) (uri : String) : (w.erase uri).Scripted :=
  ⟨h.ascending.sublist List.filter_sublist, fun r hr => h.built r (List.mem_of_mem_filter hr)⟩

theorem get?_of_mem (h : w.Scripted) {r : Record} (hr : r ∈ w.records) : w.get? r.uri = some r :=
  find?_uri_of_mem h.ascending hr

theorem eq_of_uri_eq (h : w.Scripted) {r s : Record} (hr : r ∈ w.records) (hs : s ∈ w.records)
    (he : r.uri = s.uri) : r = s := by
  have hget := h.get?_of_mem hr
  rw [he, h.get?_of_mem hs] at hget
  exact (Option.some.inj hget).symm

theorem nodup_records (h : w.Scripted) : w.records.Nodup := h.ascending.nodup_uris.of_map

theorem laid (h : w.Scripted) {r : Record} (hr : r ∈ w.records) : r.tree.Laid := by
  obtain ⟨kind, steps, hrec⟩ := h.built r hr
  rw [hrec]
  exact Tree.laid_ofScript kind steps

end Scripted

theorem mem_of_get? {w : Workspace} {uri : String} {r : Record} (h : w.get? uri = some r) :
    r ∈ w.records ∧ r.uri = uri :=
  ⟨List.mem_of_find?_eq_some h, by simpa using List.find?_some h⟩

theorem mem_includedBy {w : Workspace} {r s : Record} (h : s ∈ w.includedBy r) :
    s ∈ w.records ∧ s.uri ∈ r.includes ∧ s.uri ≠ r.uri := by
  obtain ⟨uri, huri, hget⟩ := List.mem_filterMap.mp h
  obtain ⟨hinc, hne⟩ := List.mem_filter.mp huri
  obtain ⟨hmem, rfl⟩ := mem_of_get? hget
  exact ⟨hmem, hinc, by simpa using hne⟩

end Workspace

/-! ## Addresses -/

/-- The address of a file as locations give it. -/
def Record.address? (r : Record) : Option String := (Url.parse? r.uri).map Url.render

theorem Record.location?_eq_some {r : Record} {id : NodeId} {l : Location} :
    r.location? id = some l ↔ r.address? = some l.uri ∧ l.range = r.range id := by
  rw [location?, address?]
  cases Url.parse? r.uri with
  | none => simp
  | some u =>
      simp only [Option.map_some, Option.some.injEq]
      constructor
      · rintro rfl
        exact ⟨rfl, rfl⟩
      · rintro ⟨hu, hr⟩
        rw [hu, ← hr]

theorem Record.isSome_location? {r : Record} (h : r.address?.isSome = true) (i : NodeId) :
    (r.location? i).isSome = true := by
  obtain ⟨a, ha⟩ := Option.isSome_iff_exists.mp h
  rw [Record.location?_eq_some (l := ⟨a, r.range i⟩) |>.mpr ⟨ha, rfl⟩]
  rfl

/-- Every file has a proper address, and no two have the same. -/
structure Workspace.DistinctAddresses (w : Workspace) : Prop where
  proper : ∀ r ∈ w.records, r.address?.isSome = true
  distinct : (w.records.map Record.address?).Nodup

instance (w : Workspace) : Decidable w.DistinctAddresses :=
  decidable_of_iff ((∀ r ∈ w.records, r.address?.isSome = true) ∧
      (w.records.map Record.address?).Nodup)
    ⟨fun ⟨hproper, hdistinct⟩ => ⟨hproper, hdistinct⟩, fun h => ⟨h.proper, h.distinct⟩⟩

theorem Workspace.DistinctAddresses.eq_of_address {w : Workspace} (h : w.DistinctAddresses)
    {r s : Record} (hr : r ∈ w.records) (hs : s ∈ w.records) (he : r.address? = s.address?) :
    r = s :=
  List.inj_on_of_nodup_map h.distinct hr hs he

end NcInsight
