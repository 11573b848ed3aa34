import Mathlib.Data.List.Induction
import NcInsight.Editor.Lenses
import NcInsight.Editor.Rename
import NcInsight.Proofs.Workspace.Scripted

/-
What a workspace keeps of its history.

Files are opened, replaced and closed one change at a time.  A change concerns one address: it
settles what is found there and touches no other (`get?_apply`).  So what is found at an address is
what the last change of it left (`get?_ofChanges`), and since records in ascending order are
determined by what is found at each address (`eq_of_get?`), histories that agree address by address
end in the same workspace (`ofChanges_congr`).  The theorem is `history_canonical`.
-/
namespace NcInsight

/-- A change of the files that are open. -/
inductive Change where
  | opened (uri : String) (tree : Tree)
  | closed (uri : String)

namespace Change

def uri : Change → String
  | opened uri _ => uri
  | closed uri => uri

@[simp] theorem uri_opened (uri : String) (tree : Tree) : (opened uri tree).uri = uri := rfl

@[simp] theorem uri_closed (uri : String) : (closed uri).uri = uri := rfl

def apply (w : Workspace) : Change → Workspace
  | opened uri tree => w.insert uri tree
  | closed uri => w.erase uri

/-- What a change leaves at its address. -/
def record? (base : IncludeBase) : Change → Option Record
  | opened uri tree => some (Workspace.record { base } uri tree)
  | closed _ => none

end Change

namespace Workspace

/-- The workspace that a history of changes ends in, from no file at all. -/
def ofChanges (base : IncludeBase) (changes : List Change) : Workspace :=
  changes.foldl Change.apply { base }

/-! ## One change -/

theorem get?_apply (w : Workspace) (c : Change) (uri : String) :
    (c.apply w).get? uri = if c.uri = uri then c.record? w.base else w.get? uri := by
  cases c with
  | opened u tree =>
      by_cases h : u = uri
      · subst h
        rw [Change.uri_opened, if_pos rfl]
        exact get?_insert_self w u tree
      · rw [Change.uri_opened, if_neg h]
        exact get?_insert_of_ne w tree (Ne.symm h)
  | closed u =>
      by_cases h : u = uri
      · subst h
        rw [Change.uri_closed, if_pos rfl]
        exact get?_erase_self w u
      · rw [Change.uri_closed, if_neg h]
        exact get?_erase_of_ne w (Ne.symm h)

theorem base_apply (w : Workspace) (c : Change) : (c.apply w).base = w.base := by
  cases c <;> rfl

theorem Ascending.apply {w : Workspace} (h : Ascending w.records) (c : Change) :
    Ascending (c.apply w).records := by
  cases c with
  | opened uri tree => exact ascending_insertRecord _ h
  | closed uri => exact h.sublist List.filter_sublist

/-! ## A history -/

section

variable (base : IncludeBase) (changes : List Change)

theorem ofChanges_concat (c : Change) :
    ofChanges base (changes ++ [c]) = c.apply (ofChanges base changes) := by
  rw [ofChanges, List.foldl_append]
  rfl

theorem base_ofChanges : (ofChanges base changes).base = base := by
  induction changes using List.reverseRecOn with
  | nil => rfl
  | append_singleton changes c ih => rw [ofChanges_concat, base_apply, ih]

theorem ascending_ofChanges : Ascending (ofChanges base changes).records := by
  induction changes using List.reverseRecOn with
  | nil => exact List.Pairwise.nil
  | append_singleton changes c ih =>
      rw [ofChanges_concat]
      exact ih.apply c

/-- An address holds what its last change left there. -/
theorem get?_ofChanges (uri : String) :
    (ofChanges base changes).get? uri =
      (changes.filter (·.uri == uri)).getLast?.bind (Change.record? base) := by
  induction changes using List.reverseRecOn with
  | nil => rfl
  | append_singleton changes c ih =>
      rw [ofChanges_concat, get?_apply, base_ofChanges, List.filter_append]
      by_cases h : c.uri = uri
      · rw [if_pos h]
        simp [h]
      · rw [if_neg h, ih]
        simp [h]

end

/-! ## Listings -/

theorem mem_records_iff {w : Workspace} (h : Ascending w.records) {r : Record} :
    r ∈ w.records ↔ w.get? r.uri = some r :=
  ⟨find?_uri_of_mem h, fun hget => (mem_of_get? hget).1⟩

/-- Of the listings of the same records only one is in order. -/
theorem Ascending.eq_of_perm {rs ss : List Record} (h : Ascending ss) (hperm : rs.Perm ss)
    (hrs : rs.Pairwise fun r s => Text.lt s.uri.toList r.uri.toList = false) : rs = ss := by
  have hss : ss.Pairwise fun r s => Text.lt s.uri.toList r.uri.toList = false :=
    h.imp Text.lt_asymm
  refine hperm.eq_of_pairwise (fun r s hr hs hsr hrs => ?_) hrs hss
  have huri : r.uri = s.uri := by
    by_contra hne
    have hlt := Text.lt_total hrs fun he => hne (String.toList_inj.mp he)
    rw [hsr] at hlt
    cases hlt
  exact List.inj_on_of_nodup_map h.nodup_uris (hperm.mem_iff.mp hr) hs huri

theorem mergeSort_eq_records {w : Workspace} (h : Ascending w.records) {rs : List Record}
    (hrs : rs.Perm w.records) :
    rs.mergeSort (fun r s => Text.bytes r.uri ≤ Text.bytes s.uri) = w.records := by
  refine h.eq_of_perm ((List.mergeSort_perm _ _).trans hrs) ?_
  refine (List.pairwise_mergeSort ?_ ?_ rs).imp fun {r s} hle => ?_
  · intro q r s hqr hrs
    rw [decide_eq_true_eq] at hqr hrs ⊢
    exact List.le_trans hqr hrs
  · intro r s
    simpa using List.le_total (Text.bytes r.uri) (Text.bytes s.uri)
  · by_contra hlt
    have hbytes := (Text.lt_iff_bytes_lt s.uri r.uri).mp (by simpa using hlt)
    exact List.not_lt.mpr (of_decide_eq_true hle) hbytes

/-- A workspace in order is determined by what it holds at each address. -/
theorem eq_of_get? {v w : Workspace} (hv : Ascending v.records) (hw : Ascending w.records)
    (hbase : v.base = w.base) (hget : ∀ uri, v.get? uri = w.get? uri) : v = w := by
  have hmem : ∀ r, r ∈ v.records ↔ r ∈ w.records := by
    intro r
    rw [mem_records_iff hv, mem_records_iff hw, hget]
  have hperm := (List.perm_ext_iff_of_nodup hv.nodup_uris.of_map hw.nodup_uris.of_map).mpr hmem
  have hrecords : v.records = w.records := hw.eq_of_perm hperm (hv.imp Text.lt_asymm)
  cases v
  cases w
  cases hbase
  cases hrecords
  rfl

/-! ## Histories compared -/

theorem get?_ofChanges_eq_some_iff {base : IncludeBase} {changes : List Change} {uri : String}
    {r : Record} :
    (ofChanges base changes).get? uri = some r ↔
      ∃ before tree later, changes = before ++ .opened uri tree :: later ∧
        (∀ c ∈ later, c.uri ≠ uri) ∧ r = Workspace.record { base } uri tree := by
  rw [get?_ofChanges, Option.bind_eq_some_iff]
  constructor
  · rintro ⟨c, hlast, hc⟩
    rw [List.getLast?_filter, List.find?_eq_some_iff_append] at hlast
    obtain ⟨huri, later, before, hsplit, hlater⟩ := hlast
    cases c with
    | closed u => cases hc
    | opened u tree =>
        obtain rfl : u = uri := by simpa using huri
        refine ⟨before.reverse, tree, later.reverse, ?_, fun c hc => ?_, ?_⟩
        · rw [← List.reverse_reverse changes, hsplit]
          simp
        · simpa using hlater c (List.mem_reverse.mp hc)
        · exact (Option.some.inj hc).symm
  · rintro ⟨before, tree, later, rfl, hlater, rfl⟩
    refine ⟨.opened uri tree, ?_, rfl⟩
    have hnone : later.filter (·.uri == uri) = [] := by
      rw [List.filter_eq_nil_iff]
      exact fun c hc => by simpa using hlater c hc
    rw [List.filter_append, List.filter_cons_of_pos (by simp), hnone]
    simp

theorem ofChanges_congr {base : IncludeBase} {cs ds : List Change}
    (h : ∀ uri, cs.filter (·.uri == uri) = ds.filter (·.uri == uri)) :
    ofChanges base cs = ofChanges base ds := by
  refine eq_of_get? (ascending_ofChanges base cs) (ascending_ofChanges base ds) ?_ fun uri => ?_
  · rw [base_ofChanges, base_ofChanges]
  · rw [get?_ofChanges, get?_ofChanges, h]

/-- However files are opened, replaced and closed, each address has one record, the one of the tree
that was opened there last and not closed since.  The listings are in ascending order of address, as
sorting makes them of any other listing, and nothing that is answered from them shows in which order
the changes of different files came. -/
theorem history_canonical (base : IncludeBase) (cs : List Change) :
    let w := ofChanges base cs
    (w.records.map (·.uri)).Nodup ∧
    (∀ uri r, w.get? uri = some r ↔ r ∈ w.records ∧ r.uri = uri) ∧
    (∀ uri r, w.get? uri = some r ↔
      ∃ before tree later, cs = before ++ .opened uri tree :: later ∧
        (∀ c ∈ later, c.uri ≠ uri) ∧ r = Workspace.record { base } uri tree) ∧
    (∀ r, r ∈ w.select .all ↔ ∃ uri, w.get? uri = some r) ∧
    (w.select .all).Pairwise (fun r s => Text.bytes r.uri < Text.bytes s.uri) ∧
    (∀ rs : List Record, rs.Perm w.records →
      rs.mergeSort (fun r s => Text.bytes r.uri ≤ Text.bytes s.uri) = w.select .all) ∧
    w.select .programs = (w.select .all).filter (·.isProgram) ∧
    ∀ ds : List Change, (∀ uri, cs.filter (·.uri == uri) = ds.filter (·.uri == uri)) →
      let v := ofChanges base ds
      (∀ uri, v.get? uri = w.get? uri) ∧
      (∀ filter, v.select filter = w.select filter) ∧
      ∀ r, (∀ offset only,
          Navigation.references v r offset only = Navigation.references w r offset only) ∧
        (∀ offset name, Rename.edits v r offset name = Rename.edits w r offset name) ∧
        lenses v r = lenses w r := by
  intro w
  have hasc : Ascending w.records := ascending_ofChanges base cs
  have hget : ∀ uri r, w.get? uri = some r ↔ r ∈ w.records ∧ r.uri = uri := by
    intro uri r
    refine ⟨mem_of_get?, fun ⟨hmem, huri⟩ => ?_⟩
    rw [← huri]
    exact (mem_records_iff hasc).mp hmem
  refine ⟨hasc.nodup_uris, hget, fun uri r => get?_ofChanges_eq_some_iff, fun r => ?_,
    hasc.imp fun h => (Text.lt_iff_bytes_lt _ _).mp h, fun rs => mergeSort_eq_records hasc, rfl,
    fun ds hds => ?_⟩
  · refine ⟨fun hr => ⟨r.uri, (mem_records_iff hasc).mp hr⟩, fun ⟨uri, hr⟩ => ?_⟩
    exact ((hget uri r).mp hr).1
  · intro v
    have hv : v = w := (ofChanges_congr hds).symm
    rw [hv]
    exact ⟨fun _ => rfl, fun _ => rfl, fun _ => ⟨fun _ _ => rfl, fun _ _ => rfl, rfl⟩⟩

/-! A subprogram is closed and opened anew; the main program is opened in between, or first. -/

def bare (kind : FileKind) : Tree := ⟨"", #[{ kind := .file kind, span := ⟨0, 0⟩ }], #[]⟩

section

variable (main sub : String)

def mainBetween : List Change :=
  [.opened sub (bare .definitions), .closed sub, .opened main (bare .program),
    .opened sub (bare .program)]

def mainFirst : List Change :=
  [.opened main (bare .program), .opened sub (bare .definitions), .closed sub,
    .opened sub (bare .program)]

theorem filter_mainBetween (h : main ≠ sub) (uri : String) :
    (mainBetween main sub).filter (·.uri == uri) = (mainFirst main sub).filter (·.uri == uri) := by
  by_cases hmain : main = uri
  · have hsub : sub ≠ uri := fun hsub => h (hmain.trans hsub.symm)
    simp [mainBetween, mainFirst, hmain, hsub]
  · simp [mainBetween, mainFirst, hmain, List.filter_cons]

end

theorem history_canonical_reopened :
    (∀ uri, (mainBetween "main.nc" "sub.nc").filter (·.uri == uri) =
      (mainFirst "main.nc" "sub.nc").filter (·.uri == uri)) ∧
    (ofChanges .including (mainBetween "main.nc" "sub.nc")).get? "sub.nc" =
      some (record {} "sub.nc" (bare .program)) ∧
    (ofChanges .including (mainBetween "main.nc" "sub.nc")).records.reverse.mergeSort
        (fun r s => Text.bytes r.uri ≤ Text.bytes s.uri) =
      (ofChanges .including (mainFirst "main.nc" "sub.nc")).select .all := by
  have hfilter := filter_mainBetween "main.nc" "sub.nc" (by decide)
  obtain ⟨-, -, hget, -, -, hsort, -, hcongr⟩ :=
    history_canonical .including (mainBetween "main.nc" "sub.nc")
  refine ⟨hfilter, ?_, ?_⟩
  · have hsplit : mainBetween "main.nc" "sub.nc" =
        (mainBetween "main.nc" "sub.nc").take 3 ++ [.opened "sub.nc" (bare .program)] := rfl
    exact (hget _ _).mpr ⟨_, _, [], hsplit, by simp, rfl⟩
  · rw [hsort _ (List.reverse_perm _), (hcongr _ hfilter).2.1]

end Workspace
end NcInsight
