import NcInsight.Editor.Rename
import NcInsight.Proofs.Editor.Occurrences
import NcInsight.Proofs.Editor.Position

/-
The edits of a rename, file by file.

The edits are the references, grouped by file and in their order (`editsOf_eq_grouped`).  Where
every file has an address of its own, those of one address are the uses in one file, so read
back as offsets they ascend without overlap, and each of them covers the old name.
-/
namespace NcInsight

/-- The part of a text that an edit replaces. -/
def Edit.span (source : String) (e : Edit) : Span :=
  ⟨Position.offset source e.range.start, Position.offset source e.range.stop⟩

/-- Positions lose nothing: the range of a part of a text reads back as that part. -/
theorem Edit.span_of_le {source : String} {s : Span} (hstart : s.start ≤ Text.length source)
    (hstop : s.stop ≤ Text.length source) (text : String) :
    Edit.span source ⟨Range.ofSpan source s, text⟩ = s := by
  rw [Edit.span, Range.ofSpan, Position.offset_ofOffset hstart, Position.offset_ofOffset hstop]

theorem Edit.span_ofSpan {t : Tree} (h : t.Laid) {i : Nat} (hi : i < t.size) (text : String) :
    Edit.span t.source ⟨Range.ofSpan t.source (t.span i), text⟩ = t.span i := by
  have hstop : (t.span i).stop ≤ Text.length t.source := by
    rw [← Text.size_toList]
    exact (h.stop_cut hi).le
  exact Edit.span_of_le (Nat.le_trans (h.start_le_stop hi) hstop) hstop text

namespace Rename

/-! ## Grouping by file -/

theorem nodup_eraseDups (us : List String) : us.eraseDups.Nodup := by
  generalize hn : us.length = n
  induction n using Nat.strongRecOn generalizing us with
  | ind n ih =>
      cases us with
      | nil => exact List.nodup_nil
      | cons u us =>
          have hlen : (us.filter fun v => !v == u).length < n := by
            rw [← hn, List.length_cons]
            exact Nat.lt_succ_of_le (List.length_filter_le _ us)
          rw [List.eraseDups_cons]
          refine List.nodup_cons.mpr ⟨fun hmem => ?_, ih _ hlen _ rfl⟩
          have := (List.mem_filter.mp (List.mem_eraseDups.mp hmem)).2
          simp at this

theorem eraseDups_concat_of_mem {us : List String} {u : String} (h : u ∈ us) :
    (us ++ [u]).eraseDups = us.eraseDups := by
  have hnone : [u].removeAll us = [] :=
    List.filter_eq_nil_iff.mpr fun v hv => by simpa [List.mem_singleton.mp hv] using h
  rw [List.eraseDups_append, hnone, List.eraseDups_nil, List.append_nil]

theorem eraseDups_concat_of_not_mem {us : List String} {u : String} (h : u ∉ us) :
    (us ++ [u]).eraseDups = us.eraseDups ++ [u] := by
  have hself : [u].removeAll us = [u] :=
    List.filter_eq_self.mpr fun v hv => by simpa [List.mem_singleton.mp hv] using h
  rw [List.eraseDups_append, hself, List.eraseDups_cons]
  rfl

theorem addEdit_of_mem {us : List String} (hus : us.Nodup) {u : String} (hu : u ∈ us) (e : Edit)
    (es : String → List Edit) : addEdit u e (us.map fun v => ⟨v, es v⟩) =
      us.map fun v => ⟨v, es v ++ if v = u then [e] else []⟩ := by
  induction us with
  | nil => cases hu
  | cons v us ih =>
      obtain ⟨hv, hus⟩ := List.nodup_cons.mp hus
      rw [List.map_cons, addEdit, List.map_cons]
      by_cases hvu : v = u
      · subst hvu
        rw [if_pos rfl, if_pos rfl]
        refine congrArg _ (List.map_congr_left fun x hx => ?_)
        rw [if_neg fun he : x = v => hv (he ▸ hx), List.append_nil]
      · have hu' : u ∈ us := (List.mem_cons.mp hu).resolve_left fun he => hvu he.symm
        rw [if_neg hvu, if_neg hvu, ih hus hu', List.append_nil]

theorem addEdit_of_not_mem {fs : List FileEdits} {u : String} (hu : u ∉ fs.map (·.uri))
    (e : Edit) : addEdit u e fs = fs ++ [⟨u, [e]⟩] := by
  induction fs with
  | nil => rfl
  | cons f fs ih =>
      rw [List.map_cons, List.mem_cons, not_or] at hu
      rw [addEdit, if_neg fun he => hu.1 he.symm, ih hu.2, List.cons_append]

/-- The edits for the locations of one file. -/
def group (newText : String) (ls : List Location) (u : String) : List Edit :=
  (ls.filter (·.uri == u)).map fun l => ⟨l.range, newText⟩

theorem group_concat (newText : String) (ls : List Location) (l : Location) (u : String) :
    group newText (ls ++ [l]) u =
      group newText ls u ++ if u = l.uri then [⟨l.range, newText⟩] else [] := by
  rw [group, List.filter_append, List.map_append]
  by_cases h : u = l.uri
  · simp [group, h]
  · have hne : l.uri ≠ u := fun e => h e.symm
    simp [group, h, hne]

theorem editsOf_eq_grouped (newText : String) (ls : List Location) :
    editsOf newText ls = (ls.map (·.uri)).eraseDups.map fun u => ⟨u, group newText ls u⟩ := by
  -- the edits are folded from the left, so the list is taken apart at its end
  suffices h : ∀ rs : List Location, editsOf newText rs.reverse =
      (rs.reverse.map (·.uri)).eraseDups.map fun u => ⟨u, group newText rs.reverse u⟩ by
    simpa using h ls.reverse
  intro rs
  induction rs with
  | nil => rfl
  | cons l rs ih =>
      rw [List.reverse_cons]
      generalize rs.reverse = ls at ih ⊢
      rw [editsOf, List.foldl_append, ← editsOf, ih]
      simp only [List.foldl_cons, List.foldl_nil, List.map_append, List.map_cons, List.map_nil]
      simp only [group_concat]
      by_cases hl : l.uri ∈ ls.map (·.uri)
      · rw [addEdit_of_mem (nodup_eraseDups _) (List.mem_eraseDups.mpr hl),
          eraseDups_concat_of_mem hl]
      · have hnone : group newText ls l.uri = [] := by
          rw [group, List.filter_eq_nil_iff.mpr]
          · rfl
          · intro x hx he
            exact hl (List.mem_map.mpr ⟨x, hx, by simpa using he⟩)
        have hold : ∀ u ∈ (ls.map (·.uri)).eraseDups, u ≠ l.uri := by
          intro u hu he
          exact hl (he ▸ List.mem_eraseDups.mp hu)
        rw [addEdit_of_not_mem, eraseDups_concat_of_not_mem hl, List.map_append]
        · congr 1
          · refine List.map_congr_left fun u hu => ?_
            rw [if_neg (hold u hu), List.append_nil]
          · simp [hnone]
        · rw [List.map_map]
          simpa using hl

/-- The edits for one file among those of all files. -/
def editsFor (fs : List FileEdits) (u : String) : List Edit :=
  ((fs.find? (·.uri == u)).map (·.edits)).getD []

theorem editsFor_editsOf (newText : String) (ls : List Location) (u : String) :
    editsFor (editsOf newText ls) u = group newText ls u := by
  rw [editsFor, editsOf_eq_grouped, List.find?_map]
  cases h : (ls.map (·.uri)).eraseDups.find? ((fun f : FileEdits => f.uri == u) ∘
      fun v => ⟨v, group newText ls v⟩) with
  | none =>
      have hnone : ∀ l ∈ ls, ¬ (l.uri == u) = true := by
        intro l hl
        exact List.find?_eq_none.mp h l.uri (List.mem_eraseDups.mpr (List.mem_map_of_mem hl))
      rw [group, List.filter_eq_nil_iff.mpr hnone]
      rfl
  | some v =>
      have hv : v = u := by simpa using List.find?_some h
      rw [hv]
      rfl

/-! ## The edits of one file -/

section

variable {w : Workspace} {r origin g : Record} {y : Symbol} {offset : Nat} {a : String}

theorem flatMap_of_nodup {α β : Type} {l : List α} (hl : l.Nodup) {x : α} (hx : x ∈ l)
    (f : α → List β) (h : ∀ z ∈ l, z ≠ x → f z = []) : l.flatMap f = f x := by
  induction l with
  | nil => cases hx
  | cons z l ih =>
      obtain ⟨hz, hl⟩ := List.nodup_cons.mp hl
      rw [List.flatMap_cons]
      rcases List.mem_cons.mp hx with rfl | hx
      · have hrest : l.flatMap f = [] := by
          rw [List.flatMap_eq_nil_iff]
          exact fun v hv => h v (List.mem_cons_of_mem x hv) fun he => hz (he ▸ hv)
        rw [hrest, List.append_nil]
      · rw [h z List.mem_cons_self fun he => hz (he ▸ hx), List.nil_append]
        exact ih hl hx fun v hv => h v (List.mem_cons_of_mem z hv)

theorem filter_references (hw : w.Scripted) (ha : w.DistinctAddresses)
    (ho : Navigation.origin? w r (Navigation.referenceAt r.tree offset) = some (origin, y))
    (hor : origin ∈ w.records)
    (hg : g ∈ Navigation.targets w r.tree (Navigation.referenceAt r.tree offset) origin)
    (hga : g.address? = some a) :
    (Navigation.references w r offset none).filter (·.uri == a) =
      (Navigation.uses g.tree y).map fun i => ⟨a, g.range i⟩ := by
  have hgr := Navigation.mem_records_of_mem_targets hor hg
  rw [Navigation.references_eq_sites, Navigation.sites, ho]
  simp only [List.filterMap_flatMap, List.filter_flatMap, List.filterMap_map]
  rw [flatMap_of_nodup (Navigation.nodup_targets hw _ _ origin) hg]
  · have hloc : ((fun s : Record × NodeId => s.1.location? s.2) ∘ fun i => (g, i)) =
        fun i => some ⟨a, g.range i⟩ := by
      funext i
      exact Record.location?_eq_some.mpr ⟨hga, rfl⟩
    rw [hloc, List.filterMap_eq_map', List.filter_eq_self]
    intro l hl
    obtain ⟨i, -, rfl⟩ := List.mem_map.mp hl
    exact beq_self_eq_true a
  · intro f hf hne
    rw [List.filter_eq_nil_iff]
    intro l hl hla
    obtain ⟨i, -, hloc⟩ := List.mem_filterMap.mp hl
    have hfa := (Record.location?_eq_some.mp hloc).1
    rw [eq_of_beq hla, ← hga] at hfa
    exact hne (ha.eq_of_address (Navigation.mem_records_of_mem_targets hor hf) hgr hfa)

theorem group_references (hw : w.Scripted) (ha : w.DistinctAddresses)
    (ho : Navigation.origin? w r (Navigation.referenceAt r.tree offset) = some (origin, y))
    (hor : origin ∈ w.records)
    (hg : g ∈ Navigation.targets w r.tree (Navigation.referenceAt r.tree offset) origin)
    (hga : g.address? = some a) (newText : String) :
    group newText (Navigation.references w r offset none) a =
      (Navigation.uses g.tree y).map fun i => ⟨g.range i, newText⟩ := by
  rw [group, filter_references hw ha ho hor hg hga, List.map_map]
  rfl

end

/-- The edits are the references of each file in their order; in the text of their file they
ascend without overlap, and each of them replaces the name at the offset. -/
theorem edits_by_file {w : Workspace} (hw : w.Scripted) (ha : w.DistinctAddresses) {r : Record}
    (hr : r ∈ w.records) (offset : Nat) (newName : String) :
    edits w r offset newName =
        ((Navigation.references w r offset none).map (·.uri)).eraseDups.map (fun u =>
          ⟨u, group newName (Navigation.references w r offset none) u⟩) ∧
      ∀ f ∈ edits w r offset newName, ∃ g ∈ w.records, g.address? = some f.uri ∧
        f.edits.Pairwise (fun d e =>
          (d.span g.tree.source).stop ≤ (e.span g.tree.source).start) ∧
        ∀ e ∈ f.edits, (e.span g.tree.source).start ≤ (e.span g.tree.source).stop ∧
          Text.slice? g.tree.source (e.span g.tree.source).start (e.span g.tree.source).stop =
            some (r.tree.text (Navigation.referenceAt r.tree offset)) := by
  have hgrouped := editsOf_eq_grouped newName (Navigation.references w r offset none)
  refine ⟨hgrouped, fun f hf => ?_⟩
  rw [edits, hgrouped] at hf
  obtain ⟨u, hu, rfl⟩ := List.mem_map.mp hf
  -- any location of the group tells which file the group is of
  obtain ⟨l, hl, rfl⟩ := List.mem_map.mp (List.mem_eraseDups.mp hu)
  obtain ⟨g, i, hsite, hloc⟩ := Navigation.mem_references.mp hl
  cases ho : Navigation.origin? w r (Navigation.referenceAt r.tree offset) with
  | none =>
      rw [Navigation.sites, ho] at hsite
      cases hsite
  | some s =>
      obtain ⟨origin, y⟩ := s
      obtain ⟨hsearch, -, hname⟩ := Navigation.origin?_spec ho
      have hor := Navigation.mem_records_of_mem_searchOrder hr hsearch
      have hg := ((Navigation.mem_sites ho).mp hsite).1
      have hgr := Navigation.mem_records_of_mem_targets hor hg
      have hga := (Record.location?_eq_some.mp hloc).1
      have hlaid := hw.laid hgr
      refine ⟨g, hgr, hga, ?_, ?_⟩
      · rw [group_references hw ha ho hor hg hga, List.pairwise_map]
        refine (Navigation.uses_pairwise hlaid y).imp_of_mem fun {i j} hi hj hij => ?_
        have hi := (Navigation.isNamedBy_of_mem_uses hlaid.toNested hi).1
        have hj := (Navigation.isNamedBy_of_mem_uses hlaid.toNested hj).1
        rw [Record.range, Record.range, Edit.span_ofSpan hlaid hi, Edit.span_ofSpan hlaid hj]
        exact hij.2
      · intro e he
        rw [group_references hw ha ho hor hg hga] at he
        obtain ⟨i, hi, rfl⟩ := List.mem_map.mp he
        obtain ⟨hi, hnamed⟩ := Navigation.isNamedBy_of_mem_uses hlaid.toNested hi
        rw [Record.range, Edit.span_ofSpan hlaid hi]
        refine ⟨hlaid.start_le_stop hi, ?_⟩
        rw [(Navigation.isNamedBy_spec hname).2, ← (Navigation.isNamedBy_spec hnamed).2]
        exact hlaid.slice?_eq_text hi

/-- A definition file on its own. -/
def toolList : Workspace :=
  ({} : Workspace).insert "file:///shop/tools.def" (.ofScript .definitions
    [.varDef "R" "#500" .var, .trivia "\n"])

/-- A program that includes the definition file and declares its name anew. -/
def toolRivalry : Tree :=
  .ofScript .program
    [.inclusion "tools.def", .trivia "\n", .varDef "R" "#600" .var, .trivia "\n"]

def toolRival : Record := toolList.record "file:///shop/b.src" toolRivalry

def toolShelf : Workspace := toolList.insert "file:///shop/b.src" toolRivalry

/-- A program that includes the definition file and uses its name. -/
def toolUse : Tree :=
  .ofScript .program [.inclusion "tools.def", .trivia "\n", .token .symbol "R" none, .trivia "\n"]

def toolUser : Record := toolShelf.record "file:///shop/a.src" toolUse

def toolShop : Workspace := toolShelf.insert "file:///shop/a.src" toolUse

theorem scripted_toolShop : toolShop.Scripted :=
  (((Workspace.scripted_empty _).insert _ _ _).insert _ _ _).insert _ _ _

theorem uris_edits_toolShop : toolShop.DistinctAddresses ∧
    (edits toolShop toolUser 19 "RADIUS").map (·.uri) =
      ["file:///shop/a.src", "file:///shop/b.src", "file:///shop/tools.def"] := by
  decide +kernel

theorem toolUser_mem : toolUser ∈ toolShop.records :=
  (Workspace.mem_of_get? (Workspace.get?_insert_self toolShelf "file:///shop/a.src" toolUse)).1

theorem toolRival_mem : toolRival ∈ toolShop.records := by
  have hne : "file:///shop/b.src" ≠ "file:///shop/a.src" := by decide
  have hget := Workspace.get?_insert_of_ne toolShelf toolUse hne
  exact (Workspace.mem_of_get? (hget.trans
    (Workspace.get?_insert_self toolList "file:///shop/b.src" toolRivalry))).1

theorem edits_by_file_toolShop :
    toolShop.Scripted ∧ toolShop.DistinctAddresses ∧ toolUser ∈ toolShop.records ∧
      (edits toolShop toolUser 19 "RADIUS").map (·.uri) =
        ["file:///shop/a.src", "file:///shop/b.src", "file:///shop/tools.def"] ∧
      ∀ f ∈ edits toolShop toolUser 19 "RADIUS", ∃ g ∈ toolShop.records,
        g.address? = some f.uri ∧ f.edits.Pairwise (fun d e =>
          (d.span g.tree.source).stop ≤ (e.span g.tree.source).start) ∧
        ∀ e ∈ f.edits, (e.span g.tree.source).start ≤ (e.span g.tree.source).stop ∧
          Text.slice? g.tree.source (e.span g.tree.source).start (e.span g.tree.source).stop =
            some (toolUser.tree.text (Navigation.referenceAt toolUser.tree 19)) :=
  ⟨scripted_toolShop, uris_edits_toolShop.1, toolUser_mem, uris_edits_toolShop.2,
    (edits_by_file scripted_toolShop uris_edits_toolShop.1 toolUser_mem 19 "RADIUS").2⟩

end Rename
end NcInsight
