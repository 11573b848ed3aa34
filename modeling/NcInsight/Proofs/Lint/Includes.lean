import NcInsight.Editor.Outline
import NcInsight.Proofs.Editor.Locality
import NcInsight.Proofs.Lint.Reports

/-
The include statements of a file, as its record, its findings and its links have them.

The record lists the addresses included, each once.  Lint walks the tree by itself, and goes less
deep; it keeps a list of its own of the addresses met and says of each include statement whether its
address is new (`firsts`) or not (`repeats`).  The links come from the include statements once more.
All three tell the same story, unless an include statement stands deeper than lint goes
(`includes_agree`).
-/
namespace NcInsight

/-- The address that an include statement means, if it has a text. -/
def Resolver.inclusionAddress? (files : Resolver) (r : Record) (id : NodeId) : Option String :=
  (r.tree.inclusionTarget? id).map fun n => files.resolve (r.tree.text n) r.uri

/-- The nodes that findings of a rule are at. -/
def Lint.foundAt (ρ : Rule) (fs : List Finding) : List NodeId :=
  (fs.filter (·.rule == ρ)).map (·.node)

namespace Lint

/-! ## New and repeated addresses -/

section met

variable (address? : NodeId → Option String)

/-- The nodes that mean an address for the first time, each with the address. -/
def firsts : List String → List NodeId → List (NodeId × String)
  | _, [] => []
  | met, id :: ids =>
      match address? id with
      | none => firsts met ids
      | some a => if met.contains a then firsts met ids else (id, a) :: firsts (met ++ [a]) ids

/-- The nodes that mean an address again. -/
def repeats : List String → List NodeId → List NodeId
  | _, [] => []
  | met, id :: ids =>
      match address? id with
      | none => repeats met ids
      | some a => if met.contains a then id :: repeats met ids else repeats (met ++ [a]) ids

variable {address?} {met : List String} {ids : List NodeId}

theorem repeats_sublist : (repeats address? met ids).Sublist ids := by
  fun_induction repeats address? met ids with
  | case1 met => exact List.Sublist.slnil
  | case2 met id ids _ ih => exact ih.cons id
  | case3 met id ids a _ _ ih => exact ih.cons_cons id
  | case4 met id ids a _ _ ih => exact ih.cons id

theorem exists_split_cons {x id : NodeId} {P : List NodeId → Prop} :
    (∃ before after, x :: ids = before ++ id :: after ∧ P before) ↔
      (x = id ∧ P []) ∨ ∃ before after, ids = before ++ id :: after ∧ P (x :: before) := by
  constructor
  · rintro ⟨before, after, he, hp⟩
    cases before with
    | nil =>
        cases he
        exact .inl ⟨rfl, hp⟩
    | cons y before =>
        cases he
        exact .inr ⟨before, after, rfl, hp⟩
  · rintro (⟨rfl, hp⟩ | ⟨before, after, rfl, hp⟩)
    · exact ⟨[], ids, rfl, hp⟩
    · exact ⟨x :: before, after, rfl, hp⟩

/-- A node repeats an address if it was met before, or if a node further in front means it. -/
theorem mem_repeats {id : NodeId} : id ∈ repeats address? met ids ↔
    ∃ before after, ids = before ++ id :: after ∧
      ∃ a, address? id = some a ∧ (a ∈ met ∨ ∃ j ∈ before, address? j = some a) := by
  fun_induction repeats address? met ids with
  | case1 met => simp
  | case2 met x ids hx ih =>
      rw [ih, exists_split_cons]
      constructor
      · exact fun h => .inr (by simpa [hx] using h)
      · rintro (⟨rfl, a, ha, -⟩ | h)
        · rw [hx] at ha
          cases ha
        · simpa [hx] using h
  | case3 met x ids a hx hmet ih =>
      have hmem : a ∈ met := List.contains_iff_mem.mp hmet
      rw [List.mem_cons, ih, exists_split_cons]
      refine or_congr ⟨fun h => ⟨h.symm, ?_⟩, fun h => h.1.symm⟩ ?_
      · rw [h]
        exact ⟨a, hx, .inl hmem⟩
      · refine exists_congr fun before => exists_congr fun after => and_congr_right fun _ =>
          exists_congr fun b => and_congr_right fun _ => ?_
        -- the address of the node in front was met before
        rw [List.exists_mem_cons_iff, hx]
        constructor
        · rintro (hb | hb)
          · exact .inl hb
          · exact .inr (.inr hb)
        · rintro (hb | hb | hb)
          · exact .inl hb
          · cases hb
            exact .inl hmem
          · exact .inr hb
  | case4 met x ids a hx hmet ih =>
      have hnew : a ∉ met := fun h => hmet (List.contains_iff_mem.mpr h)
      rw [ih, exists_split_cons]
      constructor
      · rintro ⟨before, after, hids, b, hb, hmem⟩
        refine .inr ⟨before, after, hids, b, hb, ?_⟩
        rw [List.exists_mem_cons_iff, hx]
        rw [List.mem_append, List.mem_singleton] at hmem
        rcases hmem with (hmem | rfl) | hmem
        · exact .inl hmem
        · exact .inr (.inl rfl)
        · exact .inr (.inr hmem)
      · rintro (⟨rfl, b, hb, hmem⟩ | ⟨before, after, hids, b, hb, hmem⟩)
        · rw [hx] at hb
          cases hb
          simp [hnew] at hmem
        · refine ⟨before, after, hids, b, hb, ?_⟩
          rw [List.exists_mem_cons_iff, hx] at hmem
          rw [List.mem_append, List.mem_singleton]
          rcases hmem with hmem | hmem | hmem
          · exact .inl (.inl hmem)
          · exact .inl (.inr (Option.some.inj hmem).symm)
          · exact .inr hmem

/-- The addresses in the order in which they are met, each once. -/
theorem map_firsts : (firsts address? met ids).map Prod.snd =
    ((ids.filterMap address?).filter fun a => !met.contains a).eraseDups := by
  fun_induction firsts address? met ids with
  | case1 met => rfl
  | case2 met id ids hid ih => rw [ih, List.filterMap_cons_none hid]
  | case3 met id ids a hid hmet ih =>
      rw [ih, List.filterMap_cons_some hid, List.filter_cons_of_neg (by simpa using hmet)]
  | case4 met id ids a hid hmet ih =>
      rw [List.map_cons, ih, List.filterMap_cons_some hid,
        List.filter_cons_of_pos (by simpa using hmet), List.eraseDups_cons, List.filter_filter]
      have hrest : (fun b => !(met ++ [a]).contains b) = fun b => !(b == a) && !met.contains b := by
        funext b
        rw [List.contains_append, List.contains_cons, List.contains_nil, Bool.or_false, Bool.not_or,
          Bool.and_comm]
      rw [hrest]

theorem not_mem_of_mem_firsts {s : NodeId × String} (hs : s ∈ firsts address? met ids) :
    s.2 ∉ met := by
  have hmem := List.mem_map_of_mem (f := Prod.snd) hs
  rw [map_firsts, List.mem_eraseDups, List.mem_filter] at hmem
  simpa using hmem.2

theorem find?_of_mem_firsts {s : NodeId × String} (hs : s ∈ firsts address? met ids) :
    (ids.find? fun id => address? id == some s.2) = some s.1 := by
  fun_induction firsts address? met ids with
  | case1 met => cases hs
  | case2 met id ids hid ih =>
      rw [List.find?_cons_of_neg (by simp [hid])]
      exact ih hs
  | case3 met id ids a hid hmet ih =>
      have hne : a ≠ s.2 := by
        rintro rfl
        exact not_mem_of_mem_firsts hs (List.contains_iff_mem.mp hmet)
      rw [List.find?_cons_of_neg (by simpa [hid] using hne)]
      exact ih hs
  | case4 met id ids a hid hmet ih =>
      rcases List.mem_cons.mp hs with rfl | hs
      · rw [List.find?_cons_of_pos (by simp [hid])]
      · have hne : a ≠ s.2 := by
          rintro rfl
          exact not_mem_of_mem_firsts hs (List.mem_append_right met List.mem_cons_self)
        rw [List.find?_cons_of_neg (by simpa [hid] using hne)]
        exact ih hs

variable (address?) in
theorem length_repeats_add_firsts (met : List String) (ids : List NodeId) :
    (ids.filterMap address?).length =
      (repeats address? met ids).length + (firsts address? met ids).length := by
  fun_induction firsts address? met ids with
  | case1 met => rfl
  | case2 met id ids hid ih => simp [repeats, hid, ih]
  | case3 met id ids a hid hmet ih =>
      simp only [repeats, hid, hmet, if_true, List.filterMap_cons_some hid, List.length_cons]
      omega
  | case4 met id ids a hid hmet ih =>
      simp only [repeats, hid, hmet, List.filterMap_cons_some hid, List.length_cons]
      simp only [Bool.false_eq_true, if_false]
      omega

end met

/-! ## What lint says about includes -/

/-- The nodes of what is said by a rule. -/
def saidAt (ρ : Rule) (ps : List Report) : List NodeId := (ps.filter (·.rule == ρ)).map (·.node)

theorem saidAt_append (ρ : Rule) (ps qs : List Report) :
    saidAt ρ (ps ++ qs) = saidAt ρ ps ++ saidAt ρ qs := by
  rw [saidAt, List.filter_append, List.map_append]
  rfl

theorem saidAt_eq_nil {ρ : Rule} {ps : List Report} (h : ∀ p ∈ ps, p.rule ≠ ρ) :
    saidAt ρ ps = [] := by
  have hnone : ps.filter (·.rule == ρ) = [] :=
    List.filter_eq_nil_iff.mpr fun p hp he => h p hp (eq_of_beq he)
  rw [saidAt, hnone, List.map_nil]

/-- A rule says nothing at nodes of other kinds than its own. -/
theorem saidAt_reportsAt_eq_nil {ρ : Rule} {c : Context} {f : Facts} {id : NodeId}
    (h : c.tree.kind id ∉ ρ.kinds) : saidAt ρ (reportsAt c f id) = [] :=
  saidAt_eq_nil fun _ hp he => h (he ▸ (madeAt_reportsAt hp).about)

theorem mem_foundAt {ρ : Rule} {fs : List Finding} {n : NodeId} :
    n ∈ foundAt ρ fs ↔ ∃ f ∈ fs, f.rule = ρ ∧ f.node = n := by
  simp [foundAt, and_assoc]

theorem foundAt_findings (files : Resolver) (r : Record) {levels : Levels} {ρ : Rule}
    (h : levels.level ρ ≠ .ignore) :
    foundAt ρ (findings files r levels) = saidAt ρ (reports { files, record := r }) := by
  have hfound : ∀ p : Report, p.rule = ρ → ∃ f, p.finding? r.tree levels = some f := by
    rintro p rfl
    exact Option.isSome_iff_exists.mp (Report.isSome_finding? r.tree h)
  rw [findings_eq]
  induction reports { files, record := r } with
  | nil => rfl
  | cons p ps ih =>
      have hcons : saidAt ρ (p :: ps) = saidAt ρ [p] ++ saidAt ρ ps := saidAt_append ρ [p] ps
      rw [hcons, ← ih]
      by_cases hrule : p.rule = ρ
      · obtain ⟨f, hf⟩ := hfound p hrule
        have hnode : f.node = p.node := by rw [(Report.finding?_eq_some hf).2]
        rw [List.filterMap_cons_some hf]
        simp [foundAt, saidAt, Report.rule_of_finding? hf, hrule, hnode]
      · rw [saidAt_eq_nil (by simpa using hrule), List.nil_append, List.filterMap_cons]
        split
        · rfl
        · rename_i f hf
          simp [foundAt, Report.rule_of_finding? hf, hrule]

variable {files : Resolver} {r : Record} {id : NodeId}

/-- A place to jump to changes nothing else that is known. -/
theorem addEntry_eq (f : Facts) (t : Tree) (id : NodeId) :
    ∃ entries, f.addEntry t id = { f with entries } := by
  rw [Facts.addEntry]
  split
  · split
    · exact ⟨f.entries, rfl⟩
    · exact ⟨_, rfl⟩
  · exact ⟨f.entries, rfl⟩

theorem imports_advance_of_ne {c : Context} (f : Facts) (hkind : c.tree.kind id ≠ .inclusion) :
    (f.advance c id).imports = f.imports := by
  have hentry : (f.addEntry c.tree id).imports = f.imports := by
    obtain ⟨entries, he⟩ := addEntry_eq f c.tree id
    rw [he]
  unfold Facts.advance
  simp only
  split
  · contradiction
  · split <;> rfl
  · split <;> rfl
  · split
    · split <;> rfl
    · rfl
  · rfl
  · exact hentry
  · exact hentry
  · exact hentry
  · rfl

theorem imports_advance (f : Facts) (hkind : r.tree.kind id = .inclusion) :
    (f.advance { files, record := r } id).imports =
      match files.inclusionAddress? r id with
      | none => f.imports
      | some a => if f.imports.contains a then f.imports else f.imports ++ [a] := by
  simp only [Facts.advance, Context.tree, hkind, Resolver.inclusionAddress?]
  cases r.tree.inclusionTarget? id with
  | none => rfl
  | some n => rfl

theorem reportsAt_inclusion (files : Resolver) (f : Facts) (hkind : r.tree.kind id = .inclusion) :
    (reportsAt { files, record := r } f id).map (fun p => (p.rule, p.node)) =
      match files.inclusionAddress? r id with
      | none => []
      | some a =>
          if f.imports.contains a then [(.duplicateInclude, id)]
          else if (files.get? a).isSome then [] else [(.includeNotFound, id)] := by
  simp only [reportsAt, includeReports, Context.tree, hkind, Resolver.inclusionAddress?]
  cases r.tree.inclusionTarget? id with
  | none => rfl
  | some n =>
      show List.map _ (if f.imports.contains (files.resolve (r.tree.text n) r.uri) then _
        else if (files.get? (files.resolve (r.tree.text n) r.uri)).isSome then _ else _) = _
      simp only [Option.map_some]
      split
      · rfl
      · split <;> rfl

theorem saidAt_eq (ρ : Rule) (ps : List Report) : saidAt ρ ps =
    ((ps.map fun p => (p.rule, p.node)).filter (·.1 == ρ)).map Prod.snd := by
  rw [saidAt, List.filter_map, List.map_map]
  rfl

/-- Run lemma: along any nodes, an include statement is judged by the addresses met before it. -/
theorem saidAt_scan (files : Resolver) (r : Record) (ids : List NodeId) (f : Facts) :
    saidAt .duplicateInclude (scan { files, record := r } f ids) =
        repeats (files.inclusionAddress? r) f.imports
          (ids.filter fun id => r.tree.kind id == .inclusion) ∧
      saidAt .includeNotFound (scan { files, record := r } f ids) =
        ((firsts (files.inclusionAddress? r) f.imports
          (ids.filter fun id => r.tree.kind id == .inclusion)).filter
            fun s => (files.get? s.2).isNone).map Prod.fst := by
  induction ids generalizing f with
  | nil => exact ⟨rfl, rfl⟩
  | cons id ids ih =>
      obtain ⟨hrepeats, hfirsts⟩ := ih (f.advance { files, record := r } id)
      rw [scan, saidAt_append, saidAt_append, hrepeats, hfirsts]
      by_cases hkind : r.tree.kind id = .inclusion
      · have hsaid := reportsAt_inclusion files f hkind
        rw [imports_advance f hkind, List.filter_cons_of_pos (by simpa using hkind), saidAt_eq,
          saidAt_eq, hsaid, repeats, firsts]
        cases files.inclusionAddress? r id with
        | none => exact ⟨rfl, rfl⟩
        | some a =>
            by_cases hmet : a ∈ f.imports
            · simp [hmet]
            · cases hget : files.get? a <;> simp [hmet, hget]
      · -- no other node is said to include anything, and none adds to the addresses met
        have hnone : ∀ ρ : Rule, ρ.kinds = [.inclusion] →
            saidAt ρ (reportsAt { files, record := r } f id) = [] := by
          intro ρ hρ
          refine saidAt_reportsAt_eq_nil fun hmem => hkind ?_
          rw [hρ] at hmem
          exact List.mem_singleton.mp hmem
        rw [hnone _ rfl, hnone _ rfl,
          imports_advance_of_ne (c := { files, record := r }) f hkind,
          List.filter_cons_of_neg (by simpa using hkind)]
        exact ⟨rfl, rfl⟩

theorem saidAt_reports {ρ : Rule} (hρ : (ρ == .seqNotFound) = false) (c : Context) :
    saidAt ρ (reports c) = saidAt ρ (scan c {} (visited c.tree)) := by
  have hgotos : saidAt ρ ((orderedGotos c.tree (finalFacts c)).flatMap
      (gotoReports c.tree (finalFacts c))) = [] := by
    refine saidAt_eq_nil fun p hp he => ?_
    obtain ⟨id, -, hp⟩ := List.mem_flatMap.mp hp
    rw [← he, (of_mem_gotoReports hp).1] at hρ
    cases hρ
  rw [reports, saidAt_append, hgotos, List.append_nil]

/-! ## The include statements that lint meets -/

theorem filter_visited {t : Tree} (h : t.Rooted)
    (hdeep : ∀ i ∈ t.inclusions, ∀ a ∈ t.ancestors i, isTooDeep t a = false) :
    ((visited t).filter fun id => t.kind id == .inclusion) = t.inclusions := by
  have hle : ∀ i, (!isCut t i) = true → (t.kind i != .inclusion) = true := by
    intro i hi
    rw [isCut, Bool.not_or, Bool.and_eq_true] at hi
    exact hi.1
  rw [visited, h.visits_narrow hle, List.filter_comm]
  -- above an include statement of the record there is no other one, and nothing too deep
  refine List.filter_eq_self.mpr fun i hi => List.all_eq_true.mpr fun a ha => ?_
  have hoff := (h.mem_visits.mp (List.mem_of_mem_filter hi)).2 a ha
  rw [isCut, hdeep i hi a ha, Bool.or_false]
  exact hoff

theorem filterMap_inclusionAddress? (files : Resolver) (r : Record) :
    r.tree.inclusions.filterMap (files.inclusionAddress? r) =
      r.tree.inclusionTexts.map (files.resolve · r.uri) := by
  rw [Tree.inclusionTexts, List.map_map, List.map_filterMap]
  rfl

theorem includes_eq_firsts {files : Resolver} {r : Record} (h : files.Stands r) :
    r.includes = (firsts (files.inclusionAddress? r) [] r.tree.inclusions).map Prod.snd := by
  have hall : (r.tree.inclusions.filterMap (files.inclusionAddress? r)).filter
      (fun a => !([] : List String).contains a) =
        r.tree.inclusions.filterMap (files.inclusionAddress? r) :=
    List.filter_eq_self.mpr fun _ _ => rfl
  rw [map_firsts, hall, filterMap_inclusionAddress?]
  exact congrArg Record.includes h.record

theorem links_eq (files : Resolver) (r : Record) :
    DocumentLink.all files r = r.tree.inclusions.filterMap (fun id =>
      ((r.tree.inclusionTarget? id).filter fun n => !(r.tree.span n).isEmpty).map fun n =>
        ⟨r.range n,
          (files.inclusionAddress? r id).bind fun a => (Url.parse? a).map Url.render⟩) := by
  rw [DocumentLink.all, List.filter_filterMap, List.map_filterMap]
  refine List.filterMap_congr fun id _ => ?_
  cases hn : r.tree.inclusionTarget? id with
  | none => rfl
  | some n =>
      have ha : files.inclusionAddress? r id = some (files.resolve (r.tree.text n) r.uri) := by
        rw [Resolver.inclusionAddress?, hn, Option.map_some]
      rw [ha, Option.filter_some]
      cases (r.tree.span n).isEmpty <;> simp [DocumentLink.of]

/-- The record, the findings and the links agree about includes, however texts are resolved and
files are found.  Lint finds a repeated include at the include statements whose address an earlier
one means, and a missing file at the first include statement of each address of the record that no
file has, in the order of the record; so the include statements with a text are the repeated ones
and one for each address of the record.  There is one link for each of them whose text is not empty,
and it leads to the same address. -/
theorem includes_agree {files : Resolver} {r : Record} (hr : files.Stands r)
    {levels : Levels} (hduplicate : levels.level .duplicateInclude ≠ .ignore)
    (hmissing : levels.level .includeNotFound ≠ .ignore)
    (hdeep : ∀ i ∈ r.tree.inclusions, ∀ a ∈ r.tree.ancestors i, isTooDeep r.tree a = false) :
    (foundAt .duplicateInclude (findings files r levels)).Sublist r.tree.inclusions ∧
    (∀ id, id ∈ foundAt .duplicateInclude (findings files r levels) ↔
      ∃ before after, r.tree.inclusions = before ++ id :: after ∧
        ∃ a, files.inclusionAddress? r id = some a ∧
          ∃ j ∈ before, files.inclusionAddress? r j = some a) ∧
    (foundAt .includeNotFound (findings files r levels)).map some =
      (r.includes.filter fun a => (files.get? a).isNone).map (fun a =>
        r.tree.inclusions.find? fun id => files.inclusionAddress? r id == some a) ∧
    r.tree.inclusionTexts.length =
      (foundAt .duplicateInclude (findings files r levels)).length + r.includes.length ∧
    DocumentLink.all files r = r.tree.inclusions.filterMap (fun id =>
      ((r.tree.inclusionTarget? id).filter fun n => !(r.tree.span n).isEmpty).map fun n =>
        ⟨r.range n,
          (files.inclusionAddress? r id).bind fun a => (Url.parse? a).map Url.render⟩) := by
  have hscan := saidAt_scan files r (visited r.tree) {}
  rw [filter_visited hr.formed.toRooted hdeep] at hscan
  have hrepeats : foundAt .duplicateInclude (findings files r levels) =
      repeats (files.inclusionAddress? r) [] r.tree.inclusions := by
    rw [foundAt_findings _ _ hduplicate, saidAt_reports rfl]
    exact hscan.1
  have hfirsts : foundAt .includeNotFound (findings files r levels) =
      ((firsts (files.inclusionAddress? r) [] r.tree.inclusions).filter
        fun s => (files.get? s.2).isNone).map Prod.fst := by
    rw [foundAt_findings _ _ hmissing, saidAt_reports rfl]
    exact hscan.2
  have hincludes := includes_eq_firsts hr
  refine ⟨hrepeats ▸ repeats_sublist, fun id => ?_, ?_, ?_, links_eq files r⟩
  · rw [hrepeats, mem_repeats]
    simp
  · rw [hfirsts, hincludes, List.filter_map, List.map_map, List.map_map]
    refine List.map_congr_left fun s hs => ?_
    exact (find?_of_mem_firsts (List.mem_of_mem_filter hs)).symm
  · have hlength := length_repeats_add_firsts (files.inclusionAddress? r) [] r.tree.inclusions
    rw [filterMap_inclusionAddress?, List.length_map] at hlength
    rw [hlength, hrepeats, hincludes, List.length_map]

/-- A program that includes one file twice, the second time in a condition. -/
def doubleInclude : Tree :=
  { source := "tools.def tools.def"
    nodes := #[
      { kind := .file .program, span := ⟨0, 19⟩, children := [1, 3] },
      { kind := .inclusion, span := ⟨0, 9⟩, parent := some 0, children := [2] },
      { kind := .string, span := ⟨0, 9⟩, field := some .uri, parent := some 1 },
      { kind := .ifBlock, span := ⟨10, 19⟩, parent := some 0, children := [4] },
      { kind := .inclusion, span := ⟨10, 19⟩, parent := some 3, children := [5] },
      { kind := .string, span := ⟨10, 19⟩, field := some .uri, parent := some 4 }]
    declarations := #[] }

def doubleFile : Record := ({} : Workspace).record "file:///shop/main.src" doubleInclude

def doubleShop : Workspace := ({} : Workspace).insert "file:///shop/main.src" doubleInclude

theorem includes_agree_doubleShop :
    doubleShop.Stored ∧ doubleFile ∈ doubleShop.records ∧
      strict.level .duplicateInclude ≠ .ignore ∧ strict.level .includeNotFound ≠ .ignore ∧
      (∀ i ∈ doubleInclude.inclusions, ∀ a ∈ doubleInclude.ancestors i,
        isTooDeep doubleInclude a = false) ∧
      4 ∈ foundAt .duplicateInclude (lint doubleShop doubleFile strict) ∧
      2 = (foundAt .duplicateInclude (lint doubleShop doubleFile strict)).length +
        doubleFile.includes.length := by
  have hformed : doubleInclude.Formed := (Tree.defect?_eq_none_iff.mp (by decide)).toFormed
  have hstored : doubleShop.Stored := (Workspace.stored_empty _).insert _ hformed
  have hmem : doubleFile ∈ doubleShop.records :=
    (Workspace.mem_of_get? (Workspace.get?_insert_self {} "file:///shop/main.src" doubleInclude)).1
  have hduplicate : strict.level .duplicateInclude ≠ .ignore := by decide
  have hmissing : strict.level .includeNotFound ≠ .ignore := by decide
  have hdeep : ∀ i ∈ doubleInclude.inclusions, ∀ a ∈ doubleInclude.ancestors i,
      isTooDeep doubleInclude a = false := by decide
  obtain ⟨-, hfound, -, hcount, -⟩ := includes_agree (hstored.stands hmem) hduplicate hmissing hdeep
  refine ⟨hstored, hmem, hduplicate, hmissing, hdeep, (hfound 4).mpr ⟨[1], [], by decide, ?_⟩, ?_⟩
  · have htext : doubleInclude.text 2 = doubleInclude.text 5 := by decide
    exact ⟨_, rfl, 1, List.mem_cons_self,
      congrArg (fun text => some (doubleShop.resolver.resolve text doubleFile.uri)) htext⟩
  · exact hcount

end Lint
end NcInsight
