import NcInsight.Proofs.Lint.JumpTargets

/-
Gotos, and the places that they lead to.

Gotos wait for the end of the walk, and are then taken program by program (`orderedGotos_eq`).  By
then all marks of the program have been met, so it does not matter whether a place comes before or
after the goto: a goto is found if what it names leads nowhere (`LeadsNowhere`), and once
(`gotos_checked`).
-/
namespace NcInsight
namespace Lint

/-! ## Program by program -/

section sorting

variable {α : Type} (key : α → Nat)

theorem trans_key (a b c : α) (hab : decide (key a ≤ key b) = true)
    (hbc : decide (key b ≤ key c) = true) : decide (key a ≤ key c) = true := by
  simp only [decide_eq_true_eq] at hab hbc ⊢
  omega

theorem total_key (a b : α) : (decide (key a ≤ key b) || decide (key b ≤ key a)) = true := by
  simp only [Bool.or_eq_true, decide_eq_true_eq]
  omega

/-- Sorting by a number leaves what has the same number in its order. -/
theorem filter_mergeSort (l : List α) (k : Nat) :
    (l.mergeSort fun a b => key a ≤ key b).filter (fun a => key a == k) =
      l.filter fun a => key a == k := by
  have hsorted : (l.filter fun a => key a == k).Pairwise
      fun a b => decide (key a ≤ key b) = true := by
    refine List.pairwise_of_forall_mem_list fun a ha b hb => ?_
    have hka := eq_of_beq (List.mem_filter.mp ha).2
    have hkb := eq_of_beq (List.mem_filter.mp hb).2
    simp only [decide_eq_true_eq]
    omega
  have hsub : (l.filter fun a => key a == k).Sublist (l.mergeSort fun a b => key a ≤ key b) :=
    List.sublist_mergeSort (trans_key key) (total_key key) hsorted List.filter_sublist
  have hfilter := hsub.filter fun a => key a == k
  rw [List.filter_eq_self.mpr fun a ha => (List.mem_filter.mp ha).2] at hfilter
  have hlength := ((l.mergeSort_perm fun a b => key a ≤ key b).filter
    fun a => key a == k).length_eq
  exact (hfilter.eq_of_length hlength.symm).symm

theorem eq_filter_append {l : List α} (hl : l.Pairwise fun a b => key a ≤ key b) {n : Nat}
    (hn : ∀ a ∈ l, key a ≤ n) :
    l = l.filter (fun a => key a < n) ++ l.filter fun a => key a == n := by
  induction l with
  | nil => rfl
  | cons a l ih =>
      obtain ⟨hle, hl⟩ := List.pairwise_cons.mp hl
      obtain ⟨ha, hn⟩ := List.forall_mem_cons.mp hn
      by_cases hlt : key a < n
      · rw [List.filter_cons_of_pos (by simpa using hlt),
          List.filter_cons_of_neg (by simp only [beq_iff_eq]; omega), List.cons_append, ← ih hl hn]
      · -- from the first of the last number on, all have it
        have hlast : ∀ b ∈ a :: l, key b = n := by
          intro b hb
          rcases List.mem_cons.mp hb with rfl | hb
          · omega
          · have hb' := hle b hb
            have hb'' := hn b hb
            omega
        rw [List.filter_eq_nil_iff.mpr fun b hb => by simp [hlast b hb],
          List.filter_eq_self.mpr fun b hb => by simp [hlast b hb], List.nil_append]

/-- A list in ascending order of a number is made of its parts of one number. -/
theorem eq_flatMap_filter {l : List α} (hl : l.Pairwise fun a b => key a ≤ key b) {n : Nat}
    (hn : ∀ a ∈ l, key a < n) :
    l = (List.range n).flatMap fun k => l.filter fun a => key a == k := by
  induction n generalizing l with
  | zero =>
      cases l with
      | nil => rfl
      | cons a l => exact absurd (hn a List.mem_cons_self) (Nat.not_lt_zero _)
  | succ n ih =>
      have hparts : (List.range n).flatMap (fun k => l.filter fun a => key a == k) =
          l.filter fun a => key a < n := by
        have hbelow := ih (hl.filter fun a => key a < n) fun a ha =>
          of_decide_eq_true (List.mem_filter.mp ha).2
        refine Eq.trans (List.flatMap_congr fun k hk => ?_) hbelow.symm
        rw [List.filter_filter]
        refine List.filter_congr fun a _ => ?_
        have hkn := List.mem_range.mp hk
        by_cases hak : key a = k
        · simp [hak, hkn]
        · simp [hak]
      rw [List.range_succ, List.flatMap_append, hparts, List.flatMap_singleton]
      exact eq_filter_append key hl fun a ha => Nat.le_of_lt_succ (hn a ha)

end sorting

/-- The gotos that are visited, by the number of their program and then in the order of the walk. -/
def gotosByProgram (t : Tree) : List NodeId :=
  (List.range t.size).flatMap fun program =>
    (visited t).filter fun g => t.kind g == .goto && programOf t g == program

theorem gotos_advance (c : Context) (f : Facts) (id : NodeId) :
    (f.advance c id).gotos = f.gotos ++ if c.tree.kind id == .goto then [id] else [] := by
  have hentry : (f.addEntry c.tree id).gotos = f.gotos := by
    obtain ⟨entries, he⟩ := addEntry_eq f c.tree id
    rw [he]
  unfold Facts.advance
  simp only
  cases hkind : c.tree.kind id with
  | inclusion => cases c.tree.inclusionTarget? id <;> simp
  | varDef => cases c.tree.declarationOf id <;> simp
  | labelDef => cases c.tree.declarationOf id <;> simp
  | function =>
      cases (functionName c.tree id).bind (functionNumber f c.tree) with
      | none => simp
      | some n =>
          simp only
          split <;> simp
  | sequenceNumber => simpa using hentry
  | label => simpa using hentry
  | var => simpa using hentry
  | _ => simp

theorem gotos_foldl (c : Context) (ids : List NodeId) (f : Facts) :
    (ids.foldl (Facts.advance c) f).gotos =
      f.gotos ++ ids.filter fun id => c.tree.kind id == .goto := by
  induction ids generalizing f with
  | nil => simp
  | cons id ids ih =>
      rw [List.foldl_cons, ih, gotos_advance, List.append_assoc, List.filter_cons]
      split <;> rfl

theorem programOf_lt {t : Tree} (h : t.Rooted) {i : NodeId} (hi : i < t.size) :
    programOf t i < t.size := by
  rw [programOf]
  cases hf : t.enclosing .function i with
  | none => exact h.size_pos
  | some p =>
      rw [Tree.enclosing, Tree.findAncestor] at hf
      exact h.lt_of_mem_lineage hi (List.mem_of_find?_eq_some hf)

theorem orderedGotos_eq (c : Context) (h : c.tree.Rooted) :
    orderedGotos c.tree (finalFacts c) = gotosByProgram c.tree := by
  have hgotos : (finalFacts c).gotos = (visited c.tree).filter fun id => c.tree.kind id == .goto :=
    gotos_foldl c (visited c.tree) {}
  have hperm := (finalFacts c).gotos.mergeSort_perm fun a b =>
    programOf c.tree a ≤ programOf c.tree b
  have hsorted : (orderedGotos c.tree (finalFacts c)).Pairwise fun a b =>
      programOf c.tree a ≤ programOf c.tree b :=
    (List.pairwise_mergeSort (trans_key _) (total_key _) _).imp of_decide_eq_true
  have hlt : ∀ g ∈ orderedGotos c.tree (finalFacts c), programOf c.tree g < c.tree.size := by
    intro g hg
    have hmem : g ∈ (finalFacts c).gotos := hperm.mem_iff.mp hg
    rw [hgotos] at hmem
    exact programOf_lt h (h.mem_visits.mp (List.mem_of_mem_filter hmem)).1
  rw [eq_flatMap_filter (programOf c.tree) hsorted hlt, gotosByProgram]
  refine List.flatMap_congr fun program _ => ?_
  rw [orderedGotos, filter_mergeSort, hgotos, List.filter_filter]
  refine List.filter_congr fun g _ => ?_
  rw [Bool.and_comm]

/-! ## Where a goto leads -/

/-- What a goto names is checked, and has this value, if any. -/
inductive Checked (f : Facts) (t : Tree) (target : NodeId) : Option String → Prop
  | number (hword : Text.isPlainNumber (t.text target) = true) :
      Checked f t target (some (t.text target))
  | label (hword : Text.isPlainNumber (t.text target) = false) (hkind : t.kind target = .label) :
      Checked f t target ((f.resolve t target).bind (·.valueText))
  | name {d : Declaration} (hword : Text.isPlainNumber (t.text target) = false)
      (hkind : t.kind target = .var ∨ t.kind target = .symbol)
      (hdeclared : f.resolve t target = some d)
      (htype : d.valueType = .numeric ∨ d.valueType = .constant ∨ d.valueType = .sequence) :
      Checked f t target d.valueText

/-- A name is checked if it stands for a value to jump to. -/
theorem exists_declaration_of_jump {f : Facts} {t : Tree} {target : NodeId} {value : Option String}
    (hword : Text.isPlainNumber (t.text target) = false)
    (hkind : t.kind target = .var ∨ t.kind target = .symbol)
    (h : jump f t target = .checked value) :
    ∃ d, f.resolve t target = some d ∧ d.valueText = value ∧
      (d.valueType = .numeric ∨ d.valueType = .constant ∨ d.valueType = .sequence) := by
  cases hd : f.resolve t target with
  | none => rcases hkind with hkind | hkind <;> simp [jump, hword, hkind, hd] at h
  | some d =>
      refine ⟨d, rfl, ?_⟩
      cases htype : d.valueType <;> rcases hkind with hkind | hkind <;>
        simp_all [jump]

theorem jump_eq_checked_iff {f : Facts} {t : Tree} {target : NodeId} {value : Option String} :
    jump f t target = .checked value ↔ Checked f t target value := by
  constructor
  · intro h
    cases hword : Text.isPlainNumber (t.text target) with
    | true =>
        rw [jump, if_pos hword] at h
        cases h
        exact .number hword
    | false =>
        by_cases hname : t.kind target = .var ∨ t.kind target = .symbol
        · obtain ⟨d, hd, rfl, htype⟩ := exists_declaration_of_jump hword hname h
          exact .name hword hname hd htype
        · rw [jump, if_neg (by simp [hword])] at h
          split at h
          case h_1 hkind =>
            cases h
            exact .label hword hkind
          case h_2 hkind => exact absurd (.inl hkind) hname
          case h_3 hkind => exact absurd (.inr hkind) hname
          · cases h
  · intro h
    cases h with
    | number hword => rw [jump, if_pos hword]
    | label hword hkind => simp [jump, hword, hkind, Facts.valueOf]
    | name hword hkind hd htype =>
        rcases hkind with hkind | hkind <;> rcases htype with htype | htype | htype <;>
          simp [jump, hword, hkind, hd, htype]

/-- What goto `g` names is checked and has no value, or none that a mark of its program has. -/
def LeadsNowhere (c : Context) (g target : NodeId) (value : Option String) : Prop :=
  Checked (finalFacts c) c.tree target value ∧
    ∀ v, value = some v → ∀ o ∈ occurrences c, o.program c.tree = programOf c.tree g →
      o.value ≠ Text.stripJump v

theorem isReachable_finalFacts {c : Context} {program : NodeId} {value : Option String} :
    isReachable (finalFacts c) program value = true ↔
      ∃ v, value = some v ∧ ∃ o ∈ occurrences c, o.program c.tree = program ∧
        o.value = Text.stripJump v := by
  rw [isReachable, Option.any_eq_true]
  exact exists_congr fun v => and_congr_right fun _ => isSome_entry?_finalFacts

theorem leadsNowhere_iff {c : Context} {g target : NodeId} {value : Option String} :
    LeadsNowhere c g target value ↔ jump (finalFacts c) c.tree target = .checked value ∧
      isReachable (finalFacts c) (programOf c.tree g) value = false := by
  rw [LeadsNowhere, jump_eq_checked_iff, Bool.eq_false_iff, Ne, isReachable_finalFacts]
  refine and_congr_right fun _ => ?_
  constructor
  · rintro h ⟨v, rfl, o, ho, hprogram, hvalue⟩
    exact h v rfl o ho hprogram hvalue
  · intro h v hv o ho hprogram hvalue
    exact h ⟨v, hv, o, ho, hprogram, hvalue⟩

/-- What is checked has one value, so it leads nowhere if that is no place. -/
theorem exists_leadsNowhere_iff {c : Context} {g target : NodeId} {value : Option String}
    (h : jump (finalFacts c) c.tree target = .checked value) :
    (∃ v, LeadsNowhere c g target v) ↔
      isReachable (finalFacts c) (programOf c.tree g) value = false := by
  constructor
  · rintro ⟨v, hv⟩
    obtain ⟨hjump, hreach⟩ := leadsNowhere_iff.mp hv
    rw [h] at hjump
    cases hjump
    exact hreach
  · exact fun hreach => ⟨value, leadsNowhere_iff.mpr ⟨h, hreach⟩⟩

/-- A goto is reported once, at what it names, if that leads nowhere. -/
theorem gotoReports_of_leadsNowhere {c : Context} {g target : NodeId} {value : Option String}
    (htarget : c.tree.childOrFirst g .label = some target) (h : LeadsNowhere c g target value) :
    gotoReports c.tree (finalFacts c) g = [⟨.seqNotFound, target, some (value.getD "")⟩] := by
  obtain ⟨hjump, hreach⟩ := leadsNowhere_iff.mp h
  simp [gotoReports, htarget, hjump, hreach]

theorem leadsNowhere_of_mem_gotoReports {c : Context} {g : NodeId} {p : Report}
    (hp : p ∈ gotoReports c.tree (finalFacts c) g) :
    ∃ value, c.tree.childOrFirst g .label = some p.node ∧ LeadsNowhere c g p.node value ∧
      p.detail = some (value.getD "") := by
  rw [gotoReports] at hp
  split at hp
  · cases hp
  case h_2 target htarget =>
    split at hp
    · cases hp
    case h_2 value hjump =>
      obtain ⟨hreach, hp⟩ := List.mem_ite_nil_left.mp hp
      rw [List.mem_singleton.mp hp]
      exact ⟨value, htarget, leadsNowhere_iff.mpr ⟨hjump, Bool.eq_false_iff.mpr hreach⟩, rfl⟩

/-- At most one thing is said of a goto, and it is said of what the goto names. -/
theorem gotoReports_eq_nil_or (t : Tree) (f : Facts) (g : NodeId) :
    gotoReports t f g = [] ∨ ∃ target detail, t.childOrFirst g .label = some target ∧
      gotoReports t f g = [⟨.seqNotFound, target, detail⟩] := by
  rw [gotoReports]
  split
  · exact .inl rfl
  case h_2 target htarget =>
    split
    · exact .inl rfl
    · split
      · exact .inl rfl
      · exact .inr ⟨target, _, htarget, rfl⟩

/-! ## Findings -/

theorem reports_eq (c : Context) (h : c.tree.Rooted) :
    reports c = scan c {} (visited c.tree) ++
      (gotosByProgram c.tree).flatMap (gotoReports c.tree (finalFacts c)) := by
  rw [reports, orderedGotos_eq c h]

/-- A goto says nothing when it is visited. -/
theorem rule_ne_of_mem_scan {c : Context} {f : Facts} {ids : List NodeId} {p : Report}
    (hp : p ∈ scan c f ids) : p.rule ≠ .seqNotFound := by
  intro hrule
  obtain ⟨g, id, -, hp⟩ := exists_visit_of_mem_scan hp
  have hkind := (madeAt_reportsAt hp).about
  rw [hrule] at hkind
  have hgoto : c.tree.kind id = .goto := List.mem_singleton.mp hkind
  simp [reportsAt, hgoto] at hp

theorem saidAt_seqNotFound_reports (c : Context) (h : c.tree.Rooted) :
    saidAt .seqNotFound (reports c) = (gotosByProgram c.tree).flatMap fun g =>
      (gotoReports c.tree (finalFacts c) g).map (·.node) := by
  rw [reports_eq c h, saidAt_append, saidAt_eq_nil fun p hp => rule_ne_of_mem_scan hp,
    List.nil_append, saidAt, List.filter_eq_self.mpr, List.map_flatMap]
  intro p hp
  obtain ⟨g, -, hp⟩ := List.mem_flatMap.mp hp
  rw [(of_mem_gotoReports hp).1]
  rfl

section

variable {t : Tree} (h : t.Rooted)
include h

theorem mem_gotosByProgram {g : NodeId} :
    g ∈ gotosByProgram t ↔ g ∈ visited t ∧ t.kind g = .goto := by
  simp only [gotosByProgram, List.mem_flatMap, List.mem_range, List.mem_filter, Bool.and_eq_true,
    beq_iff_eq]
  constructor
  · rintro ⟨program, -, hg, hkind, -⟩
    exact ⟨hg, hkind⟩
  · rintro ⟨hg, hkind⟩
    exact ⟨programOf t g, programOf_lt h (h.mem_visits.mp hg).1, hg, hkind, rfl⟩

theorem nodup_gotosByProgram : (gotosByProgram t).Nodup := by
  refine List.nodup_flatMap.mpr ⟨fun program _ => (h.nodup_visits _).filter _, ?_⟩
  refine List.nodup_range.imp fun {p q} hne => List.disjoint_left.mpr fun g hp hq => hne ?_
  simp only [List.mem_filter, Bool.and_eq_true, beq_iff_eq] at hp hq
  rw [← hp.2.2, hq.2.2]

end

section found

variable {c : Context} (h : c.tree.Rooted) {levels : Levels}
  (hlevel : levels.level .seqNotFound ≠ .ignore)
include h hlevel

theorem foundAt_seqNotFound : foundAt .seqNotFound (findings c.files c.record levels) =
    (gotosByProgram c.tree).flatMap fun g =>
      (gotoReports c.tree (finalFacts c) g).map (·.node) := by
  rw [foundAt_findings c.files c.record hlevel]
  exact saidAt_seqNotFound_reports c h

theorem mem_foundAt_seqNotFound {target : NodeId} :
    target ∈ foundAt .seqNotFound (findings c.files c.record levels) ↔ ∃ g ∈ visited c.tree,
      c.tree.kind g = .goto ∧ c.tree.childOrFirst g .label = some target ∧
        ∃ value, LeadsNowhere c g target value := by
  rw [foundAt_seqNotFound h hlevel, List.mem_flatMap]
  constructor
  · rintro ⟨g, hg, hmem⟩
    obtain ⟨hvisited, hkind⟩ := (mem_gotosByProgram h).mp hg
    obtain ⟨p, hp, rfl⟩ := List.mem_map.mp hmem
    obtain ⟨value, htarget, hnowhere, -⟩ := leadsNowhere_of_mem_gotoReports hp
    exact ⟨g, hvisited, hkind, htarget, value, hnowhere⟩
  · rintro ⟨g, hvisited, hkind, htarget, value, hnowhere⟩
    refine ⟨g, (mem_gotosByProgram h).mpr ⟨hvisited, hkind⟩, ?_⟩
    rw [gotoReports_of_leadsNowhere htarget hnowhere]
    exact List.mem_singleton.mpr rfl

/-- No two gotos name the same node, since it is the child of one only. -/
theorem nodup_foundAt_seqNotFound :
    (foundAt .seqNotFound (findings c.files c.record levels)).Nodup := by
  rw [foundAt_seqNotFound h hlevel]
  refine List.nodup_flatMap.mpr ⟨fun g _ => ?_, ?_⟩
  · rcases gotoReports_eq_nil_or c.tree (finalFacts c) g with hsaid | ⟨target, detail, -, hsaid⟩
    · rw [hsaid]
      exact List.nodup_nil
    · rw [hsaid]
      exact List.nodup_singleton target
  · have hchild : ∀ g n, n ∈ (gotoReports c.tree (finalFacts c) g).map (·.node) →
        c.tree.parent n = some g := by
      intro g n hn
      obtain ⟨p, hp, rfl⟩ := List.mem_map.mp hn
      exact h.parent_of_mem (of_mem_gotoReports hp).2
    refine (nodup_gotosByProgram h).imp fun {a b} hne => List.disjoint_left.mpr fun n ha hb =>
      hne ?_
    have hparent := hchild a n ha
    rw [hchild b n hb] at hparent
    exact (Option.some.inj hparent).symm

/-- The gotos that are found, each by what it names. -/
theorem map_foundAt_seqNotFound :
    (foundAt .seqNotFound (findings c.files c.record levels)).map some =
      ((gotosByProgram c.tree).filter fun g =>
        !(gotoReports c.tree (finalFacts c) g).isEmpty).map (c.tree.childOrFirst · .label) := by
  rw [foundAt_seqNotFound h hlevel]
  induction gotosByProgram c.tree with
  | nil => rfl
  | cons g gs ih =>
      rw [List.flatMap_cons, List.map_append, ih, List.filter_cons]
      rcases gotoReports_eq_nil_or c.tree (finalFacts c) g with hsaid | ⟨target, d, htarget, hsaid⟩
      · rw [hsaid]
        rfl
      · rw [hsaid]
        simp [htarget]

end found

/-- Gotos are checked completely, and in any order of jumps and places.  What a goto names is found
once if it is a number, a label or a name of a value to jump to, and no mark in the program of the
goto has its value, wherever the marks stand; else it is not found.  These findings stand behind all
others, by the number of their program and then in the order of the walk. -/
theorem gotos_checked {r : Record} (h : r.tree.Formed) (files : Resolver) {levels : Levels}
    (hlevel : levels.level .seqNotFound ≠ .ignore) :
    (∀ g ∈ visited r.tree, r.tree.kind g = .goto →
      ∀ target, r.tree.childOrFirst g .label = some target →
        ((∃ value, LeadsNowhere ⟨files, r⟩ g target value) →
          (foundAt .seqNotFound (findings files r levels)).count target = 1) ∧
        ((¬∃ value, LeadsNowhere ⟨files, r⟩ g target value) →
          (foundAt .seqNotFound (findings files r levels)).count target = 0)) ∧
    (∃ others missing, findings files r levels = others ++ missing ∧
      (∀ f ∈ others, f.rule ≠ .seqNotFound) ∧ ∀ f ∈ missing, f.rule = .seqNotFound) ∧
    ∃ gs : List NodeId, gs.Sublist (gotosByProgram r.tree) ∧
      (foundAt .seqNotFound (findings files r levels)).map some =
        gs.map (r.tree.childOrFirst · .label) := by
  have hrooted := h.toRooted
  let c : Context := ⟨files, r⟩
  have hmem : ∀ target, target ∈ foundAt .seqNotFound (findings files r levels) ↔ _ :=
    fun target => mem_foundAt_seqNotFound (c := c) hrooted hlevel
  have hnodup : (foundAt .seqNotFound (findings files r levels)).Nodup :=
    nodup_foundAt_seqNotFound (c := c) hrooted hlevel
  refine ⟨fun g hg hkind target htarget => ⟨fun hnowhere => ?_, fun hsomewhere => ?_⟩, ?_,
    _, List.filter_sublist, map_foundAt_seqNotFound (c := c) hrooted hlevel⟩
  · refine List.count_eq_one_of_mem hnodup ((hmem target).mpr ?_)
    exact ⟨g, hg, hkind, htarget, hnowhere⟩
  · refine List.count_eq_zero_of_not_mem fun hfound => hsomewhere ?_
    obtain ⟨g', -, -, htarget', hnowhere⟩ := (hmem target).mp hfound
    -- what is named has one parent
    have hparent := hrooted.parent_of_mem (Tree.mem_children_of_childOrFirst htarget)
    rw [hrooted.parent_of_mem (Tree.mem_children_of_childOrFirst htarget')] at hparent
    cases hparent
    exact hnowhere
  · refine ⟨(scan ⟨files, r⟩ {} (visited r.tree)).filterMap (·.finding? r.tree levels),
      ((gotosByProgram r.tree).flatMap (gotoReports r.tree (finalFacts ⟨files, r⟩))).filterMap
        (·.finding? r.tree levels), ?_, ?_, ?_⟩
    · rw [findings_eq, reports_eq ⟨files, r⟩ hrooted, List.filterMap_append]
      rfl
    · intro f hf
      obtain ⟨p, hp, hfound⟩ := List.mem_filterMap.mp hf
      rw [Report.rule_of_finding? hfound]
      exact rule_ne_of_mem_scan hp
    · intro f hf
      obtain ⟨p, hp, hfound⟩ := List.mem_filterMap.mp hf
      obtain ⟨g, -, hp⟩ := List.mem_flatMap.mp hp
      rw [Report.rule_of_finding? hfound]
      exact (of_mem_gotoReports hp).1

/-- A label for `N10` and a constant of value `40`; a program that jumps to `10`, to `30`, to the
label and to the constant, with a number `N10` behind the jumps, in a condition in a loop; and
another program that jumps to `10`. -/
def jumpingFile : Record :=
  { uri := "main.src"
    includes := []
    tree :=
      { source := "A N10 B 40 10 30 A B N10 10"
        nodes := #[
          { kind := .file .program, span := ⟨0, 27⟩, children := [1, 4, 7, 21] },
          { kind := .labelDef, span := ⟨0, 5⟩, parent := some 0, children := [2, 3],
            link := some { id := 0 } },
          { kind := .label, span := ⟨0, 1⟩, field := some .name, parent := some 1 },
          { kind := .numeric, span := ⟨2, 5⟩, field := some .value, parent := some 1 },
          { kind := .varDef, span := ⟨6, 10⟩, parent := some 0, children := [5, 6],
            link := some { id := 1 } },
          { kind := .symbol, span := ⟨6, 7⟩, field := some .name, parent := some 4 },
          { kind := .numeric, span := ⟨8, 10⟩, field := some .value, parent := some 4 },
          { kind := .function, span := ⟨11, 24⟩, parent := some 0,
            children := [8, 10, 12, 14, 16] },
          { kind := .goto, span := ⟨11, 13⟩, parent := some 7, children := [9] },
          { kind := .numeric, span := ⟨11, 13⟩, field := some .label, parent := some 8 },
          { kind := .goto, span := ⟨14, 16⟩, parent := some 7, children := [11] },
          { kind := .numeric, span := ⟨14, 16⟩, field := some .label, parent := some 10 },
          { kind := .goto, span := ⟨17, 18⟩, parent := some 7, children := [13] },
          { kind := .label, span := ⟨17, 18⟩, field := some .label, parent := some 12 },
          { kind := .goto, span := ⟨19, 20⟩, parent := some 7, children := [15] },
          { kind := .symbol, span := ⟨19, 20⟩, field := some .label, parent := some 14 },
          { kind := .whileLoop, span := ⟨21, 24⟩, parent := some 7, children := [17] },
          { kind := .ifBlock, span := ⟨21, 24⟩, parent := some 16, children := [18] },
          { kind := .thenBranch, span := ⟨21, 24⟩, parent := some 17, children := [19] },
          { kind := .sequenceNumber, span := ⟨21, 24⟩, parent := some 18, children := [20] },
          { kind := .numeric, span := ⟨21, 24⟩, field := some .number, parent := some 19 },
          { kind := .function, span := ⟨25, 27⟩, parent := some 0, children := [22] },
          { kind := .goto, span := ⟨25, 27⟩, parent := some 21, children := [23] },
          { kind := .numeric, span := ⟨25, 27⟩, field := some .label, parent := some 22 }]
        declarations := #[
          ⟨.label, "A", 1, some 2, some 3, some "N10", .numeric⟩,
          ⟨.var, "B", 4, some 5, some 6, some "40", .constant⟩] } }

theorem formed_jumpingFile : jumpingFile.tree.Formed :=
  (Tree.defect?_eq_none_iff.mp (by decide)).toFormed

/-- What the gotos of the file name, and whether there is such a place in their programs. -/
theorem jumps_jumpingFile :
    let facts := finalFacts ⟨({} : Workspace).resolver, jumpingFile⟩
    let jumps := fun (g target : NodeId) (v : String) (reachable : Bool) =>
      g ∈ visited jumpingFile.tree ∧ jump facts jumpingFile.tree target = .checked (some v) ∧
        isReachable facts (programOf jumpingFile.tree g) (some v) = reachable
    jumps 8 9 "10" true ∧ jumps 10 11 "30" false ∧ jumps 12 13 "N10" true ∧
      jumps 14 15 "40" false ∧ jumps 22 23 "10" false := by
  decide

/-- The first number is found behind the goto, with a letter in front, and so is what the label
stands for.  There is neither `30` nor what the constant stands for, and the number of one program
is no place of the other. -/
theorem gotos_checked_jumpingFile :
    jumpingFile.tree.Formed ∧ strict.level .seqNotFound ≠ .ignore ∧
      let missing := foundAt .seqNotFound (findings ({} : Workspace).resolver jumpingFile strict)
      missing.count 9 = 0 ∧ missing.count 11 = 1 ∧ missing.count 13 = 0 ∧
        missing.count 15 = 1 ∧ missing.count 23 = 1 := by
  have hlevel : strict.level .seqNotFound ≠ .ignore := by decide
  obtain ⟨hchecked, -, -⟩ :=
    gotos_checked formed_jumpingFile ({} : Workspace).resolver hlevel
  obtain ⟨hten, hthirty, hlabel, hconstant, hother⟩ := jumps_jumpingFile
  refine ⟨formed_jumpingFile, hlevel, (hchecked 8 hten.1 rfl 9 rfl).2 ?_,
    (hchecked 10 hthirty.1 rfl 11 rfl).1 ?_, (hchecked 12 hlabel.1 rfl 13 rfl).2 ?_,
    (hchecked 14 hconstant.1 rfl 15 rfl).1 ?_, (hchecked 22 hother.1 rfl 23 rfl).1 ?_⟩
  · rw [exists_leadsNowhere_iff hten.2.1]
    exact ne_false_of_eq_true hten.2.2
  · exact (exists_leadsNowhere_iff hthirty.2.1).mpr hthirty.2.2
  · rw [exists_leadsNowhere_iff hlabel.2.1]
    exact ne_false_of_eq_true hlabel.2.2
  · exact (exists_leadsNowhere_iff hconstant.2.1).mpr hconstant.2.2
  · exact (exists_leadsNowhere_iff hother.2.1).mpr hother.2.2

end Lint
end NcInsight
