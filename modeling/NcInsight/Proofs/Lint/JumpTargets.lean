import NcInsight.Proofs.Lint.Includes

/-
Places to jump to, and those that a program has twice.

A sequence number marks a place, and so do a label in a body and a variable that stands for a
sequence number (`Marks`).  Lint keeps the first mark of each value in each program, and holds every
mark against what it kept.  That is to hold it against all marks in front of it (`Kept`), so the
findings are read off the marks alone (`filter_scan`), and the marks of one program say nothing about
another (`filter_duplicates`).
-/
namespace NcInsight
namespace Lint

/-- All that is known behind some nodes. -/
def known (c : Context) (before : List NodeId) : Facts := before.foldl (Facts.advance c) {}

/-! ## Marks -/

/-- A mark of a place to jump to, with the node that is named if the mark is one too many. -/
structure Occurrence where
  anchor : NodeId
  value : String
  kind : EntryKind
  deriving DecidableEq, Repr

namespace Occurrence

def program (t : Tree) (o : Occurrence) : NodeId := programOf t o.anchor

def entry (t : Tree) (o : Occurrence) : Entry := ⟨o.program t, o.value, o.kind⟩

end Occurrence

/-- Node `id`, visited behind the nodes `before`, marks a place. -/
inductive Marks (c : Context) (before : List NodeId) (id : NodeId) : Occurrence → Prop
  | number {n : NodeId} (hkind : c.tree.kind id = .sequenceNumber)
      (hnumber : numberNode c.tree id = some n) :
      Marks c before id ⟨n, Text.stripJump (c.tree.text n), .sequence⟩
  | label {d : Declaration} {v : String} (hkind : c.tree.kind id = .label)
      (hplace : isJumpPosition c.tree id = true)
      (hdeclared : (known c before).resolve c.tree id = some d) (hvalue : d.valueText = some v) :
      Marks c before id ⟨id, Text.stripJump v, .label⟩
  | var {d : Declaration} {v : String} (hkind : c.tree.kind id = .var)
      (hdeclared : (known c before).resolve c.tree id = some d) (htype : d.valueType = .sequence)
      (hvalue : d.valueText = some v) :
      Marks c before id ⟨id, Text.stripJump v, .label⟩

/-- The mark that a node makes, given what is known. -/
def occurrence? (f : Facts) (t : Tree) (id : NodeId) : Option Occurrence :=
  (entryOf f t id).map fun s => ⟨s.1, s.2.value, s.2.kind⟩

/-- The marks of the nodes in order, from the facts known before them. -/
def occurrencesAlong (c : Context) : Facts → List NodeId → List Occurrence
  | _, [] => []
  | f, id :: ids =>
      (occurrence? f c.tree id).toList ++ occurrencesAlong c (f.advance c id) ids

/-- The marks in a file, in the order in which they are met. -/
def occurrences (c : Context) : List Occurrence := occurrencesAlong c {} (visited c.tree)

theorem entryOf_eq (f : Facts) (t : Tree) (id : NodeId) :
    entryOf f t id = (occurrence? f t id).map fun o => (o.anchor, o.entry t) := by
  have hat : ∀ s, entryOf f t id = some s → s.2.program = programOf t s.1 := by
    intro s hs
    rw [entryOf] at hs
    split at hs
    · obtain ⟨n, -, rfl⟩ := Option.map_eq_some_iff.mp hs
      rfl
    · split at hs
      · obtain ⟨v, -, rfl⟩ := Option.map_eq_some_iff.mp hs
        rfl
      · cases hs
    · split at hs
      · split at hs
        · obtain ⟨v, -, rfl⟩ := Option.map_eq_some_iff.mp hs
          rfl
        · cases hs
      · cases hs
    · cases hs
  rw [occurrence?]
  cases hs : entryOf f t id with
  | none => rfl
  | some s =>
      have hprogram := hat s hs
      obtain ⟨anchor, program, value, kind⟩ := s
      simp only at hprogram
      simp [Occurrence.entry, Occurrence.program, hprogram]

theorem occurrence?_eq_some_iff {c : Context} {before : List NodeId} {id : NodeId}
    {o : Occurrence} :
    occurrence? (known c before) c.tree id = some o ↔ Marks c before id o := by
  constructor
  · intro h
    obtain ⟨s, hs, rfl⟩ := Option.map_eq_some_iff.mp h
    rw [entryOf] at hs
    split at hs
    all_goals rename_i hkind
    · obtain ⟨n, hn, rfl⟩ := Option.map_eq_some_iff.mp hs
      exact .number hkind hn
    · split at hs
      case isTrue hplace =>
        obtain ⟨v, hv, rfl⟩ := Option.map_eq_some_iff.mp hs
        obtain ⟨d, hd, hvalue⟩ := Option.bind_eq_some_iff.mp hv
        exact .label hkind hplace hd hvalue
      · cases hs
    · split at hs
      case h_1 d hd =>
        split at hs
        case isTrue htype =>
          obtain ⟨v, hv, rfl⟩ := Option.map_eq_some_iff.mp hs
          exact .var hkind hd htype hv
        · cases hs
      · cases hs
    · cases hs
  · intro h
    cases h with
    | number hkind hn => simp [occurrence?, entryOf, entryAt, hkind, hn]
    | label hkind hplace hd hv =>
        simp [occurrence?, entryOf, entryAt, hkind, hplace, Facts.valueOf, hd, hv]
    | var hkind hd htype hv => simp [occurrence?, entryOf, entryAt, hkind, hd, htype, hv]

theorem mem_occurrencesAlong {c : Context} {ids : List NodeId} {f : Facts} {o : Occurrence} :
    o ∈ occurrencesAlong c f ids ↔ ∃ id before after, ids = before ++ id :: after ∧
      occurrence? (before.foldl (Facts.advance c) f) c.tree id = some o := by
  induction ids generalizing f with
  | nil => simp [occurrencesAlong]
  | cons x ids ih =>
      rw [occurrencesAlong, List.mem_append, Option.mem_toList, ih]
      simp only [exists_split_cons, exists_or, List.foldl_nil, List.foldl_cons]
      refine or_congr ?_ Iff.rfl
      constructor
      · exact fun h => ⟨x, rfl, h⟩
      · rintro ⟨id, rfl, h⟩
        exact h

/-- A mark is met where a node makes it, by what is known there. -/
theorem mem_occurrences {c : Context} {o : Occurrence} :
    o ∈ occurrences c ↔
      ∃ id before after, visited c.tree = before ++ id :: after ∧ Marks c before id o := by
  rw [occurrences, mem_occurrencesAlong]
  simp only [← occurrence?_eq_some_iff]
  exact Iff.rfl

/-! ## Marks that a program has twice -/

/-- The rules about places that a program has twice. -/
def targetRules : List Rule := [.duplicateSequence, .duplicateLabel, .duplicateLabelSequence]

/-- The rule that a mark breaks behind earlier ones.  The first one of its value in its program
decides. -/
def brokenRule? (t : Tree) (earlier : List Occurrence) (o : Occurrence) : Option Rule :=
  (earlier.find? fun e => e.program t == o.program t && e.value == o.value).map fun first =>
    if first.kind ≠ o.kind then .duplicateLabelSequence
    else if o.kind = .sequence then .duplicateSequence
    else .duplicateLabel

/-- What is wrong with a mark behind earlier ones. -/
def verdict? (t : Tree) (earlier : List Occurrence) (o : Occurrence) : Option Report :=
  (brokenRule? t earlier o).map fun ρ => ⟨ρ, o.anchor, some o.value⟩

/-- What is wrong with the marks of the second list, behind those of the first. -/
def duplicates (t : Tree) : List Occurrence → List Occurrence → List Report
  | _, [] => []
  | earlier, o :: os => (verdict? t earlier o).toList ++ duplicates t (earlier ++ [o]) os

theorem duplicateRule_eq (first later : EntryKind) : duplicateRule first later =
    if first ≠ later then .duplicateLabelSequence
    else if later = .sequence then .duplicateSequence
    else .duplicateLabel := by
  cases first <;> cases later <;> rfl

/-- A verdict is about the mark itself, so its place and value pick it or leave it. -/
theorem filter_verdict? (t : Tree) (earlier : List Occurrence) (o : Occurrence)
    (q : NodeId → Option String → Bool) :
    ((verdict? t earlier o).toList.filter fun p => q p.node p.detail) =
      if q o.anchor (some o.value) then (verdict? t earlier o).toList else [] := by
  rw [verdict?]
  cases brokenRule? t earlier o with
  | none => simp
  | some ρ => simp [List.filter_cons]

/-! ## What lint keeps -/

/-- For each program and value the entries have what the first mark of it says. -/
def Kept (t : Tree) (es : List Entry) (earlier : List Occurrence) : Prop :=
  ∀ program value, (es.find? fun e => e.program == program && e.value == value) =
    (earlier.find? fun o => o.program t == program && o.value == value).map (·.entry t)

theorem kept_start (t : Tree) : Kept t ({} : Facts).entries [] := fun _ _ => rfl

theorem Kept.concat {t : Tree} {es : List Entry} {earlier : List Occurrence}
    (h : Kept t es earlier) (o : Occurrence) :
    Kept t (if (es.find? fun e => e.program == o.program t && e.value == o.value).isSome then es
      else es ++ [o.entry t]) (earlier ++ [o]) := by
  intro program value
  rw [List.find?_append, Option.map_or, ← h program value]
  by_cases hsame : o.program t = program ∧ o.value = value
  · obtain ⟨rfl, rfl⟩ := hsame
    split
    case isTrue hsome => rw [Option.or_of_isSome hsome]
    · rw [List.find?_append]
      simp [Occurrence.entry]
  · -- a mark of another value or program is not looked at
    have hskip : (o.program t == program && o.value == value) = false := by
      simpa using hsame
    have hentry : ((o.entry t).program == program && (o.entry t).value == value) = false := hskip
    rw [List.find?_cons_of_neg (by simp [hskip]), List.find?_nil, Option.map_none, Option.or_none]
    split
    · rfl
    · rw [List.find?_append, List.find?_cons_of_neg (by simp [hentry]), List.find?_nil,
        Option.or_none]

theorem entries_addEntry (f : Facts) (t : Tree) (id : NodeId) : (f.addEntry t id).entries =
    match occurrence? f t id with
    | none => f.entries
    | some o => if (f.entry? (o.program t) o.value).isSome then f.entries
        else f.entries ++ [o.entry t] := by
  rw [Facts.addEntry, entryOf_eq]
  cases occurrence? f t id with
  | none => rfl
  | some o =>
      simp only [Option.map_some]
      show Facts.entries (if (f.entry? (o.program t) o.value).isSome then f else _) = _
      split <;> rfl

theorem occurrence?_of_kind {f : Facts} {t : Tree} {id : NodeId}
    (h : t.kind id ∉ Rule.duplicateLabel.kinds) : occurrence? f t id = none := by
  rw [occurrence?, entryOf]
  cases hkind : t.kind id <;> first | rfl | (rw [hkind] at h; exact absurd (by decide) h)

/-- Nodes of other kinds mark no place. -/
theorem entries_advance (c : Context) (f : Facts) (id : NodeId) :
    (f.advance c id).entries = (f.addEntry c.tree id).entries := by
  have hother : c.tree.kind id ∉ Rule.duplicateLabel.kinds →
      (f.addEntry c.tree id).entries = f.entries := by
    intro hkind
    rw [entries_addEntry, occurrence?_of_kind hkind]
  unfold Facts.advance
  simp only
  split
  all_goals rename_i hkind
  · rw [hother (by rw [hkind]; decide)]
    split <;> rfl
  · rw [hother (by rw [hkind]; decide)]
    split <;> rfl
  · rw [hother (by rw [hkind]; decide)]
    split <;> rfl
  · rw [hother (by rw [hkind]; decide)]
    split
    · split <;> rfl
    · rfl
  · rw [hother (by rw [hkind]; decide)]
  · rfl
  · rfl
  · rfl
  · rw [hother]
    simp only [Rule.kinds, List.mem_cons, List.not_mem_nil, or_false]
    rintro (h | h | h)
    all_goals simp_all

/-- Step lemma: what is kept goes on to say the first mark of each value. -/
theorem Kept.advance {c : Context} {f : Facts} {earlier : List Occurrence}
    (h : Kept c.tree f.entries earlier) (id : NodeId) :
    Kept c.tree (f.advance c id).entries (earlier ++ (occurrence? f c.tree id).toList) := by
  rw [entries_advance, entries_addEntry]
  cases occurrence? f c.tree id with
  | none =>
      rw [Option.toList_none, List.append_nil]
      exact h
  | some o => exact h.concat o

theorem entryReports_of_kept {t : Tree} {f : Facts} {earlier : List Occurrence}
    (h : Kept t f.entries earlier) (id : NodeId) :
    entryReports t f id =
      (occurrence? f t id).toList.flatMap fun o => (verdict? t earlier o).toList := by
  rw [entryReports, entryOf_eq]
  cases occurrence? f t id with
  | none => rfl
  | some o =>
      have hfirst : f.entry? (o.entry t).program (o.entry t).value =
          (earlier.find? fun e => e.program t == o.program t && e.value == o.value).map
            (·.entry t) := h _ _
      simp only [Option.map_some, hfirst, Option.toList_some, List.flatMap_singleton, verdict?,
        brokenRule?]
      cases earlier.find? fun e => e.program t == o.program t && e.value == o.value with
      | none => rfl
      | some first =>
          simp only [Option.map_some, Option.toList_some, duplicateRule_eq]
          rfl

/-- No other rule is about places that a program has twice. -/
theorem filter_reportsAt (c : Context) (f : Facts) (id : NodeId) :
    (reportsAt c f id).filter (·.rule ∈ targetRules) = entryReports c.tree f id := by
  have hall : (entryReports c.tree f id).filter (·.rule ∈ targetRules) =
      entryReports c.tree f id := by
    refine List.filter_eq_self.mpr fun p hp => ?_
    have hkinds := (of_mem_entryReports hp).1
    cases hrule : p.rule <;> rw [hrule] at hkinds <;> first | rfl | cases hkinds
  by_cases hkind : c.tree.kind id ∈ Rule.duplicateLabel.kinds
  · simp only [Rule.kinds, List.mem_cons, List.not_mem_nil, or_false] at hkind
    rcases hkind with hkind | hkind | hkind
    · simp only [reportsAt, hkind]
      exact hall
    · simp only [reportsAt, hkind]
      exact hall
    · simp only [reportsAt, hkind, varReports, List.filter_append, hall]
      split <;> rfl
  · have hnone : entryReports c.tree f id = [] := by
      rw [entryReports, entryOf_eq, occurrence?_of_kind hkind]
      rfl
    rw [hnone]
    refine List.filter_eq_nil_iff.mpr fun p hp hrule => hkind ?_
    have habout := (madeAt_reportsAt hp).about
    simp only [targetRules, List.mem_cons, List.not_mem_nil, or_false, decide_eq_true_eq] at hrule
    rcases hrule with hrule | hrule | hrule
    all_goals
      rw [hrule] at habout
      exact habout

/-- Run lemma: along any nodes, what is said of places that a program has twice is what is wrong
with the marks, and what is kept says the first of them. -/
theorem filter_scan {c : Context} (ids : List NodeId) {f : Facts} {earlier : List Occurrence}
    (h : Kept c.tree f.entries earlier) :
    (scan c f ids).filter (·.rule ∈ targetRules) =
        duplicates c.tree earlier (occurrencesAlong c f ids) ∧
      Kept c.tree (ids.foldl (Facts.advance c) f).entries
        (earlier ++ occurrencesAlong c f ids) := by
  induction ids generalizing f earlier with
  | nil =>
      rw [occurrencesAlong, List.append_nil]
      exact ⟨rfl, h⟩
  | cons id ids ih =>
      obtain ⟨hscan, hkept⟩ := ih (h.advance id)
      rw [scan, List.filter_append, filter_reportsAt, entryReports_of_kept h, hscan,
        List.foldl_cons, occurrencesAlong, ← List.append_assoc]
      refine ⟨?_, hkept⟩
      cases occurrence? f c.tree id with
      | none => simp
      | some o => simp [duplicates]

theorem kept_finalFacts (c : Context) :
    Kept c.tree (finalFacts c).entries (occurrences c) :=
  (filter_scan (visited c.tree) (kept_start c.tree)).2

/-- At the end a program has a place exactly if one of its marks has the value. -/
theorem isSome_entry?_finalFacts {c : Context} {program : NodeId} {value : String} :
    ( Facts.entry? (finalFacts c) program value).isSome = true ↔
      ∃ o ∈ occurrences c, o.program c.tree = program ∧ o.value = value := by
  have hkept : Facts.entry? (finalFacts c) program value = _ := kept_finalFacts c program value
  rw [hkept, Option.isSome_map, List.find?_isSome]
  simp

/-- What is kept of a program has no value twice. -/
theorem nodup_entries (c : Context) (ids : List NodeId) (program : NodeId) :
    (((known c ids).entries.filter (·.program == program)).map (·.value)).Nodup := by
  have hrun : ∀ (ids : List NodeId) (f : Facts),
      f.entries.Pairwise (fun a b => ¬(a.program = b.program ∧ a.value = b.value)) →
        (ids.foldl (Facts.advance c) f).entries.Pairwise
          fun a b => ¬(a.program = b.program ∧ a.value = b.value) := by
    intro ids
    induction ids with
    | nil => exact fun f h => h
    | cons id ids ih =>
        intro f h
        refine ih (f.advance c id) ?_
        rw [entries_advance, entries_addEntry]
        split
        · exact h
        · split
          · exact h
          case isFalse o _ hnew =>
            -- the new entry has a value that none of its program has
            refine List.pairwise_append.mpr ⟨h, List.pairwise_singleton _ _, fun e he x hx => ?_⟩
            rw [List.mem_singleton.mp hx]
            intro hsame
            apply hnew
            rw [Facts.entry?, List.find?_isSome]
            refine ⟨e, he, ?_⟩
            simpa [Occurrence.entry] using hsame
  have hpairwise := (hrun ids {} List.Pairwise.nil).filter (·.program == program)
  rw [List.Nodup, List.pairwise_map]
  refine hpairwise.imp_of_mem fun {a b} ha hb hne hvalue => hne ⟨?_, hvalue⟩
  rw [eq_of_beq (List.mem_filter.mp ha).2, eq_of_beq (List.mem_filter.mp hb).2]

/-! ## Programs and values apart -/

/-- The marks of a program are judged as if there were no others. -/
theorem filter_duplicates (t : Tree) (program : NodeId) (earlier os : List Occurrence) :
    (duplicates t earlier os).filter (fun p => programOf t p.node == program) =
      duplicates t (earlier.filter fun o => o.program t == program)
        (os.filter fun o => o.program t == program) := by
  induction os generalizing earlier with
  | nil => rfl
  | cons o os ih =>
      have hverdict : ((verdict? t earlier o).toList.filter fun p =>
          programOf t p.node == program) =
            if o.program t == program then (verdict? t earlier o).toList else [] :=
        filter_verdict? t earlier o fun n _ => programOf t n == program
      rw [duplicates, List.filter_append, ih, List.filter_append, hverdict]
      by_cases ho : o.program t = program
      · have hsame : verdict? t (earlier.filter fun e => e.program t == program) o =
            verdict? t earlier o := by
          rw [verdict?, verdict?, brokenRule?, brokenRule?, List.find?_filter, ho]
          congr 3
          funext e
          cases e.program t == program <;> simp [beq_eq_decide]
        rw [if_pos (by simpa using ho), List.filter_cons_of_pos (by simpa using ho),
          List.filter_cons_of_pos (by simpa using ho), List.filter_nil, duplicates, hsame]
      · rw [if_neg (by simpa using ho), List.filter_cons_of_neg (by simpa using ho),
          List.filter_cons_of_neg (by simpa using ho), List.filter_nil, List.append_nil,
          List.nil_append]

/-- Of the marks of a value in a program all are one too many but the first. -/
theorem length_duplicates (t : Tree) (program : NodeId) (value : String)
    (earlier os : List Occurrence) :
    ((duplicates t earlier os).filter fun p =>
        programOf t p.node == program && p.detail == some value).length =
      (os.filter fun o => o.program t == program && o.value == value).length -
        if (earlier.find? fun o => o.program t == program && o.value == value).isSome
        then 0 else 1 := by
  induction os generalizing earlier with
  | nil => simp [duplicates]
  | cons o os ih =>
      have hverdict : ((verdict? t earlier o).toList.filter fun p =>
          programOf t p.node == program && p.detail == some value) =
            if o.program t == program && some o.value == some value
            then (verdict? t earlier o).toList else [] :=
        filter_verdict? t earlier o fun n d => programOf t n == program && d == some value
      rw [duplicates, List.filter_append, List.length_append, ih, hverdict, List.find?_append]
      by_cases ho : o.program t = program ∧ o.value = value
      · obtain ⟨rfl, rfl⟩ := ho
        -- the mark is judged by the first of the earlier ones, if there is one
        rw [if_pos (by simp), List.filter_cons_of_pos (by simp), List.length_cons, verdict?,
          brokenRule?]
        cases earlier.find? fun e => e.program t == o.program t && e.value == o.value with
        | none => simp
        | some first =>
            simp only [Option.map_some, Option.toList_some, List.length_singleton,
              Option.some_or, Option.isSome_some, if_true]
            omega
      · rw [if_neg (by simpa using ho), List.filter_cons_of_neg (by simpa using ho),
          List.find?_cons_of_neg (by simpa using ho), List.find?_nil, Option.or_none,
          List.length_nil, Nat.zero_add]

/-! ## Findings -/

/-- A finding is picked by its rule, node and detail exactly if its report is. -/
theorem filter_findings (t : Tree) (levels : Levels) (q : Rule → NodeId → Option String → Bool)
    (ps : List Report) :
    ((ps.filterMap (·.finding? t levels)).filter fun f => q f.rule f.node f.detail) =
      (ps.filter fun p => q p.rule p.node p.detail).filterMap (·.finding? t levels) := by
  rw [List.filter_filterMap, List.filterMap_filter]
  refine List.filterMap_congr fun p _ => ?_
  cases hf : p.finding? t levels with
  | none => simp
  | some f =>
      rw [Option.filter_some, (Report.finding?_eq_some hf).2]

/-- What is said of places that a program has twice is what is wrong with the marks. -/
theorem filter_reports (c : Context) :
    (reports c).filter (·.rule ∈ targetRules) = duplicates c.tree [] (occurrences c) := by
  have hgotos : ((orderedGotos c.tree (finalFacts c)).flatMap
      (gotoReports c.tree (finalFacts c))).filter (·.rule ∈ targetRules) = [] := by
    refine List.filter_eq_nil_iff.mpr fun p hp => ?_
    obtain ⟨id, -, hp⟩ := List.mem_flatMap.mp hp
    rw [(of_mem_gotoReports hp).1]
    decide
  rw [reports, List.filter_append, hgotos, List.append_nil]
  exact (filter_scan (visited c.tree) (kept_start c.tree)).1

/-- The findings about places that a program has twice, and of them those with some nodes and
details. -/
theorem filter_findings_target (files : Resolver) (r : Record) (levels : Levels)
    (q : NodeId → Option String → Bool) :
    ((findings files r levels).filter fun f => f.rule ∈ targetRules ∧ q f.node f.detail) =
      ((duplicates r.tree [] (occurrences ⟨files, r⟩)).filter fun p =>
        q p.node p.detail).filterMap (·.finding? r.tree levels) := by
  have hpick := filter_findings r.tree levels (fun ρ n d => ρ ∈ targetRules ∧ q n d)
    (reports ⟨files, r⟩)
  have hreports : (reports ⟨files, r⟩).filter (·.rule ∈ targetRules) =
      duplicates r.tree [] (occurrences ⟨files, r⟩) := filter_reports ⟨files, r⟩
  rw [findings_eq, hpick, ← hreports, List.filter_filter]
  congr 2
  funext p
  simp [Bool.and_comm]

theorem findings_target (files : Resolver) (r : Record) (levels : Levels) :
    ((findings files r levels).filter fun f => f.rule ∈ targetRules) =
      (duplicates r.tree [] (occurrences ⟨files, r⟩)).filterMap (·.finding? r.tree levels) := by
  have hall := filter_findings_target files r levels fun _ _ => true
  simpa using hall

/-- Places that a program has twice are classified exactly.  The marks of places are the numbers of
sequence numbers, the labels in bodies that have a value, and the variables that stand for a
sequence number, in the order of the walk.  A mark is found once if its program has an earlier mark
of its value, and by the rule that the kinds of the two give, the first of the earlier ones being
the other; else it is not found.  The marks of a program are judged as if there were no other
program.  At no time are two entries of one value kept for a program, and of the marks of a value in
a program all are found but one. -/
theorem targets_classified (files : Resolver) (r : Record) (levels : Levels) :
    (∀ o, o ∈ occurrences ⟨files, r⟩ ↔ ∃ id before after,
      visited r.tree = before ++ id :: after ∧ Marks ⟨files, r⟩ before id o) ∧
    ((findings files r levels).filter fun f => f.rule ∈ targetRules) =
      (duplicates r.tree [] (occurrences ⟨files, r⟩)).filterMap (·.finding? r.tree levels) ∧
    (∀ program, ((findings files r levels).filter fun f =>
        f.rule ∈ targetRules ∧ programOf r.tree f.node = program) =
      (duplicates r.tree [] ((occurrences ⟨files, r⟩).filter fun o =>
        o.program r.tree = program)).filterMap (·.finding? r.tree levels)) ∧
    (∀ before after, visited r.tree = before ++ after → ∀ program,
      (((known ⟨files, r⟩ before).entries.filter (·.program = program)).map (·.value)).Nodup) ∧
    ((∀ ρ ∈ targetRules, levels.level ρ ≠ .ignore) → ∀ program value,
      ((findings files r levels).filter fun f => f.rule ∈ targetRules ∧
        programOf r.tree f.node = program ∧ f.detail = some value).length =
      ((occurrences ⟨files, r⟩).filter fun o =>
        o.program r.tree = program ∧ o.value = value).length - 1) := by
  refine ⟨fun o => mem_occurrences, findings_target files r levels, fun program => ?_,
    fun before _ _ program => ?_, fun hlevels program value => ?_⟩
  · have hprogram := filter_findings_target files r levels fun n _ =>
      programOf r.tree n == program
    rw [filter_duplicates] at hprogram
    simpa [beq_eq_decide] using hprogram
  · simpa [beq_eq_decide] using nodup_entries ⟨files, r⟩ before program
  · have hvalue := filter_findings_target files r levels fun n d =>
      programOf r.tree n == program && d == some value
    have hlength := length_duplicates r.tree program value [] (occurrences ⟨files, r⟩)
    have hfound : ∀ p ∈ (duplicates r.tree [] (occurrences ⟨files, r⟩)).filter (fun p =>
        programOf r.tree p.node == program && p.detail == some value),
          (p.finding? r.tree levels).isSome = true := by
      intro p hp
      have hmem : p ∈ (reports ⟨files, r⟩).filter (·.rule ∈ targetRules) :=
        filter_reports ⟨files, r⟩ ▸ List.mem_of_mem_filter hp
      exact Report.isSome_finding? r.tree
        (hlevels p.rule (of_decide_eq_true (List.mem_filter.mp hmem).2))
    have hcount := congrArg List.length hvalue
    rw [List.filterMap_length_eq_length.mpr hfound, hlength] at hcount
    simpa [beq_eq_decide] using hcount

/-- A program of one value that a sequence number has twice and a label has too, and another program
that has it once. -/
def crowdedFile : Record :=
  { uri := "main.src"
    includes := []
    tree :=
      { source := "A N10 10 10 A 10"
        nodes := #[
          { kind := .file .program, span := ⟨0, 16⟩, children := [1, 4, 10] },
          { kind := .labelDef, span := ⟨0, 5⟩, parent := some 0, children := [2, 3],
            link := some { id := 0 } },
          { kind := .label, span := ⟨0, 1⟩, field := some .name, parent := some 1 },
          { kind := .numeric, span := ⟨2, 5⟩, field := some .value, parent := some 1 },
          { kind := .function, span := ⟨6, 13⟩, parent := some 0, children := [5, 7, 9] },
          { kind := .sequenceNumber, span := ⟨6, 8⟩, parent := some 4, children := [6] },
          { kind := .numeric, span := ⟨6, 8⟩, field := some .number, parent := some 5 },
          { kind := .sequenceNumber, span := ⟨9, 11⟩, parent := some 4, children := [8] },
          { kind := .numeric, span := ⟨9, 11⟩, field := some .number, parent := some 7 },
          { kind := .label, span := ⟨12, 13⟩, parent := some 4 },
          { kind := .function, span := ⟨14, 16⟩, parent := some 0, children := [11] },
          { kind := .sequenceNumber, span := ⟨14, 16⟩, parent := some 10, children := [12] },
          { kind := .numeric, span := ⟨14, 16⟩, field := some .number, parent := some 11 }]
        declarations := #[⟨.label, "A", 1, some 2, some 3, some "N10", .numeric⟩] } }

/-- The label has no link, and stands for what is declared in front of it. -/
theorem occurrences_crowdedFile :
    occurrences ⟨({} : Workspace).resolver, crowdedFile⟩ =
      [⟨6, "10", .sequence⟩, ⟨8, "10", .sequence⟩, ⟨9, "10", .label⟩, ⟨12, "10", .sequence⟩] := by
  decide

theorem targets_classified_crowdedFile :
    (∀ ρ ∈ targetRules, strict.level ρ ≠ .ignore) ∧
      ((findings ({} : Workspace).resolver crowdedFile strict).filter fun f =>
          f.rule ∈ targetRules ∧ programOf crowdedFile.tree f.node = 4 ∧
            f.detail = some "10").length = 2 ∧
      (findings ({} : Workspace).resolver crowdedFile strict).filter (fun f =>
          f.rule ∈ targetRules ∧ programOf crowdedFile.tree f.node = 10) = [] ∧
      ((findings ({} : Workspace).resolver crowdedFile strict).filter fun f =>
          f.rule ∈ targetRules).map (fun f => (f.node, f.rule)) =
        [(8, .duplicateSequence), (9, .duplicateLabelSequence)] := by
  have hlevels : ∀ ρ ∈ targetRules, strict.level ρ ≠ .ignore := by decide
  obtain ⟨-, hall, hprogram, -, hcount⟩ :=
    targets_classified ({} : Workspace).resolver crowdedFile strict
  rw [hcount hlevels, hprogram, hall, occurrences_crowdedFile]
  decide

end Lint
end NcInsight
