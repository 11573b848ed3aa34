import Mathlib.Data.List.Basic
import NcInsight.Lint.Report
import NcInsight.Tree.Builder

/-
A lint run, told apart into what the rules say and what the levels make of it.

The facts that a run gathers and the way it takes through the tree depend on the file and on what
it includes, never on the levels (`foldl_visit`).  So its findings are those of a list of reports
that is the same under all levels (`findings_eq`), and levels can only filter
(`levels_only_filter`).
-/
namespace NcInsight
namespace Lint

/-! ## What the rules say -/

/-- The nodes visited, in order. -/
def visited (t : Tree) : List NodeId := t.visits (fun id => !isCut t id) Tree.root

/-- The reports of the nodes in order, from the facts known before them. -/
def scan (c : Context) : Facts → List NodeId → List Report
  | _, [] => []
  | f, id :: ids => reportsAt c f id ++ scan c (f.advance c id) ids

/-- All that is known at the end. -/
def finalFacts (c : Context) : Facts := (visited c.tree).foldl (Facts.advance c) {}

/-- Everything the rules say about a file: node by node, and then the gotos. -/
def reports (c : Context) : List Report :=
  scan c {} (visited c.tree) ++
    (orderedGotos c.tree (finalFacts c)).flatMap (gotoReports c.tree (finalFacts c))

/-! ## What a run does -/

namespace Progress

theorem put_put (p : Progress) (t : Tree) (levels : Levels) (rs ss : List Report) :
    (p.put t levels rs).put t levels ss = p.put t levels (rs ++ ss) := by
  simp [put]

/-- The facts go their own way, and what is put down along the nodes is what the rules say. -/
theorem foldl_visit (c : Context) (levels : Levels) (ids : List NodeId) (p : Progress) :
    ids.foldl (fun p id => (p.visit c levels id).1) p =
      { p.put c.tree levels (scan c p.facts ids) with
        facts := ids.foldl (Facts.advance c) p.facts } := by
  induction ids generalizing p with
  | nil => simp [scan, put]
  | cons id ids ih =>
      rw [List.foldl_cons, ih]
      simp [visit, scan, put]

/-- Which nodes are met depends on the tree alone, so the walk is a pass over them. -/
theorem walk_visit (c : Context) (levels : Levels) :
    c.tree.walk (visit c levels) Tree.root {} =
      { ({} : Progress).put c.tree levels (scan c {} (visited c.tree)) with
        facts := finalFacts c } := by
  have hwalk : c.tree.walk (visit c levels) Tree.root {} =
      (visited c.tree).foldl (fun p id => (p.visit c levels id).1) {} :=
    c.tree.walkWithin_eq_foldl (fun id => !isCut c.tree id) (fun p id => (visit c levels id p).1)
      c.tree.size [Tree.root] {}
  rw [hwalk, foldl_visit]
  rfl

theorem foldl_gotoReports (t : Tree) (levels : Levels) (ids : List NodeId) (p : Progress) :
    ids.foldl (fun q id => q.put t levels (gotoReports t q.facts id)) p =
      p.put t levels (ids.flatMap (gotoReports t p.facts)) := by
  induction ids generalizing p with
  | nil => simp [put]
  | cons id ids ih =>
      have hfacts : (p.put t levels (gotoReports t p.facts id)).facts = p.facts := rfl
      rw [List.foldl_cons, ih, put_put, hfacts, List.flatMap_cons]

end Progress

/-- The findings are what the levels make of what the rules say. -/
theorem findings_eq (files : Resolver) (r : Record) (levels : Levels) :
    findings files r levels =
      (reports { files, record := r }).filterMap (·.finding? r.tree levels) := by
  let c : Context := { files, record := r }
  have hwalk := Progress.walk_visit c levels
  have htree : c.tree = r.tree := rfl
  rw [htree] at hwalk
  rw [findings, hwalk, Progress.checkGotos, Progress.foldl_gotoReports, Progress.put,
    Progress.put, List.nil_append, ← List.filterMap_append]
  rfl

end Lint

/-! ## Levels -/

/-- What is left of a finding under levels. -/
def Finding.under (levels : Levels) (f : Finding) : Option Finding :=
  (levels.level f.rule).severity?.map fun severity => { f with severity }

namespace Report

/-- A report under levels, from the report under levels that keep it. -/
theorem finding?_under {t : Tree} {r : Report} {e : Levels} (he : e.level r.rule = .error)
    (c : Levels) : (r.finding? t e).bind (Finding.under c) = r.finding? t c := by
  obtain ⟨rule, node, detail⟩ := r
  rw [finding?, he, finding?]
  cases detail <;> rfl

theorem rule_of_finding? {t : Tree} {r : Report} {c : Levels} {f : Finding}
    (h : r.finding? t c = some f) : f.rule = r.rule := by
  obtain ⟨severity, -, rfl⟩ := Option.map_eq_some_iff.mp h
  obtain ⟨rule, node, detail⟩ := r
  cases detail <;> rfl

/-- A level decides about the findings of its own rule only. -/
theorem filter_finding?_congr {c d : Levels} {ρ : Rule} (h : ∀ σ, σ ≠ ρ → c.level σ = d.level σ)
    (t : Tree) (r : Report) :
    (r.finding? t c).filter (·.rule ≠ ρ) = (r.finding? t d).filter (·.rule ≠ ρ) := by
  by_cases hρ : r.rule = ρ
  · have hnone (c : Levels) : (r.finding? t c).filter (·.rule ≠ ρ) = none := by
      refine Option.filter_eq_none_iff.mpr fun f hf => ?_
      simp [rule_of_finding? hf, hρ]
    rw [hnone c, hnone d]
  · rw [finding?, finding?, h r.rule hρ]

end Report

namespace Lint

/-- Levels only filter.  From the findings with every rule at error, levels drop those of the rules
they ignore and give each other one the severity of its rule, and that is all.  So the level of a
rule has no effect on the findings of the others. -/
theorem levels_only_filter (files : Resolver) (r : Record) (c : Levels) :
    (∀ e : Levels, (∀ ρ, e.level ρ = .error) →
      findings files r c = (findings files r e).filterMap (Finding.under c)) ∧
    ∀ (d : Levels) (ρ : Rule), (∀ σ, σ ≠ ρ → c.level σ = d.level σ) →
      (findings files r c).filter (·.rule ≠ ρ) = (findings files r d).filter (·.rule ≠ ρ) := by
  refine ⟨fun e he => ?_, fun d ρ hd => ?_⟩
  · rw [findings_eq, findings_eq, List.filterMap_filterMap]
    refine List.filterMap_congr fun p _ => ?_
    exact (p.finding?_under (he p.rule) c).symm
  · rw [findings_eq, findings_eq, List.filter_filterMap, List.filter_filterMap]
    refine List.filterMap_congr fun p _ => ?_
    exact p.filter_finding?_congr hd r.tree

/-- Every rule at error. -/
def strict : Levels := { entries := Rule.all.map fun ρ => (ρ.id, .error) }

theorem level_strict (ρ : Rule) : strict.level ρ = .error := by
  cases ρ <;> decide

/-- A file that declares one name twice with one value. -/
def twice : Record :=
  ({} : Workspace).record "file:///shop/twice.def" (.ofScript .definitions
    [.varDef "FEED" "10" .numeric, .trivia "\n", .varDef "FEED" "10" .numeric, .trivia "\n"])

/-- The same rules without one. -/
def lenient : Levels := strict.set .duplicateDeclaration .ignore

theorem level_lenient (σ : Rule) (h : σ ≠ .duplicateDeclaration) :
    lenient.level σ = strict.level σ := by
  cases σ with
  | duplicateDeclaration => exact absurd rfl h
  | _ => decide

theorem levels_only_filter_twice :
    (∀ ρ, strict.level ρ = .error) ∧
      (∀ σ, σ ≠ .duplicateDeclaration → lenient.level σ = strict.level σ) ∧
      (findings ({} : Workspace).resolver twice strict).map (fun f => (f.rule, f.severity)) =
        [(.duplicateDeclaration, .error), (.duplicateAddress, .error)] ∧
      findings ({} : Workspace).resolver twice lenient =
        (findings ({} : Workspace).resolver twice strict).filterMap (Finding.under lenient) ∧
      (findings ({} : Workspace).resolver twice lenient).filter
          (·.rule ≠ .duplicateDeclaration) =
        (findings ({} : Workspace).resolver twice strict).filter
          (·.rule ≠ .duplicateDeclaration) := by
  have hfilter := levels_only_filter ({} : Workspace).resolver twice lenient
  exact ⟨level_strict, level_lenient, by decide +kernel, hfilter.1 strict level_strict,
    hfilter.2 strict .duplicateDeclaration level_lenient⟩

end Lint
end NcInsight
