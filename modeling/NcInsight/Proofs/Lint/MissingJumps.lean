import NcInsight.Proofs.Lint.Depth
import NcInsight.Proofs.Lint.Gotos

/-
Missing places that are not missing.

Lint says of a goto that its program has no place of that value.  It can be wrong, since the walk
stays away from what lies in an include statement, in a fourth loop or in an eleventh condition
(`mem_visited_iff`), and so does not come to the numbers there.  Of the numbers that it comes to none
has the value (`no_number_of_missing`).
-/
namespace NcInsight

namespace Lint

/-! ## Numbers of the program -/

theorem mem_occurrences_of_number {c : Context} {s n : NodeId} (hs : s ∈ visited c.tree)
    (hkind : c.tree.kind s = .sequenceNumber) (hn : numberNode c.tree s = some n) :
    ⟨n, Text.stripJump (c.tree.text n), .sequence⟩ ∈ occurrences c := by
  obtain ⟨before, after, hsplit⟩ := List.append_of_mem hs
  exact mem_occurrences.mpr ⟨s, before, after, hsplit, .number hkind hn⟩

/-- A finding about a goto is about a goto that the walk comes to and that leads nowhere. -/
theorem exists_goto_of_mem_findings {c : Context} (h : c.tree.Rooted) {levels : Levels}
    {f : Finding} (hf : f ∈ findings c.files c.record levels) (hrule : f.rule = .seqNotFound) :
    ∃ g ∈ visited c.tree, c.tree.kind g = .goto ∧ c.tree.childOrFirst g .label = some f.node ∧
      ∃ value, LeadsNowhere c g f.node value := by
  have hlevel : levels.level .seqNotFound ≠ .ignore := by
    intro hignore
    rw [findings_eq] at hf
    obtain ⟨p, -, hp⟩ := List.mem_filterMap.mp hf
    have hseverity := (Report.finding?_eq_some hp).1
    rw [← Report.rule_of_finding? hp, hrule, hignore] at hseverity
    cases hseverity
  exact (mem_foundAt_seqNotFound h hlevel).mp (mem_foundAt.mpr ⟨f, hf, hrule, rfl⟩)

theorem Checked.unique {f : Facts} {t : Tree} {target : NodeId} {v w : Option String}
    (hv : Checked f t target v) (hw : Checked f t target w) : v = w := by
  have hsame := (jump_eq_checked_iff.mpr hv).symm.trans (jump_eq_checked_iff.mpr hw)
  exact Jump.checked.inj hsame

/-- If a jump to a value is found to be missing, no number in reach has it.  The number may be
nested in loops and conditions of the program in any way, as long as the walk comes to it and the
number is a word and no program itself. -/
theorem no_number_of_missing {r : Record} (h : r.tree.Formed) (files : Resolver) {levels : Levels}
    {f : Finding} (hf : f ∈ findings files r levels) (hrule : f.rule = .seqNotFound)
    {g program : NodeId} (htarget : r.tree.childOrFirst g .label = some f.node)
    (hprogram : r.tree.enclosing .function g = some program) {v : String}
    (hvalue : Checked (finalFacts ⟨files, r⟩) r.tree f.node (some v))
    {s n : NodeId} (hs : r.tree.kind s = .sequenceNumber)
    (hwithin : r.tree.enclosing .function s = some program)
    (hn : numberNode r.tree s = some n) (hword : r.tree.kind n ≠ .function)
    (hreach : InReach r.tree s) :
    Text.stripJump (r.tree.text n) ≠ Text.stripJump v := by
  have hrooted := h.toRooted
  obtain ⟨g', -, -, htarget', value, hchecked, hnone⟩ :=
    exists_goto_of_mem_findings (c := ⟨files, r⟩) hrooted hf hrule
  -- the goto is the parent of what it names
  have hparent := hrooted.parent_of_mem (Tree.mem_children_of_childOrFirst htarget)
  rw [hrooted.parent_of_mem (Tree.mem_children_of_childOrFirst htarget')] at hparent
  obtain rfl := Option.some.inj hparent
  obtain rfl := hchecked.unique hvalue
  have hlt : s < r.tree.size := Tree.lt_size_of_kind (by rw [hs]; decide)
  have hmark := mem_occurrences_of_number (c := ⟨files, r⟩)
    ((mem_visited_iff hrooted hlt).mpr hreach) hs hn
  refine hnone v rfl _ hmark ?_
  have hsame := hrooted.enclosing_of_mem (mem_children_of_numberNode hn) hword
  show programOf r.tree n = programOf r.tree g'
  rw [programOf, programOf, hsame, hwithin, hprogram]

/-- The program has no `30`, and its number stands in a condition in a loop. -/
theorem no_number_of_missing_jumpingFile :
    jumpingFile.tree.Formed ∧ (∃ f ∈ findings ({} : Workspace).resolver jumpingFile strict,
        f.rule = .seqNotFound ∧ jumpingFile.tree.childOrFirst 10 .label = some f.node) ∧
      jumpingFile.tree.enclosing .function 10 = some 7 ∧
      jumpingFile.tree.enclosing .function 19 = some 7 ∧
      jumpingFile.tree.enclosing .whileLoop 19 = some 16 ∧
      jumpingFile.tree.enclosing .ifBlock 19 = some 17 ∧ InReach jumpingFile.tree 19 ∧
      Text.stripJump (jumpingFile.tree.text 20) ≠ Text.stripJump "30" := by
  have hlevel : strict.level .seqNotFound ≠ .ignore := by decide
  obtain ⟨-, ⟨hvisited, hjump, hnone⟩, -⟩ := jumps_jumpingFile
  have hfound : 11 ∈ foundAt .seqNotFound
      (findings ({} : Workspace).resolver jumpingFile strict) :=
    (mem_foundAt_seqNotFound (c := ⟨({} : Workspace).resolver, jumpingFile⟩)
      formed_jumpingFile.toRooted hlevel).mpr
        ⟨10, hvisited, rfl, rfl, (exists_leadsNowhere_iff hjump).mpr hnone⟩
  obtain ⟨f, hf, hrule, hnode⟩ := mem_foundAt.mp hfound
  have hreach : InReach jumpingFile.tree 19 := ⟨by decide, by decide, by decide⟩
  have hprogram : jumpingFile.tree.enclosing .function 10 = some 7 := by decide
  refine ⟨formed_jumpingFile, ⟨f, hf, hrule, ?_⟩, hprogram, by decide, by decide, by decide, hreach,
    ?_⟩
  · rw [hnode]
    rfl
  · refine no_number_of_missing formed_jumpingFile ({} : Workspace).resolver hf hrule
      (s := 19) (by rw [hnode]; rfl) hprogram ?_ rfl (by decide) rfl (by decide) hreach
    rw [hnode]
    exact jump_eq_checked_iff.mp hjump

/-- A program that jumps to a number that stands in a fourth loop. -/
def buriedFile : Record :=
  { uri := "main.src"
    includes := []
    tree :=
      { source := "10 10"
        nodes := #[
          { kind := .file .program, span := ⟨0, 5⟩, children := [1] },
          { kind := .function, span := ⟨0, 5⟩, parent := some 0, children := [2, 4] },
          { kind := .goto, span := ⟨0, 2⟩, parent := some 1, children := [3] },
          { kind := .numeric, span := ⟨0, 2⟩, field := some .label, parent := some 2 },
          { kind := .whileLoop, span := ⟨3, 5⟩, parent := some 1, children := [5] },
          { kind := .whileLoop, span := ⟨3, 5⟩, parent := some 4, children := [6] },
          { kind := .whileLoop, span := ⟨3, 5⟩, parent := some 5, children := [7] },
          { kind := .whileLoop, span := ⟨3, 5⟩, parent := some 6, children := [8] },
          { kind := .sequenceNumber, span := ⟨3, 5⟩, parent := some 7, children := [9] },
          { kind := .numeric, span := ⟨3, 5⟩, field := some .number, parent := some 8 }]
        declarations := #[] } }

theorem facts_buriedFile :
    buriedFile.tree.defect? = none ∧ 2 ∈ visited buriedFile.tree ∧
      occurrences ⟨({} : Workspace).resolver, buriedFile⟩ = [] ∧
      Text.isPlainNumber (buriedFile.tree.text 3) = true ∧
      buriedFile.tree.text 3 = buriedFile.tree.text 9 := by
  decide

/-- The jump is found to be missing, although its program has the number. -/
theorem number_of_missing :
    buriedFile.tree.Formed ∧ ∃ f ∈ findings ({} : Workspace).resolver buriedFile strict,
      f.rule = .seqNotFound ∧ buriedFile.tree.childOrFirst 2 .label = some f.node ∧
      buriedFile.tree.enclosing .function 2 = some 1 ∧
      Checked (finalFacts ⟨({} : Workspace).resolver, buriedFile⟩) buriedFile.tree f.node
        (some (buriedFile.tree.text 3)) ∧
      buriedFile.tree.kind 8 = .sequenceNumber ∧
      buriedFile.tree.enclosing .function 8 = some 1 ∧
      numberNode buriedFile.tree 8 = some 9 ∧ buriedFile.tree.kind 9 = .numeric ∧
      Text.stripJump (buriedFile.tree.text 9) = Text.stripJump (buriedFile.tree.text 3) := by
  obtain ⟨hcheck, hvisited, hmarks, hnumber, hsame⟩ := facts_buriedFile
  have hformed : buriedFile.tree.Formed := (Tree.defect?_eq_none_iff.mp hcheck).toFormed
  have hlevel : strict.level .seqNotFound ≠ .ignore := by decide
  have hfound : 3 ∈ foundAt .seqNotFound
      (findings ({} : Workspace).resolver buriedFile strict) := by
    refine (mem_foundAt_seqNotFound (c := ⟨({} : Workspace).resolver, buriedFile⟩)
      hformed.toRooted hlevel).mpr ⟨2, hvisited, rfl, rfl, _, .number hnumber, ?_⟩
    intro v _ o ho
    rw [hmarks] at ho
    cases ho
  obtain ⟨f, hf, hrule, hnode⟩ := mem_foundAt.mp hfound
  refine ⟨hformed, f, hf, hrule, ?_, by decide, ?_, rfl, by decide, rfl, rfl, ?_⟩
  · rw [hnode]
    rfl
  · rw [hnode]
    exact .number hnumber
  · rw [hsame]

end Lint
end NcInsight
