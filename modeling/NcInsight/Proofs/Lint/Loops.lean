import Mathlib.Data.List.TakeWhile
import NcInsight.Proofs.Lint.Depth
import NcInsight.Proofs.Tree.ReferenceTypes

/-
Loops that share a number.

A loop is held against the loops around it, as many as may be nested, when the walk comes to it.  If
it is not too deep itself these are all loops around it (`mem_sharedNumberReports`), and if the walk
does not come to it the nesting was too deep further out.  So two loops of one number, one inside
the other, never go unnoticed (`shared_number_found`).
-/
namespace NcInsight

/-! ## Digits as a number -/

namespace Text

theorem toNat_of_isDigit {c : Char} (h : c.isDigit = true) : 48 ≤ c.toNat ∧ c.toNat ≤ 57 := by
  simp only [Char.isDigit, ge_iff_le, Bool.and_eq_true, decide_eq_true_eq,
    UInt32.le_iff_toNat_le] at h
  exact h

theorem isBlank_of_isDigit {c : Char} (h : c.isDigit = true) : isBlank c = false := by
  have hrange := toNat_of_isDigit h
  simp only [isBlank, inRanges, blankRanges, List.any_cons, List.any_nil, Bool.or_false,
    Bool.or_eq_false_iff, Bool.and_eq_false_imp, decide_eq_true_eq, decide_eq_false_iff_not, not_le]
  omega

theorem toLower_of_isDigit {c : Char} (h : c.isDigit = true) : c.toLower = c := by
  have hrange := toNat_of_isDigit h
  refine dif_neg fun hletter => ?_
  have hle : 65 ≤ c.toNat := UInt32.le_iff_toNat_le.mp hletter.1
  omega

end Text

namespace Number.Binary

theorem same_self {b : Binary} (h : b ≠ nan) : b.same b = true := by
  cases b with
  | nan => exact absurd rfl h
  | infinite negative => simp [same]
  | finite negative mantissa exponent => cases mantissa <;> simp [same]

theorem nearest_ne_nan (negative : Bool) (num den : Nat) : nearest negative num den ≠ nan := by
  unfold nearest
  simp only
  repeat' split
  all_goals exact Binary.noConfusion

theorem ofDecimal_ne_nan (negative : Bool) (digits : Nat) (exponent : Int) :
    ofDecimal negative digits exponent ≠ nan := by
  unfold ofDecimal
  simp only
  split
  · exact Binary.noConfusion
  · split
    · exact Binary.noConfusion
    · split
      · exact Binary.noConfusion
      · exact nearest_ne_nan negative _ _

/-- Digits are no word for a number. -/
theorem ofList_ne_of_digits {ds : List Char} (hne : ds ≠ []) (hds : ∀ c ∈ ds, c.isDigit = true)
    {word : String} (hword : word.toList.head?.any Char.isDigit = false) :
    String.ofList ds ≠ word := by
  rintro rfl
  obtain ⟨d, rest, rfl⟩ := List.exists_cons_of_ne_nil hne
  rw [String.toList_ofList, List.head?_cons, Option.any_some, hds d List.mem_cons_self] at hword
  cases hword

theorem unsigned?_digits (negative : Bool) {ds : List Char} (hne : ds ≠ [])
    (hds : ∀ c ∈ ds, c.isDigit = true) :
    unsigned? negative ds = some (ofDecimal negative (ofDigits ds) 0) := by
  have hlower : ds.map Char.toLower = ds.map id :=
    List.map_congr_left fun c hc => Text.toLower_of_isDigit (hds c hc)
  have hspan : ds.span Char.isDigit = (ds, []) := by
    rw [List.span_eq_takeWhile_dropWhile, List.takeWhile_eq_self_iff.mpr hds,
      List.dropWhile_eq_nil_iff.mpr hds]
  have hmantissa : splitMantissa ds = some (ds, [], []) := by
    rw [splitMantissa, hspan]
    simp [hne]
  rw [unsigned?, hlower, List.map_id]
  split
  case h_1 h => exact absurd h (ofList_ne_of_digits hne hds (by decide))
  case h_2 h => exact absurd h (ofList_ne_of_digits hne hds (by decide))
  case h_3 h => exact absurd h (ofList_ne_of_digits hne hds (by decide))
  case h_4 => simp [hmantissa, exponent?]

/-- Digits are a number, and one that is the same as itself. -/
theorem ofText?_digits {s : String} (hne : s ≠ "") (hs : ∀ c ∈ s.toList, c.isDigit = true) :
    ∃ n, ofText? s = some n ∧ n.same n = true := by
  have hsign : ∀ d : Char, d.isDigit = false → ∀ r, s.toList = d :: r → False := by
    intro d hd r hr
    have hdigit := hs d (by rw [hr]; exact List.mem_cons_self)
    rw [hd] at hdigit
    cases hdigit
  have hsolid : Text.IsSolid s.toList := by
    intro c hc
    refine ⟨Text.isBlank_of_isDigit (hs c hc), fun hbar => ?_⟩
    rw [hbar] at hc
    cases hs _ hc
  have hlist : s.toList ≠ [] := fun h => hne (String.toList_eq_nil_iff.mp h)
  refine ⟨ofDecimal false (ofDigits s.toList) 0, ?_, same_self (ofDecimal_ne_nan _ _ _)⟩
  rw [ofText?, Text.trimBoth_of_isSolid hsolid, ← unsigned?_digits false hlist hs, ofChars?]
  · exact hsign '-' rfl
  · exact hsign '+' rfl

end Number.Binary

namespace Lint

/-! ## The loops around a loop -/

theorem loopNumber_numeric (f : Facts) {t : Tree} {label : NodeId} (h : t.kind label = .numeric) :
    loopNumber f t label = Number.Binary.ofText? (t.text label) := by
  rw [loopNumber, loopValue, h]
  rfl

/-- A loop that is not too deep is held against every loop around it. -/
theorem mem_sharedNumberReports {f : Facts} {t : Tree} {inner outer a b : NodeId}
    {m n : Number.Binary} (hinner : t.kind inner = .whileLoop) (hdepth : isTooDeep t inner = false)
    (houter : outer ∈ around t .whileLoop inner) (ha : t.childByField outer .doLabel = some a)
    (hb : t.childByField inner .doLabel = some b) (hm : loopNumber f t a = some m)
    (hn : loopNumber f t b = some n) (hsame : m.same n = true) :
    ⟨.duplicateDoEndNumber, a, none⟩ ∈ sharedNumberReports f t inner := by
  have hshort := (isTooDeep_eq_false_iff.mp hdepth).1 hinner
  have hloops : ((enclosingAll t .whileLoop inner).take maxWhileDepth).drop 1 =
      around t .whileLoop inner := by
    rw [List.take_of_length_le hshort, enclosingAll_of_kind hinner, List.drop_one, List.tail_cons]
  have hown : (t.childByField inner .doLabel).bind (loopNumber f t) = some n := by
    rw [hb, Option.bind_some, hn]
  simp only [sharedNumberReports, hown, hloops]
  refine List.mem_map.mpr ⟨a, List.mem_filter.mpr ⟨?_, ?_⟩, rfl⟩
  · exact List.mem_filterMap.mpr ⟨outer, houter, ha⟩
  · rw [hm, Option.any_some]
    exact hsame

theorem exists_facts_of_mem {c : Context} (f : Facts) {ids : List NodeId} {id : NodeId}
    (hid : id ∈ ids) : ∃ g, ∀ p ∈ reportsAt c g id, p ∈ scan c f ids := by
  induction ids generalizing f with
  | nil => cases hid
  | cons x ids ih =>
      rcases List.mem_cons.mp hid with rfl | hid
      · exact ⟨f, fun p hp => List.mem_append_left _ hp⟩
      · obtain ⟨g, hg⟩ := ih (f.advance c x) hid
        exact ⟨g, fun p hp => List.mem_append_right _ (hg p hp)⟩

/-- What is said at a node that the walk comes to is found, unless its rule is ignored. -/
theorem exists_facts_of_mem_visited (files : Resolver) (r : Record) (levels : Levels) {id : NodeId}
    (hid : id ∈ visited r.tree) : ∃ g, ∀ p ∈ reportsAt ⟨files, r⟩ g id,
      levels.level p.rule ≠ .ignore → p.node ∈ foundAt p.rule (findings files r levels) := by
  obtain ⟨g, hg⟩ := exists_facts_of_mem (c := ⟨files, r⟩) {} hid
  refine ⟨g, fun p hp hlevel => ?_⟩
  rw [foundAt_findings files r hlevel]
  have hmem : p ∈ reports ⟨files, r⟩ := List.mem_append_left _ (hg p hp)
  exact List.mem_map_of_mem (List.mem_filter.mpr ⟨hmem, beq_self_eq_true p.rule⟩)

/-- Loops that share a number are noticed.  Take a loop inside another one, at any depth and with
anything in between but an include statement, with labels that are the same digits.  Then the
number of the outer loop is found to be a duplicate, or the nesting is found to be too deep, at the
inner loop or at a loop or condition around it. -/
theorem shared_number_found {r : Record} (h : r.tree.Formed) (files : Resolver) {levels : Levels}
    (hduplicate : levels.level .duplicateDoEndNumber ≠ .ignore)
    (hdeep : levels.level .nestingTooDeep ≠ .ignore) {outer inner a b : NodeId}
    (houter : r.tree.kind outer = .whileLoop) (hinner : r.tree.kind inner = .whileLoop)
    (habove : outer ∈ r.tree.ancestors inner)
    (hincluded : ∀ i ∈ r.tree.ancestors inner, r.tree.kind i ≠ .inclusion)
    (ha : r.tree.childByField outer .doLabel = some a)
    (hb : r.tree.childByField inner .doLabel = some b)
    (hkinda : r.tree.kind a = .numeric) (hkindb : r.tree.kind b = .numeric)
    (hne : r.tree.text a ≠ "") (hdigits : ∀ c ∈ (r.tree.text a).toList, c.isDigit = true)
    (hsame : r.tree.text a = r.tree.text b) :
    a ∈ foundAt .duplicateDoEndNumber (findings files r levels) ∨
      ∃ n, (n = inner ∨ n ∈ r.tree.ancestors inner ∧
          (r.tree.kind n = .ifBlock ∨ r.tree.kind n = .whileLoop)) ∧
        n ∈ foundAt .nestingTooDeep (findings files r levels) := by
  have hrooted := h.toRooted
  have hlt : inner < r.tree.size := Tree.lt_size_of_kind (by rw [hinner]; decide)
  rcases hrooted.stops_or_enters (fun id => !isCut r.tree id) hlt with
    ⟨n, hn, hcut, hvisited⟩ | hentered
  · -- the walk stops on the way down, at a node that is no include statement
    rw [Bool.not_eq_false', isCut, Bool.or_eq_true, beq_iff_eq] at hcut
    have hkind : r.tree.kind n ≠ .inclusion := by
      rcases List.mem_cons.mp hn with rfl | hn
      · rw [hinner]
        decide
      · exact hincluded n hn
    have htooDeep : isTooDeep r.tree n = true := hcut.resolve_left hkind
    refine .inr ⟨n, ?_, ?_⟩
    · rcases List.mem_cons.mp hn with rfl | hn
      · exact .inl rfl
      · exact .inr ⟨hn, (isTooDeep_iff.mp htooDeep).1⟩
    · rw [foundAt_nestingTooDeep files r hdeep]
      exact List.mem_filter.mpr ⟨hvisited, htooDeep⟩
  · have hvisited : inner ∈ visited r.tree :=
      hrooted.mem_visits.mpr ⟨hlt, fun i hi => hentered i (List.mem_cons_of_mem inner hi)⟩
    have hshallow : isTooDeep r.tree inner = false := by
      have hopen := hentered inner List.mem_cons_self
      rw [Bool.not_eq_true', isCut, Bool.or_eq_false_iff] at hopen
      exact hopen.2
    have haround : outer ∈ around r.tree .whileLoop inner :=
      List.mem_filter.mpr ⟨habove, beq_iff_eq.mpr houter⟩
    obtain ⟨m, hm, hself⟩ := Number.Binary.ofText?_digits hne hdigits
    obtain ⟨f, hf⟩ := exists_facts_of_mem_visited files r levels hvisited
    have hsaid := mem_sharedNumberReports (f := f) hinner hshallow haround ha hb
      ((loopNumber_numeric f hkinda).trans hm)
      ((loopNumber_numeric f hkindb).trans (hsame ▸ hm)) hself
    have hmem : (⟨.duplicateDoEndNumber, a, none⟩ : Report) ∈ reportsAt ⟨files, r⟩ f inner := by
      simp only [reportsAt, Context.tree, hinner, whileReports, List.mem_append]
      exact .inl (.inr hsaid)
    exact .inl (hf _ hmem hduplicate)

/-- A program of three loops, the first and the last of one number, with a condition between. -/
def countingFile : Record :=
  { uri := "main.src"
    includes := []
    tree :=
      { source := "1 2 1"
        nodes := #[
          { kind := .file .program, span := ⟨0, 5⟩, children := [1] },
          { kind := .whileLoop, span := ⟨0, 5⟩, parent := some 0, children := [2, 3] },
          { kind := .numeric, span := ⟨0, 1⟩, field := some .doLabel, parent := some 1 },
          { kind := .ifBlock, span := ⟨2, 5⟩, parent := some 1, children := [4] },
          { kind := .whileLoop, span := ⟨2, 5⟩, parent := some 3, children := [5, 6] },
          { kind := .numeric, span := ⟨2, 3⟩, field := some .doLabel, parent := some 4 },
          { kind := .whileLoop, span := ⟨4, 5⟩, parent := some 4, children := [7] },
          { kind := .numeric, span := ⟨4, 5⟩, field := some .doLabel, parent := some 6 }]
        declarations := #[] } }

theorem facts_countingFile :
    countingFile.tree.defect? = none ∧ countingFile.tree.ancestors 6 = [4, 3, 1, 0] ∧
      countingFile.tree.text 2 = "1" ∧ countingFile.tree.text 7 = "1" ∧
      (visited countingFile.tree).filter (isTooDeep countingFile.tree) = [] := by
  decide

/-- No loop is too deep, so it is the number of the first that is found. -/
theorem shared_number_found_countingFile :
    countingFile.tree.Formed ∧ 1 ∈ countingFile.tree.ancestors 6 ∧
      (∀ i ∈ countingFile.tree.ancestors 6, countingFile.tree.kind i ≠ .inclusion) ∧
      countingFile.tree.childByField 1 .doLabel = some 2 ∧
      countingFile.tree.childByField 6 .doLabel = some 7 ∧
      countingFile.tree.text 2 = countingFile.tree.text 7 ∧
      2 ∈ foundAt .duplicateDoEndNumber
        (findings ({} : Workspace).resolver countingFile strict) := by
  obtain ⟨hcheck, hancestors, hfirst, hlast, hdepth⟩ := facts_countingFile
  have hformed : countingFile.tree.Formed := (Tree.defect?_eq_none_iff.mp hcheck).toFormed
  have hdeep : strict.level .nestingTooDeep ≠ .ignore := by decide
  have habove : 1 ∈ countingFile.tree.ancestors 6 := by
    rw [hancestors]
    decide
  have hincluded : ∀ i ∈ countingFile.tree.ancestors 6, countingFile.tree.kind i ≠ .inclusion := by
    rw [hancestors]
    decide
  have hsame : countingFile.tree.text 2 = countingFile.tree.text 7 := hfirst.trans hlast.symm
  refine ⟨hformed, habove, hincluded, rfl, rfl, hsame, ?_⟩
  have hfound := shared_number_found hformed ({} : Workspace).resolver (by decide) hdeep
    (show countingFile.tree.kind 1 = .whileLoop from rfl) rfl habove hincluded rfl rfl rfl rfl
    (by rw [hfirst]; decide) (List.all_eq_true.mp (by rw [hfirst]; decide)) hsame
  refine hfound.resolve_right ?_
  rw [foundAt_nestingTooDeep ({} : Workspace).resolver countingFile hdeep, hdepth]
  rintro ⟨n, -, hn⟩
  cases hn

end Lint
end NcInsight
