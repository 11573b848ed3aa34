import NcInsight.Proofs.Editor.Binding
import NcInsight.Proofs.Tree.Links
import NcInsight.Proofs.Tree.Walking

/-
The range offered for a rename and the edits of the rename.

An editor asks for the range to rename and then, at the same offset, for the edits.  The two look
for their node by different kinds: the range also by the sequence number around the offset, whose
number it offers, and the edits only by names, variables and codes.  They agree outside of
sequence numbers, and inside of one where the offset is at a name that is spelled and tagged as
the number is (`prepared_edited`); at the letter of a sequence number there is a range and no
edit (`prepared_not_edited`).
-/
namespace NcInsight

/-- Two nodes that every file takes for the same name. -/
structure Tree.SameName (t : Tree) (i j : NodeId) : Prop where
  isReference : t.isReference i = true
  text_eq : t.text i = t.text j
  types_eq : t.referenceTypes i = t.referenceTypes j

/-- No name around a node spells the same at another place. -/
def Tree.Apart (t : Tree) (n : NodeId) : Prop :=
  ∀ b ∈ t.ancestors n, t.isReference b = true → t.text b = t.text n → t.span b = t.span n

instance (t : Tree) (n : NodeId) : Decidable (t.Apart n) :=
  inferInstanceAs (Decidable (∀ b ∈ t.ancestors n,
    t.isReference b = true → t.text b = t.text n → t.span b = t.span n))

/-- Nodes of one range have one text. -/
theorem Tree.Formed.text_eq_of_range {r : Record} (h : r.tree.Formed) {i j : NodeId}
    (hi : i < r.tree.size) (hj : j < r.tree.size) (he : r.range i = r.range j) :
    r.tree.text i = r.tree.text j := by
  have hspan : ∀ k, k < r.tree.size →
      Edit.span r.tree.source ⟨r.range k, ""⟩ = r.tree.span k := by
    intro k hk
    obtain ⟨hle, hstop⟩ := h.span_spec hk
    exact Edit.span_of_le (Nat.le_trans hle hstop) hstop ""
  have hsame : r.tree.span i = r.tree.span j := by
    rw [← hspan i hi, he, hspan j hj]
  rw [Tree.text, Tree.text, hsame]

namespace Navigation

variable {w : Workspace} {r : Record} {y : Symbol} {t : Tree} {id : NodeId}

/-! ## A name that its own file knows -/

theorem isReference_of_resolve {s : FileScope} (h : s.resolve t id = some y) :
    t.isReference id = true := by
  rw [FileScope.resolve] at h
  split at h
  · assumption
  · cases h

theorem resolve_congr (s : FileScope) {n : NodeId} (h : t.SameName id n)
    (hn : t.isReference n = true) : s.resolve t id = s.resolve t n := by
  rw [FileScope.resolve, FileScope.resolve, if_pos h.isReference, if_pos hn, h.text_eq, h.types_eq]

theorem kind_of_isReference (h : t.isReference id = true) :
    isNamed (t.kind id) = true ∨ isUnnamed (t.kind id) = true ∨ t.kind id = .numeric := by
  rw [Tree.isReference] at h
  revert h
  cases t.kind id <;> simp [isNamed, isUnnamed]

theorem targets_of_isUnnamed {origin : Record} (hkind : isUnnamed (t.kind id) = true) :
    targets w t id origin = w.records := by
  rw [targets]
  revert hkind
  cases t.kind id <;> simp [isUnnamed, Workspace.select]

/-- The file that knows a name is searched for its uses. -/
theorem self_mem_targets (hr : r ∈ w.records) (href : t.isReference id = true) :
    r ∈ targets w t id r := by
  rcases kind_of_isReference href with hkind | hkind | hkind
  · exact (mem_targets_of_isNamed hkind).mpr (.inl rfl)
  · rw [targets_of_isUnnamed hkind]
    exact hr
  · simp [targets, hkind, href]

/-- The walk stops at the outermost use around a node. -/
theorem exists_mem_uses (h : t.Rooted) {n : NodeId} (hn : y.isNamedBy t n = true) :
    ∃ b ∈ t.lineage n, b ∈ uses t y := by
  have hlt := Tree.lt_size_of_isReference (isNamedBy_spec hn).1
  rcases h.stops_or_enters (fun id => !y.isNamedBy t id) hlt with ⟨b, hb, hstop, hmet⟩ | hentered
  · exact ⟨b, hb, List.mem_filter.mpr ⟨hmet, by simpa using hstop⟩⟩
  · have hself := hentered n List.mem_cons_self
    rw [hn] at hself
    cases hself

end Navigation

namespace Rename

variable {w : Workspace} {r : Record} {offset : Nat} {n : NodeId} {a : String}

/-! ## The two choices of a node -/

section

variable {t : Tree} {p q : Kind → Bool} (hqp : ∀ k, q k = true → p k = true) {i b : NodeId}
include hqp

theorem findAncestor_eq_none_of_imp (h : t.findAncestor p i = none) : t.findAncestor q i = none := by
  refine List.find?_eq_none.mpr fun c hc hk => ?_
  exact List.find?_eq_none.mp h c hc (hqp _ hk)

/-- What is passed on the way up to the closest node of `p` is of no kind in `p`, so of none
in `q`. -/
theorem findAncestor_eq_some_of_imp (h : t.findAncestor p i = some b) (hb : q (t.kind b) = true) :
    t.findAncestor q i = some b := by
  obtain ⟨-, before, after, hline, hbefore⟩ := List.find?_eq_some_iff_append.mp h
  refine List.find?_eq_some_iff_append.mpr ⟨hb, before, after, hline, fun c hc => ?_⟩
  have hpassed := hbefore c hc
  rw [Bool.not_eq_true', Bool.eq_false_iff] at hpassed ⊢
  exact fun hk => hpassed (hqp _ hk)

end

/-- Only a sequence number makes the two choices differ. -/
theorem referenceAt_eq_subject {t : Tree} (h : t.kind (subject t offset) ≠ .sequenceNumber) :
    Navigation.referenceAt t offset = subject t offset := by
  have himp : ∀ k, Navigation.isUnnamed k = true → isNumbered k = true := by
    intro k
    cases k <;> simp [Navigation.isUnnamed, isNumbered]
  rw [subject] at h ⊢
  rw [Navigation.referenceAt]
  cases hnamed : t.findAncestor Navigation.isNamed (t.nodeAt offset) with
  | some b => rfl
  | none =>
      rw [hnamed] at h
      simp only [Option.none_or] at h ⊢
      cases hnumbered : t.findAncestor isNumbered (t.nodeAt offset) with
      | none => rw [findAncestor_eq_none_of_imp himp hnumbered]
      | some b =>
          rw [hnumbered, Option.getD_some] at h
          have hb : Navigation.isUnnamed (t.kind b) = true := by
            have hk := Navigation.isNamed_of_findAncestor hnumbered
            revert hk h
            cases t.kind b <;> simp [isNumbered, Navigation.isUnnamed]
          rw [findAncestor_eq_some_of_imp himp hnumbered hb]

theorem target?_eq_self {t : Tree} {i : NodeId} (h : t.kind i ≠ .sequenceNumber)
    (hn : target? t i = some n) : n = i := by
  rw [target?] at hn
  revert h hn
  cases t.kind i <;> simp [eq_comm]

theorem prepare?_of_target (hn : target? r.tree (subject r.tree offset) = some n) :
    prepare? r offset = some (r.range n) := by
  rw [prepare?, hn]
  rfl

theorem edit_iff_mem_references {range : Range} {newName : String} :
    (∃ f ∈ edits w r offset newName, f.uri = a ∧ ⟨range, newName⟩ ∈ f.edits) ↔
      ⟨a, range⟩ ∈ Navigation.references w r offset none := by
  constructor
  · rintro ⟨f, hf, rfl, he⟩
    rw [edits, editsOf_eq_grouped] at hf
    obtain ⟨u, -, rfl⟩ := List.mem_map.mp hf
    obtain ⟨l, hl, hle⟩ := List.mem_map.mp he
    obtain ⟨hl, hu⟩ := List.mem_filter.mp hl
    cases hle
    rw [← eq_of_beq hu]
    exact hl
  · intro hl
    exact Navigation.mem_edits_of_mem_references hl newName

/-! ## The range and the edits -/

/-- The range is edited if the edits start from a name that its file takes for the same. -/
theorem range_mem_references (hr : r ∈ w.records) (h : r.tree.Rooted) (ha : r.address? = some a)
    (hres : ((Scope.alone r).resolve r.tree n).isSome = true) (hapart : r.tree.Apart n)
    (hsame : r.tree.SameName (Navigation.referenceAt r.tree offset) n) :
    ⟨a, r.range n⟩ ∈ Navigation.references w r offset none := by
  rw [Navigation.resolve_alone] at hres
  obtain ⟨y, hy⟩ := Option.isSome_iff_exists.mp hres
  have hstart := (Navigation.resolve_congr (FileScope.of r) hsame
    (Navigation.isReference_of_resolve hy)).trans hy
  have horigin : Navigation.origin? w r (Navigation.referenceAt r.tree offset) = some (r, y) :=
    Navigation.origin?_of_resolve hstart
  have htarget : r ∈ Navigation.targets w r.tree (Navigation.referenceAt r.tree offset) r :=
    Navigation.self_mem_targets hr hsame.isReference
  have hnamed : y.isNamedBy r.tree n = true := by
    rw [Navigation.resolve_eq_find?] at hy
    have hfound := List.find?_some hy
    exact hfound
  obtain ⟨b, hb, huse⟩ := Navigation.exists_mem_uses h hnamed
  have hspan : r.tree.span b = r.tree.span n := by
    rcases List.mem_cons.mp hb with rfl | hb
    · rfl
    · obtain ⟨href, htext⟩ := Navigation.isNamedBy_spec (List.mem_filter.mp huse).2
      refine hapart b hb href ?_
      rw [htext, (Navigation.isNamedBy_spec hnamed).2]
  refine Navigation.mem_references.mpr ⟨r, b, (Navigation.mem_sites horigin).mpr ⟨htarget, huse⟩, ?_⟩
  refine Record.location?_eq_some.mpr ⟨ha, ?_⟩
  rw [Record.range, Record.range, hspan]

/-- An edit of the range comes from a name that is spelled as the range is. -/
theorem text_of_range_mem_references (hw : w.DistinctAddresses) (hr : r ∈ w.records)
    (hform : r.tree.Formed) (ha : r.address? = some a) (hn : n < r.tree.size)
    (hmem : ⟨a, r.range n⟩ ∈ Navigation.references w r offset none) :
    r.tree.isReference (Navigation.referenceAt r.tree offset) = true ∧
      r.tree.text (Navigation.referenceAt r.tree offset) = r.tree.text n := by
  obtain ⟨g, i, hsite, hloc⟩ := Navigation.mem_references.mp hmem
  cases ho : Navigation.origin? w r (Navigation.referenceAt r.tree offset) with
  | none =>
      rw [Navigation.sites, ho] at hsite
      cases hsite
  | some s =>
      obtain ⟨origin, y⟩ := s
      obtain ⟨hsearch, -, hnamed⟩ := Navigation.origin?_spec ho
      obtain ⟨hg, huse⟩ := (Navigation.mem_sites ho).mp hsite
      obtain ⟨hga, hrange⟩ := Record.location?_eq_some.mp hloc
      have hor := Navigation.mem_records_of_mem_searchOrder hr hsearch
      have hsame : g = r := hw.eq_of_address (Navigation.mem_records_of_mem_targets hor hg) hr
        (hga.trans ha.symm)
      subst hsame
      obtain ⟨href, htext⟩ := Navigation.isNamedBy_spec hnamed
      obtain ⟨hrefi, htexti⟩ := Navigation.isNamedBy_spec (List.mem_filter.mp huse).2
      refine ⟨href, ?_⟩
      rw [htext, ← htexti]
      exact hform.text_eq_of_range (Tree.lt_size_of_isReference hrefi) hn hrange.symm

/-- What is offered for a rename is renamed outside of sequence numbers, and inside of one from
every name that is spelled and tagged as what is offered; from anything that is spelled otherwise
it is not. -/
theorem prepared_edited (hr : r ∈ w.records) (hform : r.tree.Formed) (ha : r.address? = some a)
    (hn : target? r.tree (subject r.tree offset) = some n)
    (hres : ((Scope.alone r).resolve r.tree n).isSome = true) :
    prepare? r offset = some (r.range n) ∧
    (r.tree.Apart n → (r.tree.kind (subject r.tree offset) ≠ .sequenceNumber ∨
        r.tree.SameName (Navigation.referenceAt r.tree offset) n) →
      ∀ newName, ∃ f ∈ edits w r offset newName,
        f.uri = a ∧ ⟨r.range n, newName⟩ ∈ f.edits) ∧
    (w.DistinctAddresses → ∀ newName,
      (∃ f ∈ edits w r offset newName, f.uri = a ∧ ⟨r.range n, newName⟩ ∈ f.edits) →
        r.tree.isReference (Navigation.referenceAt r.tree offset) = true ∧
          r.tree.text (Navigation.referenceAt r.tree offset) = r.tree.text n) := by
  have href : r.tree.isReference n = true := by
    rw [Navigation.resolve_alone] at hres
    obtain ⟨y, hy⟩ := Option.isSome_iff_exists.mp hres
    exact Navigation.isReference_of_resolve hy
  refine ⟨prepare?_of_target hn, fun hapart hstart newName => ?_, fun hw newName hedit => ?_⟩
  · have hsame : r.tree.SameName (Navigation.referenceAt r.tree offset) n := by
      rcases hstart with hkind | hsame
      · rw [referenceAt_eq_subject hkind, ← target?_eq_self hkind hn]
        exact ⟨href, rfl, rfl⟩
      · exact hsame
    exact edit_iff_mem_references.mpr (range_mem_references hr hform.toRooted ha hres hapart hsame)
  · exact text_of_range_mem_references hw hr hform ha (Tree.lt_size_of_isReference href)
      (edit_iff_mem_references.mp hedit)

/-- A program of one numbered line. -/
def numberedLine : Tree :=
  .ofScript .program [.start .sequenceNumber none, .trivia "N",
    .token .numeric "20" (some .number), .finish, .trivia "\n"]

def numberedFile : Record := ({} : Workspace).record "file:///shop/main.src" numberedLine

def numberedShop : Workspace := ({} : Workspace).insert "file:///shop/main.src" numberedLine

theorem numberedFile_mem : numberedFile ∈ numberedShop.records :=
  (Workspace.mem_of_get? (Workspace.get?_insert_self {} "file:///shop/main.src" numberedLine)).1

/-- A name around a name that is spelled as it is, one letter further on. -/
def overlap : Tree :=
  { source := "AAA"
    nodes := #[
      { kind := .file .program, span := ⟨0, 3⟩, children := [1] },
      { kind := .symbol, span := ⟨0, 2⟩, parent := some 0, children := [2] },
      { kind := .symbol, span := ⟨1, 3⟩, parent := some 1 }]
    declarations := #[⟨.var, "AA", 1, none, none, none, .undefined⟩] }

def overlapFile : Record := ({} : Workspace).record "file:///shop/main.src" overlap

def overlapShop : Workspace := ({} : Workspace).insert "file:///shop/main.src" overlap

theorem facts_numberedShop :
    numberedFile.address? = some "file:///shop/main.src" ∧ numberedShop.DistinctAddresses ∧
      target? numberedLine (subject numberedLine 0) = some 2 ∧
      target? numberedLine (subject numberedLine 1) = some 2 ∧
      ((Scope.alone numberedFile).resolve numberedLine 2).isSome = true ∧
      numberedLine.Apart 2 ∧ numberedFile.range 2 = ⟨⟨0, 1⟩, ⟨0, 3⟩⟩ ∧
      Navigation.referenceAt numberedLine 1 = 2 ∧ numberedLine.isReference 2 = true ∧
      Navigation.references numberedShop numberedFile 0 none = [] ∧
      overlap.defect? = none ∧ target? overlap (subject overlap 1) = some 2 ∧
      ((Scope.alone overlapFile).resolve overlap 2).isSome = true ∧
      overlapFile.range 2 = ⟨⟨0, 1⟩, ⟨0, 3⟩⟩ ∧
      Navigation.references overlapShop overlapFile 1 none =
        [⟨"file:///shop/main.src", ⟨⟨0, 0⟩, ⟨0, 2⟩⟩⟩] := by
  decide +kernel

/-- From the number of a numbered line, the number is offered and renamed. -/
theorem prepared_edited_numberedShop :
    numberedFile ∈ numberedShop.records ∧ numberedFile.tree.Formed ∧
      target? numberedFile.tree (subject numberedFile.tree 1) = some 2 ∧
      ((Scope.alone numberedFile).resolve numberedFile.tree 2).isSome = true ∧
      prepare? numberedFile 1 = some ⟨⟨0, 1⟩, ⟨0, 3⟩⟩ ∧
      ∃ f ∈ edits numberedShop numberedFile 1 "30",
        f.uri = "file:///shop/main.src" ∧ ⟨⟨⟨0, 1⟩, ⟨0, 3⟩⟩, "30"⟩ ∈ f.edits := by
  obtain ⟨ha, -, -, hn, hres, hapart, hrange, hat, href, -⟩ := facts_numberedShop
  have hform : numberedFile.tree.Formed := Tree.formed_ofScript _ _
  obtain ⟨hoffer, hedit, -⟩ := prepared_edited numberedFile_mem hform ha hn hres
  have hsame : numberedLine.SameName (Navigation.referenceAt numberedLine 1) 2 := by
    rw [hat]
    exact ⟨href, rfl, rfl⟩
  have hfound := hedit hapart (.inr hsame) "30"
  rw [hrange] at hoffer hfound
  exact ⟨numberedFile_mem, hform, hn, hres, hoffer, hfound⟩

/-- From the letter of a numbered line, the number is offered and nothing is renamed.  From a name
in a name that is spelled the same, the inner one is offered and the outer one renamed. -/
theorem prepared_not_edited :
    (numberedFile ∈ numberedShop.records ∧ numberedFile.tree.Formed ∧
      numberedFile.address? = some "file:///shop/main.src" ∧ numberedShop.DistinctAddresses ∧
      target? numberedFile.tree (subject numberedFile.tree 0) = some 2 ∧
      ((Scope.alone numberedFile).resolve numberedFile.tree 2).isSome = true ∧
      numberedFile.tree.Apart 2 ∧ prepare? numberedFile 0 = some ⟨⟨0, 1⟩, ⟨0, 3⟩⟩ ∧
      ∀ newName, edits numberedShop numberedFile 0 newName = []) ∧
    (overlap.WellFormed ∧ ((Scope.alone overlapFile).resolve overlap 2).isSome = true ∧
      target? overlap (subject overlap 1) = some 2 ∧
      prepare? overlapFile 1 = some ⟨⟨0, 1⟩, ⟨0, 3⟩⟩ ∧
      ∀ newName, edits overlapShop overlapFile 1 newName =
        [⟨"file:///shop/main.src", [⟨⟨⟨0, 0⟩, ⟨0, 2⟩⟩, newName⟩]⟩]) := by
  obtain ⟨ha, hw, hn, -, hres, hapart, hrange, -, -, hnone, hvalid, hin, hknown, hinner, houter⟩ :=
    facts_numberedShop
  have hoffer : prepare? numberedFile 0 = some (numberedFile.range 2) := prepare?_of_target hn
  have hinnerOffer : prepare? overlapFile 1 = some (overlapFile.range 2) := prepare?_of_target hin
  rw [hrange] at hoffer
  rw [hinner] at hinnerOffer
  refine ⟨⟨numberedFile_mem, Tree.formed_ofScript _ _, ha, hw, hn, hres, hapart, hoffer, ?_⟩,
    Tree.defect?_eq_none_iff.mp hvalid, hknown, hin, hinnerOffer, ?_⟩
  · intro newName
    rw [edits, hnone]
    rfl
  · intro newName
    rw [edits, houter]
    rfl

end Rename
end NcInsight
