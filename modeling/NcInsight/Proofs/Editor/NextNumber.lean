import NcInsight.Editor.Completion
import NcInsight.Proofs.Tree.Descent
import NcInsight.Proofs.Tree.Traversal

/-
The sequence number that is proposed.

The nodes around the offset are asked from the inside out.  A program always has something to
propose, so the node that decides lies in the same program as the offset (`exists_decider`).
The number that it proposes is a step past the highest that a walk over the program meets, and the
walk does not go below a sequence number, so it meets the outermost ones only
(`isLargest_highest`).  Numbers that stand inside of a numbered block are passed over
(`proposed_number_taken`).  Where none of these is higher than what is around it, the number that is
proposed is free (`proposed_number_free`).
-/
namespace NcInsight
namespace Completion

/-! ## Numbers of a program -/

/-- The value of a sequence number at or below a node. -/
structure NumberIn (t : Tree) (program s : NodeId) (v : Nat) : Prop where
  below : program ∈ t.lineage s
  kind : t.kind s = .sequenceNumber
  value : sequenceValue t s = some v

/-- No sequence number of the program is around the node. -/
def Outermost (t : Tree) (program s : NodeId) : Prop :=
  ∀ a ∈ t.ancestors s, program ∈ t.lineage a → t.kind a ≠ .sequenceNumber

/-- The largest of some numbers; zero if there are none. -/
structure IsLargest (P : Nat → Prop) (m : Nat) : Prop where
  le : ∀ v, P v → v ≤ m
  mem : m = 0 ∨ P m

/-- A number inside of a numbered block is not higher than all numbers outside of such. -/
def Covered (t : Tree) (program : NodeId) : Prop :=
  ∀ s v, NumberIn t program s v → 0 < v →
    ∃ s' v', NumberIn t program s' v' ∧ Outermost t program s' ∧ v ≤ v'

theorem isLargest_foldl_max (vs : List Nat) : IsLargest (· ∈ vs) (vs.foldl max 0) := by
  rw [List.foldl_max, Nat.zero_max]
  cases hmax : vs.max? with
  | none =>
      rw [List.max?_eq_none_iff.mp hmax]
      exact ⟨fun v hv => absurd hv List.not_mem_nil, .inl rfl⟩
  | some m =>
      obtain ⟨hmem, hle⟩ := List.max?_eq_some_iff.mp hmax
      exact ⟨hle, .inr hmem⟩

variable {t : Tree}

theorem mem_sequenceNumbers (h : t.Rooted) {program s : NodeId} (hp : program < t.size) :
    s ∈ sequenceNumbers t program ↔
      t.kind s = .sequenceNumber ∧ program ∈ t.lineage s ∧ Outermost t program s := by
  rw [sequenceNumbers, List.mem_filter, h.mem_visits_at hp, beq_iff_eq]
  constructor
  · rintro ⟨⟨-, hbelow, hopen⟩, hkind⟩
    exact ⟨hkind, hbelow, fun a ha hpa => by simpa using hopen a ha hpa⟩
  · rintro ⟨hkind, hbelow, houter⟩
    refine ⟨⟨Tree.lt_size_of_kind (by rw [hkind]; decide), hbelow, fun a ha hpa => ?_⟩, hkind⟩
    simpa using houter a ha hpa

/-- The highest number that is met is the largest of the outermost ones. -/
theorem isLargest_highest (h : t.Rooted) {program : NodeId} (hp : program < t.size) :
    IsLargest (fun v => ∃ s, NumberIn t program s v ∧ Outermost t program s)
      (highest t program) := by
  have hvalues : ∀ v, v ∈ (sequenceNumbers t program).filterMap (sequenceValue t) ↔
      ∃ s, NumberIn t program s v ∧ Outermost t program s := by
    intro v
    rw [List.mem_filterMap]
    constructor
    · rintro ⟨s, hs, hv⟩
      obtain ⟨hkind, hbelow, houter⟩ := (mem_sequenceNumbers h hp).mp hs
      exact ⟨s, ⟨hbelow, hkind, hv⟩, houter⟩
    · rintro ⟨s, hs, houter⟩
      exact ⟨s, (mem_sequenceNumbers h hp).mpr ⟨hs.kind, hs.below, houter⟩, hs.value⟩
  have hlargest := isLargest_foldl_max ((sequenceNumbers t program).filterMap (sequenceValue t))
  refine ⟨fun v hv => hlargest.le v ((hvalues v).mpr hv), ?_⟩
  rcases hlargest.mem with hzero | hmem
  · exact .inl hzero
  · exact .inr ((hvalues _).mp hmem)

theorem Covered.isLargest_highest {program : NodeId} (hcovered : Covered t program)
    (h : t.Rooted) (hp : program < t.size) :
    IsLargest (fun v => ∃ s, NumberIn t program s v) (highest t program) := by
  have hlargest := Completion.isLargest_highest h hp
  refine ⟨fun v hv => ?_, ?_⟩
  · obtain ⟨s, hs⟩ := hv
    rcases Nat.eq_zero_or_pos v with hzero | hpos
    · omega
    · obtain ⟨s', v', hs', houter, hle⟩ := hcovered s v hs hpos
      exact Nat.le_trans hle (hlargest.le v' ⟨s', hs', houter⟩)
  · rcases hlargest.mem with hzero | ⟨s, hs, -⟩
    · exact .inl hzero
    · exact .inr ⟨s, hs⟩

/-! ## The node that decides -/

/-- The innermost node around the offset that has a say. -/
def decider? (q : Request) : Option NodeId :=
  (q.tree.path q.offset).reverse.find? fun id => (proposals? q id).isSome

/-- The kinds that hold numbered blocks: programs, branches and loops. -/
def isBody : Kind → Bool
  | .function | .thenBranch | .elseBranch | .whileLoop => true
  | _ => false

variable {q : Request}

theorem proposals?_of_decider? {d : NodeId} (hd : decider? q = some d) :
    proposals? q d = some (completions q) := by
  obtain ⟨hsome, before, after, hpath, hsilent⟩ := List.find?_eq_some_iff_append.mp hd
  obtain ⟨items, hitems⟩ := Option.isSome_iff_exists.mp hsome
  have hfound : (q.tree.path q.offset).reverse.findSome? (proposals? q) = some items := by
    refine List.findSome?_eq_some_iff.mpr ⟨before, d, after, hpath, hitems, fun x hx => ?_⟩
    simpa using hsilent x hx
  rw [completions_eq, hfound, hitems]
  rfl

theorem mem_proposeAll {q : Request} {id : NodeId} {os : List Offer} (hos : .keywords ∈ os)
    (ks : List Keyword) {p : Proposal} (hp : p ∈ keywordProposals) :
    p ∈ (proposeAll q id os ks).1 := by
  induction os generalizing ks with
  | nil => cases hos
  | cons o os ih =>
      rcases List.mem_cons.mp hos with rfl | hos
      · exact List.mem_append_left _ hp
      · exact List.mem_append_right _ (ih hos _)

/-- A program has something to propose wherever the offset is. -/
theorem isSome_proposals?_of_function {id : NodeId} (hkind : q.tree.kind id = .function) :
    (proposals? q id).isSome = true := by
  have hoffers : offers (q.tree.kind id) =
      some [.symbols .var none, .symbols .label none, .keywords, .sequence] := by rw [hkind]; rfl
  have hne : (proposeAll q id [.symbols .var none, .symbols .label none, .keywords, .sequence]
      q.settings.keywords).1.isEmpty = false := by
    rw [List.isEmpty_eq_false_iff]
    exact List.ne_nil_of_mem (mem_proposeAll (by simp) _
      (show _ ∈ keywordProposals from List.mem_cons_self))
  rw [proposals?, hoffers, Option.bind_some]
  simp [hne]

/-- In a program some node has a say, and it lies in the program. -/
theorem exists_decider (h : q.tree.Rooted) {f : NodeId}
    (hf : q.tree.enclosing .function (q.tree.nodeAt q.offset) = some f) :
    ∃ d, decider? q = some d ∧ q.tree.enclosing .function d = some f := by
  obtain ⟨hlt, hline⟩ := h.nodeAt_spec q.offset
  obtain ⟨hkind, hmem⟩ := Tree.spec_of_enclosing hf
  have hsome : (decider? q).isSome = true := by
    rw [decider?, List.find?_isSome, ← hline]
    exact ⟨f, hmem, isSome_proposals?_of_function hkind⟩
  obtain ⟨d, hd⟩ := Option.isSome_iff_exists.mp hsome
  refine ⟨d, hd, ?_⟩
  rw [decider?, ← hline] at hd
  exact h.enclosing_of_find? (fun i hi => isSome_proposals?_of_function hi) hlt hd hf

/-! ## Text to fill in -/

theorem snippet_of_mem_symbolProposals {s : Scope} {reference : ReferenceType} {ys : List Symbol}
    {ks : List Keyword} {p : Proposal} (hp : p ∈ (symbolProposals s reference ys ks).1) :
    p.snippet = none := by
  induction ys generalizing ks with
  | nil => cases hp
  | cons y ys ih =>
      rcases List.mem_cons.mp hp with rfl | hp
      · rfl
      · exact ih hp

theorem filter_snippet_eq_nil {ps : List Proposal} (h : ∀ p ∈ ps, p.snippet = none) :
    ps.filter (·.snippet.isSome) = [] := by
  apply List.filter_eq_nil_iff.mpr
  intro p hp
  simp [h p hp]

/-- The proposals of sequence numbers at a node: one, or none if the number is too large. -/
def numbersAt (q : Request) (id : NodeId) : List Proposal :=
  ((nextNumber q.tree q.settings.increment id).map (sequenceProposal q)).toList

theorem numbersAt_of_enclosing {id f : NodeId} (h : q.tree.enclosing .function id = some f) :
    numbersAt q id =
      if highest q.tree f + q.settings.increment < Number.wordBound then
        [sequenceProposal q (highest q.tree f + q.settings.increment)]
      else [] := by
  rw [numbersAt, nextNumber, h]
  simp only [Option.map_some, Option.getD_some]
  split <;> rfl

theorem filter_propose (q : Request) (id : NodeId) (ks : List Keyword) (o : Offer) :
    (propose q id ks o).1.filter (·.snippet.isSome) =
      if o = .sequence then numbersAt q id else [] := by
  cases o with
  | symbols reference types =>
      exact filter_snippet_eq_nil fun p hp => snippet_of_mem_symbolProposals hp
  | keywords => rfl
  | operators => rfl
  | sequence =>
      rw [if_pos rfl]
      apply List.filter_eq_self.mpr
      intro p hp
      obtain ⟨next, -, rfl⟩ := Option.map_eq_some_iff.mp (Option.mem_toList.mp hp)
      rfl

theorem filter_proposeAll (q : Request) (id : NodeId) (os : List Offer) (ks : List Keyword) :
    (proposeAll q id os ks).1.filter (·.snippet.isSome) =
      os.flatMap fun o => if o = .sequence then numbersAt q id else [] := by
  induction os generalizing ks with
  | nil => rfl
  | cons o os ih =>
      show ((propose q id ks o).1 ++ (proposeAll q id os (propose q id ks o).2).1).filter _ = _
      rw [List.filter_append, filter_propose, ih, List.flatMap_cons]

theorem flatMap_offers {k : Kind} {os : List Offer} (h : offers k = some os)
    (ps : List Proposal) :
    (os.flatMap fun o => if o = .sequence then ps else []) = if isBody k then ps else [] := by
  unfold offers at h
  split at h
  all_goals cases h
  all_goals simp [isBody]

theorem filter_leftover (ks : List Keyword) :
    (ks.map leftover).filter (·.snippet.isSome) = [] := by
  apply filter_snippet_eq_nil
  intro p hp
  obtain ⟨k, -, rfl⟩ := List.mem_map.mp hp
  rfl

/-- Of all that a node proposes, only sequence numbers come with text to fill in, and only programs,
branches and loops propose them. -/
theorem filter_proposals? {id : NodeId} {items : List Proposal} (h : proposals? q id = some items) :
    items.filter (·.snippet.isSome) = if isBody (q.tree.kind id) then numbersAt q id else [] := by
  obtain ⟨os, hoffers, hos⟩ := Option.bind_eq_some_iff.mp h
  simp only at hos
  split at hos
  case isTrue =>
      rw [← Option.some.inj hos, List.filter_append, filter_proposeAll, flatMap_offers hoffers,
        filter_leftover, List.append_nil]
  case isFalse => cases hos

/-- What comes with text to fill in, in a program: the step past the highest number that is met, if
the node that decides holds numbered blocks and the number is one of 64 bits. -/
theorem filter_completions (h : q.tree.Rooted) {f : NodeId}
    (hf : q.tree.enclosing .function (q.tree.nodeAt q.offset) = some f) :
    ∃ d, decider? q = some d ∧ q.tree.enclosing .function d = some f ∧
      (completions q).filter (·.snippet.isSome) =
        if isBody (q.tree.kind d) = true ∧
            highest q.tree f + q.settings.increment < Number.wordBound then
          [sequenceProposal q (highest q.tree f + q.settings.increment)]
        else [] := by
  obtain ⟨d, hd, henclosing⟩ := exists_decider h hf
  refine ⟨d, hd, henclosing, ?_⟩
  rw [filter_proposals? (proposals?_of_decider? hd)]
  cases isBody (q.tree.kind d) with
  | false => rfl
  | true =>
      rw [if_pos rfl, numbersAt_of_enclosing henclosing]
      simp only [true_and]

/-- The number that is proposed in a program is free, if no number in a numbered block is higher
than all numbers outside of such.  Then every proposal that comes with text to fill in proposes a
number of 64 bits that is greater than each number of the program, wherever that stands.  If the
node that decides is a program, a branch or a loop there is one such proposal, of the largest number
and the step, unless these exceed 64 bits; any other node makes none. -/
theorem proposed_number_free (h : q.tree.Formed) {f : NodeId}
    (hf : q.tree.enclosing .function (q.tree.nodeAt q.offset) = some f)
    (hstep : 1 ≤ q.settings.increment) (hcovered : Covered q.tree f) :
    (∀ p ∈ completions q, p.snippet.isSome = true → ∃ n, p = sequenceProposal q n ∧
      n < Number.wordBound ∧ ∀ s v, NumberIn q.tree f s v → v < n) ∧
    ∃ m d, IsLargest (fun v => ∃ s, NumberIn q.tree f s v) m ∧ decider? q = some d ∧
      q.tree.enclosing .function d = some f ∧
      (completions q).filter (·.snippet.isSome) =
        if isBody (q.tree.kind d) = true ∧ m + q.settings.increment < Number.wordBound then
          [sequenceProposal q (m + q.settings.increment)]
        else [] := by
  have hrooted := h.toRooted
  have hlt : f < q.tree.size :=
    Tree.lt_size_of_kind (by rw [(Tree.spec_of_enclosing hf).1]; decide)
  have hlargest := hcovered.isLargest_highest hrooted hlt
  obtain ⟨d, hd, henclosing, hfilter⟩ := filter_completions hrooted hf
  refine ⟨fun p hp hsnippet => ?_, _, d, hlargest, hd, henclosing, hfilter⟩
  have hmem : p ∈ (completions q).filter (·.snippet.isSome) :=
    List.mem_filter.mpr ⟨hp, hsnippet⟩
  rw [hfilter] at hmem
  split at hmem
  case isTrue hfits =>
      refine ⟨_, List.mem_singleton.mp hmem, hfits.2, fun s v hv => ?_⟩
      have hle := hlargest.le v ⟨s, hv⟩
      omega
  case isFalse => cases hmem

/-- A program of one numbered block, with a number in the branch of a condition in that block. -/
def numberedBlock (source : String) : Record :=
  { uri := "main.src"
    includes := []
    tree :=
      { source
        nodes := #[
          { kind := .file .program, span := ⟨0, 5⟩, children := [1] },
          { kind := .function, span := ⟨0, 5⟩, parent := some 0, children := [2] },
          { kind := .sequenceNumber, span := ⟨0, 5⟩, parent := some 1, children := [3, 4] },
          { kind := .numeric, span := ⟨0, 2⟩, field := some .number, parent := some 2 },
          { kind := .ifBlock, span := ⟨3, 5⟩, parent := some 2, children := [5] },
          { kind := .thenBranch, span := ⟨3, 5⟩, parent := some 4, children := [6] },
          { kind := .sequenceNumber, span := ⟨3, 5⟩, parent := some 5, children := [7] },
          { kind := .numeric, span := ⟨3, 5⟩, field := some .number, parent := some 6 }]
        declarations := #[] } }

/-- The lower number stands inside. -/
def atLower : Request := ⟨{}, numberedBlock "20 10", 0, {}⟩

/-- The higher number stands inside. -/
def atHigher : Request := ⟨{}, numberedBlock "10 20", 0, {}⟩

theorem facts_numberedBlock :
    (∀ t ∈ [atLower.tree, atHigher.tree], t.defect? = none ∧
      t.enclosing .function (t.nodeAt 0) = some 1) ∧
    (∀ s < 8, atLower.tree.kind s = .sequenceNumber → s = 2 ∨ s = 6) ∧
    sequenceValue atLower.tree 2 = some 20 ∧ sequenceValue atLower.tree 6 = some 10 ∧
    atLower.tree.lineage 2 = [2, 1, 0] ∧
    (∀ i ∈ atHigher.tree.path 0, (offers (atHigher.tree.kind i)).isSome = true →
      isBody (atHigher.tree.kind i) = true) ∧
    highest atHigher.tree 1 = 10 ∧ sequenceValue atHigher.tree 6 = some 20 ∧
    1 ∈ atHigher.tree.lineage 6 := by
  decide

theorem proposed_number_free_atLower :
    atLower.tree.Formed ∧
      atLower.tree.enclosing .function (atLower.tree.nodeAt atLower.offset) = some 1 ∧
      1 ≤ atLower.settings.increment ∧ Covered atLower.tree 1 ∧ NumberIn atLower.tree 1 2 20 ∧
      (∀ p ∈ completions atLower, p.snippet.isSome = true →
        ∃ n, p = sequenceProposal atLower n ∧ n < Number.wordBound ∧ 20 < n) ∧
      ∃ m d, IsLargest (fun v => ∃ s, NumberIn atLower.tree 1 s v) m ∧
        decider? atLower = some d ∧ atLower.tree.enclosing .function d = some 1 := by
  obtain ⟨htrees, hkinds, houtside, hinside, hline, -⟩ := facts_numberedBlock
  obtain ⟨hcheck, hprogram⟩ := htrees atLower.tree (by simp)
  have hformed : atLower.tree.Formed := (Tree.defect?_eq_none_iff.mp hcheck).toFormed
  have houter : NumberIn atLower.tree 1 2 20 := ⟨hline ▸ by decide, rfl, houtside⟩
  have houtermost : Outermost atLower.tree 1 2 := by
    intro a ha _
    have ha : a ∈ [1, 0] := by
      rw [Tree.lineage, List.cons.injEq] at hline
      exact hline.2 ▸ ha
    rcases List.mem_cons.mp ha with rfl | ha
    · decide
    · obtain rfl := List.mem_singleton.mp ha
      decide
  have hcovered : Covered atLower.tree 1 := by
    intro s v hv _
    have hlt : s < 8 := Tree.lt_size_of_kind (by rw [hv.kind]; decide)
    refine ⟨2, 20, houter, houtermost, ?_⟩
    have hvalue := hv.value
    rcases hkinds s hlt hv.kind with rfl | rfl
    · rw [houtside, Option.some.injEq] at hvalue
      omega
    · rw [hinside, Option.some.injEq] at hvalue
      omega
  obtain ⟨hfree, m, d, hlargest, hd, henclosing, -⟩ :=
    proposed_number_free hformed hprogram (by decide) hcovered
  refine ⟨hformed, hprogram, by decide, hcovered, houter, fun p hp hsnippet => ?_, m, d, hlargest,
    hd, henclosing⟩
  obtain ⟨n, hn, hlt, hall⟩ := hfree p hp hsnippet
  exact ⟨n, hn, hlt, hall 2 20 houter⟩

/-- The number that is proposed is the one that stands inside. -/
theorem proposed_number_taken :
    atHigher.tree.Formed ∧
      atHigher.tree.enclosing .function (atHigher.tree.nodeAt atHigher.offset) = some 1 ∧
      1 ≤ atHigher.settings.increment ∧ sequenceProposal atHigher 20 ∈ completions atHigher ∧
      NumberIn atHigher.tree 1 6 20 := by
  obtain ⟨htrees, -, -, -, -, hbody, hhighest, hinside, hbelow⟩ := facts_numberedBlock
  obtain ⟨hcheck, hprogram⟩ := htrees atHigher.tree (by simp)
  have hformed : atHigher.tree.Formed := (Tree.defect?_eq_none_iff.mp hcheck).toFormed
  refine ⟨hformed, hprogram, by decide, ?_, hbelow, rfl, hinside⟩
  obtain ⟨d, hd, -, hfilter⟩ := filter_completions hformed.toRooted hprogram
  have hpath : d ∈ atHigher.tree.path 0 :=
    List.mem_reverse.mp (List.mem_of_find?_eq_some hd)
  have hoffers : (offers (atHigher.tree.kind d)).isSome = true := by
    obtain ⟨os, hos, -⟩ := Option.bind_eq_some_iff.mp (proposals?_of_decider? hd)
    rw [hos]
    rfl
  rw [hhighest, if_pos ⟨hbody d hpath hoffers, by decide⟩] at hfilter
  have hmem : sequenceProposal atHigher 20 ∈
      (completions atHigher).filter (·.snippet.isSome) := by
    rw [hfilter]
    exact List.mem_singleton.mpr rfl
  exact List.mem_of_mem_filter hmem

end Completion
end NcInsight
