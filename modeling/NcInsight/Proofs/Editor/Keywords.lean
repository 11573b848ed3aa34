import Mathlib.Data.List.Forall2
import NcInsight.Editor.Completion

/-
Documentation of the settings is shown once.

The names that a node proposes take their documentation off one list, one after the other.  What is
taken and what is left make up the list at each step (`takeKeyword_perm`), and so for all that a
node offers (`takes_proposeAll`).  What is left in the end is proposed on its own, so no entry is
lost and none is shown twice (`keywords_shown_once`).
-/
namespace NcInsight

namespace Keyword

/-- What is shown of an entry: its name and its text. -/
def shown (k : Keyword) : String × String := (k.symbol, k.text)

end Keyword

namespace Proposal

/-- A proposal of a name, and not of a fixed word or of text to fill in. -/
def isName (p : Proposal) : Bool :=
  match p.kind with
  | .keyword | .operator | .snippet => false
  | _ => true

/-- The label of a proposal with its documentation, if it has any. -/
def documented? (p : Proposal) : Option (String × String) :=
  p.documentation.map fun text => (p.label, text)

/-- A proposed name is documented by an entry for that name. -/
structure DocumentedBy (p : Proposal) (k : Keyword) : Prop where
  isName : p.isName = true
  label : p.label = k.symbol
  documentation : p.documentation = some k.text

theorem DocumentedBy.documented?_eq {p : Proposal} {k : Keyword} (h : p.DocumentedBy k) :
    p.documented? = some k.shown := by
  rw [documented?, h.documentation, h.label]
  rfl

theorem filterMap_documented? {ps : List Proposal} {ks : List Keyword}
    (h : List.Forall₂ DocumentedBy (ps.filter (·.documentation.isSome)) ks) :
    ps.filterMap documented? = ks.map Keyword.shown := by
  induction ps generalizing ks with
  | nil =>
      cases h
      rfl
  | cons p ps ih =>
      cases hp : p.documentation with
      | none =>
          rw [List.filter_cons_of_neg (by simp [hp])] at h
          have hnone : p.documented? = none := by rw [documented?, hp, Option.map_none]
          rw [List.filterMap_cons_none hnone, ih h]
      | some text =>
          rw [List.filter_cons_of_pos (by simp [hp])] at h
          cases h with
          | cons hfirst hrest =>
              rw [List.filterMap_cons_some hfirst.documented?_eq, ih hrest, List.map_cons]

end Proposal

namespace Completion

/-- Proposals that take some entries of a list for their names, one each, and leave the rest.  A
name goes without documentation only if nothing is left for it. -/
structure Takes (ks : List Keyword) (ps : List Proposal) (rest : List Keyword) : Prop where
  taken : ∃ used, (used ++ rest).Perm ks ∧
    List.Forall₂ Proposal.DocumentedBy (ps.filter (·.documentation.isSome)) used
  settled : ∀ p ∈ ps, p.isName = true → p.documentation = none → ∀ k ∈ rest, k.symbol ≠ p.label

namespace Takes

variable {ks mid rest : List Keyword} {ps qs : List Proposal}

/-- Proposals of fixed words take nothing. -/
theorem of_plain (hplain : ∀ p ∈ ps, p.documentation = none ∧ p.isName = false) :
    Takes ks ps ks := by
  refine ⟨⟨[], List.Perm.refl ks, ?_⟩, fun p hp hname => ?_⟩
  · have hnone : ps.filter (·.documentation.isSome) = [] := by
      apply List.filter_eq_nil_iff.mpr
      intro p hp
      simp [(hplain p hp).1]
    rw [hnone]
    exact .nil
  · rw [(hplain p hp).2] at hname
    cases hname

theorem subset (h : Takes ks ps rest) : rest ⊆ ks := by
  obtain ⟨⟨used, hperm, -⟩, -⟩ := h
  exact fun k hk => hperm.subset (List.mem_append_right used hk)

/-- What a second row of proposals takes off the rest is taken off the whole. -/
theorem append (h : Takes ks ps mid) (h' : Takes mid qs rest) : Takes ks (ps ++ qs) rest := by
  obtain ⟨⟨used, hperm, hdocumented⟩, hsettled⟩ := h
  have hsubset := h'.subset
  obtain ⟨⟨used', hperm', hdocumented'⟩, hsettled'⟩ := h'
  refine ⟨⟨used ++ used', ?_, ?_⟩, fun p hp hname hnone k hk => ?_⟩
  · rw [List.append_assoc]
    exact (hperm'.append_left used).trans hperm
  · rw [List.filter_append]
    exact List.rel_append hdocumented hdocumented'
  · rcases List.mem_append.mp hp with hp | hp
    · exact hsettled p hp hname hnone k (hsubset hk)
    · exact hsettled' p hp hname hnone k hk

end Takes

/-! ## Names -/

theorem symbol_of_takeKeyword {name : String} {ks : List Keyword} {k : Keyword}
    (h : (takeKeyword name ks).1 = some k) : k.symbol = name := by
  induction ks with
  | nil => cases h
  | cons x ks ih =>
      rw [takeKeyword] at h
      split at h
      case isTrue hx =>
          cases h
          exact hx
      case isFalse => exact ih h

theorem ne_of_takeKeyword_eq_none {name : String} {ks : List Keyword}
    (h : (takeKeyword name ks).1 = none) : ∀ k ∈ (takeKeyword name ks).2, k.symbol ≠ name := by
  induction ks with
  | nil =>
      intro k hk
      cases hk
  | cons x ks ih =>
      rw [takeKeyword] at h ⊢
      split at h
      case isTrue => cases h
      case isFalse hx =>
          rw [if_neg hx]
          intro k hk
          rcases List.mem_cons.mp hk with rfl | hk
          · exact hx
          · exact ih h k hk

theorem isName_symbolProposal (s : Scope) (reference : ReferenceType) (y : Symbol)
    (k : Option Keyword) : (symbolProposal s reference y k).isName = true := by
  rw [Proposal.isName, symbolProposal]
  cases reference <;> cases y.valueType <;> rfl

/-- Step lemma: a name takes the first entry for it, or there is none. -/
theorem takes_symbolProposal (s : Scope) (reference : ReferenceType) (y : Symbol)
    (ks : List Keyword) :
    Takes ks [symbolProposal s reference y (takeKeyword y.name ks).1]
      (takeKeyword y.name ks).2 := by
  have hperm := takeKeyword_perm y.name ks
  have hname := isName_symbolProposal s reference y (takeKeyword y.name ks).1
  cases hk : (takeKeyword y.name ks).1 with
  | none =>
      rw [hk] at hperm hname
      refine ⟨⟨[], hperm, .nil⟩, fun p hp _ _ k hmem => ?_⟩
      obtain rfl := List.mem_singleton.mp hp
      exact ne_of_takeKeyword_eq_none hk k hmem
  | some k =>
      rw [hk] at hperm hname
      refine ⟨⟨[k], hperm, .cons ⟨hname, (symbol_of_takeKeyword hk).symm, rfl⟩ .nil⟩,
        fun p hp _ hnone => ?_⟩
      rw [List.mem_singleton.mp hp] at hnone
      cases hnone

/-- Run lemma: a row of names. -/
theorem takes_symbolProposals (s : Scope) (reference : ReferenceType) (ys : List Symbol)
    (ks : List Keyword) :
    Takes ks (symbolProposals s reference ys ks).1 (symbolProposals s reference ys ks).2 := by
  induction ys generalizing ks with
  | nil => exact .of_plain fun p hp => by cases hp
  | cons y ys ih => exact (takes_symbolProposal s reference y ks).append (ih _)

/-! ## What a node offers -/

theorem takes_propose (q : Request) (id : NodeId) (ks : List Keyword) (o : Offer) :
    Takes ks (propose q id ks o).1 (propose q id ks o).2 := by
  cases o with
  | symbols reference types => exact takes_symbolProposals q.scope reference _ ks
  | keywords =>
      refine .of_plain fun p hp => ?_
      obtain ⟨label, -, rfl⟩ := List.mem_map.mp hp
      exact ⟨rfl, rfl⟩
  | operators =>
      refine .of_plain fun p hp => ?_
      obtain ⟨label, -, rfl⟩ := List.mem_map.mp hp
      exact ⟨rfl, rfl⟩
  | sequence =>
      refine .of_plain fun p hp => ?_
      obtain ⟨next, -, rfl⟩ := Option.map_eq_some_iff.mp (Option.mem_toList.mp hp)
      exact ⟨rfl, rfl⟩

theorem takes_proposeAll (q : Request) (id : NodeId) (os : List Offer) (ks : List Keyword) :
    Takes ks (proposeAll q id os ks).1 (proposeAll q id os ks).2 := by
  induction os generalizing ks with
  | nil => exact .of_plain fun p hp => by cases hp
  | cons o os ih => exact (takes_propose q id ks o).append (ih _)

/-- A node proposes names and fixed words, and behind them what documentation is left. -/
theorem exists_takes_of_proposals? {q : Request} {id : NodeId} {items : List Proposal}
    (h : proposals? q id = some items) :
    ∃ ps rest, items = ps ++ rest.map leftover ∧ Takes q.settings.keywords ps rest := by
  obtain ⟨os, -, hos⟩ := Option.bind_eq_some_iff.mp h
  simp only at hos
  split at hos
  case isTrue => exact ⟨_, _, (Option.some.inj hos).symm, takes_proposeAll q id os _⟩
  case isFalse => cases hos

theorem filterMap_leftover (ks : List Keyword) :
    (ks.map leftover).filterMap Proposal.documented? = ks.map Keyword.shown := by
  rw [List.filterMap_map, ← List.filterMap_eq_map]
  rfl

/-- Either no node around the offset has a say; then the words for a file are proposed, and no entry
of the settings is used.  Or the documented proposals show the entries of the settings, each
once.  Then the entries are divided: some are the documentation of names, one each and under the
name they are for, and the rest are proposals of their own.  An entry is among the rest only if no
proposed name is in want of it. -/
theorem keywords_shown_once (q : Request) :
    ((∀ id ∈ q.tree.path q.offset, proposals? q id = none) ∧ completions q = fileProposals ∧
      ∀ p ∈ completions q, p.documentation = none) ∨
    ((completions q).filterMap Proposal.documented?).Perm
        (q.settings.keywords.map Keyword.shown) ∧
      ∃ ps used rest, completions q = ps ++ rest.map leftover ∧
        (used ++ rest).Perm q.settings.keywords ∧
        List.Forall₂ Proposal.DocumentedBy (ps.filter (·.documentation.isSome)) used ∧
        ∀ p ∈ ps, p.isName = true → p.documentation = none → ∀ k ∈ rest, k.symbol ≠ p.label := by
  rw [completions_eq]
  cases hfound : (q.tree.path q.offset).reverse.findSome? (proposals? q) with
  | none =>
      have hsilent : ∀ id ∈ q.tree.path q.offset, proposals? q id = none := fun id hid =>
        List.findSome?_eq_none_iff.mp hfound id (List.mem_reverse.mpr hid)
      refine .inl ⟨hsilent, rfl, fun p hp => ?_⟩
      obtain ⟨label, -, rfl⟩ := List.mem_map.mp hp
      rfl
  | some items =>
      obtain ⟨id, -, hid⟩ := List.exists_of_findSome?_eq_some hfound
      obtain ⟨ps, rest, hitems, ⟨used, hperm, hdocumented⟩, hsettled⟩ :=
        exists_takes_of_proposals? hid
      refine .inr ⟨?_, ps, used, rest, hitems, hperm, hdocumented, hsettled⟩
      rw [Option.getD_some, hitems, List.filterMap_append,
        Proposal.filterMap_documented? hdocumented, filterMap_leftover, ← List.map_append]
      exact hperm.map Keyword.shown

/-- A program behind the declaration of a name that the settings have twice, beside a name that is
not declared. -/
def atDocumented : Request where
  workspace := {}
  record :=
    { uri := "main.src"
      includes := []
      tree :=
        { source := "A O1"
          nodes := #[
            { kind := .file .program, span := ⟨0, 4⟩, children := [1, 3] },
            { kind := .varDef, span := ⟨0, 1⟩, parent := some 0, children := [2],
              link := some { id := 0 } },
            { kind := .symbol, span := ⟨0, 1⟩, field := some .name, parent := some 1 },
            { kind := .function, span := ⟨2, 4⟩, parent := some 0 }]
          declarations := #[⟨.var, "A", 1, some 2, none, none, .undefined⟩] } }
  offset := 4
  settings :=
    { keywords := [⟨"B", ["the depth"]⟩, ⟨"A", ["the width"]⟩, ⟨"A", ["the width again"]⟩] }

/-- The name takes the first entry for it, and the others are proposed on their own. -/
theorem keywords_shown_once_atDocumented :
    (completions atDocumented).filterMap Proposal.documented? =
        [("A", "the width"), ("B", "the depth"), ("A", "the width again")] ∧
      ((completions atDocumented).filterMap Proposal.documented?).Perm
        (atDocumented.settings.keywords.map Keyword.shown) ∧
      ∃ p ∈ completions atDocumented,
        p.isName = true ∧ p.documented? = some ("A", "the width") := by
  have hshown : (completions atDocumented).filterMap Proposal.documented? =
      [("A", "the width"), ("B", "the depth"), ("A", "the width again")] := by decide
  have htaken : ∃ p ∈ completions atDocumented,
      p.isName = true ∧ p.documented? = some ("A", "the width") := by decide
  refine ⟨hshown, ?_, htaken⟩
  rcases keywords_shown_once atDocumented with ⟨-, -, hnone⟩ | ⟨hperm, -⟩
  · obtain ⟨p, hp, -, hdocumented⟩ := htaken
    rw [Proposal.documented?, hnone p hp] at hdocumented
    cases hdocumented
  · exact hperm

end Completion
end NcInsight
