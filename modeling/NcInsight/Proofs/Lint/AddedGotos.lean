import NcInsight.Proofs.Lint.Gotos
import NcInsight.Proofs.Lint.Names
import NcInsight.Proofs.Tree.Growth

/-
Gotos and the places to jump to.

A goto names a place and marks none, as long as it holds plain words (`PlainGotos.not_marks`).  A
variable that stands for a sequence number is no plain word: it marks a place wherever it stands, and
so a goto to it finds itself.  If goto statements of plain words are put into a file, the others keep
their marks (`AddsGotos.occurrences_eq`), and with them what is wrong with these
(`AddsGotos.duplicates_eq`).
-/
namespace NcInsight

/-- A report about the new number of its node. -/
def Report.moved (φ : NodeId → NodeId) (p : Report) : Report := { p with node := φ p.node }

/-- A finding at the new number of its node, and where that node is now. -/
def Finding.moved (u : Tree) (φ : NodeId → NodeId) (f : Finding) : Finding :=
  { f with node := φ f.node, span := u.span (φ f.node) }

theorem Report.finding?_moved (t u : Tree) (φ : NodeId → NodeId) (levels : Levels) (p : Report) :
    (p.moved φ).finding? u levels = (p.finding? t levels).map (Finding.moved u φ) := by
  rw [Report.finding?, Report.finding?, Option.map_map]
  refine congrArg (fun f => Option.map f _) (funext fun severity => ?_)
  obtain ⟨rule, node, detail⟩ := p
  cases detail <;> rfl

namespace Lint

/-! ## In a goto -/

/-- A goto is around the node. -/
def InGoto (t : Tree) (i : NodeId) : Prop := ∃ g ∈ t.ancestors i, t.kind g = .goto

instance (t : Tree) (i : NodeId) : Decidable (InGoto t i) :=
  inferInstanceAs (Decidable (∃ g ∈ t.ancestors i, t.kind g = .goto))

/-- The bodies in which a label marks a place. -/
def bodyKinds : List Kind := [.function, .thenBranch, .elseBranch, .whileLoop]

/-- Node `i`, visited behind the nodes `before`, is no sequence number, no body, and no variable that
stands for a sequence number. -/
structure PlainWord (c : Context) (before : List NodeId) (i : NodeId) : Prop where
  kind : c.tree.kind i ∉ Kind.sequenceNumber :: bodyKinds
  var : c.tree.kind i = .var → ∀ d, (known c before).resolve c.tree i = some d →
    d.valueType = .sequence → d.valueText = none

/-- Gotos hold plain words, as far as the nodes of `P` are concerned. -/
def PlainGotos (c : Context) (P : NodeId → Prop) : Prop :=
  ∀ before i after, visited c.tree = before ++ i :: after → InGoto c.tree i → P i →
    PlainWord c before i

theorem inGoto_of_mem {t : Tree} (h : t.Rooted) {p i : NodeId} (hi : i ∈ t.children p) :
    InGoto t i ↔ t.kind p = .goto ∨ InGoto t p := by
  simp [InGoto, h.ancestors_of_mem hi]

theorem mem_visited_of_mem {t : Tree} (h : t.Rooted) {p i : NodeId} (hi : i ∈ t.children p)
    (hvisited : i ∈ visited t) : p ∈ visited t := by
  have hall := (h.mem_visits.mp hvisited).2
  rw [h.ancestors_of_mem hi] at hall
  exact h.mem_visits.mpr ⟨Tree.lt_size_of_mem_children hi, fun a ha =>
    hall a (List.mem_cons_of_mem p ha)⟩

theorem parent_of_isJumpPosition {t : Tree} {i : NodeId} (h : isJumpPosition t i = true) :
    ∃ p, t.parent i = some p ∧ t.kind p ∈ bodyKinds := by
  rw [isJumpPosition, Bool.and_eq_true, Bool.and_eq_true] at h
  have hbody := h.1.1
  rw [Tree.parentKind] at hbody
  cases hp : t.parent i with
  | none =>
      rw [hp] at hbody
      cases hbody
  | some p =>
      rw [hp, Option.map_some] at hbody
      refine ⟨p, rfl, ?_⟩
      cases hkind : t.kind p <;> rw [hkind] at hbody <;> first | decide | cases hbody

theorem mem_visited_of_split {t : Tree} {before : List NodeId} {i : NodeId} {after : List NodeId}
    (h : visited t = before ++ i :: after) : i ∈ visited t := by
  rw [h]
  exact List.mem_append_right before List.mem_cons_self

/-- A plain word in a goto marks no place, if what is around it in the goto is plain too. -/
theorem PlainGotos.not_marks {c : Context} {P : NodeId → Prop} (hplain : PlainGotos c P)
    (h : c.tree.Rooted) {before : List NodeId} {i : NodeId} {after : List NodeId}
    (hsplit : visited c.tree = before ++ i :: after) (hi : InGoto c.tree i) (hP : P i)
    (habove : ∀ p, i ∈ c.tree.children p → P p) {o : Occurrence} : ¬Marks c before i o := by
  have hvisited := mem_visited_of_split hsplit
  have hword := hplain before i after hsplit hi hP
  intro hmarks
  cases hmarks with
  | number hkind hn =>
      refine hword.kind ?_
      rw [hkind]
      exact List.mem_cons_self
  | var hkind hd htype hvalue =>
      rw [hword.var hkind _ hd htype] at hvalue
      cases hvalue
  | label hkind hplace hd hvalue =>
      obtain ⟨p, hparent, hbody⟩ := parent_of_isJumpPosition hplace
      rcases h.eq_root_or_mem (h.mem_visits.mp hvisited).1 with rfl | ⟨p', hmem⟩
      · rw [h.parent_root] at hparent
        cases hparent
      · rw [h.parent_of_mem hmem] at hparent
        obtain rfl := Option.some.inj hparent
        rcases (inGoto_of_mem h hmem).mp hi with hgoto | hin
        · rw [hgoto] at hbody
          exact absurd hbody (by decide)
        · -- the body stands in the goto too
          obtain ⟨front, rest, hp⟩ := List.append_of_mem (mem_visited_of_mem h hmem hvisited)
          exact (hplain front p' rest hp hin (habove p' hmem)).kind (List.mem_cons_of_mem _ hbody)

/-! ## Goto statements put in -/

/-- The node of the text that is read at a node, if there is one. -/
def wordAt? (t : Tree) (i : NodeId) : Option NodeId :=
  match t.kind i with
  | .inclusion => t.inclusionTarget? i
  | .sequenceNumber => numberNode t i
  | .label | .var => some i
  | _ => none

/-- What brings in names. -/
def namingKinds : List Kind := [.inclusion, .varDef, .labelDef]

/-- Tree `u` is tree `t` with goto statements put in, which bring in no names.  The words that were
there keep their texts, and the names what they are declared to be. -/
structure AddsGotos (t u : Tree) (φ : NodeId → NodeId) : Prop extends t.Grows u φ where
  added : ∀ i < t.size, ∀ g ∈ u.children (φ i), t.isOld φ g = false →
    u.kind g = .goto ∧ u.field g ≠ some .number ∧ t.kind i ≠ .inclusion
  nameless : ∀ j < u.size, t.isOld φ j = false → u.kind j ∉ namingKinds
  word : ∀ i < t.size, ∀ n ∈ wordAt? t i, u.text (φ n) = t.text n
  declared : ∀ i < t.size, (u.declarationOf (φ i)).map Declaration.content =
    (t.declarationOf i).map Declaration.content

instance (o p : Option Declaration) :
    Decidable (o.map Declaration.content = p.map Declaration.content) :=
  inferInstance

instance (t u : Tree) (φ : NodeId → NodeId) : Decidable (AddsGotos t u φ) :=
  decidable_of_iff (t.Grows u φ ∧ (∀ i < t.size, ∀ g ∈ u.children (φ i), t.isOld φ g = false →
        u.kind g = .goto ∧ u.field g ≠ some .number ∧ t.kind i ≠ .inclusion) ∧
      (∀ j < u.size, t.isOld φ j = false → u.kind j ∉ namingKinds) ∧
      (∀ i < t.size, ∀ n ∈ wordAt? t i, u.text (φ n) = t.text n) ∧
      ∀ i < t.size, (u.declarationOf (φ i)).map Declaration.content =
        (t.declarationOf i).map Declaration.content)
    ⟨fun h => ⟨h.1, h.2.1, h.2.2.1, h.2.2.2.1, h.2.2.2.2⟩,
      fun h => ⟨h.toGrows, h.added, h.nameless, h.word, h.declared⟩⟩

/-- A mark at the new number of its node. -/
def Occurrence.moved (φ : NodeId → NodeId) (o : Occurrence) : Occurrence :=
  { o with anchor := φ o.anchor }

/-- The same is declared and included, by declarations that may stand at other nodes. -/
structure SameNames (f g : Facts) : Prop where
  introduced : f.introduced.map Declaration.content = g.introduced.map Declaration.content
  imports : f.imports = g.imports

/-- Step lemma: a node that brings in no names changes none. -/
theorem SameNames.advance_new {f g : Facts} (hs : SameNames f g) {d : Context} {j : NodeId}
    (hkind : d.tree.kind j ∉ namingKinds) : SameNames f (g.advance d j) := by
  have hinclusion : d.tree.kind j ≠ .inclusion := by
    intro h
    rw [h] at hkind
    exact hkind (by decide)
  have hdeclares : (d.tree.kind j).isDeclaration = false := by
    rw [Bool.eq_false_iff]
    intro h
    apply hkind
    cases hj : d.tree.kind j <;> rw [hj] at h <;> first | decide | cases h
  refine ⟨?_, ?_⟩
  · rw [introduced_advance_of_ne g hdeclares hinclusion]
    exact hs.introduced
  · rw [imports_advance_of_ne g hinclusion]
    exact hs.imports

namespace AddsGotos

section tree

variable {t u : Tree} {φ : NodeId → NodeId} (h : AddsGotos t u φ) (ht : t.Rooted)
include h ht

theorem numberNode_eq {i : NodeId} (hi : i < t.size) :
    numberNode u (φ i) = (numberNode t i).map φ := by
  rw [numberNode, numberNode, Option.map_or]
  congr 1
  · exact h.childByField_eq ht hi fun g hg hnew => (h.added i hi g hg hnew).2.1
  · refine h.childByKind_eq ht hi fun g hg hnew => ?_
    rw [(h.added i hi g hg hnew).1]
    decide

/-- Nothing is put into an include statement. -/
theorem inclusionTarget?_eq {i : NodeId} (hi : i < t.size) (hkind : t.kind i = .inclusion) :
    u.inclusionTarget? (φ i) = (t.inclusionTarget? i).map φ := by
  have hall : ∀ g ∈ u.children (φ i), t.isOld φ g = true := by
    intro g hg
    by_contra hnew
    exact (h.added i hi g hg (Bool.eq_false_iff.mpr hnew)).2.2 hkind
  have hchildren := h.children i hi
  rw [List.filter_eq_self.mpr hall] at hchildren
  rw [Tree.inclusionTarget?, Tree.inclusionTarget?, Tree.childOrFirst, Tree.childOrFirst,
    Option.map_or]
  congr 1
  · refine h.childByField_eq ht hi fun g hg hnew => ?_
    rw [hall g hg] at hnew
    cases hnew
  · rw [Tree.child, Tree.child, hchildren, List.getElem?_map]

variable (hu : u.Rooted)
include hu

theorem isJumpPosition_eq {i : NodeId} (hi : i < t.size) :
    isJumpPosition u (φ i) = isJumpPosition t i := by
  rw [isJumpPosition, isJumpPosition, h.parentKind_eq ht hu hi, h.field i hi,
    h.enclosing_eq ht hu hi, Option.isSome_map]

theorem programOf_eq {i : NodeId} (hi : i < t.size) :
    programOf u (φ i) = φ (programOf t i) := by
  rw [programOf, programOf, h.enclosing_eq ht hu hi]
  cases t.enclosing .function i with
  | none => exact h.root.symm
  | some p => rfl

theorem length_enclosingAll {i : NodeId} (hi : i < t.size) (k : Kind) :
    (enclosingAll u k (φ i)).length = (enclosingAll t k i).length := by
  rw [enclosingAll, enclosingAll, h.lineage_eq ht hu hi, List.filter_map, List.length_map]
  congr 1
  refine List.filter_congr fun a ha => ?_
  rw [Function.comp_apply, h.kind a (ht.lt_of_mem_lineage hi ha)]

theorem isCut_eq {i : NodeId} (hi : i < t.size) : isCut u (φ i) = isCut t i := by
  rw [isCut, isCut, isTooDeep, isTooDeep, h.kind i hi, h.length_enclosingAll ht hu hi,
    h.length_enclosingAll ht hu hi]

theorem filter_visited_eq : (visited u).filter (t.isOld φ) = (visited t).map φ := by
  refine h.filter_visits ht hu fun i hi => ?_
  rw [h.isCut_eq ht hu hi]

/-- A new node is a goto or stands in one. -/
theorem goto_or_inGoto {j : NodeId} (hj : j < u.size) (hnew : t.isOld φ j = false) :
    u.kind j = .goto ∨ InGoto u j := by
  refine hu.induct (P := fun j => t.isOld φ j = false → u.kind j = .goto ∨ InGoto u j)
    ?_ ?_ hj hnew
  · intro hnew
    rw [h.isOld_root ht] at hnew
    cases hnew
  · intro p c hc ih hnew
    cases hp : t.isOld φ p with
    | true =>
        obtain ⟨i, hi, rfl⟩ := Tree.isOld_iff.mp hp
        exact .inl (h.added i hi c hc hnew).1
    | false => exact .inr ((inGoto_of_mem hu hc).mpr (ih hp))

omit ht hu in
/-- Only gotos are put into what was there. -/
theorem isOld_parent {p j : NodeId} (hj : j ∈ u.children p) (hnew : t.isOld φ j = false)
    (hkind : u.kind j ≠ .goto) : t.isOld φ p = false := by
  rw [Bool.eq_false_iff]
  intro hp
  obtain ⟨i, hi, rfl⟩ := Tree.isOld_iff.mp hp
  exact hkind (h.added i hi j hj hnew).1

end tree

/-! ## One node -/

section node

variable {c d : Context} {φ : NodeId → NodeId} (h : AddsGotos c.tree d.tree φ)
  (hc : c.tree.Rooted) {f g : Facts} (hs : SameNames f g) {i : NodeId} (hi : i < c.tree.size)
include h hs hi

theorem resolve_eq (hkind : c.tree.kind i = .label ∨ c.tree.kind i = .var) :
    (g.resolve d.tree (φ i)).map Declaration.content =
      (f.resolve c.tree i).map Declaration.content := by
  have hword : i ∈ wordAt? c.tree i := by
    rcases hkind with hkind | hkind <;> simp [wordAt?, hkind]
  rw [Facts.resolve, Facts.resolve, Option.map_or, Option.map_or, h.declared i hi,
    h.word i hi i hword, lookup_of_introduced hs.introduced]

include hc

/-- A node that was there makes the mark it made. -/
theorem occurrence?_eq (hd : d.tree.Rooted) :
    occurrence? g d.tree (φ i) = (occurrence? f c.tree i).map (Occurrence.moved φ) := by
  rw [occurrence?, occurrence?, entryOf, entryOf, h.kind i hi]
  cases hkind : c.tree.kind i with
  | sequenceNumber =>
      simp only [h.numberNode_eq hc hi]
      cases hn : numberNode c.tree i with
      | none => rfl
      | some n =>
          have hword : n ∈ wordAt? c.tree i := by simp [wordAt?, hkind, hn]
          simp [entryAt, Occurrence.moved, h.word i hi n hword]
  | label =>
      simp only [h.isJumpPosition_eq hc hd hi, Facts.valueOf]
      rcases value_of_content (h.resolve_eq hs hi (.inl hkind)) with
        ⟨hg, hf⟩ | ⟨a, b, hg, hf, htext, -⟩
      · simp [hg, hf]
      · simp only [hg, hf, Option.bind_some, htext]
        cases isJumpPosition c.tree i <;> cases b.valueText <;> rfl
  | var =>
      rcases value_of_content (h.resolve_eq hs hi (.inr hkind)) with
        ⟨hg, hf⟩ | ⟨a, b, hg, hf, htext, htype⟩
      · simp [hg, hf]
      · simp only [hg, hf, htext, htype]
        split <;> cases b.valueText <;> rfl
  | _ => rfl

/-- Step lemma: a node that was there declares and includes what it did. -/
theorem advance_old (hfiles : c.files = d.files) (huri : c.record.uri = d.record.uri) :
    SameNames (f.advance c i) (g.advance d (φ i)) := by
  by_cases hinclusion : c.tree.kind i = .inclusion
  · simp only [Facts.advance, h.kind i hi, hinclusion, h.inclusionTarget?_eq hc hi hinclusion]
    cases hn : c.tree.inclusionTarget? i with
    | none => exact hs
    | some n =>
        have hword : n ∈ wordAt? c.tree i := by simp [wordAt?, hinclusion, hn]
        have htarget : d.target (φ n) = c.target n := by
          rw [Context.target, Context.target, h.word i hi n hword, hfiles, huri]
        have himported : ∀ a, imported d g a = imported c f a := by
          intro a
          rw [imported, imported, hs.imports, hfiles]
        simp only [Option.map_some, htarget, himported]
        refine ⟨?_, by rw [hs.imports]⟩
        rw [List.map_append, List.map_append, hs.introduced]
  · have hinclusion' : d.tree.kind (φ i) ≠ .inclusion := by
      rw [h.kind i hi]
      exact hinclusion
    refine ⟨?_, ?_⟩
    · cases hdeclares : (c.tree.kind i).isDeclaration with
      | true =>
          rw [introduced_advance_of_isDeclaration f hdeclares,
            introduced_advance_of_isDeclaration g (by rw [h.kind i hi]; exact hdeclares),
            List.map_append, List.map_append, hs.introduced, ← Option.toList_map,
            ← Option.toList_map, h.declared i hi]
      | false =>
          rw [introduced_advance_of_ne f hdeclares hinclusion,
            introduced_advance_of_ne g (by rw [h.kind i hi]; exact hdeclares) hinclusion']
          exact hs.introduced
    · rw [imports_advance_of_ne f hinclusion, imports_advance_of_ne g hinclusion']
      exact hs.imports

end node

/-! ## All nodes -/

/-- Run lemma: nodes that were there, with others between that mark nothing and bring in no names,
make the marks they made. -/
theorem occurrencesAlong_eq {c d : Context} {φ : NodeId → NodeId}
    (h : AddsGotos c.tree d.tree φ) (hc : c.tree.Rooted) (hd : d.tree.Rooted)
    (hfiles : c.files = d.files) (huri : c.record.uri = d.record.uri) {f g : Facts}
    (hs : SameNames f g) {ids js : List NodeId} (hids : ∀ i ∈ ids, i < c.tree.size)
    (hjs : js.filter (c.tree.isOld φ) = ids.map φ)
    (hnew : ∀ before j after, js = before ++ j :: after → c.tree.isOld φ j = false →
      d.tree.kind j ∉ namingKinds ∧
        occurrence? (before.foldl (Facts.advance d) g) d.tree j = none) :
    occurrencesAlong d g js = (occurrencesAlong c f ids).map (Occurrence.moved φ) := by
  induction js generalizing ids f g with
  | nil =>
      obtain rfl : ids = [] := List.map_eq_nil_iff.mp hjs.symm
      rfl
  | cons j js ih =>
      have hrest : ∀ before k after, js = before ++ k :: after → c.tree.isOld φ k = false →
          d.tree.kind k ∉ namingKinds ∧
            occurrence? (before.foldl (Facts.advance d) (g.advance d j)) d.tree k = none :=
        fun before k after hsplit hk => hnew (j :: before) k after (by rw [hsplit]; rfl) hk
      cases hold : c.tree.isOld φ j with
      | false =>
          rw [List.filter_cons_of_neg (by simp [hold])] at hjs
          obtain ⟨hkind, hnone⟩ := hnew [] j js rfl hold
          rw [List.foldl_nil] at hnone
          rw [occurrencesAlong, hnone]
          exact ih (hs.advance_new hkind) hids hjs hrest
      | true =>
          rw [List.filter_cons_of_pos hold] at hjs
          obtain ⟨i, ids, rfl, rfl, htail⟩ := List.map_eq_cons_iff.mp hjs.symm
          obtain ⟨hi, hids⟩ := List.forall_mem_cons.mp hids
          rw [occurrencesAlong, occurrencesAlong, List.map_append,
            h.occurrence?_eq hc hs hi hd, Option.toList_map,
            ih (h.advance_old hc hs hi hfiles huri) hids htail.symm hrest]

/-- If plain gotos are put in, the marks are those that were there. -/
theorem occurrences_eq {c d : Context} {φ : NodeId → NodeId} (h : AddsGotos c.tree d.tree φ)
    (hc : c.tree.Rooted) (hd : d.tree.Rooted) (hfiles : c.files = d.files)
    (huri : c.record.uri = d.record.uri)
    (hplain : PlainGotos d fun j => c.tree.isOld φ j = false) :
    occurrences d = (occurrences c).map (Occurrence.moved φ) := by
  refine h.occurrencesAlong_eq hc hd hfiles huri ⟨rfl, rfl⟩
    (fun i hi => (hc.mem_visits.mp hi).1) (h.filter_visited_eq hc hd) ?_
  intro before j after hsplit hnew
  have hj := (hd.mem_visits.mp (mem_visited_of_split hsplit)).1
  refine ⟨h.nameless j hj hnew, ?_⟩
  by_cases hgoto : d.tree.kind j = .goto
  · refine occurrence?_of_kind ?_
    rw [hgoto]
    decide
  · have hin := (h.goto_or_inGoto hc hd hj hnew).resolve_left hgoto
    refine Option.eq_none_iff_forall_ne_some.mpr fun o ho => ?_
    exact hplain.not_marks hd hsplit hin hnew (fun p hp => h.isOld_parent hp hnew hgoto)
      (occurrence?_eq_some_iff.mp ho)

section duplicates

variable {t u : Tree} {φ : NodeId → NodeId} (h : AddsGotos t u φ) (ht : t.Rooted)
  (hu : u.Rooted)
include h ht hu

theorem brokenRule?_eq {earlier : List Occurrence} {o : Occurrence}
    (hearlier : ∀ e ∈ earlier, e.anchor < t.size) (ho : o.anchor < t.size) :
    brokenRule? u (earlier.map (Occurrence.moved φ)) (o.moved φ) = brokenRule? t earlier o := by
  have hsame : ∀ e ∈ earlier, ((e.moved φ).program u == (o.moved φ).program u) =
      (e.program t == o.program t) := by
    intro e he
    have hlt := hearlier e he
    show (programOf u (φ e.anchor) == programOf u (φ o.anchor)) =
      (programOf t e.anchor == programOf t o.anchor)
    rw [h.programOf_eq ht hu hlt, h.programOf_eq ht hu ho, Bool.eq_iff_iff, beq_iff_eq, beq_iff_eq]
    exact ⟨h.injective ht hu (programOf_lt ht hlt) (programOf_lt ht ho), congrArg φ⟩
  rw [brokenRule?, brokenRule?, List.find?_map, Option.map_map]
  have hfind : earlier.find? ((fun e => e.program u == (o.moved φ).program u &&
      e.value == (o.moved φ).value) ∘ Occurrence.moved φ) =
        earlier.find? fun e => e.program t == o.program t && e.value == o.value := by
    refine List.find?_congr fun e he => ?_
    rw [Function.comp_apply, hsame e he]
    rfl
  rw [hfind]
  rfl

/-- What is wrong with marks stays wrong with them, and nothing else gets wrong. -/
theorem duplicates_eq {earlier os : List Occurrence}
    (hearlier : ∀ e ∈ earlier, e.anchor < t.size) (hos : ∀ o ∈ os, o.anchor < t.size) :
    duplicates u (earlier.map (Occurrence.moved φ)) (os.map (Occurrence.moved φ)) =
      (duplicates t earlier os).map (Report.moved φ) := by
  induction os generalizing earlier with
  | nil => rfl
  | cons o os ih =>
      obtain ⟨ho, hos⟩ := List.forall_mem_cons.mp hos
      have hnext : ∀ e ∈ earlier ++ [o], e.anchor < t.size := by
        intro e he
        rcases List.mem_append.mp he with he | he
        · exact hearlier e he
        · rw [List.mem_singleton.mp he]
          exact ho
      have hrest := ih hnext hos
      rw [List.map_append, List.map_singleton] at hrest
      rw [List.map_cons, duplicates, duplicates, List.map_append, hrest, verdict?, verdict?,
        h.brokenRule?_eq ht hu hearlier ho]
      cases brokenRule? t earlier o <;> rfl

end duplicates

end AddsGotos

/-! ## Findings -/

theorem anchor_lt_of_mem_occurrences {c : Context} (h : c.tree.Rooted) {o : Occurrence}
    (ho : o ∈ occurrences c) : o.anchor < c.tree.size := by
  obtain ⟨i, before, after, hsplit, hmarks⟩ := mem_occurrences.mp ho
  have hi := (h.mem_visits.mp (mem_visited_of_split hsplit)).1
  cases hmarks with
  | number hkind hn => exact h.lt_of_mem (mem_children_of_numberNode hn)
  | label hkind hplace hd hvalue => exact hi
  | var hkind hd htype hvalue => exact hi

/-- If plain gotos are put in, what is found of places that a program has twice is what was. -/
theorem AddsGotos.findings_eq {files : Resolver} {q r : Record} {φ : NodeId → NodeId}
    (h : AddsGotos q.tree r.tree φ) (hq : q.tree.Rooted) (hr : r.tree.Rooted)
    (huri : q.uri = r.uri) (hplain : PlainGotos ⟨files, r⟩ fun j => q.tree.isOld φ j = false)
    (levels : Levels) :
    (findings files r levels).filter (·.rule ∈ targetRules) =
      ((findings files q levels).filter (·.rule ∈ targetRules)).map (Finding.moved r.tree φ) := by
  have hmarks : occurrences ⟨files, r⟩ = (occurrences ⟨files, q⟩).map (Occurrence.moved φ) :=
    AddsGotos.occurrences_eq (c := ⟨files, q⟩) h hq hr rfl huri hplain
  have hnil : ∀ e ∈ ([] : List Occurrence), e.anchor < q.tree.size := by simp
  have hduplicates : duplicates r.tree [] ((occurrences ⟨files, q⟩).map (Occurrence.moved φ)) =
      (duplicates q.tree [] (occurrences ⟨files, q⟩)).map (Report.moved φ) :=
    h.duplicates_eq hq hr hnil fun o ho =>
      anchor_lt_of_mem_occurrences (c := ⟨files, q⟩) hq ho
  rw [findings_target, findings_target, hmarks, hduplicates, List.filterMap_map,
    List.map_filterMap]
  exact List.filterMap_congr fun p _ => p.finding?_moved q.tree r.tree φ levels

/-- A goto of plain words is no place to jump to.  What stands in it marks none.  So if what a goto
names has a value, and no mark outside of gotos in its program has that value, it is found to be
missing.  And if gotos of plain words are put into a file, what is found of places that a program has
twice stays as it was. -/
theorem plain_gotos_mark_nothing {r : Record} (h : r.tree.Formed) (files : Resolver)
    (levels : Levels) :
    (PlainGotos ⟨files, r⟩ (fun _ => True) →
      (∀ before i after, visited r.tree = before ++ i :: after → InGoto r.tree i →
        ∀ o, ¬Marks ⟨files, r⟩ before i o) ∧
      (levels.level .seqNotFound ≠ .ignore →
        ∀ g ∈ visited r.tree, r.tree.kind g = .goto →
        ∀ target, r.tree.childOrFirst g .label = some target →
        ∀ v, Checked (finalFacts ⟨files, r⟩) r.tree target (some v) →
        (∀ before i after, visited r.tree = before ++ i :: after → ¬InGoto r.tree i →
          ∀ o, Marks ⟨files, r⟩ before i o → o.program r.tree = programOf r.tree g →
            o.value ≠ Text.stripJump v) →
        target ∈ foundAt .seqNotFound (findings files r levels))) ∧
    ∀ (q : Record) (φ : NodeId → NodeId), q.tree.Formed → q.uri = r.uri →
      AddsGotos q.tree r.tree φ → PlainGotos ⟨files, r⟩ (fun j => q.tree.isOld φ j = false) →
      (findings files r levels).filter (·.rule ∈ targetRules) =
        ((findings files q levels).filter (·.rule ∈ targetRules)).map
          (Finding.moved r.tree φ) := by
  let c : Context := ⟨files, r⟩
  have hrooted : c.tree.Rooted := h.toRooted
  refine ⟨fun hplain => ?_, ?_⟩
  · have hnot : ∀ before i after, visited c.tree = before ++ i :: after → InGoto c.tree i →
        ∀ o, ¬Marks c before i o := fun before i after hsplit hi o =>
      hplain.not_marks hrooted hsplit hi trivial fun _ _ => trivial
    refine ⟨hnot, ?_⟩
    intro hlevel g hg hkind target htarget v hchecked hnone
    refine (mem_foundAt_seqNotFound (c := c) hrooted hlevel).mpr
      ⟨g, hg, hkind, htarget, some v, hchecked, ?_⟩
    intro w hw o ho hprogram
    obtain rfl := Option.some.inj hw
    obtain ⟨i, before, after, hsplit, hmarks⟩ := mem_occurrences.mp ho
    by_cases hi : InGoto r.tree i
    · exact absurd hmarks (hnot before i after hsplit hi o)
    · exact hnone before i after hsplit hi o hmarks hprogram
  · intro q φ hq huri hadds hplain
    exact hadds.findings_eq hq.toRooted hrooted huri hplain levels

/-- A program with one number twice. -/
def twinFile : Record :=
  { uri := "main.src"
    includes := []
    tree :=
      { source := "A 20 10 10"
        nodes := #[
          { kind := .file .program, span := ⟨0, 10⟩, children := [1, 4] },
          { kind := .varDef, span := ⟨0, 4⟩, parent := some 0, children := [2, 3],
            link := some { id := 0 } },
          { kind := .symbol, span := ⟨0, 1⟩, field := some .name, parent := some 1 },
          { kind := .numeric, span := ⟨2, 4⟩, field := some .value, parent := some 1 },
          { kind := .function, span := ⟨5, 10⟩, parent := some 0, children := [5, 7] },
          { kind := .sequenceNumber, span := ⟨5, 7⟩, parent := some 4, children := [6] },
          { kind := .numeric, span := ⟨5, 7⟩, field := some .number, parent := some 5 },
          { kind := .sequenceNumber, span := ⟨8, 10⟩, parent := some 4, children := [8] },
          { kind := .numeric, span := ⟨8, 10⟩, field := some .number, parent := some 7 }]
        declarations := #[⟨.var, "A", 1, some 2, some 3, some "20", .numeric⟩] } }

/-- The same program with a goto between the two numbers, to a variable of another value. -/
def partedFile : Record :=
  { uri := "main.src"
    includes := []
    tree :=
      { source := "A 20 10 A 10"
        nodes := #[
          { kind := .file .program, span := ⟨0, 12⟩, children := [1, 4] },
          { kind := .varDef, span := ⟨0, 4⟩, parent := some 0, children := [2, 3],
            link := some { id := 0 } },
          { kind := .symbol, span := ⟨0, 1⟩, field := some .name, parent := some 1 },
          { kind := .numeric, span := ⟨2, 4⟩, field := some .value, parent := some 1 },
          { kind := .function, span := ⟨5, 12⟩, parent := some 0, children := [5, 7, 9] },
          { kind := .sequenceNumber, span := ⟨5, 7⟩, parent := some 4, children := [6] },
          { kind := .numeric, span := ⟨5, 7⟩, field := some .number, parent := some 5 },
          { kind := .goto, span := ⟨8, 9⟩, parent := some 4, children := [8] },
          { kind := .var, span := ⟨8, 9⟩, field := some .label, parent := some 7,
            link := some { id := 0 } },
          { kind := .sequenceNumber, span := ⟨10, 12⟩, parent := some 4, children := [10] },
          { kind := .numeric, span := ⟨10, 12⟩, field := some .number, parent := some 9 }]
        declarations := #[⟨.var, "A", 1, some 2, some 3, some "20", .numeric⟩] } }

/-- The numbers of the nodes behind the goto. -/
def parted (i : NodeId) : NodeId := if i < 7 then i else i + 2

theorem facts_partedFile :
    twinFile.tree.defect? = none ∧ partedFile.tree.defect? = none ∧
      AddsGotos twinFile.tree partedFile.tree parted ∧
      visited partedFile.tree = List.range 11 ∧
      (∀ i ∈ List.range 11, InGoto partedFile.tree i → i = 8) ∧
      occurrences ⟨({} : Workspace).resolver, twinFile⟩ =
        [⟨6, "10", .sequence⟩, ⟨8, "10", .sequence⟩] ∧
      ∀ o ∈ occurrences ⟨({} : Workspace).resolver, partedFile⟩, o.value ≠ Text.stripJump "20" := by
  decide

theorem plainGotos_partedFile (P : NodeId → Prop) :
    PlainGotos ⟨({} : Workspace).resolver, partedFile⟩ P := by
  obtain ⟨-, -, -, hvisited, hgoto, -, -⟩ := facts_partedFile
  have honly : ∀ i ∈ visited partedFile.tree, InGoto partedFile.tree i → i = 8 := by
    rw [hvisited]
    exact hgoto
  intro before i after hsplit hin _
  obtain rfl := honly i (mem_visited_of_split hsplit) hin
  refine ⟨by decide, fun _ d hd htype => ?_⟩
  -- the variable has a link, so nothing known decides what it stands for
  obtain rfl : _ = d := Option.some.inj hd
  cases htype

theorem plain_gotos_mark_nothing_partedFile :
    partedFile.tree.Formed ∧
      PlainGotos ⟨({} : Workspace).resolver, partedFile⟩ (fun _ => True) ∧
      AddsGotos twinFile.tree partedFile.tree parted ∧
      InGoto partedFile.tree 8 ∧ (∀ o, ¬Marks ⟨({} : Workspace).resolver, partedFile⟩
        [0, 1, 2, 3, 4, 5, 6, 7] 8 o) ∧
      8 ∈ foundAt .seqNotFound (findings ({} : Workspace).resolver partedFile strict) ∧
      ((findings ({} : Workspace).resolver partedFile strict).filter
        (·.rule ∈ targetRules)).map (fun f => (f.node, f.rule, f.span)) =
          [(10, .duplicateSequence, ⟨10, 12⟩)] := by
  obtain ⟨hbefore, hafter, hadds, hvisited, -, hmarks, hvalues⟩ := facts_partedFile
  have hbefore := (Tree.defect?_eq_none_iff.mp hbefore).toFormed
  have hafter := (Tree.defect?_eq_none_iff.mp hafter).toFormed
  have hin : InGoto partedFile.tree 8 := by decide
  have hplain := plainGotos_partedFile fun _ => True
  obtain ⟨hmarkless, hkept⟩ :=
    plain_gotos_mark_nothing hafter ({} : Workspace).resolver strict
  obtain ⟨hnone, hmissing⟩ := hmarkless hplain
  refine ⟨hafter, hplain, hadds, hin, hnone _ 8 [9, 10] hvisited hin, ?_, ?_⟩
  · refine hmissing (by decide) 7 (hvisited ▸ by decide) rfl 8 rfl "20"
      (.name (d := ⟨.var, "A", 1, some 2, some 3, some "20", .numeric⟩) (by decide) (.inl rfl) rfl
        (.inl rfl)) ?_
    intro before i after hsplit _ o ho _
    exact hvalues o (mem_occurrences.mpr ⟨i, before, after, hsplit, ho⟩)
  · rw [hkept twinFile parted hbefore rfl hadds (plainGotos_partedFile _), findings_target, hmarks]
    decide

/-- A program of a goto to a variable that stands for a sequence number. -/
def steppedFile : Record :=
  { uri := "main.src"
    includes := []
    tree :=
      { source := "STEP 20 STEP"
        nodes := #[
          { kind := .file .program, span := ⟨0, 12⟩, children := [1, 4] },
          { kind := .varDef, span := ⟨0, 7⟩, parent := some 0, children := [2, 3],
            link := some { id := 0 } },
          { kind := .symbol, span := ⟨0, 4⟩, field := some .name, parent := some 1 },
          { kind := .numeric, span := ⟨5, 7⟩, field := some .value, parent := some 1 },
          { kind := .function, span := ⟨8, 12⟩, parent := some 0, children := [5] },
          { kind := .goto, span := ⟨8, 12⟩, parent := some 4, children := [6] },
          { kind := .var, span := ⟨8, 12⟩, field := some .label, parent := some 5,
            link := some { id := 0 } }]
        declarations := #[⟨.var, "STEP", 1, some 2, some 3, some "20", .sequence⟩] } }

/-- The same program with the goto twice. -/
def restepFile : Record :=
  { uri := "main.src"
    includes := []
    tree :=
      { source := "STEP 20 STEP STEP"
        nodes := #[
          { kind := .file .program, span := ⟨0, 17⟩, children := [1, 4] },
          { kind := .varDef, span := ⟨0, 7⟩, parent := some 0, children := [2, 3],
            link := some { id := 0 } },
          { kind := .symbol, span := ⟨0, 4⟩, field := some .name, parent := some 1 },
          { kind := .numeric, span := ⟨5, 7⟩, field := some .value, parent := some 1 },
          { kind := .function, span := ⟨8, 17⟩, parent := some 0, children := [5, 7] },
          { kind := .goto, span := ⟨8, 12⟩, parent := some 4, children := [6] },
          { kind := .var, span := ⟨8, 12⟩, field := some .label, parent := some 5,
            link := some { id := 0 } },
          { kind := .goto, span := ⟨13, 17⟩, parent := some 4, children := [8] },
          { kind := .var, span := ⟨13, 17⟩, field := some .label, parent := some 7,
            link := some { id := 0 } }]
        declarations := #[⟨.var, "STEP", 1, some 2, some 3, some "20", .sequence⟩] } }

theorem facts_steppedFile :
    steppedFile.tree.defect? = none ∧ restepFile.tree.defect? = none ∧
      AddsGotos steppedFile.tree restepFile.tree id ∧
      visited steppedFile.tree = List.range 7 ∧
      occurrences ⟨({} : Workspace).resolver, steppedFile⟩ = [⟨6, "20", .label⟩] ∧
      occurrences ⟨({} : Workspace).resolver, restepFile⟩ =
        [⟨6, "20", .label⟩, ⟨8, "20", .label⟩] := by
  decide

/-- A goto to a variable that stands for a sequence number is a place to jump to.  The variable in
it marks one, so that the goto is not found to be missing, although nothing else in the file is a
mark; and the same goto put in once more is found to be there twice. -/
theorem goto_marks_itself :
    steppedFile.tree.Formed ∧ restepFile.tree.Formed ∧
      InGoto steppedFile.tree 6 ∧ Marks ⟨({} : Workspace).resolver, steppedFile⟩
        [0, 1, 2, 3, 4, 5] 6 ⟨6, "20", .label⟩ ∧
      visited steppedFile.tree = [0, 1, 2, 3, 4, 5] ++ 6 :: [] ∧
      steppedFile.tree.kind 5 = .goto ∧ steppedFile.tree.childOrFirst 5 .label = some 6 ∧
      Checked (finalFacts ⟨({} : Workspace).resolver, steppedFile⟩) steppedFile.tree 6
        (some "20") ∧
      (∀ i ∈ visited steppedFile.tree, ¬InGoto steppedFile.tree i →
        steppedFile.tree.kind i ∉ [.sequenceNumber, .label, .var]) ∧
      6 ∉ foundAt .seqNotFound (findings ({} : Workspace).resolver steppedFile strict) ∧
      AddsGotos steppedFile.tree restepFile.tree id ∧
      (findings ({} : Workspace).resolver steppedFile strict).filter (·.rule ∈ targetRules) = [] ∧
      ((findings ({} : Workspace).resolver restepFile strict).filter
        (·.rule ∈ targetRules)).map (fun f => (f.node, f.rule)) = [(8, .duplicateLabel)] := by
  obtain ⟨hbefore, hafter, hadds, hvisited, hmarks, hmarks'⟩ := facts_steppedFile
  have hbefore := (Tree.defect?_eq_none_iff.mp hbefore).toFormed
  have hafter := (Tree.defect?_eq_none_iff.mp hafter).toFormed
  have hfound : foundAt .seqNotFound (findings ({} : Workspace).resolver steppedFile strict) =
      [] := by
    rw [foundAt_seqNotFound (c := ⟨({} : Workspace).resolver, steppedFile⟩) hbefore.toRooted
      (by decide)]
    decide
  refine ⟨hbefore, hafter, by decide, occurrence?_eq_some_iff.mp (by decide), hvisited, rfl, rfl,
    .name (d := ⟨.var, "STEP", 1, some 2, some 3, some "20", .sequence⟩) (by decide) (.inl rfl)
      rfl (.inr (.inr rfl)), ?_, ?_, hadds, ?_, ?_⟩
  · rw [hvisited]
    decide
  · rw [hfound]
    exact List.not_mem_nil
  · rw [findings_target, hmarks]
    rfl
  · rw [findings_target, hmarks']
    decide

end Lint
end NcInsight
