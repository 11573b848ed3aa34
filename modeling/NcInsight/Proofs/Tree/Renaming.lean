import NcInsight.Proofs.Tree.Annotation
import NcInsight.Proofs.Tree.Pieces
import NcInsight.Workspace.Scope

/-
Giving some leaves of a script another text.

The tree of the changed script has the same nodes in the same places of the tree; only texts and
with them spans differ (`alike_ofScript`, `text_renameLeaves`).  If the leaves are exactly the
uses of a declared name and the new name is the text of no other use, then the uses of the
new name are exactly those leaves (`isNamedBy_renamed`): tags are computed anew from
texts, but the declarations that a changed text means have changed with it.
-/
namespace NcInsight

/-! ## Scripts -/

/-- The piece with its text replaced, if it is of a leaf that `p` picks. -/
def Piece.renamed (p : NodeId → Bool) (name : String) (q : Piece) : Piece :=
  { q with text := if q.node.any p then name else q.text }

namespace Step

/-- The step with the leaves that `p` picks given another text, if its first node is `next`. -/
def renamed (p : NodeId → Bool) (name : String) (next : NodeId) : Step → Step
  | .token kind text field => .token kind (if p next then name else text) field
  | .inclusion uri => .inclusion (if p (next + 1) then name else uri)
  | .varDef word value type =>
      .varDef (if p (next + 1) then name else word) (if p (next + 2) then name else value) type
  | .labelDef word value type =>
      .labelDef (if p (next + 1) then name else word) (if p (next + 2) then name else value) type
  | s => s

def renameFrom (p : NodeId → Bool) (name : String) (next : NodeId) : List Step → List Step
  | [] => []
  | s :: steps => s.renamed p name next :: renameFrom p name (next + s.count) steps

/-- The script with the leaves that `p` picks given another text. -/
def renameLeaves (p : NodeId → Bool) (name : String) (steps : List Step) : List Step :=
  renameFrom p name 1 steps

variable (p : NodeId → Bool) (name : String)

theorem count_renamed (next : NodeId) (s : Step) : (s.renamed p name next).count = s.count := by
  cases s <;> rfl

theorem isPlain_renamed (next : NodeId) (s : Step) :
    (s.renamed p name next).isPlain = s.isPlain := by
  cases s <;> rfl

theorem pieces_renamed (next : NodeId) (s : Step) :
    (s.renamed p name next).pieces next = (s.pieces next).map (Piece.renamed p name) := by
  cases s <;> rfl

theorem allPieces_renameFrom (next : NodeId) (steps : List Step) :
    allPieces next (renameFrom p name next steps) =
      (allPieces next steps).map (Piece.renamed p name) := by
  induction steps generalizing next with
  | nil => rfl
  | cons s steps ih =>
      rw [renameFrom, allPieces, allPieces, pieces_renamed, count_renamed, ih, List.map_append]

theorem written_renameLeaves (steps : List Step) :
    written (renameLeaves p name steps) = (written steps).map (Piece.renamed p name) :=
  allPieces_renameFrom p name 1 steps

theorem all_isPlain_renameFrom (next : NodeId) (steps : List Step) :
    (renameFrom p name next steps).all isPlain = steps.all isPlain := by
  induction steps generalizing next with
  | nil => rfl
  | cons s steps ih => rw [renameFrom, List.all_cons, List.all_cons, isPlain_renamed, ih]

end Step

/-! ## Lockstep -/

/-- The node without its place in the text. -/
def Node.unplaced (n : Node) : Node := { n with span := ⟨0, 0⟩ }

namespace Builder

theorem map_unplaced_modify {nodes : Array Node} {f : Node → Node} (i : Nat)
    (hf : ∀ n, (f n).unplaced = f n.unplaced) :
    (nodes.modify i f).map Node.unplaced = (nodes.map Node.unplaced).modify i f := by
  refine Array.ext_getElem? fun j => ?_
  rw [Array.getElem?_map, Array.getElem?_modify, Array.getElem?_modify, Array.getElem?_map]
  by_cases hij : i = j
  · rw [if_pos hij, if_pos hij]
    cases nodes[j]? with
    | none => rfl
    | some n => exact congrArg some (hf n)
  · rw [if_neg hij, if_neg hij]

theorem map_unplaced_modify_span {nodes : Array Node} {f : Node → Node} (i : Nat)
    (hf : ∀ n, (f n).unplaced = n.unplaced) :
    (nodes.modify i f).map Node.unplaced = nodes.map Node.unplaced := by
  refine Array.ext_getElem? fun j => ?_
  rw [Array.getElem?_map, Array.getElem?_modify, Array.getElem?_map]
  by_cases hij : i = j
  · rw [if_pos hij]
    cases nodes[j]? with
    | none => rfl
    | some n => exact congrArg some (hf n)
  · rw [if_neg hij]

theorem nodes_push (b : Builder) (kind : Kind) (field : Option Field) (span : Span) :
    (b.push kind field span).nodes =
      (b.nodes.push { kind, span, field, parent := some b.top }).modify b.top
        fun n => { n with children := n.children ++ [b.nodes.size] } :=
  rfl

theorem map_unplaced_finish (b : Builder) :
    b.finish.nodes.map Node.unplaced = b.nodes.map Node.unplaced := by
  rw [finish]
  split
  · rfl
  · dsimp only
    apply map_unplaced_modify_span
    intro n
    rfl

/-- Two builders that differ in texts and places at most. -/
structure Alike (b c : Builder) : Prop where
  opened : b.opened = c.opened
  nodes : b.nodes.map Node.unplaced = c.nodes.map Node.unplaced

namespace Alike

variable {b c : Builder}

theorem refl (b : Builder) : Alike b b := ⟨rfl, rfl⟩

theorem size_eq (h : Alike b c) : b.nodes.size = c.nodes.size := by
  have hsize := congrArg Array.size h.nodes
  rwa [Array.size_map, Array.size_map] at hsize

theorem push (h : Alike b c) (kind : Kind) (field : Option Field) (s u : Span) :
    Alike (b.push kind field s) (c.push kind field u) := by
  refine ⟨h.opened, ?_⟩
  have htop : b.top = c.top := congrArg (List.headD · Tree.root) h.opened
  rw [nodes_push, nodes_push, map_unplaced_modify, map_unplaced_modify, Array.map_push,
    Array.map_push, h.nodes, h.size_eq, htop]
  · rfl
  · exact fun _ => rfl
  · exact fun _ => rfl

theorem start (h : Alike b c) (kind : Kind) (field : Option Field) :
    Alike (b.start kind field) (c.start kind field) := by
  refine ⟨?_, (h.push kind field _ _).nodes⟩
  show b.nodes.size :: b.opened = c.nodes.size :: c.opened
  rw [h.size_eq, h.opened]

theorem trivia (h : Alike b c) (x y : String) : Alike (b.trivia x) (c.trivia y) :=
  ⟨h.opened, h.nodes⟩

theorem token (h : Alike b c) (kind : Kind) (x y : String) (field : Option Field) :
    Alike (b.token kind x field) (c.token kind y field) :=
  (h.trivia x y).push kind field _ _

theorem finish (h : Alike b c) : Alike b.finish c.finish :=
  ⟨by rw [opened_finish, opened_finish, h.opened],
    by rw [map_unplaced_finish, map_unplaced_finish, h.nodes]⟩

theorem annotate (h : Alike b c) (id : NodeId) {f : Node → Node}
    (hf : ∀ n, (f n).unplaced = f n.unplaced) :
    Alike { b with nodes := b.nodes.modify id f } { c with nodes := c.nodes.modify id f } := by
  refine ⟨h.opened, ?_⟩
  show (b.nodes.modify id f).map Node.unplaced = (c.nodes.modify id f).map Node.unplaced
  rw [map_unplaced_modify id hf, map_unplaced_modify id hf, h.nodes]

theorem setValueType (h : Alike b c) {i j : NodeId} (hij : i = j) (type : ValueType) :
    Alike (b.setValueType i type) (c.setValueType j type) := by
  subst hij
  exact h.annotate i fun _ => rfl

theorem definition (h : Alike b c) (kind : Kind) (marker : String) (nameKind : Kind)
    (x y v w : String) (type : ValueType) :
    Alike (b.definition kind marker nameKind x v type)
      (c.definition kind marker nameKind y w type) := by
  have hname := ((((h.start kind none).trivia marker marker).token nameKind x y
    (some .name)).trivia " " " ")
  have hvalue := hname.token (valueKind type) v w (some .value)
  exact (hvalue.setValueType hname.size_eq type).finish

/-- Renaming leaves changes nothing but texts and places in one step. -/
theorem step (h : Alike b c) (p : NodeId → Bool) (name : String) (next : NodeId) (s : Step) :
    Alike (b.step s) (c.step (s.renamed p name next)) := by
  cases s with
  | start kind field => exact h.start kind field
  | finish => exact h.finish
  | token kind text field => exact h.token kind _ _ field
  | trivia text => exact h.trivia text text
  | inclusion uri => exact (((h.start _ _).trivia _ _).token _ _ _ _).finish
  | varDef word value type => exact h.definition _ _ _ _ _ _ _ type
  | labelDef word value type => exact h.definition _ _ _ _ _ _ _ type
  | setValueType id type => exact h.annotate id fun _ => rfl
  | setReferenceTypes id types => exact h.annotate id fun _ => rfl
  | setLink id link => exact h.annotate id fun _ => rfl

theorem run (h : Alike b c) (p : NodeId → Bool) (name : String) (next : NodeId)
    (steps : List Step) : Alike (b.run steps) (c.run (Step.renameFrom p name next steps)) := by
  induction steps generalizing b c next with
  | nil => exact h
  | cons s steps ih => exact ih (h.step p name next s) (next + s.count)

theorem close (h : Alike b c) : Alike b.close c.close := by
  have hfold : ∀ (l : List NodeId) {b c : Builder}, Alike b c →
      Alike (l.foldl (fun b _ => b.finish) b) (l.foldl (fun b _ => b.finish) c) := by
    intro l
    induction l with
    | nil => exact fun h => h
    | cons x l ih => exact fun h => ih h.finish
  rw [Builder.close, Builder.close, ← h.opened]
  exact hfold b.opened h

end Alike
end Builder

/-! ## Trees that differ in texts and places -/

/-- Two trees with the same nodes in the same places of the tree. -/
structure Tree.Alike (t u : Tree) : Prop where
  size : t.size = u.size
  kind : t.kind = u.kind
  field : t.field = u.field
  parent : t.parent = u.parent
  children : t.children = u.children

theorem Builder.unplaced_getD {ns ms : Array Node}
    (h : ns.map Node.unplaced = ms.map Node.unplaced) (i : Nat) :
    (ns.getD i Node.blank).unplaced = (ms.getD i Node.blank).unplaced := by
  have hi := congrArg (fun nodes => nodes[i]?) h
  simp only [Array.getElem?_map] at hi
  rw [Array.getD_eq_getD_getElem?, Array.getD_eq_getD_getElem?]
  cases hn : ns[i]? with
  | none =>
      cases hm : ms[i]? with
      | none => rfl
      | some m => simp [hn, hm] at hi
  | some n =>
      cases hm : ms[i]? with
      | none => simp [hn, hm] at hi
      | some m => simpa [hn, hm] using hi

theorem Tree.alike_ofScript (kind : FileKind) (p : NodeId → Bool) (name : String)
    (steps : List Step) :
    (Tree.ofScript kind steps).Alike (Tree.ofScript kind (Step.renameLeaves p name steps)) := by
  have hclose : Builder.Alike ((Builder.new kind).run steps).close
      ((Builder.new kind).run (Step.renameLeaves p name steps)).close :=
    ((Builder.Alike.refl (Builder.new kind)).run p name 1 steps).close
  generalize hb : ((Builder.new kind).run steps).close = b at hclose
  generalize hc : ((Builder.new kind).run (Step.renameLeaves p name steps)).close = c at hclose
  have ht : SameShape (Tree.ofScript kind steps).nodes
      (b.nodes.modify Tree.root fun n => { n with span := ⟨0, b.offset⟩ }) := by
    rw [← hb]
    exact Annotate.run_shape _ _
  have hu : SameShape (Tree.ofScript kind (Step.renameLeaves p name steps)).nodes
      (c.nodes.modify Tree.root fun n => { n with span := ⟨0, c.offset⟩ }) := by
    rw [← hc]
    exact Annotate.run_shape _ _
  have hraw : (b.nodes.modify Tree.root fun n => { n with span := ⟨0, b.offset⟩ }).map
      Node.unplaced =
        (c.nodes.modify Tree.root fun n => { n with span := ⟨0, c.offset⟩ }).map
          Node.unplaced := by
    rw [Builder.map_unplaced_modify_span, Builder.map_unplaced_modify_span, hclose.nodes]
    · exact fun _ => rfl
    · exact fun _ => rfl
  have hnode : ∀ i, ((Tree.ofScript kind steps).node i).bare.unplaced =
      ((Tree.ofScript kind (Step.renameLeaves p name steps)).node i).bare.unplaced := by
    intro i
    have hi := congrArg Node.bare (Builder.unplaced_getD hraw i)
    rw [Tree.node, Tree.node, ht.2, hu.2]
    exact hi
  refine ⟨?_, ?_, ?_, ?_, ?_⟩
  · have hsize := congrArg Array.size hraw
    rw [Array.size_map, Array.size_map] at hsize
    exact ht.1.trans (hsize.trans hu.1.symm)
  · exact funext fun i => congrArg (fun n => n.kind) (hnode i)
  · exact funext fun i => congrArg (fun n => n.field) (hnode i)
  · exact funext fun i => congrArg (fun n => n.parent) (hnode i)
  · exact funext fun i => congrArg (fun n => n.children) (hnode i)

namespace Tree.Alike

variable {t u : Tree} (h : t.Alike u)
include h

theorem parentKind : t.parentKind = u.parentKind := by
  funext i
  rw [Tree.parentKind, Tree.parentKind, h.parent, h.kind]

theorem isReference (i : NodeId) : t.isReference i = u.isReference i := by
  rw [Tree.isReference, Tree.isReference, h.kind, h.parentKind]

theorem childOrFirst : t.childOrFirst = u.childOrFirst := by
  funext i f
  rw [Tree.childOrFirst, Tree.childOrFirst, childByField, childByField, child, child,
    h.children, h.field]

theorem heads : t.heads = u.heads := by
  have hhead : t.head? = u.head? := by
    funext i
    rw [head?, head?, h.kind, h.childOrFirst]
  rw [Tree.heads, Tree.heads, h.size, hhead]

theorem isProgram : t.isProgram = u.isProgram := by
  rw [Tree.isProgram, Tree.isProgram, fileKind, fileKind, h.kind]

theorem visits (enter : NodeId → Bool) (i : NodeId) : t.visits enter i = u.visits enter i := by
  have hwithin : ∀ fuel pending, t.visitsWithin enter fuel pending =
      u.visitsWithin enter fuel pending := by
    intro fuel
    induction fuel with
    | zero => exact fun _ => rfl
    | succ fuel ih =>
        intro pending
        cases pending with
        | nil => rfl
        | cons i pending => rw [visitsWithin, visitsWithin, h.children, ih]
  rw [Tree.visits, Tree.visits, h.size, hwithin]

theorem inclusions : t.inclusions = u.inclusions := by
  rw [Tree.inclusions, Tree.inclusions, h.kind, h.visits]

end Tree.Alike

namespace Tree

theorem text_renameLeaves (kind : FileKind) (p : NodeId → Bool) (name : String)
    {steps : List Step} {i : NodeId} (hi : i ∈ Piece.leaves (Step.written steps)) :
    (Tree.ofScript kind (Step.renameLeaves p name steps)).text i =
      if p i then name else (Tree.ofScript kind steps).text i := by
  obtain ⟨l, text, r, hps⟩ := Piece.exists_of_mem_leaves hi
  have hrenamed : Step.written (Step.renameLeaves p name steps) =
      l.map (Piece.renamed p name) ++ ⟨some i, if p i then name else text⟩ ::
        r.map (Piece.renamed p name) := by
    rw [Step.written_renameLeaves, hps, List.map_append, List.map_cons]
    rfl
  rw [text_ofScript kind hrenamed, text_ofScript kind hps]

/-! ## The uses of the new name -/

theorem declares_iff {t : Tree} {k : DeclarationKind} {name : String} :
    t.declares k name = true ↔ ∃ i, (k, i) ∈ t.heads ∧ t.text i = name := by
  simp only [declares, List.any_eq_true, Bool.and_eq_true, beq_iff_eq]
  constructor
  · rintro ⟨⟨l, i⟩, hmem, rfl, htext⟩
    exact ⟨i, hmem, htext⟩
  · rintro ⟨i, hmem, htext⟩
    exact ⟨(k, i), hmem, rfl, htext⟩

theorem TagsSayUse.isNamedBy_iff {t : Tree} (h : t.TagsSayUse) {y : Symbol} {k : DeclarationKind}
    (hy : y.referenceTypes = .single k.referenceType) {i : NodeId} :
    y.isNamedBy t i = true ↔
      t.isReference i = true ∧ t.text i = y.name ∧ t.usedAs i = some k := by
  simp only [Symbol.isNamedBy, Bool.and_eq_true, beq_iff_eq, and_assoc]
  refine and_congr_right fun href => and_congr_right fun _ => ?_
  rw [hy, (h i href).1, (h i href).2 k, Bool.false_or, decide_eq_true_eq]

section

variable {t u : Tree} {y z : Symbol} {k : DeclarationKind}
  (halike : t.Alike u) (hnested : t.Nested) (ht : t.TagsSayUse) (hu : u.TagsSayUse)
  (hy : y.referenceTypes = .single k.referenceType)
  (hz : z.referenceTypes = .single k.referenceType)
  (hheads : ∀ h ∈ t.heads, t.isReference h.2 = true)
  (hfresh : ∀ i, t.isReference i = true → t.text i ≠ z.name)
  (htext : ∀ i, t.isReference i = true →
    u.text i = if y.isNamedBy t i then z.name else t.text i)

include hfresh htext in
theorem text_eq_new_iff {i : NodeId} (href : t.isReference i = true) :
    u.text i = z.name ↔ y.isNamedBy t i = true := by
  rw [htext i href]
  by_cases hnamed : y.isNamedBy t i = true
  · rw [if_pos hnamed]
    exact ⟨fun _ => hnamed, fun _ => rfl⟩
  · rw [if_neg hnamed]
    exact ⟨fun he => absurd he (hfresh i href), fun he => absurd he hnamed⟩

include halike hnested ht hy hheads hfresh htext

/-- The declarations of the new name are those that the old name had of this kind. -/
theorem declares_new (l : DeclarationKind) :
    u.declares l z.name = (decide (l = k) && t.declares k y.name) := by
  rw [Bool.eq_iff_iff, Bool.and_eq_true, decide_eq_true_eq, declares_iff, declares_iff,
    ← halike.heads]
  constructor
  · rintro ⟨i, hmem, hname⟩
    have href := hheads (l, i) hmem
    obtain ⟨-, hold, hused⟩ :=
      (ht.isNamedBy_iff hy).mp ((text_eq_new_iff hfresh htext href).mp hname)
    rw [hnested.usedAs_of_mem_heads hmem] at hused
    cases hused
    exact ⟨rfl, i, hmem, hold⟩
  · rintro ⟨rfl, i, hmem, hold⟩
    have href := hheads (l, i) hmem
    have hused := hnested.usedAs_of_mem_heads hmem
    exact ⟨i, hmem, (text_eq_new_iff hfresh htext href).mpr
      ((ht.isNamedBy_iff hy).mpr ⟨href, hold, hused⟩)⟩

/-- A use keeps what it is used as: what its old text meant, its new text means. -/
theorem usedAs_new {i : NodeId} (hnamed : y.isNamedBy t i = true) : u.usedAs i = some k := by
  obtain ⟨href, hold, hused⟩ := (ht.isNamedBy_iff hy).mp hnamed
  have hnew : u.text i = z.name := (text_eq_new_iff hfresh htext href).mpr hnamed
  have hdeclares := declares_new halike hnested ht hy hheads hfresh htext
  rw [usedAs, hold] at hused
  rw [usedAs, ← halike.heads, ← halike.kind, hnew]
  cases hhead : t.heads.find? (·.2 == i) with
  | some h =>
      rw [hhead] at hused
      exact hused
  | none =>
      -- no declaration of the other kind has the new name, so preferences cannot change the answer
      rw [hhead] at hused
      simp only at hused ⊢
      rw [← hused]
      cases hkind : t.kind i with
      | symbol =>
          simp only [hkind, meant, hdeclares, Option.some.injEq] at hused ⊢
          cases k <;> cases hv : t.declares .var y.name <;> cases hl : t.declares .label y.name <;>
            simp [hv, hl] at hused ⊢
      | label =>
          simp only [hkind, meant, hdeclares, Option.some.injEq] at hused ⊢
          cases k <;> cases hv : t.declares .var y.name <;> cases hl : t.declares .label y.name <;>
            simp [hv, hl] at hused ⊢
      | _ => rfl

include hu hz

/-- The uses of the new name are the leaves that were given it. -/
theorem isNamedBy_renamed (i : NodeId) : z.isNamedBy u i = y.isNamedBy t i := by
  rw [Bool.eq_iff_iff, hu.isNamedBy_iff hz, ← halike.isReference]
  constructor
  · rintro ⟨href, hnew, -⟩
    exact (text_eq_new_iff hfresh htext href).mp hnew
  · intro hnamed
    have href := ((ht.isNamedBy_iff hy).mp hnamed).1
    exact ⟨href, (text_eq_new_iff hfresh htext href).mpr hnamed,
      usedAs_new halike hnested ht hy hheads hfresh htext hnamed⟩

end

end Tree
end NcInsight
