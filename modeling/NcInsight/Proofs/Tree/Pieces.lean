import NcInsight.Proofs.Tree.Layout

/-
The text of a script, piece by piece.

A script writes its text in pieces: the text of a leaf, or text that belongs to no leaf.  The
source of the tree is what the pieces spell together, and a leaf spans exactly its own
piece (`source_ofScript`, `leaf_ofScript`).  Closing a node trims spans but
never the one of a leaf, since a leaf is never open.  With the order of the nodes this says
where every node of a built tree stands (`layoutOf_ofScript`).
-/
namespace NcInsight

/-- A stretch of text, with the leaf that it is the text of, if there is one. -/
structure Piece where
  node : Option NodeId
  text : String
  deriving DecidableEq, Repr

namespace Piece

/-- The characters of the pieces together. -/
def chars (ps : List Piece) : List Char := ps.flatMap (·.text.toList)

@[simp] theorem chars_nil : chars [] = [] := rfl

@[simp] theorem chars_cons (p : Piece) (ps : List Piece) :
    chars (p :: ps) = p.text.toList ++ chars ps := rfl

@[simp] theorem chars_append (a b : List Piece) : chars (a ++ b) = chars a ++ chars b := by
  simp [chars]

/-- The leaves of the pieces, in order. -/
def leaves (ps : List Piece) : List NodeId := ps.filterMap (·.node)

theorem exists_of_mem_leaves {ps : List Piece} {id : NodeId} (h : id ∈ leaves ps) :
    ∃ l text r, ps = l ++ ⟨some id, text⟩ :: r := by
  obtain ⟨p, hp, hnode⟩ := List.mem_filterMap.mp h
  obtain ⟨l, r, hps⟩ := List.append_of_mem hp
  have hpiece : p = ⟨some id, p.text⟩ := by rw [← hnode]
  exact ⟨l, p.text, r, hpiece ▸ hps⟩

end Piece

namespace Step

/-- How many nodes a step adds. -/
def count : Step → Nat
  | .start _ _ | .token _ _ _ => 1
  | .inclusion _ => 2
  | .varDef _ _ _ | .labelDef _ _ _ => 3
  | _ => 0

/-- What a step writes, if its first node is `next`. -/
def pieces (next : NodeId) : Step → List Piece
  | .token _ text _ => [⟨some next, text⟩]
  | .trivia text => [⟨none, text⟩]
  | .inclusion uri => [⟨none, "$INCLUDE "⟩, ⟨some (next + 1), uri⟩]
  | .varDef name value _ =>
      [⟨none, "@"⟩, ⟨some (next + 1), name⟩, ⟨none, " "⟩, ⟨some (next + 2), value⟩]
  | .labelDef name value _ =>
      [⟨none, ">"⟩, ⟨some (next + 1), name⟩, ⟨none, " "⟩, ⟨some (next + 2), value⟩]
  | _ => []

/-- What a script writes, if its first node is `next`. -/
def allPieces (next : NodeId) : List Step → List Piece
  | [] => []
  | s :: steps => s.pieces next ++ allPieces (next + s.count) steps

end Step

namespace Builder

/-- The builder has written these pieces, and their leaves stand where they were written. -/
structure Wrote (b : Builder) (ps : List Piece) : Prop where
  sound : b.Sound
  source : b.source.toList = Piece.chars ps
  ascending : (Piece.leaves ps).Pairwise fun x y : Nat => x < y
  leaf : ∀ (l : List Piece) (id : Nat) (text : String) (r : List Piece),
    ps = l ++ ⟨some id, text⟩ :: r → 0 < id ∧ id < b.nodes.size ∧ id ∉ b.opened ∧
      b.sofar.children id = [] ∧ b.sofar.span id =
        ⟨Text.size (Piece.chars l), Text.size (Piece.chars l) + Text.size text.toList⟩

namespace Wrote

variable {b : Builder} {ps : List Piece}

theorem offset_eq (h : Wrote b ps) : b.offset = Text.size (Piece.chars ps) := by
  rw [offset, ← Text.size_toList, h.source]

theorem lt_of_mem_leaves (h : Wrote b ps) {id : Nat} (hid : id ∈ Piece.leaves ps) :
    id < b.nodes.size := by
  obtain ⟨l, text, r, hps⟩ := Piece.exists_of_mem_leaves hid
  exact (h.leaf l id text r hps).2.1

theorem new (kind : FileKind) : Wrote (Builder.new kind) [] := by
  refine ⟨sound_new kind, rfl, List.Pairwise.nil, fun l id text r h => ?_⟩
  simp at h

theorem trivia (h : Wrote b ps) (text : String) : Wrote (b.trivia text) (ps ++ [⟨none, text⟩]) := by
  refine ⟨h.sound.trivia text, ?_, ?_, fun l id word r hps => ?_⟩
  · show (b.source ++ text).toList = _
    rw [String.toList_append, h.source]
    simp
  · simpa [Piece.leaves] using h.ascending
  · rcases List.eq_nil_or_concat r with rfl | ⟨r, q, rfl⟩
    · obtain ⟨-, hlast⟩ := List.append_inj' hps rfl
      simp at hlast
    · rw [List.concat_eq_append, ← List.cons_append, ← List.append_assoc] at hps
      exact h.leaf l id word r (List.append_inj' hps rfl).1

theorem start (h : Wrote b ps) (kind : Kind) (field : Option Field) :
    Wrote (b.start kind field) ps := by
  refine ⟨h.sound.start kind field, h.source, h.ascending, fun l id text r hps => ?_⟩
  obtain ⟨hpos, hid, hno, hleaf, hspan⟩ := h.leaf l id text r hps
  have htop : id ≠ b.top := Sound.ne_top hpos hno
  refine ⟨hpos, ?_, ?_, ?_, ?_⟩
  · show id < (b.push kind field ⟨b.offset, b.offset⟩).nodes.size
    rw [size_push]
    exact Nat.lt_succ_of_lt hid
  · show id ∉ b.nodes.size :: b.opened
    intro hmem
    rcases List.mem_cons.mp hmem with e | hmem
    · exact Nat.ne_of_lt hid e
    · exact hno hmem
  · show (b.push kind field ⟨b.offset, b.offset⟩).sofar.children id = []
    rw [children_push kind field _ h.sound.top_lt, if_neg (Nat.ne_of_lt hid), if_neg htop]
    exact hleaf
  · show (b.push kind field ⟨b.offset, b.offset⟩).sofar.span id = _
    rw [span_push kind field _ h.sound.top_lt, if_neg (Nat.ne_of_lt hid)]
    exact hspan

theorem token (h : Wrote b ps) (kind : Kind) (text : String) (field : Option Field) :
    Wrote (b.token kind text field) (ps ++ [⟨some b.nodes.size, text⟩]) := by
  have htriv := h.trivia text
  have htop : (b.trivia text).top < (b.trivia text).nodes.size := htriv.sound.top_lt
  have hend : (b.trivia text).offset = Text.size (Piece.chars ps) + Text.size text.toList := by
    rw [htriv.offset_eq, Piece.chars_append, Text.size_append]
    simp
  refine ⟨h.sound.token kind text field, ?_, ?_, fun l id word r hps => ?_⟩
  · show (b.source ++ text).toList = _
    rw [String.toList_append, h.source]
    simp
  · rw [Piece.leaves, List.filterMap_append]
    refine List.pairwise_append.mpr ⟨h.ascending, by simp, ?_⟩
    intro x hx y hy
    have hy : y = b.nodes.size := by simpa using hy
    rw [hy]
    exact h.lt_of_mem_leaves hx
  · show 0 < id ∧ id < ((b.trivia text).push kind field _).nodes.size ∧ id ∉ b.opened ∧
      ((b.trivia text).push kind field _).sofar.children id = [] ∧
      ((b.trivia text).push kind field _).sofar.span id = _
    rw [size_push, children_push kind field _ htop, span_push kind field _ htop]
    show 0 < id ∧ id < b.nodes.size + 1 ∧ id ∉ b.opened ∧ (if id = b.nodes.size then [] else
      if id = b.top then b.sofar.children id ++ [b.nodes.size] else b.sofar.children id) = [] ∧
      (if id = b.nodes.size then _ else b.sofar.span id) = _
    -- the piece is the new one or was there before
    rcases List.eq_nil_or_concat r with rfl | ⟨r, q, rfl⟩
    · obtain ⟨rfl, hlast⟩ := List.append_inj' hps rfl
      obtain ⟨rfl, rfl⟩ : b.nodes.size = id ∧ text = word := by simpa using hlast
      refine ⟨h.sound.nested.size_pos, Nat.lt_succ_self _, ?_, if_pos rfl, ?_⟩
      · exact fun hmem => Nat.lt_irrefl _ (h.sound.opened_lt _ hmem).2
      · rw [if_pos rfl, h.offset_eq, hend]
    · rw [List.concat_eq_append, ← List.cons_append, ← List.append_assoc] at hps
      obtain ⟨hpos, hid, hno, hleaf, hspan⟩ := h.leaf l id word r (List.append_inj' hps rfl).1
      have htop : id ≠ b.top := Sound.ne_top hpos hno
      refine ⟨hpos, Nat.lt_succ_of_lt hid, hno, ?_, ?_⟩
      · rw [if_neg (Nat.ne_of_lt hid), if_neg htop]
        exact hleaf
      · rw [if_neg (Nat.ne_of_lt hid)]
        exact hspan

theorem annotate (h : Wrote b ps) (nodes : Array Node) (hs : SameShape nodes b.nodes) :
    Wrote { b with nodes } ps := by
  have hs' : SameShape (Builder.sofar { b with nodes }).nodes b.sofar.nodes := hs
  refine ⟨h.sound.annotate nodes hs, h.source, h.ascending, fun l id text r hps => ?_⟩
  obtain ⟨hpos, hid, hno, hleaf, hspan⟩ := h.leaf l id text r hps
  refine ⟨hpos, hs.1 ▸ hid, hno, ?_, ?_⟩
  · rw [Tree.children_eq_of_shape hs']
    exact hleaf
  · rw [Tree.span_eq_of_shape hs']
    exact hspan

theorem finish (h : Wrote b ps) : Wrote b.finish ps := by
  cases ho : b.opened with
  | nil =>
      rw [finish_of_nil ho]
      exact h
  | cons id rest =>
      have hid := (h.sound.head_lt ho).2
      refine ⟨h.sound.finish, by rw [source_finish]; exact h.source, h.ascending,
        fun l leaf text r hps => ?_⟩
      obtain ⟨hpos, hlt, hno, hleaf, hspan⟩ := h.leaf l leaf text r hps
      rw [ho] at hno
      rw [size_finish, opened_finish, children_finish ho hid,
        span_finish_of_ne ho hid fun e => hno (e ▸ List.mem_cons_self), ho]
      exact ⟨hpos, hlt, fun hm => hno (List.mem_cons_of_mem id hm), hleaf, hspan⟩

theorem setValueType (h : Wrote b ps) (id : NodeId) (type : ValueType) :
    Wrote (b.setValueType id type) ps :=
  h.annotate _ (SameShape.modify _ _ fun _ => rfl)

theorem inclusion (h : Wrote b ps) (uri : String) :
    Wrote (b.inclusion uri) (ps ++ (Step.inclusion uri).pieces b.nodes.size) := by
  have hopen := (h.start .inclusion none).trivia "$INCLUDE "
  have hsize : ((b.start .inclusion none).trivia "$INCLUDE ").nodes.size = b.nodes.size + 1 :=
    size_push ..
  have hdone := (hopen.token .string uri (some .uri)).finish
  rw [hsize, List.append_assoc] at hdone
  exact hdone

theorem definition (h : Wrote b ps) (kind : Kind) (marker : String) (nameKind : Kind)
    (name value : String) (type : ValueType) :
    Wrote (b.definition kind marker nameKind name value type)
      (ps ++ [⟨none, marker⟩, ⟨some (b.nodes.size + 1), name⟩, ⟨none, " "⟩,
        ⟨some (b.nodes.size + 2), value⟩]) := by
  have hopen := (h.start kind none).trivia marker
  have hsize : ((b.start kind none).trivia marker).nodes.size = b.nodes.size + 1 := size_push ..
  have hname := (hopen.token nameKind name (some .name)).trivia " "
  have hsize' : ((((b.start kind none).trivia marker).token nameKind name (some .name)).trivia
      " ").nodes.size = b.nodes.size + 2 := by
    rw [← show b.nodes.size + 1 + 1 = b.nodes.size + 2 from rfl, ← hsize]
    exact size_push ..
  have hvalue := hname.token (valueKind type) value (some .value)
  rw [hsize, hsize', List.append_assoc, List.append_assoc, List.append_assoc] at hvalue
  exact (hvalue.setValueType _ type).finish

theorem silent {c : Builder} {s : Step} {next : NodeId} (h : Wrote c ps)
    (hs : s.pieces next = []) : Wrote c (ps ++ s.pieces next) := by
  rw [hs, List.append_nil]
  exact h

/-- One step writes its pieces. -/
theorem step (h : Wrote b ps) (s : Step) : Wrote (b.step s) (ps ++ s.pieces b.nodes.size) := by
  cases s with
  | start kind field => exact (h.start kind field).silent rfl
  | finish => exact h.finish.silent rfl
  | token kind text field => exact h.token kind text field
  | trivia text => exact h.trivia text
  | inclusion uri => exact h.inclusion uri
  | varDef name value type => exact h.definition _ _ _ name value type
  | labelDef name value type => exact h.definition _ _ _ name value type
  | setValueType id type => exact (h.setValueType id type).silent rfl
  | setReferenceTypes id types =>
      exact silent (h.annotate _ (SameShape.modify _ id fun _ => rfl)) rfl
  | setLink id link => exact silent (h.annotate _ (SameShape.modify _ id fun _ => rfl)) rfl

end Wrote

theorem size_token (b : Builder) (kind : Kind) (text : String) (field : Option Field) :
    (b.token kind text field).nodes.size = b.nodes.size + 1 :=
  size_push ..

theorem size_start (b : Builder) (kind : Kind) (field : Option Field) :
    (b.start kind field).nodes.size = b.nodes.size + 1 :=
  size_push ..

theorem size_trivia (b : Builder) (text : String) :
    (b.trivia text).nodes.size = b.nodes.size :=
  rfl

theorem size_setValueType (b : Builder) (id : NodeId) (type : ValueType) :
    (b.setValueType id type).nodes.size = b.nodes.size :=
  Array.size_modify

theorem size_definition (b : Builder) (kind : Kind) (marker : String) (nameKind : Kind)
    (name value : String) (type : ValueType) :
    (b.definition kind marker nameKind name value type).nodes.size = b.nodes.size + 3 := by
  simp only [definition, size_finish, size_setValueType, size_token, size_trivia, size_start]

theorem size_step (b : Builder) (s : Step) : (b.step s).nodes.size = b.nodes.size + s.count := by
  cases s with
  | start kind field => exact size_start b kind field
  | finish => exact size_finish
  | token kind text field => exact size_token b kind text field
  | trivia text => rfl
  | inclusion uri =>
      show (b.inclusion uri).nodes.size = b.nodes.size + 2
      simp only [inclusion, size_finish, size_token, size_trivia, size_start]
  | varDef name value type => exact size_definition b _ _ _ name value type
  | labelDef name value type => exact size_definition b _ _ _ name value type
  | setValueType id type => exact Array.size_modify
  | setReferenceTypes id types => exact Array.size_modify
  | setLink id link => exact Array.size_modify

theorem Wrote.run {b : Builder} {ps : List Piece} (h : Wrote b ps) (steps : List Step) :
    Wrote (b.run steps) (ps ++ Step.allPieces b.nodes.size steps) := by
  induction steps generalizing b ps with
  | nil =>
      show Wrote b (ps ++ [])
      rw [List.append_nil]
      exact h
  | cons s steps ih =>
      have hrest := ih (h.step s)
      rw [size_step, List.append_assoc] at hrest
      exact hrest

theorem Wrote.close {b : Builder} {ps : List Piece} (h : Wrote b ps) : Wrote b.close ps :=
  close_of_finish (Wrote · ps) (fun _ => Wrote.finish) h

/-- Giving the root its span and annotating the nodes moves no leaf. -/
theorem Wrote.leaf_of_shape {b : Builder} {ps : List Piece} (h : Wrote b ps) {t : Tree}
    (hshape : SameShape t.nodes (b.nodes.modify Tree.root fun n => { n with span := ⟨0, b.offset⟩ }))
    {l : List Piece} {id : Nat} {text : String} {r : List Piece}
    (hps : ps = l ++ ⟨some id, text⟩ :: r) : 0 < id ∧ id < t.size ∧ t.children id = [] ∧
      t.span id =
        ⟨Text.size (Piece.chars l), Text.size (Piece.chars l) + Text.size text.toList⟩ := by
  obtain ⟨hpos, hid, -, hleaf, hspan⟩ := h.leaf l id text r hps
  have hnode : (t.node id).bare = (b.sofar.node id).bare := by
    rw [Tree.node, hshape.2,
      getD_modify _ _ fun _ => show Tree.root < b.nodes.size from h.sound.nested.size_pos,
      if_neg (show id ≠ Tree.root from Nat.ne_of_gt hpos)]
    rfl
  have hchildren : t.children id = b.sofar.children id := by
    have hbare := congrArg Node.children hnode
    exact hbare
  have hplace : t.span id = b.sofar.span id := by
    have hbare := congrArg Node.span hnode
    exact hbare
  have hsize : t.size = b.nodes.size := hshape.1.trans Array.size_modify
  exact ⟨hpos, hsize ▸ hid, hchildren.trans hleaf, hplace.trans hspan⟩

theorem wrote_close_run (kind : FileKind) (steps : List Step) :
    Wrote ((Builder.new kind).run steps).close (Step.allPieces 1 steps) :=
  ((Wrote.new kind).run steps).close

end Builder

/-- The pieces that a script writes; the root is node 0, so its first node is 1. -/
def Step.written (steps : List Step) : List Piece := Step.allPieces 1 steps

namespace Tree

variable (kind : FileKind) {steps : List Step}

theorem source_ofScript :
    (Tree.ofScript kind steps).source.toList = Piece.chars (Step.written steps) :=
  (Builder.wrote_close_run kind steps).source

theorem leaves_ascending (steps : List Step) :
    (Piece.leaves (Step.written steps)).Pairwise fun x y : Nat => x < y :=
  (Builder.wrote_close_run .program steps).ascending

variable {l : List Piece} {id : Nat} {text : String} {r : List Piece}

theorem leaf_ofScript (h : Step.written steps = l ++ ⟨some id, text⟩ :: r) :
    0 < id ∧ id < (Tree.ofScript kind steps).size ∧
      (Tree.ofScript kind steps).children id = [] ∧ (Tree.ofScript kind steps).span id =
        ⟨Text.size (Piece.chars l), Text.size (Piece.chars l) + Text.size text.toList⟩ :=
  (Builder.wrote_close_run kind steps).leaf_of_shape (Annotate.run_shape _ _) h

theorem text_ofScript (h : Step.written steps = l ++ ⟨some id, text⟩ :: r) :
    (Tree.ofScript kind steps).text id = text := by
  obtain ⟨-, -, -, hspan⟩ := leaf_ofScript kind h
  have hsource : (Tree.ofScript kind steps).source.toList =
      Piece.chars l ++ text.toList ++ Piece.chars r := by
    rw [source_ofScript, h, Piece.chars_append, Piece.chars_cons, List.append_assoc]
  rw [Tree.text, Tree.spanText, hspan, Text.slice?_of_append hsource, Option.getD_some,
    String.ofList_toList]

/-! ## The layout of a built tree -/

/-- The tree shows the text that the script wrote, with its nodes in the order of their starts:
nodes of which none lies below the other do not overlap, and what a node holds beyond the end
of an ancestor is white space. -/
structure LayoutOf (t : Tree) (steps : List Step) : Prop where
  source_eq : t.source = String.join ((Step.written steps).map (·.text))
  token_text : ∀ p ∈ Step.written steps, ∀ id, p.node = some id → id < t.size ∧ t.text id = p.text
  cut : ∀ i, i < t.size →
    Text.IsCut t.source.toList (t.start i) ∧ Text.IsCut t.source.toList (t.span i).stop
  order : ∀ {σ : Type} (f : σ → NodeId → σ) (s : σ) (fuel : Nat), t.size ≤ fuel →
    t.walkWithin (fun id s => (f s id, true)) fuel [root] s = (List.range t.size).foldl f s
  start_le : ∀ a b, a ≤ b → b < t.size → t.start a ≤ t.start b
  apart : ∀ a b, a < b → b < t.size → a ∉ t.ancestors b → (t.span a).stop ≤ t.start b
  beyond : ∀ a b, b < t.size → a ∈ t.ancestors b → t.start a ≤ t.start b ∧
    ((t.span a).stop ≤ (t.span b).stop → ∃ u,
      Text.slice? t.source (max (t.span a).stop (t.start b)) (t.span b).stop = some u ∧
        ∀ x ∈ u.toList, Text.isBlank x = true)

theorem Laid.blank_beyond {t : Tree} (h : t.Laid) {a b : Nat} (hb : b < t.size)
    (hab : t.Encloses a b) (hstop : (t.span a).stop ≤ (t.span b).stop) : ∃ u,
      Text.slice? t.source (max (t.span a).stop (t.start b)) (t.span b).stop = some u ∧
        ∀ x ∈ u.toList, Text.isBlank x = true := by
  have ha := h.stop_cut (Nat.lt_trans hab.1 hb)
  have hcut : Text.IsCut t.source.toList (max (t.span a).stop (t.start b)) := by
    rcases Nat.le_total (t.span a).stop (t.start b) with hle | hle
    · rw [Nat.max_eq_right hle]
      exact h.start_cut hb
    · rw [Nat.max_eq_left hle]
      exact ha
  obtain ⟨u, hu⟩ := Text.exists_slice? hcut (h.stop_cut hb)
    (Nat.max_le.mpr ⟨hstop, h.start_le_stop hb⟩)
  obtain ⟨p, q, hs, hp, hsize⟩ := Text.slice?_eq_some_iff.mp hu
  have hblank := (h.blank hab hb).of_le ha (Nat.le_max_left _ (t.start b))
  exact ⟨u, hu, hblank p u.toList q hs hp (by omega)⟩

theorem toList_join (ps : List Piece) :
    (String.join (ps.map (·.text))).toList = Piece.chars ps := by
  simp [Piece.chars, List.flatMap_map]

/-- Every script gives a tree with the layout of what it wrote. -/
theorem layoutOf_ofScript (kind : FileKind) (steps : List Step) :
    (Tree.ofScript kind steps).LayoutOf steps := by
  have h := laid_ofScript kind steps
  refine ⟨?_, fun p hp id hid => ?_, fun i hi => ⟨h.start_cut hi, h.stop_cut hi⟩,
    fun f s fuel hfuel => h.walkWithin_root f s hfuel, fun a b hab hb => h.start_mono hab hb,
    fun a b hab hb hnot => ?_, fun a b hb hmem => ?_⟩
  · rw [← String.toList_inj, toList_join]
    exact source_ofScript kind
  · obtain ⟨l, r, hps⟩ := List.append_of_mem hp
    have hpiece : p = ⟨some id, p.text⟩ := by rw [← hid]
    rw [hpiece] at hps
    exact ⟨(leaf_ofScript kind hps).2.1, text_ofScript kind hps⟩
  · exact h.stop_le_start hab hb fun henc => hnot ((h.mem_ancestors_iff hb).mpr henc)
  · have henc := (h.mem_ancestors_iff hb).mp hmem
    exact ⟨h.start_mono (Nat.le_of_lt henc.1) hb, h.blank_beyond hb henc⟩

end Tree
end NcInsight
