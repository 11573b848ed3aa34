import NcInsight.Proofs.Tree.Cursor
import NcInsight.Proofs.Tree.Links
import NcInsight.Proofs.Tree.Pieces
import NcInsight.Proofs.Tree.Walking

/-
The way down to an offset.

The descent goes on as long as a child touches the offset.  In a tree that has one way to each
node it comes to an end, since no node lies above itself, and so the bound on its steps is never
met (`Rooted.descent_path`).  In a built tree it leads to the word under the cursor
(`path_to_word`).
-/
namespace NcInsight
namespace Tree

/-- The way down from a node to an offset with no bound on its steps. -/
inductive Descent (t : Tree) (offset : Nat) : NodeId → List NodeId → Prop
  | stop {id : NodeId} (hnone : t.touching offset id = none) :
      Descent t offset id (id :: (t.preceding offset id).toList)
  | down {id c : NodeId} {path : List NodeId} (htouch : t.touching offset id = some c)
      (hrest : Descent t offset c path) : Descent t offset id (id :: path)

variable {t : Tree} {offset : Nat} {id : NodeId} {path : List NodeId}

theorem mem_children_of_preceding {c : NodeId} (hc : t.preceding offset id = some c) :
    c ∈ t.children id :=
  List.mem_of_mem_filter (List.mem_of_getLast? hc)

namespace Descent

theorem head?_eq (h : Descent t offset id path) : path.head? = some id := by
  cases h with
  | stop hnone => rfl
  | down htouch hrest => rfl

/-- Each node on the way is a child of the one before it. -/
theorem isChain (h : Descent t offset id path) : path.IsChain fun p c => c ∈ t.children p := by
  induction h with
  | @stop id hnone =>
      cases hlast : t.preceding offset id with
      | none => exact List.IsChain.singleton id
      | some c => exact .cons_cons (mem_children_of_preceding hlast) (.singleton c)
  | @down id c path htouch hrest ih =>
      obtain ⟨rest, rfl⟩ := List.head?_eq_some_iff.mp hrest.head?_eq
      exact ih.cons_cons (mem_children_of_touching htouch)

end Descent

/-- Run lemma of the descent: every step makes the line up longer, and that line is shorter than
the array. -/
theorem Rooted.descent_pathWithin (h : t.Rooted) (offset : Nat) {fuel : Nat} {id : NodeId}
    (hid : id < t.size) (hfuel : t.size ≤ fuel + (t.ancestors id).length) :
    Descent t offset id (t.pathWithin offset fuel id) := by
  induction fuel generalizing id with
  | zero =>
      have hlt := h.length_ancestors_lt hid
      omega
  | succ fuel ih =>
      rw [pathWithin]
      cases htouch : t.touching offset id with
      | none => exact .stop htouch
      | some c =>
          have hc := mem_children_of_touching htouch
          refine .down htouch (ih (h.lt_of_mem hc) ?_)
          rw [h.ancestors_of_mem hc, List.length_cons]
          omega

theorem Rooted.descent_path (h : t.Rooted) (offset : Nat) :
    Descent t offset root (t.path offset) :=
  h.descent_pathWithin offset h.size_pos (Nat.le_add_right _ _)

/-- A descent ends at a node of the tree.  Back up from there are the nodes on the way, and what is
above its start. -/
theorem Descent.exists_last (hd : Descent t offset id path) (h : t.Rooted) (hid : id < t.size) :
    ∃ last, path.getLast? = some last ∧ last < t.size ∧
      t.lineage last = path.reverse ++ t.ancestors id := by
  induction hd with
  | @stop id hnone =>
      cases hlast : t.preceding offset id with
      | none => exact ⟨id, rfl, hid, rfl⟩
      | some c =>
          have hc := mem_children_of_preceding hlast
          exact ⟨c, rfl, h.lt_of_mem hc, h.lineage_of_mem hc⟩
  | @down id c path htouch hrest ih =>
      have hc := mem_children_of_touching htouch
      obtain ⟨last, hlast, hlt, hline⟩ := ih (h.lt_of_mem hc)
      refine ⟨last, by rw [List.getLast?_cons, hlast, Option.getD_some], hlt, ?_⟩
      rw [hline, h.ancestors_of_mem hc, List.reverse_cons, List.append_assoc]
      rfl

/-- The node at an offset is one of the tree, and the line up from it is the way down to the offset,
turned round. -/
theorem Rooted.nodeAt_spec (h : t.Rooted) (offset : Nat) :
    t.nodeAt offset < t.size ∧ t.lineage (t.nodeAt offset) = (t.path offset).reverse := by
  obtain ⟨last, hlast, hlt, hline⟩ := (h.descent_path offset).exists_last h h.size_pos
  rw [nodeAt, hlast, Option.getD_some, hline, h.ancestors_root, List.append_nil]
  exact ⟨hlt, rfl⟩

/-- A leaf that a script wrote is at the end of the way down to each offset inside its word. -/
theorem path_ofScript {kind : FileKind} {steps : List Step} {id : NodeId} {word : String}
    (hword : (⟨some id, word⟩ : Piece) ∈ Step.written steps) {offset : Nat}
    (hlo : (ofScript kind steps).start id ≤ offset)
    (hhi : offset < (ofScript kind steps).start id + Text.length (Text.trimEnd word)) :
    (ofScript kind steps).path offset = ((ofScript kind steps).ancestors id).reverse ++ [id] := by
  obtain ⟨l, r, hwritten⟩ := List.append_of_mem hword
  obtain ⟨-, hid, hleaf, hspan⟩ := leaf_ofScript kind hwritten
  have hsource : (ofScript kind steps).source.toList =
      Piece.chars l ++ word.toList ++ Piece.chars r := by
    rw [source_ofScript, hwritten, Piece.chars_append, Piece.chars_cons, List.append_assoc]
  have hstart : Text.size (Piece.chars l) = (ofScript kind steps).start id := by
    rw [start, hspan]
  have hstop : Text.size (Piece.chars l) + Text.size word.toList =
      ((ofScript kind steps).span id).stop := by
    rw [hspan]
  have htrim : Text.length (Text.trimEnd word) = Text.size (Text.trimEndChars word.toList) := by
    rw [← Text.size_toList, Text.trimEnd, String.toList_ofList]
  rw [htrim] at hhi
  exact (laid_ofScript kind steps).path_eq hid hleaf hsource hstart hstop hlo hhi

/-- The node at an offset inside a word that a script wrote, up to the white space at its end, is
the leaf of the word, and the way to it is the line from the root down to it.  In every tree that
passes the check the way down to an offset comes to an end; it begins at the root and leads from
node to child. -/
theorem path_to_word :
    (∀ (kind : FileKind) (steps : List Step) (id : NodeId) (word : String),
      (⟨some id, word⟩ : Piece) ∈ Step.written steps → ∀ offset,
      (ofScript kind steps).start id ≤ offset →
      offset < (ofScript kind steps).start id + Text.length (Text.trimEnd word) →
      (ofScript kind steps).nodeAt offset = id ∧
        (ofScript kind steps).path offset =
          ((ofScript kind steps).ancestors id).reverse ++ [id]) ∧
    ∀ t : Tree, t.defect? = none → ∀ offset,
      Descent t offset root (t.path offset) ∧ (t.path offset).head? = some root ∧
        (t.path offset).IsChain fun p c => c ∈ t.children p := by
  constructor
  · intro kind steps id word hword offset hlo hhi
    have hpath := path_ofScript hword hlo hhi
    refine ⟨?_, hpath⟩
    rw [nodeAt, hpath, List.getLast?_concat]
    rfl
  · intro t hcheck offset
    have hdescent := (defect?_eq_none_iff.mp hcheck).toRooted.descent_path offset
    exact ⟨hdescent, hdescent.head?_eq, hdescent.isChain⟩

/-- A word between two empty ones, with white space that its statement gives up. -/
def crowded : List Step :=
  [.start .statement none, .token .symbol "" none, .token .symbol "R  " none,
    .token .symbol "" none, .finish]

/-- A file with room between its two words. -/
def spaced : Tree :=
  { source := "R Q"
    nodes := #[
      { kind := .file .program, span := ⟨0, 3⟩, children := [1, 2] },
      { kind := .symbol, span := ⟨0, 1⟩, parent := some 0 },
      { kind := .symbol, span := ⟨3, 3⟩, parent := some 0 }]
    declarations := #[] }

theorem path_to_word_crowded :
    (⟨some 3, "R  "⟩ : Piece) ∈ Step.written crowded ∧
      (ofScript .program crowded).start 3 ≤ 0 ∧
      0 < (ofScript .program crowded).start 3 + Text.length (Text.trimEnd "R  ") ∧
      (ofScript .program crowded).nodeAt 0 = 3 ∧
      spaced.defect? = none ∧ Descent spaced 2 root (spaced.path 2) ∧
      spaced.path 2 = [0, 1] := by
  have hwritten : Step.written crowded = [⟨some 2, ""⟩] ++ ⟨some 3, "R  "⟩ :: [⟨some 4, ""⟩] := rfl
  have hword : (⟨some 3, "R  "⟩ : Piece) ∈ Step.written crowded := by
    rw [hwritten]
    exact List.mem_append_right _ List.mem_cons_self
  have hstart : (ofScript .program crowded).start 3 = 0 := by
    rw [start, (leaf_ofScript .program hwritten).2.2.2]
    rfl
  have hlo : (ofScript .program crowded).start 3 ≤ 0 := Nat.le_of_eq hstart
  have hhi : 0 < (ofScript .program crowded).start 3 + Text.length (Text.trimEnd "R  ") := by
    rw [hstart]
    decide
  have hcheck : spaced.defect? = none := by decide
  exact ⟨hword, hlo, hhi, (path_to_word.1 .program crowded 3 "R  " hword 0 hlo hhi).1, hcheck,
    (path_to_word.2 spaced hcheck 2).1, by decide⟩

end Tree
end NcInsight
