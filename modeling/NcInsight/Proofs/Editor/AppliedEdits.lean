import NcInsight.Proofs.Editor.RenameEdits
import NcInsight.Proofs.Tree.Renaming

/-
Edits applied to the text of a file.

Edits are positions in the text before any of them is made, so they are applied from the last to
the first.  The edits of some leaves of a script then give what the script writes with these
leaves renamed (`applyAll_leaves`).
-/
namespace NcInsight

namespace Edit

/-- The text with one part replaced; the part is the one that the edit has in `source`. -/
def replace (source : String) (e : Edit) (text : String) : String :=
  (Text.slice? text 0 (e.span source).start).getD "" ++ e.newText ++
    (Text.slice? text (e.span source).stop (Text.length text)).getD ""

/-- The text after edits in ascending order: the last is applied first, so that no part moves
before it is replaced. -/
def applyAll (source : String) (es : List Edit) : String :=
  es.foldr (fun e text => e.replace source text) source

theorem replace_eq {source text : String} {e : Edit} {a m c : List Char}
    (htext : text.toList = a ++ m ++ c)
    (hspan : e.span source = ⟨Text.size a, Text.size a + Text.size m⟩) :
    (e.replace source text).toList = a ++ e.newText.toList ++ c := by
  have hbefore : Text.slice? text 0 (Text.size a) = some (String.ofList a) :=
    Text.slice?_eq_some_iff.mpr
      ⟨[], m ++ c, by rw [htext, String.toList_ofList]; simp, rfl, by simp⟩
  have hafter : Text.slice? text (Text.size a + Text.size m) (Text.length text) =
      some (String.ofList c) := by
    refine Text.slice?_eq_some_iff.mpr ⟨a ++ m, [], ?_, Text.size_append a m, ?_⟩
    · rw [htext, String.toList_ofList, List.append_nil]
    · rw [← Text.size_toList, htext, String.toList_ofList, Text.size_append, Text.size_append]
  rw [replace, hspan]
  simp only [hbefore, hafter, Option.getD_some, String.toList_append, String.toList_ofList]

end Edit

/-- The edits of the leaves that `p` picks spell the renamed pieces. -/
theorem applyAll_leaves (kind : FileKind) {steps : List Step} (p : NodeId → Bool) (name : String)
    {edit : NodeId → Edit} (hname : ∀ i, (edit i).newText = name)
    (hspan : ∀ i ∈ Piece.leaves (Step.written steps),
      (edit i).span (Tree.ofScript kind steps).source = (Tree.ofScript kind steps).span i) :
    Edit.applyAll (Tree.ofScript kind steps).source
        (((Piece.leaves (Step.written steps)).filter p).map edit) =
      (Tree.ofScript kind (Step.renameLeaves p name steps)).source := by
  have hsource : (Tree.ofScript kind steps).source.toList = Piece.chars (Step.written steps) :=
    Tree.source_ofScript kind
  -- by induction on the pieces that are still to come, those before them as they were
  have hpieces : ∀ todo done : List Piece, Step.written steps = done ++ todo →
      (Edit.applyAll (Tree.ofScript kind steps).source
        (((Piece.leaves todo).filter p).map edit)).toList =
          Piece.chars done ++ Piece.chars (todo.map (Piece.renamed p name)) := by
    intro todo
    induction todo with
    | nil =>
        intro done hps
        show (Tree.ofScript kind steps).source.toList = _
        rw [hsource, hps]
        simp
    | cons q todo ih =>
        intro done hps
        have hrest := ih (done ++ [q]) (by rw [hps]; simp)
        rw [Piece.chars_append, Piece.chars_cons, Piece.chars_nil, List.append_nil] at hrest
        obtain ⟨node, text⟩ := q
        cases node with
        | none =>
            rw [List.map_cons, Piece.chars_cons, ← List.append_assoc]
            exact hrest
        | some i =>
            by_cases hp : p i = true
            · have hmem : i ∈ Piece.leaves (Step.written steps) := by
                rw [hps]
                simp [Piece.leaves]
              have hplace := (hspan i hmem).trans (Tree.leaf_ofScript kind hps).2.2.2
              have hnew := Edit.replace_eq hrest hplace
              rw [hname] at hnew
              have hpicked : (Piece.leaves (⟨some i, text⟩ :: todo)).filter p =
                  i :: (Piece.leaves todo).filter p := List.filter_cons_of_pos hp
              have hrenamed : (Piece.renamed p name ⟨some i, text⟩).text = name := if_pos hp
              rw [hpicked, List.map_cons (f := Piece.renamed p name), Piece.chars_cons, hrenamed,
                ← List.append_assoc]
              exact hnew
            · have hpassed : (Piece.leaves (⟨some i, text⟩ :: todo)).filter p =
                  (Piece.leaves todo).filter p := List.filter_cons_of_neg hp
              have hsame : (Piece.renamed p name ⟨some i, text⟩).text = text := if_neg hp
              rw [hpassed, List.map_cons, Piece.chars_cons, hsame, ← List.append_assoc]
              exact hrest
  have hall := hpieces (Step.written steps) [] rfl
  rw [← Step.written_renameLeaves] at hall
  refine String.toList_inj.mp (hall.trans ?_)
  rw [Tree.source_ofScript]
  rfl

end NcInsight
