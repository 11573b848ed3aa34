import NcInsight.Tree.Basic

/-
What can be wrong with a tree.

The checks run in a fixed order and the first one that fails is reported: the root,
then node by node its span, its children, its parent and its link, and at last that a walk
down from the root meets every node once.
-/
namespace NcInsight

inductive Defect where
  | empty
  | rootNotFile
  | rootHasParent (parent : NodeId)
  | childOutOfRange (parent child : NodeId)
  | parentMismatch (child listed : NodeId) (actual : Option NodeId)
  | parentOutOfRange (node parent : NodeId)
  | notListedByParent (node : NodeId) (parent : Option NodeId)
  | unreachable (node : NodeId)
  | spanOutOfRange (node : NodeId) (span : Span) (length : Nat)
  | declarationOutOfRange (node : NodeId) (decl : DeclId)
  deriving DecidableEq, Repr

namespace Defect

def showNode (id : NodeId) : String := "NodeId(" ++ toString id ++ ")"

def showNode? : Option NodeId → String
  | none => "None"
  | some id => "Some(" ++ showNode id ++ ")"

def name : Defect → String
  | empty => "Empty"
  | rootNotFile => "RootNotFile"
  | rootHasParent _ => "RootHasParent"
  | childOutOfRange _ _ => "ChildOutOfRange"
  | parentMismatch _ _ _ => "ParentMismatch"
  | parentOutOfRange _ _ => "ParentOutOfRange"
  | notListedByParent _ _ => "NotListedByParent"
  | unreachable _ => "Unreachable"
  | spanOutOfRange _ _ _ => "SpanOutOfRange"
  | declarationOutOfRange _ _ => "DeclarationOutOfRange"

def message : Defect → String
  | empty => "tree has no nodes"
  | rootNotFile => "root node must be a file node"
  | rootHasParent p => "root node must not have a parent, found " ++ showNode p
  | childOutOfRange p c =>
      "node " ++ showNode p ++ " lists child " ++ showNode c ++ ", which does not exist"
  | parentMismatch c l a =>
      "node " ++ showNode c ++ " is listed under " ++ showNode l ++ " but its parent is " ++
        showNode? a
  | parentOutOfRange n p =>
      "node " ++ showNode n ++ " has parent " ++ showNode p ++ ", which does not exist"
  | notListedByParent n p =>
      "node " ++ showNode n ++ " names " ++ showNode? p ++
        " as parent but is not among its children"
  | unreachable n => "node " ++ showNode n ++ " is not reachable from the root exactly once"
  | spanOutOfRange n s l =>
      "span " ++ toString s.start ++ ".." ++ toString s.stop ++ " of node " ++ showNode n ++
        " is outside the source (length " ++ toString l ++ ")"
  | declarationOutOfRange n d =>
      "node " ++ showNode n ++ " refers to unknown declaration DeclId(" ++ toString d ++ ")"

end Defect

namespace Tree

def rootDefect? (t : Tree) : Option Defect :=
  match t.node? root with
  | none => some .empty
  | some r =>
      if r.kind.isFile then r.parent.map .rootHasParent else some .rootNotFile

def spanDefect? (t : Tree) (id : NodeId) (n : Node) : Option Defect :=
  let length := Text.length t.source
  if n.span.start ≤ n.span.stop ∧ n.span.stop ≤ length then none
  else some (.spanOutOfRange id n.span length)

def childDefect? (t : Tree) (id child : NodeId) : Option Defect :=
  match t.node? child with
  | none => some (.childOutOfRange id child)
  | some c => if c.parent = some id then none else some (.parentMismatch child id c.parent)

def parentDefect? (t : Tree) (id : NodeId) (n : Node) : Option Defect :=
  if id = root then none
  else match n.parent with
    | none => some (.notListedByParent id none)
    | some p =>
        match t.node? p with
        | none => some (.parentOutOfRange id p)
        | some pn => if id ∈ pn.children then none else some (.notListedByParent id (some p))

def linkDefect? (t : Tree) (id : NodeId) (n : Node) : Option Defect :=
  match n.link with
  | some ⟨none, d⟩ =>
      if d < t.declarations.size then none else some (.declarationOutOfRange id d)
  | _ => none

def nodeDefect? (t : Tree) (id : NodeId) : Option Defect :=
  let n := t.node id
  (t.spanDefect? id n).or ((n.children.findSome? (t.childDefect? id)).or
    ((t.parentDefect? id n).or (t.linkDefect? id n)))

/-- Walks down with the last child first.  Answers the nodes met, or the first one met
twice. -/
def reachWithin (t : Tree) : Nat → List NodeId → List NodeId → Except NodeId (List NodeId)
  | 0, _, seen => .ok seen
  | _ + 1, [], seen => .ok seen
  | fuel + 1, id :: pending, seen =>
      if id ∈ seen then .error id
      else t.reachWithin fuel ((t.children id).reverse ++ pending) (id :: seen)

/-- One more step than there are nodes either empties the list of pending nodes or repeats a
node. -/
def reachDefect? (t : Tree) : Option Defect :=
  match t.reachWithin (t.size + 1) [root] [] with
  | .error id => some (.unreachable id)
  | .ok seen => ((List.range t.size).find? (· ∉ seen)).map .unreachable

/-- The first thing wrong with a tree. -/
def defect? (t : Tree) : Option Defect :=
  t.rootDefect?.or (((List.range t.size).findSome? t.nodeDefect?).or t.reachDefect?)

end Tree
end NcInsight
