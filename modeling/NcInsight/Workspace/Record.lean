import NcInsight.Tree.Walk

/-
A file of the workspace: its address, its tree, and the addresses it includes.
-/
namespace NcInsight

namespace Tree

/-- The include statements, none of which lies in another. -/
def inclusions (t : Tree) : List NodeId :=
  (t.visits (fun id => t.kind id != .inclusion) root).filter fun id => t.kind id == .inclusion

/-- The node that holds the text of an include statement. -/
def inclusionTarget? (t : Tree) (id : NodeId) : Option NodeId := t.childOrFirst id .uri

/-- The texts of the include statements. -/
def inclusionTexts (t : Tree) : List String :=
  (t.inclusions.filterMap t.inclusionTarget?).map t.text

end Tree

structure Record where
  uri : String
  tree : Tree
  /-- The addresses included, in the order of the source and each once. -/
  includes : List String

namespace Record

/-- The record of a file whose include texts `resolve` turns into addresses. -/
def new (resolve : String → String) (uri : String) (tree : Tree) : Record :=
  { uri, tree, includes := (tree.inclusionTexts.map resolve).eraseDups }

def isProgram (r : Record) : Bool := r.tree.isProgram

def isIncluding (r : Record) (uri : String) : Bool := r.includes.contains uri

end Record
end NcInsight
