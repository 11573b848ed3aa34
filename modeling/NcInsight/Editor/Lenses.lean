import NcInsight.Editor.Position
import NcInsight.Workspace.Basic

/-
Above each definition, how often its name is used.

A program counts its own uses; for a definition file the programs that include it count
theirs.  Uses are counted by text and not by what they mean.
-/
namespace NcInsight

structure Lens where
  range : Range
  uses : List Location
  deriving DecidableEq, Repr, Inhabited

namespace Lens

/-- The command that shows the uses. -/
def command : String := "macro.codelens.references"

def title (l : Lens) : String :=
  if l.uses.length = 1 then "1 reference" else toString l.uses.length ++ " references"

/-- Symbols and labels outside of definitions. -/
def useNodes (t : Tree) : List NodeId :=
  (t.visits (fun id => !(t.kind id).isDeclaration) Tree.root).filter fun id =>
    t.kind id == .symbol || t.kind id == .label

/-- The uses of a name in a file. -/
def usesIn (name : String) (r : Record) : List Location :=
  ((useNodes r.tree).filter fun id => r.tree.text id == name).filterMap r.location?

/-- The files whose uses count for a file. -/
def sources (w : Workspace) (r : Record) : List Record :=
  if r.isProgram then [r] else w.programsIncluding r.uri

/-- The outermost definitions. -/
def definitions (t : Tree) : List NodeId :=
  (t.visits (fun id => !(t.kind id).isDeclaration) Tree.root).filter fun id =>
    (t.kind id).isDeclaration

def of (w : Workspace) (r : Record) (name : NodeId) : Lens :=
  { range := r.range name
    uses := (sources w r).flatMap (usesIn (r.tree.text name)) }

end Lens

/-- The lenses of a file. -/
def lenses (w : Workspace) (r : Record) : List Lens :=
  ((Lens.definitions r.tree).filterMap fun id => r.tree.childOrFirst id .name).map (Lens.of w r)

end NcInsight
