import NcInsight.Editor.Navigation

/-
Renaming what is named at an offset.  All of its uses are replaced; a clash with another name
is not looked for.
-/
namespace NcInsight
namespace Rename

def isNumbered : Kind → Bool
  | .var | .code | .sequenceNumber => true
  | _ => false

/-- The node that a rename at an offset is about. -/
def subject (t : Tree) (offset : Nat) : NodeId :=
  let node := t.nodeAt offset
  ((t.findAncestor Navigation.isNamed node).or (t.findAncestor isNumbered node)).getD node

/-- The node whose text is replaced. -/
def target? (t : Tree) (id : NodeId) : Option NodeId :=
  match t.kind id with
  | .var | .code | .numeric | .label | .symbol => some id
  | .sequenceNumber => t.childOrFirst id .number
  | _ => none

/-- The range to rename at an offset. -/
def prepare? (r : Record) (offset : Nat) : Option Range :=
  (target? r.tree (subject r.tree offset)).map r.range

/-- The edits of one file. -/
structure FileEdits where
  uri : String
  edits : List Edit
  deriving DecidableEq, Repr

/-- Adds an edit to those of its file. -/
def addEdit (uri : String) (e : Edit) : List FileEdits → List FileEdits
  | [] => [⟨uri, [e]⟩]
  | f :: fs => if f.uri = uri then { f with edits := f.edits ++ [e] } :: fs else f :: addEdit uri e fs

/-- Edits by file, in the order of the locations. -/
def editsOf (newText : String) (locations : List Location) : List FileEdits :=
  locations.foldl (fun fs l => addEdit l.uri ⟨l.range, newText⟩ fs) []

/-- The edits that give a new name to what is named at an offset. -/
def edits (w : Workspace) (r : Record) (offset : Nat) (newName : String) : List FileEdits :=
  editsOf newName (Navigation.references w r offset none)

end Rename
end NcInsight
