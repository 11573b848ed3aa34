import NcInsight.Editor.Position
import NcInsight.Workspace.Scope

/-
From a name to its declaration and to its uses.

A name is looked up in its file and then in each file that is included; the file that
knows it is its origin.  The origin decides where uses are looked for: a name declared in a
definition file is used by the programs that include that file.
-/
namespace NcInsight
namespace Navigation

def isNamed : Kind → Bool
  | .symbol | .label => true
  | _ => false

def isUnnamed : Kind → Bool
  | .var | .code => true
  | _ => false

/-- The name at an offset: a symbol or label around it, or else its innermost node. -/
def nameAt (t : Tree) (offset : Nat) : NodeId :=
  let node := t.nodeAt offset
  (t.findAncestor isNamed node).getD node

/-- As `nameAt`, with a variable or code around the offset as second choice. -/
def referenceAt (t : Tree) (offset : Nat) : NodeId :=
  let node := t.nodeAt offset
  ((t.findAncestor isNamed node).or (t.findAncestor isUnnamed node)).getD node

/-- The file and the files it includes. -/
def searchOrder (w : Workspace) (r : Record) : List Record := r :: w.includedBy r

/-- The first file that knows a node of tree `t`, and what it knows. -/
def origin? (w : Workspace) (r : Record) (id : NodeId) : Option (Record × Symbol) :=
  (searchOrder w r).findSome? fun file =>
    ((FileScope.of file).resolve r.tree id).map (file, ·)

/-- Where the name at an offset is declared or first used. -/
def definition? (w : Workspace) (r : Record) (offset : Nat) : Option Location :=
  match origin? w r (nameAt r.tree offset) with
  | some (file, y) => if (file.tree.node? y.node).isSome then file.location? y.node else none
  | none => none

/-- The files to search for the uses of a name that file `origin` knows. -/
def targets (w : Workspace) (t : Tree) (id : NodeId) (origin : Record) : List Record :=
  match t.kind id with
  | .var | .code => w.select .all
  | .numeric => if t.isReference id then [origin] else []
  | .label | .symbol =>
      (if origin.isProgram then [] else w.programsIncluding origin.uri) ++ [origin]
  | _ => []

/-- Whether a use is wanted: asked for one way of use, those known to be of other ways are
not. -/
def isWanted (t : Tree) (only : Option ReferenceType) (id : NodeId) : Bool :=
  match only with
  | some use => (t.referenceTypes id).isEmpty || (t.referenceTypes id).has use
  | none => true

/-- The nodes of a tree that stand for a symbol, none of which lies in another. -/
def uses (t : Tree) (y : Symbol) : List NodeId :=
  (t.visits (fun id => !y.isNamedBy t id) Tree.root).filter (y.isNamedBy t)

/-- The uses in a file. -/
def usesIn (r : Record) (y : Symbol) (only : Option ReferenceType) : List Location :=
  ((uses r.tree y).filter (isWanted r.tree only)).filterMap r.location?

/-- The uses of what is named at an offset, its declaration among them. -/
def references (w : Workspace) (r : Record) (offset : Nat) (only : Option ReferenceType) :
    List Location :=
  let id := referenceAt r.tree offset
  match origin? w r id with
  | some (origin, y) => (targets w r.tree id origin).flatMap fun file => usesIn file y only
  | none => []

/-- The use that implements a name: a program for a symbol, a jump for a label. -/
def implementationType? (t : Tree) (id : NodeId) : Option ReferenceType :=
  match t.kind id with
  | .symbol => some .program
  | .label => some .jumpLabel
  | .numeric => if t.parentKind id == some .goto then some .jumpLabel else none
  | _ => none

def implementations (w : Workspace) (r : Record) (offset : Nat) : List Location :=
  match implementationType? r.tree (nameAt r.tree offset) with
  | some use => references w r offset (some use)
  | none => []

end Navigation
end NcInsight
