import NcInsight.Text.Parts
import NcInsight.Workspace.Basic

/-
What a lint run knows when it reaches a node.

The facts grow with every node visited and depend on nothing else: the declarations
introduced, newest first and those of included files among them, the addresses included,
the programs named, the places to jump to, and the gotos met.  Which nodes are visited
depends on the tree alone.
-/
namespace NcInsight
namespace Lint

/-- What made a place to jump to. -/
inductive EntryKind where
  | sequence
  | label
  deriving DecidableEq, Repr

/-- A place to jump to, in the program of node `program`. -/
structure Entry where
  program : NodeId
  value : String
  kind : EntryKind
  deriving DecidableEq, Repr

structure Facts where
  /-- Newest first. -/
  introduced : List Declaration := []
  imports : List String := []
  functions : List String := []
  entries : List Entry := []
  gotos : List NodeId := []

/-- Everything the facts are about. -/
structure Context where
  files : Resolver
  record : Record

namespace Context

def tree (c : Context) : Tree := c.record.tree

/-- The address that an include statement means. -/
def target (c : Context) (uriNode : NodeId) : String :=
  c.files.resolve (c.tree.text uriNode) c.record.uri

end Context

/-! ## The nodes that are visited -/

def maxWhileDepth : Nat := 3

def maxIfDepth : Nat := 10

/-- The node and its ancestors of kind `k`, innermost first. -/
def enclosingAll (t : Tree) (k : Kind) (id : NodeId) : List NodeId :=
  (t.lineage id).filter fun a => t.kind a == k

/-- Loops and conditions nested too deep. -/
def isTooDeep (t : Tree) (id : NodeId) : Bool :=
  match t.kind id with
  | .whileLoop => maxWhileDepth < (enclosingAll t .whileLoop id).length
  | .ifBlock => maxIfDepth < (enclosingAll t .ifBlock id).length
  | _ => false

/-- Nodes below which nothing is visited. -/
def isCut (t : Tree) (id : NodeId) : Bool := t.kind id == .inclusion || isTooDeep t id

/-- The program a node belongs to; outside of programs that is the root. -/
def programOf (t : Tree) (id : NodeId) : NodeId := (t.enclosing .function id).getD Tree.root

/-! ## Looking up -/

namespace Facts

/-- The newest declaration of a name. -/
def lookup (f : Facts) (name : String) : Option Declaration :=
  f.introduced.find? (·.name == name)

def isKnown (f : Facts) (name : String) : Bool := f.introduced.any (·.name == name)

/-- Whether a name was introduced more than once. -/
def isDoubled (f : Facts) (name : String) : Bool :=
  1 < (f.introduced.filter (·.name == name)).length

/-- The declaration a node stands for: the one it points at, or else the newest of its text. -/
def resolve (f : Facts) (t : Tree) (id : NodeId) : Option Declaration :=
  (t.declarationOf id).or (f.lookup (t.text id))

/-- The value of the declaration a node stands for. -/
def valueOf (f : Facts) (t : Tree) (id : NodeId) : Option String :=
  (f.resolve t id).bind (·.valueText)

/-- The entry of a program with this value. -/
def entry? (f : Facts) (program : NodeId) (value : String) : Option Entry :=
  f.entries.find? fun e => e.program == program && e.value == value

end Facts

/-! ## Places to jump to -/

/-- The number of a sequence number. -/
def numberNode (t : Tree) (id : NodeId) : Option NodeId :=
  (t.childByField id .number).or (t.childByKind id .numeric)

/-- A label that marks the place it stands at. -/
def isJumpPosition (t : Tree) (id : NodeId) : Bool :=
  (match t.parentKind id with
    | some .function | some .thenBranch | some .elseBranch | some .whileLoop => true
    | _ => false) &&
  (match t.field id with
    | some .doLabel | some .endLabel => false
    | _ => true) &&
  (t.enclosing .function id).isSome

/-- The entry of a value at a node. -/
def entryAt (t : Tree) (anchor : NodeId) (value : String) (kind : EntryKind) : NodeId × Entry :=
  (anchor, { program := programOf t anchor, value := Text.stripJump value, kind })

/-- The place to jump to that a node makes, and the node it is found at. -/
def entryOf (f : Facts) (t : Tree) (id : NodeId) : Option (NodeId × Entry) :=
  match t.kind id with
  | .sequenceNumber =>
      (numberNode t id).map fun n => entryAt t n (t.text n) .sequence
  | .label =>
      if isJumpPosition t id then (f.valueOf t id).map fun v => entryAt t id v .label else none
  | .var =>
      match f.resolve t id with
      | some d =>
          if d.valueType = .sequence then d.valueText.map fun v => entryAt t id v .label
          else none
      | none => none
  | _ => none

/-! ## Programs -/

/-- The name of a program. -/
def functionName (t : Tree) (id : NodeId) : Option NodeId := t.childOrFirst id .name

/-- The number of a program: the value of its name, or its text if the name is not declared. -/
def functionNumber (f : Facts) (t : Tree) (name : NodeId) : Option String :=
  match f.resolve t name with
  | some d => d.valueText
  | none => some (t.text name)

/-! ## Growing -/

/-- The declarations of the outermost definitions of a tree, in order. -/
def exported (t : Tree) : List Declaration :=
  ((t.visits (fun id => !(t.kind id).isDeclaration) Tree.root).filter
    fun id => (t.kind id).isDeclaration).filterMap t.declarationOf

/-- What an include statement brings in: nothing the second time. -/
def imported (c : Context) (f : Facts) (target : String) : List Declaration :=
  if f.imports.contains target then []
  else match c.files.get? target with
    | some r => exported r.tree
    | none => []

namespace Facts

def addEntry (f : Facts) (t : Tree) (id : NodeId) : Facts :=
  match entryOf f t id with
  | some (_, e) =>
      if (f.entry? e.program e.value).isSome then f else { f with entries := f.entries ++ [e] }
  | none => f

/-- The facts after a node. -/
def advance (c : Context) (f : Facts) (id : NodeId) : Facts :=
  let t := c.tree
  match t.kind id with
  | .inclusion =>
      match t.inclusionTarget? id with
      | none => f
      | some uriNode =>
          let target := c.target uriNode
          { f with
            introduced := (imported c f target).reverse ++ f.introduced
            imports := if f.imports.contains target then f.imports else f.imports ++ [target] }
  | .varDef | .labelDef =>
      match t.declarationOf id with
      | some d => { f with introduced := d :: f.introduced }
      | none => f
  | .function =>
      match (functionName t id).bind (functionNumber f t) with
      | some n =>
          if f.functions.contains n then f else { f with functions := f.functions ++ [n] }
      | none => f
  | .goto => { f with gotos := f.gotos ++ [id] }
  | .sequenceNumber | .label | .var => f.addEntry t id
  | _ => f

end Facts
end Lint
end NcInsight
