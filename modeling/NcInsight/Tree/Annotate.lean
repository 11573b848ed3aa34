import NcInsight.Tree.Basic

/-
The annotation of a finished arena of nodes: collect what is declared, link names to
what declares them, and tag every node that uses a name.

An annotation that is already there is never replaced.  Declarations are taken in the order of
the nodes, and a definition marks itself and its name before the next one is read.
-/
namespace NcInsight
namespace Annotate

/-- The child in the role `f`, or else the one at position `i`. -/
def part (nodes : Array Node) (n : Node) (f : Field) (i : Nat) : Option NodeId :=
  (n.children.find? fun c => (nodes.getD c Node.blank).field == some f).or n.children[i]?

def declarationKind : Kind → Option DeclarationKind
  | .varDef => some .var
  | .labelDef => some .label
  | _ => none

/-- What the node at `id` declares.  A definition without children declares nothing. -/
def declared (source : String) (nodes : Array Node) (id : NodeId) : Option Declaration :=
  let n := nodes.getD id Node.blank
  let textOf (c : NodeId) : String := Tree.spanText source (nodes.getD c Node.blank).span
  match declarationKind n.kind, part nodes n .name 0 with
  | some kind, some nameNode =>
      let valueNode := (part nodes n .value 1).filter (· != nameNode)
      some {
        kind
        name := textOf nameNode
        node := id
        nameNode := some nameNode
        valueNode
        valueText := valueNode.map textOf
        valueType :=
          ((valueNode.bind fun v => (nodes.getD v Node.blank).valueType).or n.valueType).getD
            .undefined }
  | _, _ => none

/-- Marks a node as belonging to declaration `id`. -/
def mark (d : Declaration) (id : DeclId) (n : Node) : Node :=
  { n with
    link := n.link.or (some { id })
    referenceTypes := if n.referenceTypes.isEmpty then d.referenceTypes else n.referenceTypes
    valueType := n.valueType.or (some d.valueType) }

structure State where
  nodes : Array Node
  declarations : Array Declaration

/-- Takes the declaration of one node, if it is a definition. -/
def collectOne (source : String) (s : State) (id : NodeId) : State :=
  match declared source s.nodes id with
  | none => s
  | some d =>
      let i := s.declarations.size
      let nodes := s.nodes.modify id (mark d i)
      let nodes := match d.nameNode with
        | some c => nodes.modify c (mark d i)
        | none => nodes
      { nodes, declarations := s.declarations.push d }

def collect (source : String) (nodes : Array Node) : State :=
  (List.range nodes.size).foldl (collectOne source) { nodes, declarations := #[] }

/-- The first declaration of this kind and name. -/
def find (ds : Array Declaration) (k : DeclarationKind) (name : String) : Option DeclId :=
  ds.findIdx? fun d => d.kind == k && d.name == name

/-- The declaration meant by a name: a symbol prefers variables, a label prefers labels. -/
def resolve (ds : Array Declaration) (k : Kind) (name : String) : Option DeclId :=
  match k with
  | .symbol => (find ds .var name).or (find ds .label name)
  | .label => (find ds .label name).or (find ds .var name)
  | _ => none

def linkNode (source : String) (ds : Array Declaration) (n : Node) : Node :=
  if n.link.isSome then n
  else match resolve ds n.kind (Tree.spanText source n.span) with
    | none => n
    | some i =>
        { n with
          link := some { id := i }
          valueType := n.valueType.or (ds[i]?.map (·.valueType)) }

/-- The uses a node has by its kind and place, given those of its declaration. -/
def defaultTypes (parent : Option Kind) (n : Node) (resolved : Option ReferenceTypes) :
    Option ReferenceTypes :=
  match n.kind with
  | .symbol =>
      let base := resolved.getD (.single .var)
      some (if parent == some .function && n.field == some .name then base.insert .program
        else base)
  | .label =>
      let base := resolved.getD (.single .label)
      some (if parent == some .goto then base.insert .jumpLabel else base)
  | .var | .code => some (.single .var)
  | .numeric =>
      if parent == some .goto || parent == some .sequenceNumber then some (.single .jumpLabel)
      else none
  | _ => none

def tagNode (nodes : Array Node) (ds : Array Declaration) (n : Node) : Node :=
  if n.referenceTypes.isEmpty then
    let parent := n.parent.map fun p => (nodes.getD p Node.blank).kind
    let resolved := match n.link with
      | some ⟨none, i⟩ => ds[i]?.map (·.referenceTypes)
      | _ => none
    match defaultTypes parent n resolved with
    | some types => { n with referenceTypes := types }
    | none => n
  else n

/-- The annotated tree. -/
def run (source : String) (nodes : Array Node) : Tree :=
  let s := collect source nodes
  let linked := s.nodes.map (linkNode source s.declarations)
  { source
    nodes := linked.map (tagNode linked s.declarations)
    declarations := s.declarations }

end Annotate
end NcInsight
