import NcInsight.Text.Bytes
import NcInsight.Tree.Kind
import NcInsight.Tree.ReferenceTypes

/-
The annotated tree of one file.

Nodes stand in one array and name each other by position; the root is node 0.
Declarations stand in a second array, so that a name can point at what declares it
without owning it.  A position that is not in the array is read as `Node.blank`, which
keeps every query total; `Tree.defect?` says when a tree has no such positions.
-/
namespace NcInsight

/-- A range of bytes of a source text.  Nothing forces `start ≤ stop`; a tree that breaks it is
refused when it is checked. -/
structure Span where
  start : Nat
  stop : Nat
  deriving DecidableEq, Repr, Inhabited

namespace Span

/-- The least span that covers both. -/
def merge (a b : Span) : Span := ⟨min a.start b.start, max a.stop b.stop⟩

def length (s : Span) : Nat := s.stop - s.start

def isEmpty (s : Span) : Bool := s.length == 0

/-- Both ends belong to the span, so a cursor right after a word still touches it. -/
def touches (s : Span) (offset : Nat) : Bool := s.start ≤ offset && offset ≤ s.stop

end Span

abbrev NodeId := Nat

abbrev DeclId := Nat

/-- A pointer to a declaration: of the same file when there is no `uri`. -/
structure Link where
  uri : Option String := none
  id : DeclId
  deriving DecidableEq, Repr, Inhabited

structure Node where
  kind : Kind
  span : Span
  field : Option Field := none
  parent : Option NodeId := none
  children : List NodeId := []
  valueType : Option ValueType := none
  referenceTypes : ReferenceTypes := ReferenceTypes.empty
  link : Option Link := none
  deriving DecidableEq, Repr, Inhabited

/-- The node that stands for a missing one. -/
def Node.blank : Node := { kind := .other, span := ⟨0, 0⟩ }

inductive DeclarationKind where
  | var
  | label
  deriving DecidableEq, Repr, Inhabited

namespace DeclarationKind

def all : List DeclarationKind := [var, label]

def name : DeclarationKind → String
  | var => "Variable"
  | label => "Label"

def ofName? (s : String) : Option DeclarationKind := all.find? (·.name == s)

def referenceType : DeclarationKind → ReferenceType
  | var => .var
  | label => .label

end DeclarationKind

/-- What a `@` or `>` definition introduces. -/
structure Declaration where
  kind : DeclarationKind
  name : String
  /-- The definition. -/
  node : NodeId
  nameNode : Option NodeId
  valueNode : Option NodeId
  valueText : Option String
  valueType : ValueType
  deriving DecidableEq, Repr, Inhabited

namespace Declaration

def referenceTypes (d : Declaration) : ReferenceTypes := .single d.kind.referenceType

end Declaration

structure Tree where
  source : String
  nodes : Array Node
  declarations : Array Declaration
  deriving DecidableEq, Repr, Inhabited

namespace Tree

def size (t : Tree) : Nat := t.nodes.size

def root : NodeId := 0

def node? (t : Tree) (id : NodeId) : Option Node := t.nodes[id]?

def node (t : Tree) (id : NodeId) : Node := t.nodes.getD id Node.blank

def declaration? (t : Tree) (id : DeclId) : Option Declaration := t.declarations[id]?

/-! ## One node -/

def kind (t : Tree) (id : NodeId) : Kind := (t.node id).kind

def span (t : Tree) (id : NodeId) : Span := (t.node id).span

def start (t : Tree) (id : NodeId) : Nat := (t.span id).start

def field (t : Tree) (id : NodeId) : Option Field := (t.node id).field

def parent (t : Tree) (id : NodeId) : Option NodeId := (t.node id).parent

def children (t : Tree) (id : NodeId) : List NodeId := (t.node id).children

def valueType (t : Tree) (id : NodeId) : Option ValueType := (t.node id).valueType

def referenceTypes (t : Tree) (id : NodeId) : ReferenceTypes := (t.node id).referenceTypes

def parentKind (t : Tree) (id : NodeId) : Option Kind := (t.parent id).map t.kind

/-- The source text of a span; a span that cuts a character has none. -/
def spanText (source : String) (s : Span) : String :=
  (Text.slice? source s.start s.stop).getD ""

def text (t : Tree) (id : NodeId) : String := spanText t.source (t.span id)

/-- The declaration a link leads to, when it is of this file. -/
def linked? (t : Tree) : Option Link → Option Declaration
  | some ⟨none, id⟩ => t.declaration? id
  | _ => none

/-- The declaration a node points at, when it is of this file. -/
def declarationOf (t : Tree) (id : NodeId) : Option Declaration := t.linked? (t.node id).link

/-! ## Children -/

def child (t : Tree) (id : NodeId) (i : Nat) : Option NodeId := (t.children id)[i]?

def childByField (t : Tree) (id : NodeId) (f : Field) : Option NodeId :=
  (t.children id).find? fun c => t.field c == some f

def childByKind (t : Tree) (id : NodeId) (k : Kind) : Option NodeId :=
  (t.children id).find? fun c => t.kind c == k

/-- The child in the role `f`, or else the first one. -/
def childOrFirst (t : Tree) (id : NodeId) (f : Field) : Option NodeId :=
  (t.childByField id f).or (t.child id 0)

/-! ## The file -/

def fileKind (t : Tree) : FileKind :=
  match t.kind root with
  | .file k => k
  | _ => .definitions

def isProgram (t : Tree) : Bool := t.fileKind == .program

/-- A node that uses a name: a symbol, a label, a variable, a code, or the number of a jump or
of a place to jump to. -/
def isReference (t : Tree) (id : NodeId) : Bool :=
  match t.kind id with
  | .symbol | .label | .var | .code => true
  | .numeric => t.parentKind id == some .goto || t.parentKind id == some .sequenceNumber
  | _ => false

end Tree
end NcInsight
