import NcInsight.Editor.Position
import NcInsight.Workspace.Scope

/-
What an editor shows of a file as a whole: its outline, which has its definitions, programs and
steps in the order of the text, and its include statements as links.
-/
namespace NcInsight
namespace Outline

inductive EntryKind where
  | property
  | field
  | interface
  | function
  | var
  | constant
  | event
  deriving DecidableEq, Repr, Inhabited

namespace EntryKind

/-- The number that editors know the kind by. -/
def number : EntryKind → Nat
  | property => 7
  | field => 8
  | interface => 11
  | function => 12
  | var => 13
  | constant => 14
  | event => 24

end EntryKind

structure Entry where
  name : String
  kind : EntryKind
  location : Location
  deriving DecidableEq, Repr, Inhabited

/-- The declaration of a name: its own, or one found through the includes. -/
def declaration? (s : Scope) (t : Tree) (id : NodeId) : Option Declaration :=
  (t.declarationOf id).or ((s.resolve t id).bind s.declaration?)

/-- A declared program is shown with its number, any other by its number alone. -/
def functionTitle (s : Scope) (t : Tree) (name : NodeId) : String :=
  match declaration? s t name with
  | some d => d.name ++ " (" ++ d.valueText.getD "" ++ ")"
  | none => "O" ++ t.text name

def hasMany (t : Tree) (id : NodeId) : Bool := 1 < (t.children id).length

/-- A label in place of a sequence number. -/
def isJumpLabel (t : Tree) (id number : NodeId) : Bool :=
  t.kind number == .label && t.valueType number == some .numeric &&
    (t.parentKind id == some .function || t.parentKind id == some .goto)

def sequenceTitle? (t : Tree) (id : NodeId) : Option (String × EntryKind) :=
  (t.childOrFirst id .number).bind fun number =>
    if isJumpLabel t id number then some (t.text number, .constant)
    else if hasMany t id && t.parentKind id != some .blockSkip then some (t.text id, .field)
    else none

def statementTitle? (t : Tree) (id : NodeId) : Option (String × EntryKind) :=
  if !hasMany t id || t.parentKind id == some .sequenceNumber ||
      t.parentKind id == some .blockSkip then none
  else
    some (t.text id, if (t.child id 0).map t.kind == some .code then .event else .property)

/-- What the outline shows for a node, if anything. -/
def title? (s : Scope) (t : Tree) (id : NodeId) : Option (String × EntryKind) :=
  match t.kind id with
  | .varDef => (t.declarationOf id).map fun d => (d.name, .var)
  | .labelDef => (t.declarationOf id).map fun d => (d.name, .constant)
  | .blockSkip => some (t.text id, .field)
  | .function => (t.childOrFirst id .name).map fun name => (functionTitle s t name, .function)
  | .sequenceNumber => sequenceTitle? t id
  | .statement => statementTitle? t id
  | .goto => some (t.text id, .event)
  | .command => some (t.text ((t.childOrFirst id .name).getD id), .event)
  | .code => some (t.text id, .event)
  | .parameter =>
      some (t.text id, if t.valueType id == some .address then .interface else .property)
  | _ => none

def entry? (s : Scope) (r : Record) (id : NodeId) : Option Entry := do
  let (name, kind) ← title? s r.tree id
  let location ← r.location? id
  return { name, kind, location }

end Outline

/-- The outline of a file; one without a proper address has none. -/
def outline (w : Workspace) (r : Record) : List Outline.Entry :=
  (r.tree.preorder Tree.root).filterMap (Outline.entry? (.build w r) r)

/-! ## Links -/

structure DocumentLink where
  range : Range
  /-- The address in its written form, unless the text is no address. -/
  target : Option String
  deriving DecidableEq, Repr, Inhabited

namespace DocumentLink

def of (files : Resolver) (r : Record) (uriNode : NodeId) : DocumentLink :=
  { range := r.range uriNode
    target := (Url.parse? (files.resolve (r.tree.text uriNode) r.uri)).map (·.render) }

/-- One link for each include statement that has text, whatever finds the files. -/
def all (files : Resolver) (r : Record) : List DocumentLink :=
  ((r.tree.inclusions.filterMap r.tree.inclusionTarget?).filter
    fun uriNode => !(r.tree.span uriNode).isEmpty).map (of files r)

end DocumentLink

/-- The links of a file of a workspace. -/
def documentLinks (w : Workspace) (r : Record) : List DocumentLink :=
  DocumentLink.all w.resolver r

end NcInsight
