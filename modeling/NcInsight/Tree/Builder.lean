import NcInsight.Text.Parts
import NcInsight.Tree.Annotate

/-
Building a tree from the text of a file, read once from left to right.

A script opens and closes inner nodes, adds leaves with their text, and adds text that is no
node of its own.  Each node goes under the innermost open one, so the arena is in
pre-order.  A node that closes gives up the white space at its end.
-/
namespace NcInsight

structure Builder where
  source : String
  nodes : Array Node
  /-- The open nodes below the root, innermost first. -/
  opened : List NodeId

/-- One step of a script. -/
inductive Step where
  | start (kind : Kind) (field : Option Field)
  | finish
  | token (kind : Kind) (text : String) (field : Option Field)
  | trivia (text : String)
  /-- The statement `$INCLUDE uri`. -/
  | inclusion (uri : String)
  /-- The definition `@name value`. -/
  | varDef (name value : String) (type : ValueType)
  /-- The definition `>name value`. -/
  | labelDef (name value : String) (type : ValueType)
  | setValueType (id : NodeId) (type : ValueType)
  | setReferenceTypes (id : NodeId) (types : ReferenceTypes)
  | setLink (id : NodeId) (link : Link)
  deriving DecidableEq, Repr

namespace Builder

def new (kind : FileKind) : Builder :=
  { source := "", nodes := #[{ kind := .file kind, span := ⟨0, 0⟩ }], opened := [] }

/-- The end of the text so far. -/
def offset (b : Builder) : Nat := Text.length b.source

/-- The innermost open node. -/
def top (b : Builder) : NodeId := b.opened.headD Tree.root

/-- Adds a node under the innermost open one. -/
def push (b : Builder) (kind : Kind) (field : Option Field) (span : Span) : Builder :=
  let id := b.nodes.size
  let parent := b.top
  { b with
    nodes := (b.nodes.push { kind, span, field, parent := some parent }).modify parent
      fun n => { n with children := n.children ++ [id] } }

def start (b : Builder) (kind : Kind) (field : Option Field) : Builder :=
  let pushed := b.push kind field ⟨b.offset, b.offset⟩
  { pushed with opened := b.nodes.size :: b.opened }

def trivia (b : Builder) (text : String) : Builder := { b with source := b.source ++ text }

def token (b : Builder) (kind : Kind) (text : String) (field : Option Field) : Builder :=
  let added := b.trivia text
  added.push kind field ⟨b.offset, added.offset⟩

/-- Where a node that starts at `start` ends, if it closes now. -/
def closingEnd (source : String) (start : Nat) : Nat :=
  start + Text.size (Text.trimEndChars ((Text.dropBytes start source.toList).getD []))

/-- Closes the innermost open node; the root stays open. -/
def finish (b : Builder) : Builder :=
  match b.opened with
  | [] => b
  | id :: rest =>
      { b with
        nodes := b.nodes.modify id fun n =>
          { n with span := { n.span with stop := closingEnd b.source n.span.start } }
        opened := rest }

def inclusion (b : Builder) (uri : String) : Builder :=
  (((b.start .inclusion none).trivia "$INCLUDE ").token .string uri (some .uri)).finish

/-- The kind of the node that holds a value of this type. -/
def valueKind : ValueType → Kind
  | .var => .var
  | .ncCode => .code
  | .address => .parameter
  | .string => .string
  | _ => .numeric

def setValueType (b : Builder) (id : NodeId) (type : ValueType) : Builder :=
  { b with nodes := b.nodes.modify id fun n => { n with valueType := some type } }

def definition (b : Builder) (kind : Kind) (marker : String) (nameKind : Kind)
    (name value : String) (type : ValueType) : Builder :=
  let b := (b.start kind none).trivia marker
  let b := (b.token nameKind name (some .name)).trivia " "
  let id := b.nodes.size
  ((b.token (valueKind type) value (some .value)).setValueType id type).finish

/-- Runs one step. -/
def step (b : Builder) : Step → Builder
  | .start kind field => b.start kind field
  | .finish => b.finish
  | .token kind text field => b.token kind text field
  | .trivia text => b.trivia text
  | .inclusion uri => b.inclusion uri
  | .varDef name value type => b.definition .varDef "@" .symbol name value type
  | .labelDef name value type => b.definition .labelDef ">" .label name value type
  | .setValueType id type => b.setValueType id type
  | .setReferenceTypes id types =>
      { b with nodes := b.nodes.modify id fun n => { n with referenceTypes := types } }
  | .setLink id link =>
      { b with nodes := b.nodes.modify id fun n => { n with link := some link } }

/-- The node a step is about: the one it adds, or the one it closes. -/
def subject? (b : Builder) : Step → Option NodeId
  | .finish => some b.top
  | .start _ _ | .token _ _ _ | .inclusion _ | .varDef _ _ _ | .labelDef _ _ _ =>
      some b.nodes.size
  | _ => none

def run (b : Builder) (steps : List Step) : Builder := steps.foldl step b

/-- Closes what is open. -/
def close (b : Builder) : Builder := b.opened.foldl (fun b _ => b.finish) b

/-- The tree of what was built. -/
def build (b : Builder) : Tree :=
  let b := b.close
  Annotate.run b.source (b.nodes.modify Tree.root fun n => { n with span := ⟨0, b.offset⟩ })

end Builder

/-- The tree of a script. -/
def Tree.ofScript (kind : FileKind) (steps : List Step) : Tree :=
  ((Builder.new kind).run steps).build

end NcInsight
