import NcInsight.Json.Reader
import NcInsight.Json.Record
import NcInsight.Json.Writer
import NcInsight.Tree.Defect

/-
The JSON form of a tree, written with every field and read as a record of records.
A tree that is read is checked before it is used.
-/
namespace NcInsight

namespace Span

def toJson (s : Span) : Json := .object [("start", .natural s.start), ("end", .natural s.stop)]

def ofJson? (j : Json) : Option Span := do
  match ← j.slots? ["start", "end"] with
  | [a, b] => return ⟨← a.required Json.word?, ← b.required Json.word?⟩
  | _ => none

end Span

namespace FileKind

def ofJson? (j : Json) : Option FileKind := j.plainVariant?.bind ofName?

end FileKind

namespace Kind

def toJson : Kind → Json
  | file k => .object [("File", .string k.name)]
  | k => .string k.name

/-- Only a file has a payload. -/
def ofJson? (j : Json) : Option Kind :=
  match j.variant? with
  | some ("File", some payload) => (FileKind.ofJson? payload).map file
  | some (s, none) => ofName? s
  | some (s, some .null) => ofName? s
  | _ => none

end Kind

namespace Field

def ofJson? (j : Json) : Option Field := j.plainVariant?.bind ofText?

end Field

namespace ValueType

def ofJson? (j : Json) : Option ValueType := j.plainVariant?.bind ofName?

end ValueType

namespace ReferenceTypes

def ofJson? (j : Json) : Option ReferenceTypes := j.string?.bind ofText?

end ReferenceTypes

namespace Link

def toJson (l : Link) : Json :=
  .object [("uri", Json.ofOption .string l.uri), ("id", .natural l.id)]

def ofJson? (j : Json) : Option Link := do
  match ← j.slots? ["uri", "id"] with
  | [a, b] =>
      return { uri := ← a.optionalWithDefault Json.string?, id := ← b.required Json.word? }
  | _ => none

end Link

namespace Node

def toJson (n : Node) : Json :=
  .object [
    ("kind", n.kind.toJson),
    ("span", n.span.toJson),
    ("field", Json.ofOption (fun f => .string f.text) n.field),
    ("parent", Json.ofOption .natural n.parent),
    ("children", .array (n.children.map .natural)),
    ("value_type", Json.ofOption (fun v => .string v.name) n.valueType),
    ("reference_types", .string n.referenceTypes.render),
    ("declaration", Json.ofOption Link.toJson n.link)]

def keys : List String :=
  ["kind", "span", "field", "parent", "children", "value_type", "reference_types", "declaration"]

def ofJson? (j : Json) : Option Node := do
  match ← j.slots? keys with
  | [kind, span, field, parent, children, valueType, referenceTypes, link] =>
      return {
        kind := ← kind.required Kind.ofJson?
        span := ← span.required Span.ofJson?
        field := ← field.optionalWithDefault Field.ofJson?
        parent := ← parent.optionalWithDefault Json.word?
        children := ← children.withDefault [] (Json.list? Json.word?)
        valueType := ← valueType.optionalWithDefault ValueType.ofJson?
        referenceTypes := ← referenceTypes.withDefault .empty ReferenceTypes.ofJson?
        link := ← link.optionalWithDefault Link.ofJson? }
  | _ => none

end Node

namespace Declaration

def toJson (d : Declaration) : Json :=
  .object [
    ("kind", .string d.kind.name),
    ("name", .string d.name),
    ("node", .natural d.node),
    ("name_node", Json.ofOption .natural d.nameNode),
    ("value_node", Json.ofOption .natural d.valueNode),
    ("value_text", Json.ofOption .string d.valueText),
    ("value_type", .string d.valueType.name)]

def keys : List String :=
  ["kind", "name", "node", "name_node", "value_node", "value_text", "value_type"]

def ofJson? (j : Json) : Option Declaration := do
  match ← j.slots? keys with
  | [kind, name, node, nameNode, valueNode, valueText, valueType] =>
      return {
        kind := ← kind.required fun j => j.plainVariant?.bind DeclarationKind.ofName?
        name := ← name.required Json.string?
        node := ← node.required Json.word?
        nameNode := ← nameNode.optional Json.word?
        valueNode := ← valueNode.optional Json.word?
        valueText := ← valueText.optional Json.string?
        valueType := ← valueType.required ValueType.ofJson? }
  | _ => none

end Declaration

namespace Tree

def toJson (t : Tree) : Json :=
  .object [
    ("source", .string t.source),
    ("nodes", .array (t.nodes.toList.map Node.toJson)),
    ("declarations", .array (t.declarations.toList.map Declaration.toJson))]

/-- Reads the records without checking the tree they make. -/
def ofRecords? (j : Json) : Option Tree := do
  match ← j.slots? ["source", "nodes", "declarations"] with
  | [source, nodes, declarations] =>
      return {
        source := ← source.required Json.string?
        nodes := (← nodes.required (Json.list? Node.ofJson?)).toArray
        declarations :=
          (← declarations.withDefault [] (Json.list? Declaration.ofJson?)).toArray }
  | _ => none

/-- Why a text is not a tree. -/
inductive LoadError where
  /-- The text is no JSON, or its records do not fit. -/
  | json
  | defect (d : Defect)
  deriving DecidableEq, Repr

/-- The tree of a JSON value. -/
def ofJson (j : Json) : Except LoadError Tree :=
  match ofRecords? j with
  | none => .error .json
  | some t =>
      match t.defect? with
      | some d => .error (.defect d)
      | none => .ok t

/-- The tree of a JSON text. -/
def load (text : String) : Except LoadError Tree :=
  match Json.parse? text with
  | none => .error .json
  | some j => ofJson j

/-- The JSON text of a tree. -/
def dump (t : Tree) : String := t.toJson.render

end Tree
end NcInsight
