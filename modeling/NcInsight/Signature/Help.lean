import NcInsight.Signature.Basic
import NcInsight.Text.Bytes
import NcInsight.Tree.Walk

/-
The written forms of the function called at an offset, and the argument the offset is in.

A parameter is shown by where its name stands in the written form, counted in UTF-16
units.
-/
namespace NcInsight
namespace Signature

/-- The place of a parameter in a written form. -/
structure Mark where
  start : Nat
  stop : Nat
  documentation : Option String := none
  deriving DecidableEq, Repr, Inhabited

/-- A written form as far as it is laid out. -/
structure Layout where
  label : String
  /-- What goes between this and a next parameter. -/
  delimiter : String := ""
  marks : List Mark := []
  deriving DecidableEq, Repr, Inhabited

namespace Layout

/-- Adds text after which no delimiter is due. -/
def append (l : Layout) (text : String) : Layout :=
  { l with label := l.label ++ text, delimiter := "" }

def addFixed (l : Layout) (p : Part) : Layout :=
  match p.bracket.or p.escape with
  | some text => l.append text
  | none => l

def addParameter (delimiter : String) (l : Layout) (p : Parameter) : Layout :=
  let front := if delimiter.isEmpty then l.label else l.label ++ l.delimiter
  { label := front ++ p.name
    delimiter := delimiter ++ " "
    marks := l.marks ++
      [{ start := Text.units front, stop := Text.units (front ++ p.name),
         documentation := p.doc }] }

/-- Adds a part; parameters right behind the name are set off from it. -/
def addPart (delimiter : String) (isFirst : Bool) (l : Layout) (p : Part) : Layout :=
  let l := l.addFixed p
  if p.params.isEmpty then l
  else
    let l := if isFirst then { l with label := l.label ++ " " } else l
    p.params.foldl (addParameter delimiter) l

/-- The written form of a call of `name`. -/
def of (name : String) (o : Overload) : Layout :=
  match o.parts with
  | [] => { label := name }
  | p :: ps => ps.foldl (addPart o.delimiter false) (addPart o.delimiter true { label := name } p)

end Layout

/-- One way to call a function. -/
structure Form where
  label : String
  documentation : Option String
  parameters : List Mark
  deriving DecidableEq, Repr, Inhabited

def form (name : String) (o : Overload) : Form :=
  let l := Layout.of name o
  { label := l.label
    documentation := if o.description.isEmpty then none else some o.description
    parameters := l.marks }

structure Help where
  forms : List Form
  activeForm : Nat
  activeParameter : Nat
  deriving DecidableEq, Repr, Inhabited

/-- The arguments of a call in front of the one the node is in; outside of arguments, all. -/
def activeParameter (t : Tree) (call node : NodeId) : Nat :=
  let own := t.enclosing .callParam node
  (((t.children call).filter fun c => t.kind c == .callParam).takeWhile
    fun c => some c != own).length

/-- The first way to call that has a parameter at this position. -/
def activeForm (f : Function) (active : Nat) : Nat :=
  (f.overloads.findIdx? fun o => active < o.arity).getD 0

/-- Help for the call around an offset. -/
def help? (table : Table) (t : Tree) (offset : Nat) : Option Help := do
  let node := t.nodeAt offset
  let call ← t.enclosing .call node
  let name ← t.childOrFirst call .name
  let f ← table.get? (t.text name)
  let active := activeParameter t call node
  return {
    forms := f.overloads.map (form f.name)
    activeForm := activeForm f active
    activeParameter := active }

end Signature
end NcInsight
