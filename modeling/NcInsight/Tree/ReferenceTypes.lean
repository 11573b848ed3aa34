import NcInsight.Number.Digits
import NcInsight.Text.Parts

/-
How a name is used, and sets of such uses.

A set is eight bits, of which four have a name.  The others are kept as they come, so
that a set read from a text is written back unchanged.  The written form joins the
names in order of their bits by ` | ` and puts the unnamed rest last, in hexadecimal.
-/
namespace NcInsight

inductive ReferenceType where
  | var
  | label
  /-- The name of a program. -/
  | program
  /-- A place to jump to. -/
  | jumpLabel
  deriving DecidableEq, Repr, Inhabited

namespace ReferenceType

def all : List ReferenceType := [var, label, program, jumpLabel]

def name : ReferenceType → String
  | var => "Variable"
  | label => "Label"
  | program => "Program"
  | jumpLabel => "JumpLabel"

def ofName? (s : String) : Option ReferenceType := all.find? (·.name == s)

/-- The name of the use inside a written set. -/
def flag : ReferenceType → String
  | var => "VARIABLE"
  | label => "LABEL"
  | program => "PROGRAM"
  | jumpLabel => "JUMP_LABEL"

def ofFlag? (s : String) : Option ReferenceType := all.find? (·.flag == s)

def bit : ReferenceType → UInt8
  | var => 1
  | label => 2
  | program => 4
  | jumpLabel => 8

end ReferenceType

structure ReferenceTypes where
  bits : UInt8
  deriving DecidableEq, Repr, Inhabited

namespace ReferenceTypes

def empty : ReferenceTypes := ⟨0⟩

def single (r : ReferenceType) : ReferenceTypes := ⟨r.bit⟩

def union (a b : ReferenceTypes) : ReferenceTypes := ⟨a.bits ||| b.bits⟩

def insert (a : ReferenceTypes) (r : ReferenceType) : ReferenceTypes := a.union (single r)

def ofList (rs : List ReferenceType) : ReferenceTypes := rs.foldl insert empty

def isEmpty (a : ReferenceTypes) : Bool := a.bits == 0

/-- Every bit of `b` is in `a`. -/
def contains (a b : ReferenceTypes) : Bool := a.bits &&& b.bits == b.bits

/-- Some bit is in both. -/
def intersects (a b : ReferenceTypes) : Bool := a.bits &&& b.bits != 0

def has (a : ReferenceTypes) (r : ReferenceType) : Bool := a.contains (single r)

/-- The bits without a name. -/
def rest (a : ReferenceTypes) : UInt8 := a.bits &&& 0xF0

/-! ## The written form -/

def parts (a : ReferenceTypes) : List String :=
  (ReferenceType.all.filter a.has).map (·.flag) ++
    if a.rest = 0 then [] else ["0x" ++ String.ofList (Number.hex a.rest.toNat)]

def render (a : ReferenceTypes) : String := " | ".intercalate a.parts

/-- Hexadecimal digits, at least one, with a value of eight bits; a plus sign may precede
them. -/
def hexBits? (cs : List Char) : Option UInt8 :=
  let ds := match cs with
    | '+' :: r => r
    | r => r
  if ds.isEmpty then none
  else match Number.ofHex? ds with
    | some n => if n < 256 then some n.toUInt8 else none
    | none => none

/-- One part of a written set. -/
def part? (cs : List Char) : Option ReferenceTypes :=
  match cs with
  | '0' :: 'x' :: ds => (hexBits? ds).map (⟨·⟩)
  | _ => (ReferenceType.ofFlag? (String.ofList cs)).map single

/-- A blank text is the empty set; otherwise every part between bars has to be a name or a
number. -/
def ofText? (s : String) : Option ReferenceTypes :=
  let cs := s.toList
  if cs.all Text.isBlank then some empty
  else ((Text.splitAt '|' cs).mapM fun p => part? (Text.trimBoth Text.isBlank p)).map
    (·.foldl union empty)

end ReferenceTypes
end NcInsight
