import NcInsight.Text.Bytes
import NcInsight.Tree.Basic
import NcInsight.Url.Reader
import NcInsight.Workspace.Record

/-
Places in a file as an editor names them: a line and the bytes from its start.

A line ends with its newline, so the newline is the last place on it.  An offset past the
text is read as its end, and so is a line that is not there.
-/
namespace NcInsight

structure Position where
  line : Nat
  character : Nat
  deriving DecidableEq, Repr, Inhabited

namespace Position

/-- The offsets behind the newlines of a text that starts at `offset`. -/
def startsAfter : Nat → List Char → List Nat
  | _, [] => []
  | offset, c :: cs =>
      let next := offset + c.utf8Size
      if c = '\n' then next :: startsAfter next cs else startsAfter next cs

/-- The offsets at which lines start. -/
def lineStarts (source : String) : List Nat := 0 :: startsAfter 0 source.toList

/-- The position of an offset: the last line that starts at it or before. -/
def ofOffset (source : String) (offset : Nat) : Position :=
  let offset := min offset (Text.length source)
  let passed := (lineStarts source).filter (· ≤ offset)
  { line := passed.length - 1, character := offset - passed.getLastD 0 }

/-- The end of a line, its newline apart. -/
def lineEnd (source : String) (line : Nat) : Nat :=
  match (lineStarts source)[line + 1]? with
  | some next => next - 1
  | none => Text.length source

/-- The offset of a position; past the end of a line is its end. -/
def offset (source : String) (p : Position) : Nat :=
  match (lineStarts source)[p.line]? with
  | none => Text.length source
  | some start => min (start + p.character) (max (lineEnd source p.line) start)

end Position

structure Range where
  start : Position
  stop : Position
  deriving DecidableEq, Repr, Inhabited

namespace Range

def ofSpan (source : String) (s : Span) : Range :=
  ⟨.ofOffset source s.start, .ofOffset source s.stop⟩

end Range

/-- A place in some file. -/
structure Location where
  /-- The address in its written form. -/
  uri : String
  range : Range
  deriving DecidableEq, Repr, Inhabited

/-- A replacement for the text of a range. -/
structure Edit where
  range : Range
  newText : String
  deriving DecidableEq, Repr, Inhabited

namespace Record

/-- The range of a node. -/
def range (r : Record) (id : NodeId) : Range := .ofSpan r.tree.source (r.tree.span id)

/-- The location of a node; a file without a proper address has none. -/
def location? (r : Record) (id : NodeId) : Option Location :=
  (Url.parse? r.uri).map fun u => ⟨u.render, r.range id⟩

end Record
end NcInsight
