import NcInsight.Text.Bytes
import NcInsight.Workspace.Record
import NcInsight.Workspace.Reference

/-
The files that are open.

Records stand in ascending order of the bytes of their addresses, one for each address,
so nothing shows in which order files were opened.
-/
namespace NcInsight

/-- What include texts are relative to. -/
inductive IncludeBase where
  /-- The file that includes. -/
  | including
  /-- One address for all files. -/
  | fixed (uri : String)
  deriving DecidableEq, Repr

structure Workspace where
  base : IncludeBase := .including
  records : List Record := []

/-- How files are found: the record at an address, and the address that an include text means in
a file. -/
structure Resolver where
  get? : String → Option Record
  resolve : (reference uri : String) → String

/-- A choice of records. -/
inductive FileFilter where
  | all
  | programs
  | listed (uris : List String)

namespace Workspace

/-- The address an include text means in the file `uri`. -/
def resolve (w : Workspace) (reference uri : String) : String :=
  match w.base with
  | .including => Reference.resolve reference uri
  | .fixed base => Reference.resolve reference base

def get? (w : Workspace) (uri : String) : Option Record := w.records.find? (·.uri == uri)

def resolver (w : Workspace) : Resolver := { get? := w.get?, resolve := w.resolve }

def insertRecord (r : Record) : List Record → List Record
  | [] => [r]
  | s :: rs =>
      if Text.lt r.uri.toList s.uri.toList then r :: s :: rs
      else if r.uri = s.uri then r :: rs
      else s :: insertRecord r rs

/-- The record of a file as this workspace resolves it. -/
def record (w : Workspace) (uri : String) (tree : Tree) : Record :=
  Record.new (w.resolve · uri) uri tree

/-- Opens a file, or replaces it. -/
def insert (w : Workspace) (uri : String) (tree : Tree) : Workspace :=
  { w with records := insertRecord (w.record uri tree) w.records }

/-- Closes a file. -/
def erase (w : Workspace) (uri : String) : Workspace :=
  { w with records := w.records.filter (·.uri != uri) }

/-! ## Looking up after a change -/

theorem find?_insertRecord_self (r : Record) (rs : List Record) :
    (insertRecord r rs).find? (·.uri == r.uri) = some r := by
  induction rs with
  | nil => simp [insertRecord]
  | cons s rs ih =>
      unfold insertRecord
      split
      · simp
      · split
        · simp
        · rename_i h
          have hs : (s.uri == r.uri) = false := by simpa using fun e => h e.symm
          rw [List.find?_cons, hs]
          exact ih

theorem find?_insertRecord_of_ne (r : Record) (rs : List Record) {uri : String}
    (h : uri ≠ r.uri) :
    (insertRecord r rs).find? (·.uri == uri) = rs.find? (·.uri == uri) := by
  have hr : (r.uri == uri) = false := by simpa using fun e => h e.symm
  induction rs with
  | nil => simp [insertRecord, hr]
  | cons s rs ih =>
      unfold insertRecord
      split
      · rw [List.find?_cons, hr]
      · split
        · rename_i e
          have hs : (s.uri == uri) = false := by rw [← e]; exact hr
          rw [List.find?_cons, List.find?_cons, hr, hs]
        · rw [List.find?_cons, List.find?_cons, ih]

theorem get?_insert_self (w : Workspace) (uri : String) (t : Tree) :
    (w.insert uri t).get? uri = some (w.record uri t) :=
  find?_insertRecord_self (w.record uri t) w.records

theorem get?_insert_of_ne (w : Workspace) {uri other : String} (t : Tree) (h : other ≠ uri) :
    (w.insert uri t).get? other = w.get? other :=
  find?_insertRecord_of_ne (w.record uri t) w.records h

theorem get?_erase_self (w : Workspace) (uri : String) : (w.erase uri).get? uri = none := by
  simp [erase, get?]

theorem get?_erase_of_ne (w : Workspace) {uri other : String} (h : other ≠ uri) :
    (w.erase uri).get? other = w.get? other := by
  unfold erase get?
  rw [List.find?_filter]
  congr 1
  funext r
  by_cases e : r.uri = other
  · simp [e, h]
  · simp [e]

/-! ## Choosing -/

/-- The chosen records; listed ones in the order listed. -/
def select (w : Workspace) : FileFilter → List Record
  | .all => w.records
  | .programs => w.records.filter (·.isProgram)
  | .listed uris => uris.filterMap w.get?

/-- The programs that include a file. -/
def programsIncluding (w : Workspace) (uri : String) : List Record :=
  (w.select .programs).filter (·.isIncluding uri)

/-- The files that a file includes, itself apart, as far as they are open. -/
def includedBy (w : Workspace) (r : Record) : List Record :=
  (r.includes.filter (· != r.uri)).filterMap w.get?

end Workspace
end NcInsight
