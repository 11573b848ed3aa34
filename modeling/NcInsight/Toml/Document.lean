import NcInsight.Json.Basic

/-
The tables of a TOML document, as its statements build them.

A table comes about in three ways, and the way decides who may add to it: a header or
the document itself opens it for its own pairs; it is implied by a longer header, and
may still get a header of its own; or dotted keys make it, and only dotted keys of the
same table add to it.
-/
namespace NcInsight
namespace Toml

/-- How a table came about. -/
inductive Origin where
  | opened
  | implied
  | dotted
  deriving DecidableEq, Repr

inductive Item where
  /-- A value, which nothing can be added to. -/
  | value (j : Json)
  | table (origin : Origin) (entries : List (String × Item))
  /-- A list of tables, each opened by a header. -/
  | tables (items : List (List (String × Item)))

abbrev Entries := List (String × Item)

/-- One line of a document, or some lines if it holds a long value. -/
inductive Statement where
  | header (path : List String) (key : String)
  | listHeader (path : List String) (key : String)
  | pair (path : List String) (key : String) (value : Json)

namespace Entries

def get? (es : Entries) (key : String) : Option Item := (es.find? (·.1 == key)).map (·.2)

/-- Replaces an entry, or adds it. -/
def set (es : Entries) (key : String) (item : Item) : Entries :=
  match es with
  | [] => [(key, item)]
  | (k, i) :: es => if k = key then (k, item) :: es else (k, i) :: Entries.set es key item

/-- Changes the table at a path.  A table that is missing on the way is made; the way may lead
through the last table of a list, and dotted keys lead through no table that is opened. -/
def modifyAt (made : Origin) (change : Origin → Entries → Option Entries) :
    List String → Origin → Entries → Option Entries
  | [], origin, es => change origin es
  | k :: ks, _, es =>
      match es.get? k with
      | none => (modifyAt made change ks made []).map fun t => es.set k (.table made t)
      | some (.value _) => none
      | some (.tables ts) =>
          (modifyAt made change ks .opened (ts.getLastD [])).map fun t =>
            es.set k (.tables (ts.dropLast ++ [t]))
      | some (.table origin t) =>
          if made = .dotted ∧ origin = .opened then none
          else (modifyAt made change ks origin t).map fun t => es.set k (.table origin t)

/-- Adds a value under a dotted key.  The table it goes into is the one at hand, or one that
dotted keys have made. -/
def addPair (path : List String) (key : String) (value : Json) (es : Entries) :
    Option Entries :=
  modifyAt .dotted (fun origin t =>
    if (origin == .dotted) == path.isEmpty then none
    else if (t.get? key).isSome then none
    else some (t.set key (.value value))) path .opened es

/-- Opens a table for its header. -/
def openTable (key : String) (es : Entries) : Option Entries :=
  match es.get? key with
  | none => some (es.set key (.table .opened []))
  | some (.table .implied t) => some (es.set key (.table .opened t))
  | _ => none

/-- Opens the next table of a list. -/
def openNext (key : String) (es : Entries) : Option Entries :=
  match es.get? key with
  | none => some (es.set key (.tables [[]]))
  | some (.tables ts) => some (es.set key (.tables (ts ++ [[]])))
  | _ => none

end Entries

/-- A document under construction: its tables, and the path of the one that is open. -/
structure Draft where
  root : Entries := []
  current : List String := []

namespace Draft

def step (d : Draft) : Statement → Option Draft
  | .header path key =>
      (Entries.modifyAt .implied (fun _ => Entries.openTable key) path .opened d.root).map
        fun root => { root, current := path ++ [key] }
  | .listHeader path key =>
      (Entries.modifyAt .implied (fun _ => Entries.openNext key) path .opened d.root).map
        fun root => { root, current := path ++ [key] }
  | .pair path key value =>
      (Entries.modifyAt .implied (fun _ => Entries.addPair path key value) d.current .opened
        d.root).map fun root => { d with root }

end Draft

/-! ## As a value -/

mutual
def Item.toJson : Item → Json
  | .value j => j
  | .table _ es => .object (entriesJson es)
  | .tables ts => .array (tablesJson ts)

def entriesJson : List (String × Item) → List (String × Json)
  | [] => []
  | (k, i) :: es => (k, i.toJson) :: entriesJson es

def tablesJson : List (List (String × Item)) → List Json
  | [] => []
  | t :: ts => .object (entriesJson t) :: tablesJson ts
end

/-- The value of a document; statements that contradict each other have none. -/
def ofStatements? (ss : List Statement) : Option Json :=
  (ss.foldlM Draft.step {}).map fun d => .object (entriesJson d.root)

/-- The value of a table written in one line. -/
def ofPairs? (ps : List (List String × String × Json)) : Option Json :=
  (ps.foldlM (fun es (path, key, value) => Entries.addPair path key value es) []).map
    fun es => .object (entriesJson es)

end Toml
end NcInsight
