import NcInsight.Workspace.Basic

/-
What the names of a file mean.

A file gives a list of symbols: what it declares, then what it uses without declaring,
which are sequence numbers, numbered variables and codes.  An index leads from a name to the
places of its symbols in that list.  A scope is the file and the files it includes; a name
means the first symbol that fits, the file itself before its includes.
-/
namespace NcInsight

/-- Where a symbol comes from. -/
inductive Origin where
  | declared (id : DeclId)
  /-- Its first use. -/
  | implicit
  deriving DecidableEq, Repr

structure Symbol where
  /-- The position among the symbols of its file. -/
  id : Nat
  name : String
  origin : Origin
  referenceTypes : ReferenceTypes
  valueType : ValueType
  node : NodeId
  uri : String
  deriving DecidableEq, Repr

namespace Symbol

def isDeclared (s : Symbol) : Bool :=
  match s.origin with
  | .declared _ => true
  | .implicit => false

/-- Whether a node of tree `t` uses or declares the symbol. -/
def isNamedBy (s : Symbol) (t : Tree) (id : NodeId) : Bool :=
  t.isReference id && t.text id == s.name &&
    ((t.referenceTypes id).isEmpty || (t.referenceTypes id).intersects s.referenceTypes)

end Symbol

/-- The places of the symbols of each name. -/
structure NameIndex where
  entries : List (String × List Nat) := []
  deriving DecidableEq, Repr

namespace NameIndex

/-- The places of a name, if it came up. -/
def get? (x : NameIndex) (name : String) : Option (List Nat) := x.entries.lookup name

def addEntry (name : String) (place : Nat) : List (String × List Nat) → List (String × List Nat)
  | [] => [(name, [place])]
  | (other, places) :: rest =>
      if other = name then (other, places ++ [place]) :: rest
      else (other, places) :: addEntry name place rest

/-- Adds a place behind the others of its name. -/
def add (x : NameIndex) (name : String) (place : Nat) : NameIndex :=
  ⟨addEntry name place x.entries⟩

theorem lookup_cons_of_ne {other key : String} (h : other ≠ key) (places : List Nat)
    (rest : List (String × List Nat)) :
    ((key, places) :: rest).lookup other = rest.lookup other := by
  rw [List.lookup_cons, beq_false_of_ne h]

theorem get?_add (x : NameIndex) (name other : String) (place : Nat) :
    (x.add name place).get? other =
      if other = name then some ((x.get? name).getD [] ++ [place]) else x.get? other := by
  obtain ⟨entries⟩ := x
  show (addEntry name place entries).lookup other =
    if other = name then some ((entries.lookup name).getD [] ++ [place]) else entries.lookup other
  induction entries with
  | nil =>
      rw [addEntry]
      by_cases h : other = name
      · rw [h, List.lookup_cons_self, if_pos rfl]
        rfl
      · rw [lookup_cons_of_ne h, if_neg h]
  | cons e rest ih =>
      obtain ⟨key, places⟩ := e
      by_cases hkey : key = name
      · rw [addEntry, if_pos hkey, ← hkey]
        by_cases h : other = key
        · rw [h, List.lookup_cons_self, List.lookup_cons_self, if_pos rfl, Option.getD_some]
        · rw [lookup_cons_of_ne h, lookup_cons_of_ne h, if_neg h]
      · rw [addEntry, if_neg hkey, lookup_cons_of_ne fun he : name = key => hkey he.symm]
        by_cases h : other = key
        · rw [h, List.lookup_cons_self, List.lookup_cons_self, if_neg hkey]
        · rw [lookup_cons_of_ne h, lookup_cons_of_ne h, ih]

end NameIndex

/-- Symbols in their order, with the index of their names. -/
structure SymbolTable where
  symbols : List Symbol := []
  byName : NameIndex := {}
  deriving DecidableEq, Repr

namespace SymbolTable

/-- Adds a symbol behind the others.  Its place is its number. -/
def define (x : SymbolTable) (y : Symbol) : SymbolTable :=
  { symbols := x.symbols ++ [{ y with id := x.symbols.length }]
    byName := x.byName.add y.name x.symbols.length }

def ofList (ys : List Symbol) : SymbolTable := ys.foldl define {}

/-- The first symbol of this name that is used in one of the ways of `types`, or in any way if
that is empty. -/
def lookup (x : SymbolTable) (name : String) (types : ReferenceTypes) : Option Symbol :=
  (x.byName.get? name).bind fun places =>
    (places.filterMap fun i => x.symbols[i]?).find? fun y =>
      types.isEmpty || y.referenceTypes.intersects types

theorem symbols_foldl_define (ys : List Symbol) (x : SymbolTable) :
    (ys.foldl define x).symbols =
      x.symbols ++ ys.mapIdx fun i y => { y with id := x.symbols.length + i } := by
  induction ys generalizing x with
  | nil => simp
  | cons y ys ih =>
      rw [List.foldl_cons, ih, List.mapIdx_cons]
      simp [define, Nat.add_comm, Nat.add_left_comm]

theorem symbols_ofList (ys : List Symbol) :
    (ofList ys).symbols = ys.mapIdx fun i y => { y with id := i } := by
  rw [ofList, symbols_foldl_define]
  simp

end SymbolTable

/-- The symbols of one file. -/
structure FileScope extends SymbolTable where
  record : Record

namespace FileScope

def uri (s : FileScope) : String := s.record.uri

/-- The tags of a use that makes a symbol of its own. -/
def implicitTags (t : Tree) (id : NodeId) : Option (ReferenceTypes × ValueType) :=
  match t.kind id with
  | .numeric =>
      if t.parentKind id == some .sequenceNumber then some (.single .jumpLabel, .sequence)
      else none
  | .var | .code => some (.single .var, (t.valueType id).getD .undefined)
  | _ => none

/-- An occurrence that makes a symbol, unless an earlier one of the same kind and text does. -/
structure Occurrence where
  kind : Kind
  name : String
  referenceTypes : ReferenceTypes
  valueType : ValueType
  node : NodeId

def occurrence? (t : Tree) (id : NodeId) : Option Occurrence :=
  (implicitTags t id).map fun (referenceTypes, valueType) =>
    { kind := t.kind id, name := t.text id, referenceTypes, valueType, node := id }

/-- The first occurrence of each kind and text. -/
def implicitUses (t : Tree) : List Occurrence :=
  ((t.preorder Tree.root).filterMap (occurrence? t)).eraseDupsBy fun a b =>
    a.kind == b.kind && a.name == b.name

/-- The symbols of a file before they are numbered. -/
def unnumbered (r : Record) : List Symbol :=
  (r.tree.declarations.toList.mapIdx fun i d =>
    { id := 0, name := d.name, origin := .declared i, referenceTypes := d.referenceTypes,
      valueType := d.valueType, node := d.nameNode.getD d.node, uri := r.uri }) ++
  (implicitUses r.tree).map fun o =>
    { id := 0, name := o.name, origin := .implicit, referenceTypes := o.referenceTypes,
      valueType := o.valueType, node := o.node, uri := r.uri }

def of (r : Record) : FileScope := { SymbolTable.ofList (unnumbered r) with record := r }

/-- What a node of tree `t` means in this file. -/
def resolve (s : FileScope) (t : Tree) (id : NodeId) : Option Symbol :=
  if t.isReference id then s.lookup (t.text id) (t.referenceTypes id) else none

/-- The declared symbols used as `reference` with a value of one of `types`. -/
def select (s : FileScope) (reference : ReferenceType) (types : Option (List ValueType)) :
    List Symbol :=
  s.symbols.filter fun y =>
    y.isDeclared && y.referenceTypes.has reference &&
      (types.map (·.contains y.valueType)).getD true

end FileScope

/-- The scope of a file: its own symbols, then those of its includes. -/
structure Scope where
  own : FileScope
  included : List FileScope

namespace Scope

def files (s : Scope) : List FileScope := s.own :: s.included

/-- The file alone. -/
def alone (r : Record) : Scope := { own := .of r, included := [] }

/-- The files found at addresses that were not met before, each met once. -/
def unmet (get? : String → Option Record) : List String → List String → List Record
  | _, [] => []
  | met, uri :: uris =>
      if met.contains uri then unmet get? met uris
      else (get? uri).toList ++ unmet get? (uri :: met) uris

/-- The file and what it includes, no further, where `get?` finds files. -/
def buildFrom (get? : String → Option Record) (r : Record) : Scope :=
  { own := .of r, included := (unmet get? [r.uri] r.includes).map .of }

/-- The file and what it includes of the open files. -/
def build (w : Workspace) (r : Record) : Scope := buildFrom w.get? r

/-- What a node of tree `t` means. -/
def resolve (s : Scope) (t : Tree) (id : NodeId) : Option Symbol :=
  s.files.findSome? (·.resolve t id)

/-- The declared symbols used as `reference` with a value of one of `types`. -/
def select (s : Scope) (reference : ReferenceType) (types : Option (List ValueType)) :
    List Symbol :=
  s.files.flatMap (·.select reference types)

/-- The file a symbol comes from. -/
def fileOf? (s : Scope) (y : Symbol) : Option FileScope := s.files.find? (·.uri == y.uri)

/-- The declaration behind a symbol. -/
def declaration? (s : Scope) (y : Symbol) : Option Declaration :=
  match y.origin with
  | .declared id => (s.fileOf? y).bind (·.record.tree.declaration? id)
  | .implicit => none

end Scope
end NcInsight
