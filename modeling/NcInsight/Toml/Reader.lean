import NcInsight.Toml.Document
import NcInsight.Toml.Scalar

/-
Reading TOML text.

The text is a list of statements, a line each, of which the tables are built.  Lists and
tables in lines nest less than `maxDepth` deep, and a dotted key has fewer parts than
that.
-/
namespace NcInsight
namespace Toml

def maxDepth : Nat := 80

/-! ## Keys -/

def simpleKey? (cs : List Char) : Option (List Char × List Char) :=
  match cs with
  | '"' :: r => basic? r
  | '\x27' :: r => literal? r
  | cs =>
      let (k, r) := cs.span isBareKey
      if k.isEmpty then none else some (k, r)

def keyWithin : Nat → List Char → Option (List String × List Char)
  | 0, _ => none
  | fuel + 1, cs => do
      let (k, r) ← simpleKey? (skipSpaces cs)
      match skipSpaces r with
      | '.' :: r =>
          let (ks, r) ← keyWithin fuel r
          return (String.ofList k :: ks, r)
      | r => return ([String.ofList k], r)

/-- A dotted key, split into its path and its last part, and what follows it. -/
def key? (cs : List Char) : Option (List String × String × List Char) := do
  let (ks, r) ← keyWithin (cs.length + 1) cs
  if ks.length < maxDepth then return (ks.dropLast, ← ks.getLast?, r) else none

/-! ## Values -/

mutual
/-- A value inside of `depth` lists and tables. -/
def valueWithin : Nat → Nat → List Char → Option (Json × List Char)
  | 0, _, _ => none
  | fuel + 1, depth, cs =>
      match cs with
      | '[' :: r =>
          if depth + 1 < maxDepth then do
            let (js, r) ← itemsWithin fuel (depth + 1) (skipLines r)
            return (.array js, r)
          else none
      | '\x7b' :: r =>
          if depth + 1 < maxDepth then do
            let (ps, r) ← match skipSpaces r with
              | '\x7d' :: r => some ([], r)
              | r => pairsWithin fuel (depth + 1) r
            return (← ofPairs? ps, r)
          else none
      | cs => scalar? cs

/-- The rest of a list, from an item or its end on. -/
def itemsWithin : Nat → Nat → List Char → Option (List Json × List Char)
  | 0, _, _ => none
  | fuel + 1, depth, cs =>
      match cs with
      | ']' :: r => some ([], r)
      | cs => do
          let (j, r) ← valueWithin fuel depth cs
          match skipLines r with
          | ',' :: r =>
              let (js, r) ← itemsWithin fuel depth (skipLines r)
              return (j :: js, r)
          | ']' :: r => return ([j], r)
          | _ => none

/-- The rest of a table in a line, from a pair on. -/
def pairsWithin :
    Nat → Nat → List Char → Option (List (List String × String × Json) × List Char)
  | 0, _, _ => none
  | fuel + 1, depth, cs => do
      let (path, key, r) ← key? cs
      let (j, r) ← valueWithin fuel depth (skipSpaces (← expect? '=' r))
      match skipSpaces r with
      | ',' :: r =>
          let (ps, r) ← pairsWithin fuel depth r
          return ((path, key, j) :: ps, r)
      | '\x7d' :: r => return ([(path, key, j)], r)
      | _ => none
end

/-- A value, and what follows it.  Each step of reading either takes a character or is
followed by one that does. -/
def value? (cs : List Char) : Option (Json × List Char) := valueWithin (2 * cs.length + 2) 0 cs

/-! ## Statements -/

/-- The statement at the start of a line, and what follows its line. -/
def statement? (cs : List Char) : Option (Statement × List Char) :=
  match cs with
  | '[' :: '[' :: r => do
      let (path, key, r) ← key? r
      let r ← expect? ']' (← expect? ']' r)
      return (.listHeader path key, ← lineEnd? r)
  | '[' :: r => do
      let (path, key, r) ← key? r
      return (.header path key, ← lineEnd? (← expect? ']' r))
  | cs => do
      let (path, key, r) ← key? cs
      let (j, r) ← value? (skipSpaces (← expect? '=' r))
      return (.pair path key j, ← lineEnd? r)

def statementsWithin : Nat → List Char → Option (List Statement)
  | 0, _ => none
  | fuel + 1, cs =>
      match skipSpaces cs with
      | [] => some []
      | c :: r =>
          if c = '#' ∨ c = '\n' ∨ c = '\r' then
            (lineEnd? (c :: r)).bind (statementsWithin fuel)
          else do
            let (s, r) ← statement? (c :: r)
            return s :: (← statementsWithin fuel r)

/-- The statements of a text. -/
def statements? (cs : List Char) : Option (List Statement) := statementsWithin (cs.length + 1) cs

/-- A mark of the byte order in front of the text is not part of it. -/
def skipMark (cs : List Char) : List Char :=
  match cs with
  | c :: r => if c.toNat = 0xFEFF then r else cs
  | [] => []

/-- The value of a TOML text. -/
def parse? (s : String) : Option Json := (statements? (skipMark s.toList)).bind ofStatements?

end Toml
end NcInsight
