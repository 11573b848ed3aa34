import NcInsight.Lint.Facts
import NcInsight.Lint.Finding
import NcInsight.Number.Binary

/-
What every rule says about a node, given the facts known there.
-/
namespace NcInsight
namespace Lint

/-! ## Includes and names -/

def includeReports (c : Context) (f : Facts) (id : NodeId) : List Report :=
  match c.tree.inclusionTarget? id with
  | none => []
  | some uriNode =>
      let target := c.target uriNode
      if f.imports.contains target then [{ rule := .duplicateInclude, node := id }]
      else if (c.files.get? target).isSome then []
      else [{ rule := .includeNotFound, node := id, detail := some (c.tree.text uriNode) }]

/-- Values that have to differ between declarations. -/
def isExclusive : ValueType → Bool
  | .address | .ncCode | .numeric => true
  | _ => false

/-- Whether a declaration in force has the kind and value of `d`.  An earlier declaration of a
name is out of force once the name is declared again. -/
def clashes (f : Facts) (d : Declaration) : Bool :=
  d.valueText.isSome && f.introduced.any fun e =>
    e.kind == d.kind && e.valueText == d.valueText && f.lookup e.name == some e

def declarationReports (c : Context) (f : Facts) (id : NodeId) : List Report :=
  match c.tree.declarationOf id with
  | none => []
  | some d =>
      (if f.isKnown d.name then
        [{ rule := .duplicateDeclaration, node := id, detail := some d.name }] else []) ++
      (if isExclusive d.valueType && clashes f d then
        [{ rule := .duplicateAddress, node := id }] else [])

def symbolReports (t : Tree) (f : Facts) (id : NodeId) : List Report :=
  let name := t.text id
  if f.isKnown name || Text.isPlainNumber name then []
  else [{ rule := .unknownSymbol, node := id, detail := some name }]

/-! ## Programs and jumps -/

def functionReports (t : Tree) (f : Facts) (id : NodeId) : List Report :=
  match functionName t id with
  | none => []
  | some name =>
      match functionNumber f t name with
      | none => []
      | some n =>
          if f.functions.contains n then
            [{ rule := .duplicateFunction, node := name, detail := some n }]
          else []

/-- The rule that a second entry of the same value breaks. -/
def duplicateRule (earlier later : EntryKind) : Rule :=
  if earlier ≠ later then .duplicateLabelSequence
  else match later with
    | .sequence => .duplicateSequence
    | .label => .duplicateLabel

def entryReports (t : Tree) (f : Facts) (id : NodeId) : List Report :=
  match entryOf f t id with
  | none => []
  | some (anchor, e) =>
      match f.entry? e.program e.value with
      | none => []
      | some earlier =>
          [{ rule := duplicateRule earlier.kind e.kind, node := anchor, detail := some e.value }]

def varReports (t : Tree) (f : Facts) (id : NodeId) : List Report :=
  (if f.isDoubled (t.text id) then [{ rule := .duplicateDeclaration, node := id }] else []) ++
    entryReports t f id

/-! ## Statements -/

def isInDefinition (t : Tree) (id : NodeId) : Bool := (t.findAncestor Kind.isDeclaration id).isSome

def isIncomplete (t : Tree) (id : NodeId) : Bool :=
  (t.kind id == .parameter || t.kind id == .code) && !isInDefinition t id &&
    (t.text id).length ≤ 1

def statementReports (t : Tree) (id : NodeId) : List Report :=
  ((t.children id).filter (isIncomplete t)).map fun child =>
    { rule := .incompleteParameter, node := child, detail := some (t.text child) }

def assignmentReports (t : Tree) (f : Facts) (id : NodeId) : List Report :=
  match t.childOrFirst id .target with
  | none => []
  | some target =>
      if (f.resolve t target).any (·.valueType == .constant) then
        [{ rule := .assignmentConstant, node := target, detail := some (t.text target) }]
      else []

/-! ## Conditions -/

def maxConditionLinks : Nat := 4

def chainWithin (t : Tree) : Nat → NodeId → List NodeId
  | 0, id => [id]
  | fuel + 1, id =>
      match t.childByField id .next with
      | none => [id]
      | some next => id :: chainWithin t fuel next

/-- The conditions joined to a first one. -/
def chain (t : Tree) (first : NodeId) : List NodeId := chainWithin t t.size first

def mixedReports (t : Tree) : List NodeId → List Report
  | [] => []
  | first :: rest =>
      (rest.filter fun op => t.text op != t.text first).map fun op =>
        { rule := .mixedConditionals, node := op, detail := some (t.text op) }

def conditionReports (t : Tree) (id : NodeId) : List Report :=
  match t.childByField id .condition with
  | none => []
  | some first =>
      let conditions := chain t first
      ((conditions.drop (maxConditionLinks + 1)).head?.bind fun _ =>
        conditions[maxConditionLinks]?.map fun node =>
          ({ rule := .tooManyConditionals, node } : Report)).toList ++
      mixedReports t (conditions.filterMap (t.childByField · .logic))

def depthReports (t : Tree) (id : NodeId) : List Report :=
  if isTooDeep t id then [{ rule := .nestingTooDeep, node := id }] else []

def ifReports (t : Tree) (id : NodeId) : List Report :=
  conditionReports t id ++ depthReports t id

/-! ## Loops -/

/-- The number of a loop: the text of its label, or the value of a name. -/
def loopValue (f : Facts) (t : Tree) (label : NodeId) : Option String :=
  match t.kind label with
  | .label | .symbol | .var => f.valueOf t label
  | _ => some (t.text label)

def loopNumber (f : Facts) (t : Tree) (label : NodeId) : Option Number.Binary :=
  (loopValue f t label).bind Number.Binary.ofText?

def isTooBig (f : Facts) (t : Tree) (label : NodeId) : Bool :=
  (loopNumber f t label).any (·.exceeds maxWhileDepth)

def labelReports (f : Facts) (t : Tree) (doLabel endLabel : NodeId) : List Report :=
  (if loopValue f t doLabel = loopValue f t endLabel then []
    else [doLabel, endLabel].map fun node => { rule := .doEndNumberNotEqual, node }) ++
  ([doLabel, endLabel].filter (isTooBig f t)).map fun node =>
    { rule := .doEndNumberTooBig, node }

/-- The loops around a loop, as many as may be nested, whose number is also its own. -/
def sharedNumberReports (f : Facts) (t : Tree) (id : NodeId) : List Report :=
  match (t.childByField id .doLabel).bind (loopNumber f t) with
  | none => []
  | some own =>
      let outer := ((enclosingAll t .whileLoop id).take maxWhileDepth).drop 1
      ((outer.filterMap (t.childByField · .doLabel)).filter fun label =>
        (loopNumber f t label).any (·.same own)).map fun node =>
          { rule := .duplicateDoEndNumber, node }

def whileReports (f : Facts) (t : Tree) (id : NodeId) : List Report :=
  (match t.childByField id .condition with
    | some condition =>
        if (t.childByField condition .logic).isSome then
          [{ rule := .whileLogicOperator, node := condition }]
        else []
    | none => []) ++
  (match t.childByField id .doLabel, t.childByField id .endLabel with
    | some doLabel, some endLabel => labelReports f t doLabel endLabel
    | _, _ => []) ++
  sharedNumberReports f t id ++ depthReports t id

/-! ## All rules at a node -/

def reportsAt (c : Context) (f : Facts) (id : NodeId) : List Report :=
  let t := c.tree
  match t.kind id with
  | .inclusion => includeReports c f id
  | .varDef | .labelDef => declarationReports c f id
  | .symbol => symbolReports t f id
  | .var => varReports t f id
  | .label | .sequenceNumber => entryReports t f id
  | .function => functionReports t f id
  | .statement => statementReports t id
  | .assignment => assignmentReports t f id
  | .ifBlock => ifReports t id
  | .whileLoop => whileReports f t id
  | _ => []

/-! ## Gotos -/

/-- What a goto jumps to. -/
inductive Jump where
  /-- A computed target, which is not checked. -/
  | unchecked
  /-- A checked target; without a value it leads nowhere. -/
  | checked (value : Option String)
  deriving DecidableEq, Repr

def jump (f : Facts) (t : Tree) (label : NodeId) : Jump :=
  if Text.isPlainNumber (t.text label) then .checked (some (t.text label))
  else match t.kind label with
    | .label => .checked (f.valueOf t label)
    | .var | .symbol =>
        match f.resolve t label with
        | some d =>
            match d.valueType with
            | .numeric | .constant | .sequence => .checked d.valueText
            | _ => .unchecked
        | none => .unchecked
    | _ => .unchecked

/-- Whether a program has a place with this value. -/
def isReachable (f : Facts) (program : NodeId) (value : Option String) : Bool :=
  value.any fun v => (f.entry? program (Text.stripJump v)).isSome

def gotoReports (t : Tree) (f : Facts) (id : NodeId) : List Report :=
  match t.childOrFirst id .label with
  | none => []
  | some label =>
      match jump f t label with
      | .unchecked => []
      | .checked value =>
          if isReachable f (programOf t id) value then []
          else [{ rule := .seqNotFound, node := label, detail := some (value.getD "") }]

/-- The gotos program by program. -/
def orderedGotos (t : Tree) (f : Facts) : List NodeId :=
  f.gotos.mergeSort fun a b => programOf t a ≤ programOf t b

/-! ## A run -/

/-- What a run carries from node to node. -/
structure Progress where
  facts : Facts := {}
  findings : List Finding := []

namespace Progress

/-- Puts down what the levels make of the reports. -/
def put (p : Progress) (t : Tree) (levels : Levels) (rs : List Report) : Progress :=
  { p with findings := p.findings ++ rs.filterMap (·.finding? t levels) }

/-- Visits a node, and says whether to go below it. -/
def visit (c : Context) (levels : Levels) (id : NodeId) (p : Progress) : Progress × Bool :=
  let q := p.put c.tree levels (reportsAt c p.facts id)
  ({ q with facts := p.facts.advance c id }, !isCut c.tree id)

/-- Checks the gotos met.  This waits for the end of the walk, since a place to jump to may come
after the jump. -/
def checkGotos (t : Tree) (levels : Levels) (p : Progress) : Progress :=
  (orderedGotos t p.facts).foldl (fun q id => q.put t levels (gotoReports t q.facts id)) p

end Progress

/-- The findings in a file, whatever finds the files it includes. -/
def findings (files : Resolver) (r : Record) (levels : Levels) : List Finding :=
  let c : Context := { files, record := r }
  let p := r.tree.walk (Progress.visit c levels) Tree.root {}
  (p.checkGotos r.tree levels).findings

end Lint

/-- The findings in a file of a workspace. -/
def lint (w : Workspace) (r : Record) (levels : Levels) : List Finding :=
  Lint.findings w.resolver r levels

end NcInsight
