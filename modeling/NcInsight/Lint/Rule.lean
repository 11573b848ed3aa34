/-
The rules, their wording, and how strictly each is applied.
-/
namespace NcInsight

inductive Severity where
  | error
  | warning
  deriving DecidableEq, Repr, Inhabited

namespace Severity

def name : Severity → String
  | error => "Error"
  | warning => "Warning"

end Severity

/-- How strictly a rule is applied. -/
inductive Level where
  | ignore
  | warning
  | error
  deriving DecidableEq, Repr, Inhabited

namespace Level

def all : List Level := [ignore, warning, error]

def name : Level → String
  | ignore => "ignore"
  | warning => "warning"
  | error => "error"

def ofName? (s : String) : Option Level := all.find? (·.name == s)

/-- The severity of findings at this level; an ignored rule has none. -/
def severity? : Level → Option Severity
  | ignore => none
  | warning => some .warning
  | error => some .error

end Level

/-- Codes are grouped by area: M01 includes and programs, M02 names, M03 places to jump to,
M04 statements and conditions, M05 loops. -/
inductive Rule where
  | duplicateInclude
  | includeNotFound
  | duplicateFunction
  | unknownSymbol
  | duplicateDeclaration
  | duplicateAddress
  | duplicateSequence
  | duplicateLabel
  | duplicateLabelSequence
  | seqNotFound
  | incompleteParameter
  | assignmentConstant
  | tooManyConditionals
  | mixedConditionals
  | nestingTooDeep
  | whileLogicOperator
  | doEndNumberNotEqual
  | doEndNumberTooBig
  | duplicateDoEndNumber
  deriving DecidableEq, Repr, Inhabited

namespace Rule

def all : List Rule :=
  [duplicateInclude, includeNotFound, duplicateFunction, unknownSymbol, duplicateDeclaration,
   duplicateAddress, duplicateSequence, duplicateLabel, duplicateLabelSequence, seqNotFound,
   incompleteParameter, assignmentConstant, tooManyConditionals, mixedConditionals,
   nestingTooDeep, whileLogicOperator, doEndNumberNotEqual, doEndNumberTooBig,
   duplicateDoEndNumber]

/-- The name in settings. -/
def id : Rule → String
  | duplicateInclude => "duplicateInclude"
  | includeNotFound => "includeNotFound"
  | duplicateFunction => "duplicateFunction"
  | unknownSymbol => "unknownSymbol"
  | duplicateDeclaration => "duplicateDeclaration"
  | duplicateAddress => "duplicateAddress"
  | duplicateSequence => "duplicateSequence"
  | duplicateLabel => "duplicateLabel"
  | duplicateLabelSequence => "duplicateLabelSequence"
  | seqNotFound => "seqNotFound"
  | incompleteParameter => "incompleteParameter"
  | assignmentConstant => "assignmentConstant"
  | tooManyConditionals => "tooManyConditionals"
  | mixedConditionals => "mixedConditionals"
  | nestingTooDeep => "nestingTooDeep"
  | whileLogicOperator => "whileLogicOperator"
  | doEndNumberNotEqual => "doEndNumberNotEqual"
  | doEndNumberTooBig => "doEndNumberTooBig"
  | duplicateDoEndNumber => "duplicateDoEndNumber"

def ofId? (s : String) : Option Rule := all.find? (·.id == s)

def code : Rule → String
  | duplicateInclude => "M0100"
  | includeNotFound => "M0101"
  | duplicateFunction => "M0102"
  | unknownSymbol => "M0200"
  | duplicateDeclaration => "M0201"
  | duplicateAddress => "M0202"
  | duplicateSequence => "M0300"
  | duplicateLabel => "M0301"
  | duplicateLabelSequence => "M0302"
  | seqNotFound => "M0303"
  | incompleteParameter => "M0400"
  | assignmentConstant => "M0401"
  | tooManyConditionals => "M0402"
  | mixedConditionals => "M0403"
  | nestingTooDeep => "M0404"
  | whileLogicOperator => "M0500"
  | doEndNumberNotEqual => "M0501"
  | doEndNumberTooBig => "M0502"
  | duplicateDoEndNumber => "M0503"

def message : Rule → String
  | duplicateInclude => "Duplicate include"
  | includeNotFound => "Include file not found"
  | duplicateFunction => "Duplicate function"
  | unknownSymbol => "Unknown symbol"
  | duplicateDeclaration => "Duplicate symbol declaration"
  | duplicateAddress => "Duplicate address or number"
  | duplicateSequence => "Duplicate sequence number"
  | duplicateLabel => "Duplicate label number"
  | duplicateLabelSequence => "Sequence number and label define the same value"
  | seqNotFound => "Sequence number or label not found"
  | incompleteParameter => "Incomplete parameter found"
  | assignmentConstant => "Assignment to a constant"
  | tooManyConditionals => "Too many conditional statements"
  | mixedConditionals => "Logic operators mixed up in a conditional"
  | nestingTooDeep => "Nesting too deep"
  | whileLogicOperator => "Logic operator in a WHILE condition"
  | doEndNumberNotEqual => "DO and END numbers are not equal"
  | doEndNumberTooBig => "DO or END number too big"
  | duplicateDoEndNumber => "Duplicate DO or END number"

def defaultLevel : Rule → Level
  | duplicateFunction | duplicateAddress | duplicateSequence | duplicateLabel
  | duplicateLabelSequence | assignmentConstant => .warning
  | _ => .error

end Rule

/-- The levels that settings give to rules by name.  Names that are no rule are kept. -/
structure Levels where
  entries : List (String × Level) := []
  deriving DecidableEq, Repr, Inhabited

namespace Levels

def get? (c : Levels) (id : String) : Option Level := (c.entries.find? (·.1 == id)).map (·.2)

/-- The level of a rule: the one set, or else its own. -/
def level (c : Levels) (r : Rule) : Level := (c.get? r.id).getD r.defaultLevel

def set (c : Levels) (r : Rule) (l : Level) : Levels :=
  { entries := c.entries.filter (·.1 != r.id) ++ [(r.id, l)] }

end Levels
end NcInsight
