/-
The closed vocabularies of a tree: what a file is, what a node is, the role of a node in its
parent, and the kind of value a declaration holds.

Every vocabulary comes with the name of each member and the list of all members; reading a
name is a search of that list.
-/
namespace NcInsight

/-- Programs run; definition files are only included. -/
inductive FileKind where
  | program
  | definitions
  deriving DecidableEq, Repr, Inhabited

namespace FileKind

def all : List FileKind := [program, definitions]

def name : FileKind → String
  | program => "Program"
  | definitions => "Definitions"

def ofName? (s : String) : Option FileKind := all.find? (·.name == s)

end FileKind

inductive Kind where
  | file (kind : FileKind)
  | inclusion
  /-- A numbered or named program, `O1000 … M99`. -/
  | function
  | statement
  /-- A variable with its value, `@NAME value`. -/
  | varDef
  /-- A label with its value, `>NAME value`. -/
  | labelDef
  /-- A name that stands for a declared variable. -/
  | symbol
  /-- A numbered variable, `#100`. -/
  | var
  /-- A name that stands for a declared label. -/
  | label
  | numeric
  | string
  /-- A number in front of a statement, `N10`. -/
  | sequenceNumber
  | goto
  | ifBlock
  | thenBranch
  | elseBranch
  | whileLoop
  | assignment
  | binaryExpr
  | conditionalExpr
  | operator
  /-- An address word with its value, `X10.` or `F#1`. -/
  | parameter
  /-- An NC code, `G01` or `M03`. -/
  | code
  | blockSkip
  /-- A call of a built-in function, `SIN[…]`. -/
  | call
  | callParam
  /-- A built-in command statement. -/
  | command
  | other
  deriving DecidableEq, Repr, Inhabited

namespace Kind

/-- The kinds that carry nothing but their name. -/
def plain : List Kind :=
  [inclusion, function, statement, varDef, labelDef, symbol, var, label, numeric, string,
   sequenceNumber, goto, ifBlock, thenBranch, elseBranch, whileLoop, assignment, binaryExpr,
   conditionalExpr, operator, parameter, code, blockSkip, call, callParam, command, other]

def name : Kind → String
  | file _ => "File"
  | inclusion => "Include"
  | function => "Function"
  | statement => "Statement"
  | varDef => "VariableDef"
  | labelDef => "LabelDef"
  | symbol => "Symbol"
  | var => "Variable"
  | label => "Label"
  | numeric => "Numeric"
  | string => "String"
  | sequenceNumber => "SequenceNumber"
  | goto => "Goto"
  | ifBlock => "If"
  | thenBranch => "Then"
  | elseBranch => "Else"
  | whileLoop => "While"
  | assignment => "Assignment"
  | binaryExpr => "BinaryExpr"
  | conditionalExpr => "ConditionalExpr"
  | operator => "Operator"
  | parameter => "Parameter"
  | code => "Code"
  | blockSkip => "BlockSkip"
  | call => "Call"
  | callParam => "CallParam"
  | command => "Command"
  | other => "Other"

/-- The plain kind of this name. -/
def ofName? (s : String) : Option Kind := plain.find? (·.name == s)

def isFile : Kind → Bool
  | file _ => true
  | _ => false

def isDeclaration : Kind → Bool
  | varDef | labelDef => true
  | _ => false

end Kind

/-- The role of a node in its parent. -/
inductive Field where
  | name
  | value
  | uri
  | number
  /-- The target of a goto. -/
  | label
  | condition
  /-- The operator that joins a condition to the next one. -/
  | logic
  | next
  | doLabel
  | endLabel
  | target
  | thenPart
  | elsePart
  | body
  deriving DecidableEq, Repr, Inhabited

namespace Field

def all : List Field :=
  [name, value, uri, number, label, condition, logic, next, doLabel, endLabel, target,
   thenPart, elsePart, body]

def text : Field → String
  | name => "Name"
  | value => "Value"
  | uri => "Uri"
  | number => "Number"
  | label => "Label"
  | condition => "Condition"
  | logic => "Logic"
  | next => "Next"
  | doLabel => "DoLabel"
  | endLabel => "EndLabel"
  | target => "Target"
  | thenPart => "Then"
  | elsePart => "Else"
  | body => "Body"

def ofText? (s : String) : Option Field := all.find? (·.text == s)

end Field

/-- What kind of value a declaration or an annotated node holds. -/
inductive ValueType where
  | numeric
  | constant
  | var
  | address
  | ncCode
  | string
  | sequence
  | undefined
  deriving DecidableEq, Repr, Inhabited

namespace ValueType

def all : List ValueType :=
  [numeric, constant, var, address, ncCode, string, sequence, undefined]

def name : ValueType → String
  | numeric => "Numeric"
  | constant => "Constant"
  | var => "Variable"
  | address => "Address"
  | ncCode => "NcCode"
  | string => "String"
  | sequence => "Sequence"
  | undefined => "Undefined"

def ofName? (s : String) : Option ValueType := all.find? (·.name == s)

/-- The word shown to a reader. -/
def label : ValueType → String
  | numeric => "numeric"
  | constant => "constant"
  | var => "variable"
  | address => "address"
  | ncCode => "nccode"
  | string => "string"
  | sequence => "sequence"
  | undefined => "undefined"

end ValueType
end NcInsight
