import NcInsight.Editor.Position
import NcInsight.Editor.Settings
import NcInsight.Number.Digits
import NcInsight.Text.Parts
import NcInsight.Workspace.Scope

/-
What can be typed at an offset.

The nodes around the offset are asked from the inside out, and the first one whose kind
offers something decides.  A name that the settings document takes its documentation
with it; what documentation is left over is proposed on its own, so each entry of the
settings shows up once.
-/
namespace NcInsight

/-! ## The word that is being typed -/

/-- Characters that no word goes across. -/
def isDelimiter (c : Char) : Bool := " \t\n\r\":\x7b[()]\x7d,*>+".toList.contains c

/-- The characters after the last delimiter. -/
def lastWord (cs : List Char) : List Char := (cs.reverse.takeWhile fun c => !isDelimiter c).reverse

/-- The word in front of an offset; inside of a character there is none. -/
def currentWord (source : String) (offset : Nat) : String :=
  String.ofList
    (lastWord ((Text.takeBytes (min offset (Text.length source)) source.toList).getD []))

/-! ## Proposals -/

inductive ProposalKind where
  | text
  | var
  | interface
  | value
  | keyword
  | snippet
  | constant
  | event
  | operator
  deriving DecidableEq, Repr, Inhabited

namespace ProposalKind

/-- The number that editors know the kind by. -/
def number : ProposalKind → Nat
  | text => 1
  | var => 6
  | interface => 8
  | value => 12
  | keyword => 14
  | snippet => 15
  | constant => 21
  | event => 23
  | operator => 24

end ProposalKind

structure Proposal where
  label : String
  kind : ProposalKind
  detail : Option String := none
  /-- Marked-up text. -/
  documentation : Option String := none
  /-- Editors sort proposals by this text. -/
  sortText : Option String := none
  /-- What to insert in place of the label, with tab stops. -/
  snippet : Option Edit := none
  deriving DecidableEq, Repr, Inhabited

namespace Completion

/-- Where and in what a completion is asked for. -/
structure Request where
  workspace : Workspace
  record : Record
  offset : Nat
  settings : Settings

namespace Request

def tree (q : Request) : Tree := q.record.tree

def scope (q : Request) : Scope := .build q.workspace q.record

def word (q : Request) : String := currentWord q.tree.source q.offset

end Request

/-! ## Fixed words -/

def operators : List String :=
  ["&&", "||", "EQ", "NE", "LE", "GE", "LT", "GT", "AND", "OR", "XOR", "MOD"]

def keywords : List String := ["IF", "THEN", "GOTO", "ENDIF", "WHILE", "DO", "END"]

/-- What can stand outside of programs. -/
def fileKeywords : List String := ["@", ">", "$", "$INCLUDE", "$NOLIST", "$LIST", "%"]

def operatorProposals : List Proposal :=
  operators.map fun label => { label, kind := .operator, sortText := some "1" }

def keywordProposals : List Proposal :=
  keywords.map fun label => { label, kind := .keyword, sortText := some "2" }

def fileProposals : List Proposal := fileKeywords.map fun label => { label, kind := .keyword }

/-! ## Names -/

/-- The bucket a name is sorted into, and its kind. -/
def bucket (reference : ReferenceType) (type : ValueType) : String × ProposalKind :=
  match reference, type with
  | .label, .string => ("3", .text)
  | .label, _ => ("3", .constant)
  | _, .address => ("7", .interface)
  | _, .constant => ("4", .constant)
  | _, .var => ("6", .value)
  | _, .ncCode => ("8", .event)
  | _, _ => ("5", .var)

/-- The comment on a line: what follows a semicolon, or else an opening parenthesis and what
follows it. -/
def commentOf (line : List Char) : Option (List Char) :=
  match line.dropWhile (· ≠ ';') with
  | _ :: comment => some comment
  | [] =>
      match line.dropWhile (· ≠ '(') with
      | [] => none
      | comment => some comment

/-- The comment on the line from `offset` on, if there is text in it. -/
def lineComment (source : String) (offset : Nat) : Option String := do
  let rest ← Text.dropBytes offset source.toList
  let comment ← commentOf (rest.takeWhile (· ≠ '\n'))
  let comment := Text.trimBoth Text.isBlank comment
  if comment.isEmpty then none else some (String.ofList comment)

/-- The declaration as it is shown beside its name, with the comment on its line below. -/
def declarationText (reference : ReferenceType) (t : Tree) (d : Declaration) : String :=
  let kind := match reference with
    | .label => "label"
    | _ => "symbol"
  let text := "(" ++ kind ++ ":" ++ d.valueType.label ++ ") @" ++ d.name ++ "  " ++
    d.valueText.getD ""
  match lineComment t.source (t.start d.node) with
  | some comment => text ++ "\n\n" ++ comment
  | none => text

def detail (s : Scope) (reference : ReferenceType) (y : Symbol) : Option String := do
  let file ← s.fileOf? y
  let d ← s.declaration? y
  return declarationText reference file.record.tree d

/-- Takes the first documentation of a name off the list. -/
def takeKeyword (name : String) : List Keyword → Option Keyword × List Keyword
  | [] => (none, [])
  | k :: ks =>
      if k.symbol = name then (some k, ks)
      else ((takeKeyword name ks).1, k :: (takeKeyword name ks).2)

/-- What is taken and what is left are together what was there. -/
theorem takeKeyword_perm (name : String) (ks : List Keyword) :
    ((takeKeyword name ks).1.toList ++ (takeKeyword name ks).2).Perm ks := by
  induction ks with
  | nil => exact List.Perm.refl _
  | cons k ks ih =>
      by_cases h : k.symbol = name
      · simp [takeKeyword, h]
      · rw [takeKeyword, if_neg h]
        exact List.perm_middle.trans (ih.cons k)

def symbolProposal (s : Scope) (reference : ReferenceType) (y : Symbol) (k : Option Keyword) :
    Proposal :=
  let (sort, kind) := bucket reference y.valueType
  { label := y.name, kind, detail := detail s reference y,
    documentation := k.map (·.text), sortText := some sort }

/-- The proposals for names, and the documentation that none of them took. -/
def symbolProposals (s : Scope) (reference : ReferenceType) :
    List Symbol → List Keyword → List Proposal × List Keyword
  | [], ks => ([], ks)
  | y :: ys, ks =>
      let (k, ks) := takeKeyword y.name ks
      let (ps, ks) := symbolProposals s reference ys ks
      (symbolProposal s reference y k :: ps, ks)

/-- The value types that fit at the word being typed: a number sign starts the number of a
variable. -/
def fitting (word : String) (reference : ReferenceType) (types : Option (List ValueType)) :
    Option (List ValueType) :=
  if word = "#" then some (if reference = .var then [.numeric] else []) else types

/-! ## Sequence numbers -/

/-- The number of a sequence number, if it is one of 64 bits. -/
def sequenceValue (t : Tree) (id : NodeId) : Option Nat :=
  ((t.childByField id .number).or (t.childByKind id .numeric)).bind fun n =>
    Number.natural? (Text.stripJump (t.text n))

/-- The sequence numbers below a node, none of which lies in another. -/
def sequenceNumbers (t : Tree) (id : NodeId) : List NodeId :=
  (t.visits (fun n => t.kind n != .sequenceNumber) id).filter fun n =>
    t.kind n == .sequenceNumber

def highest (t : Tree) (program : NodeId) : Nat :=
  ((sequenceNumbers t program).filterMap (sequenceValue t)).foldl max 0

/-- The number to propose at a node: the step past the highest one of its program. -/
def nextNumber (t : Tree) (increment : Nat) (id : NodeId) : Option Nat :=
  let next := ((t.enclosing .function id).map (highest t)).getD 0 + increment
  if next < Number.wordBound then some next else none

/-- The range of the word being typed. -/
def wordRange (q : Request) : Range :=
  .ofSpan q.tree.source ⟨q.offset - Text.length q.word, q.offset⟩

def sequenceProposal (q : Request) (next : Nat) : Proposal :=
  { label := "N-Number", kind := .snippet, sortText := some " ",
    snippet := some
      { range := wordRange q, newText := "N$\x7b1:" ++ toString next ++ "\x7d $0" } }

/-! ## What a node offers -/

inductive Offer where
  | symbols (reference : ReferenceType) (types : Option (List ValueType))
  | keywords
  | operators
  | sequence
  deriving DecidableEq, Repr

/-- Values for statements and conditions. -/
def statementTypes : List ValueType := [.address, .constant, .var, .numeric]

/-- Values to jump to. -/
def labelTypes : List ValueType := [.numeric, .constant, .var, .string]

/-- What a node of this kind offers, in order; most kinds have no say. -/
def offers : Kind → Option (List Offer)
  | .function => some [.symbols .var none, .symbols .label none, .keywords, .sequence]
  | .var => some [.symbols .var none]
  | .ifBlock => some [.symbols .var (some statementTypes), .symbols .label (some labelTypes)]
  | .thenBranch | .elseBranch | .whileLoop =>
      some [.symbols .var (some statementTypes), .symbols .label (some labelTypes), .keywords,
        .sequence]
  | .goto => some [.symbols .label (some labelTypes), .symbols .var (some labelTypes)]
  | .conditionalExpr | .binaryExpr | .assignment =>
      some [.symbols .var (some statementTypes), .symbols .label (some labelTypes), .operators]
  | _ => none

def propose (q : Request) (id : NodeId) (ks : List Keyword) :
    Offer → List Proposal × List Keyword
  | .symbols reference types =>
      symbolProposals q.scope reference
        (q.scope.select reference (fitting q.word reference types)) ks
  | .keywords => (keywordProposals, ks)
  | .operators => (operatorProposals, ks)
  | .sequence =>
      (((nextNumber q.tree q.settings.increment id).map (sequenceProposal q)).toList, ks)

def proposeAll (q : Request) (id : NodeId) :
    List Offer → List Keyword → List Proposal × List Keyword
  | [], ks => ([], ks)
  | o :: os, ks =>
      let (ps, ks) := propose q id ks o
      let (rest, ks) := proposeAll q id os ks
      (ps ++ rest, ks)

/-- Documentation that belongs to no proposed name. -/
def leftover (k : Keyword) : Proposal :=
  { label := k.symbol, kind := .snippet, documentation := some k.text }

/-- Asks the nodes one after the other.  Each goes on with the proposals and with the documentation
that those before it have left; one that has nothing to propose, and has not started before the
offset, leaves the choice to the next. -/
def ask (q : Request) : List NodeId → List Proposal → List Keyword → List Proposal
  | [], items, _ => items ++ fileProposals
  | id :: ids, items, ks =>
      match offers (q.tree.kind id) with
      | none => ask q ids items ks
      | some os =>
          let (ps, ks) := proposeAll q id os ks
          let items := items ++ ps
          if !items.isEmpty || q.tree.start id < q.offset then items ++ ks.map leftover
          else ask q ids items ks

end Completion

/-- What can be typed at an offset. -/
def completions (q : Completion.Request) : List Proposal :=
  Completion.ask q (q.tree.path q.offset).reverse [] q.settings.keywords

namespace Completion

/-! ## Node by node -/

/-- What a node proposes on its own, with all documentation still there. -/
def proposals? (q : Request) (id : NodeId) : Option (List Proposal) :=
  (offers (q.tree.kind id)).bind fun os =>
    let (ps, ks) := proposeAll q id os q.settings.keywords
    if !ps.isEmpty || q.tree.start id < q.offset then some (ps ++ ks.map leftover) else none

/-- Documentation is taken by proposals only. -/
theorem symbolProposals_of_nil {s : Scope} {reference : ReferenceType} {ys : List Symbol}
    {ks : List Keyword} (h : (symbolProposals s reference ys ks).1 = []) :
    (symbolProposals s reference ys ks).2 = ks := by
  cases ys with
  | nil => rfl
  | cons y ys => cases h

theorem propose_of_nil {q : Request} {id : NodeId} {ks : List Keyword} {o : Offer}
    (h : (propose q id ks o).1 = []) : (propose q id ks o).2 = ks := by
  cases o with
  | symbols reference types => exact symbolProposals_of_nil h
  | keywords => rfl
  | operators => rfl
  | sequence => rfl

theorem proposeAll_cons (q : Request) (id : NodeId) (o : Offer) (os : List Offer)
    (ks : List Keyword) :
    proposeAll q id (o :: os) ks =
      ((propose q id ks o).1 ++ (proposeAll q id os (propose q id ks o).2).1,
        (proposeAll q id os (propose q id ks o).2).2) := rfl

theorem proposeAll_of_nil {q : Request} {id : NodeId} {os : List Offer} {ks : List Keyword}
    (h : (proposeAll q id os ks).1 = []) : (proposeAll q id os ks).2 = ks := by
  induction os generalizing ks with
  | nil => rfl
  | cons o os ih =>
      rw [proposeAll_cons] at h ⊢
      obtain ⟨hfirst, hrest⟩ := List.append_eq_nil_iff.mp h
      rw [propose_of_nil hfirst] at hrest ⊢
      exact ih hrest

/-- A node that leaves the choice to the next has taken no documentation, so every node that is
asked finds all of it. -/
theorem ask_eq (q : Request) (ids : List NodeId) :
    ask q ids [] q.settings.keywords = (ids.findSome? (proposals? q)).getD fileProposals := by
  induction ids with
  | nil => rfl
  | cons id ids ih =>
      rw [ask, List.findSome?_cons, proposals?]
      cases offers (q.tree.kind id) with
      | none => exact ih
      | some os =>
          simp only [List.nil_append, Option.bind_some]
          split
          case isTrue => rfl
          case isFalse hsilent =>
              have hnone : (proposeAll q id os q.settings.keywords).1 = [] := by
                rw [Bool.or_eq_true, not_or] at hsilent
                simpa using hsilent.1
              rw [hnone, proposeAll_of_nil hnone]
              exact ih

/-- The first node that has something to propose decides. -/
theorem completions_eq (q : Request) : completions q =
    ((q.tree.path q.offset).reverse.findSome? (proposals? q)).getD fileProposals :=
  ask_eq q _

end Completion
end NcInsight
