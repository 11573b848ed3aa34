import NcInsight.Lint.Rule
import NcInsight.Tree.Basic

/-
What a rule has to say about a node.

A report is made whatever the settings are; a finding is a report under settings, which
drop it or give it its severity.
-/
namespace NcInsight

structure Finding where
  node : NodeId
  rule : Rule
  severity : Severity
  message : String
  span : Span
  code : String
  detail : Option String
  deriving DecidableEq, Repr

namespace Finding

def new (rule : Rule) (node : NodeId) (span : Span) (severity : Severity) : Finding :=
  { node, rule, severity, message := rule.message, span, code := rule.code, detail := none }

/-- Adds a detail to the message. -/
def withDetail (f : Finding) (detail : String) : Finding :=
  { f with message := f.message ++ ": " ++ detail, detail := some detail }

end Finding

/-- A rule, the node that breaks it, and what about it. -/
structure Report where
  rule : Rule
  node : NodeId
  detail : Option String := none
  deriving DecidableEq, Repr

namespace Report

/-- The finding of a report under settings. -/
def finding? (t : Tree) (c : Levels) (r : Report) : Option Finding :=
  (c.level r.rule).severity?.map fun severity =>
    let f := Finding.new r.rule r.node (t.span r.node) severity
    match r.detail with
    | some d => f.withDetail d
    | none => f

end Report
end NcInsight
