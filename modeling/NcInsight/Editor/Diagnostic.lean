import NcInsight.Editor.Position
import NcInsight.Lint.Report

/-
Findings as an editor shows them.
-/
namespace NcInsight

structure Diagnostic where
  range : Range
  severity : Severity
  code : String
  message : String
  deriving DecidableEq, Repr

namespace Diagnostic

/-- The name that editors show as the source of the diagnostics. -/
def source : String := "macro"

def of (r : Record) (f : Finding) : Diagnostic :=
  { range := .ofSpan r.tree.source f.span
    severity := f.severity
    code := f.code
    message := f.message }

end Diagnostic

namespace Severity

/-- The number that editors know the severity by. -/
def number : Severity → Nat
  | error => 1
  | warning => 2

end Severity

/-- The diagnostics of a file. -/
def diagnostics (w : Workspace) (r : Record) (levels : Levels) : List Diagnostic :=
  (lint w r levels).map (Diagnostic.of r)

end NcInsight
