import NcInsight.Editor.Completion
import NcInsight.Editor.Diagnostic
import NcInsight.Editor.Lenses
import NcInsight.Editor.Navigation
import NcInsight.Editor.Outline
import NcInsight.Editor.Rename
import NcInsight.Signature.Builtin
import NcInsight.Signature.Help

/-
The questions of an editor, by file and position.

A file that is not open has no answer, or an empty one where a list is asked for.
-/
namespace NcInsight

structure Session where
  workspace : Workspace := {}
  settings : Settings := {}

namespace Session

def get? (s : Session) (uri : String) : Option Record := s.workspace.get? uri

/-- The file and the offset of a position in it. -/
def locate? (s : Session) (uri : String) (p : Position) : Option (Record × Nat) :=
  (s.get? uri).map fun r => (r, p.offset r.tree.source)

def updateSettings (s : Session) (j : Json) : Session :=
  { s with settings := s.settings.update j }

def diagnostics (s : Session) (uri : String) : List Diagnostic :=
  ((s.get? uri).map fun r =>
    NcInsight.diagnostics s.workspace r s.settings.levels).getD []

def completion (s : Session) (uri : String) (p : Position) : Option (List Proposal) :=
  (s.locate? uri p).map fun (record, offset) =>
    completions { workspace := s.workspace, record, offset, settings := s.settings }

def signatureHelp (s : Session) (uri : String) (p : Position) : Option Signature.Help :=
  (s.locate? uri p).bind fun (r, offset) => Signature.help? Signature.builtin r.tree offset

def definition (s : Session) (uri : String) (p : Position) : Option Location :=
  (s.locate? uri p).bind fun (r, offset) => Navigation.definition? s.workspace r offset

def references (s : Session) (uri : String) (p : Position) : List Location :=
  ((s.locate? uri p).map fun (r, offset) =>
    Navigation.references s.workspace r offset none).getD []

def implementations (s : Session) (uri : String) (p : Position) : List Location :=
  ((s.locate? uri p).map fun (r, offset) =>
    Navigation.implementations s.workspace r offset).getD []

def prepareRename (s : Session) (uri : String) (p : Position) : Option Range :=
  (s.locate? uri p).bind fun (r, offset) => Rename.prepare? r offset

def rename (s : Session) (uri : String) (p : Position) (newName : String) :
    Option (List Rename.FileEdits) :=
  (s.locate? uri p).map fun (r, offset) => Rename.edits s.workspace r offset newName

def outline (s : Session) (uri : String) : Option (List Outline.Entry) :=
  (s.get? uri).map (NcInsight.outline s.workspace)

def links (s : Session) (uri : String) : List DocumentLink :=
  ((s.get? uri).map (documentLinks s.workspace)).getD []

def lenses (s : Session) (uri : String) : List Lens :=
  ((s.get? uri).map (NcInsight.lenses s.workspace)).getD []

end Session
end NcInsight
