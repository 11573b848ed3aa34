import NcInsight.Text.Graphic
import NcInsight.Tree.Basic

/-
One node on one line, for people.

Its text is shown between double quotes.  Quote and backslash are escaped, the usual controls have
letters, and every other character that cannot be shown is written as `\u{…}` with its code point
in lowercase hexadecimal.  A single quote stands for itself.
-/
namespace NcInsight

namespace Text

def escapeChar (c : Char) : List Char :=
  if c = '"' then ['\\', '"']
  else if c = '\\' then ['\\', '\\']
  else if c = '\n' then ['\\', 'n']
  else if c = '\t' then ['\\', 't']
  else if c = '\r' then ['\\', 'r']
  else if c.toNat = 0 then ['\\', '0']
  else if isGraphic c then [c]
  else ['\\', 'u', '\x7b'] ++ Number.hex c.toNat ++ ['\x7d']

/-- The text between double quotes. -/
def quoted (s : String) : String :=
  String.ofList ('"' :: s.toList.flatMap escapeChar ++ ['"'])

end Text

def Kind.display : Kind → String
  | .file k => "File(" ++ k.name ++ ")"
  | k => k.name

def Tree.display (t : Tree) (id : NodeId) : String :=
  let s := t.span id
  "Node \x7b id: NodeId(" ++ toString id ++ "), kind: " ++ (t.kind id).display ++
    ", span: Span \x7b start: " ++ toString s.start ++ ", end: " ++ toString s.stop ++
    " \x7d, text: " ++ Text.quoted (t.text id) ++ " \x7d"

end NcInsight
