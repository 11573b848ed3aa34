import NcInsight.Text.Parts
import NcInsight.Url.Reader

/-
What the text of an include statement refers to.
-/
namespace NcInsight
namespace Reference

/-- The text without white space around it and without quotes around that. -/
def unquote (s : String) : String :=
  String.ofList (Text.trimBoth (fun c => c = '"' || c = '\x27')
    (Text.trimBoth Text.isBlank s.toList))

/-- Backslashes read as slashes. -/
def slashes (s : String) : String :=
  String.ofList (s.toList.map fun c => if c = '\\' then '/' else c)

/-- An address that stands alone.  A scheme of one letter is a drive, not a scheme. -/
def absolute? (s : String) : Option Url := (Url.parse? s).filter fun u => 1 < u.scheme.length

/-- The address that `reference` means in the file `base`, or its text where there is none. -/
def resolve (reference base : String) : String :=
  let literal := unquote reference
  let text := slashes literal
  match absolute? text with
  | some u => u.render
  | none =>
      match (Url.parse? base).bind (·.join? text) with
      | some u => u.render
      | none => literal

end Reference
end NcInsight
